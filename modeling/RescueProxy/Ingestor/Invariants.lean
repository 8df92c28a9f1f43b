import RescueProxy.Ingestor
import RescueProxy.Integrity
import RescueProxy.Replay

/-!
# どの実行でも保たれる性質

受け手が処理するログは、みな掘られたブロックのログである（`Sourced`）。
そのことから、`minipoolIndex` のどの項も連鎖の上で正しく、連鎖が公開鍵ごとに節点を一つしか与えないなら、
一度現れた項は以後変わらないことを示す。`nodeIndex` の鍵は消えない。
-/

namespace RescueProxy

variable (c : Contracts) (rp : RocketPool) (ch : Chain)

/-! ## `handleEvents` の効果 -/

theorem Decoded.applyTo_minipoolIndex_eq_some {d : Decoded} {e : ExecutionLayer} {p : ValidatorPubkey} {n : Address}
    (h : (d.applyTo e).minipoolIndex p = some n) : e.minipoolIndex p = some n ∨ d = .minipoolCreated p n := by
  rw [Decoded.applyTo_minipoolIndex] at h
  cases d with
  | minipoolCreated q m =>
    by_cases hq : q = p
    · subst hq; simp [Decoded.minipoolEffect] at h; exact .inr (by rw [h])
    · simp [Decoded.minipoolEffect, hq] at h; exact .inl h
  | _ => exact .inl h

theorem handleEvents_minipoolIndex {L : List Log} {e e' : ExecutionLayer} (h : handleEvents c rp L e = some e')
    {p : ValidatorPubkey} {n : Address} (hp : e'.minipoolIndex p = some n) :
    e.minipoolIndex p = some n ∨ ∃ l ∈ L, decode c rp l = some (.minipoolCreated p n) := by
  induction L generalizing e with
  | nil => cases h; exact .inl hp
  | cons l L ih =>
    rw [handleEvents_cons, handleEvent_eq] at h
    cases hd : decode c rp l with
    | none => simp [hd] at h
    | some d =>
      simp only [hd, Option.map_some', Option.some_bind] at h
      rcases ih h with h₁ | ⟨l', hl', hd'⟩
      · rcases Decoded.applyTo_minipoolIndex_eq_some h₁ with h₂ | rfl
        · exact .inl h₂
        · exact .inr ⟨l, List.mem_cons_self _ _, hd⟩
      · exact .inr ⟨l', List.mem_cons_of_mem _ hl', hd'⟩

theorem handleEvents_minipoolIndex_keep {L : List Log} {e e' : ExecutionLayer} (h : handleEvents c rp L e = some e')
    {p : ValidatorPubkey} {n : Address} (hp : e.minipoolIndex p = some n)
    (hL : ∀ l ∈ L, ∀ n', decode c rp l = some (.minipoolCreated p n') → n' = n) : e'.minipoolIndex p = some n := by
  induction L generalizing e with
  | nil => cases h; exact hp
  | cons l L ih =>
    rw [handleEvents_cons, handleEvent_eq] at h
    cases hd : decode c rp l with
    | none => simp [hd] at h
    | some d =>
      simp only [hd, Option.map_some', Option.some_bind] at h
      refine ih h ?_ fun l' hl' => hL l' (List.mem_cons_of_mem _ hl')
      show (d.applyTo e).minipoolIndex p = some n
      rw [Decoded.applyTo_minipoolIndex, hp]
      cases d with
      | minipoolCreated q m =>
        by_cases hq : q = p
        · subst hq; simp [Decoded.minipoolEffect, hL l (List.mem_cons_self _ _) m hd]
        · simp [Decoded.minipoolEffect, hq]
      | _ => rfl

theorem handleEvents_nodeIndex_isSome {L : List Log} {e e' : ExecutionLayer} (h : handleEvents c rp L e = some e')
    {n : Address} (hn : (e.nodeIndex n).isSome) : (e'.nodeIndex n).isSome := by
  induction L generalizing e with
  | nil => cases h; exact hn
  | cons l L ih =>
    rw [handleEvents_cons, handleEvent_eq] at h
    cases hd : decode c rp l with
    | none => simp [hd] at h
    | some d =>
      simp only [hd, Option.map_some', Option.some_bind] at h
      exact ih h (nodeIndex_isSome_applyTo hn d)

/-! ## 届くログは連鎖のログ -/

/-- `e.events` とログの購読に残るログは、掘られたブロックのログ。 -/
def Sourced (s : System) : Prop :=
  ∀ l, l ∈ s.events ∨ (∃ ls, s.logSub = some ls ∧ l ∈ ls) → ∃ b ≤ s.head, l ∈ ch.logsAt b

theorem Sourced.initial (e : ExecutionLayer) (B head : Nat) : Sourced ch (System.initial e B head) := by
  rintro l (hl | ⟨ls, hls, hl⟩)
  · cases hl
  · cases hls; cases hl

theorem Sourced.step {s s' : System} (h : Sourced ch s) (hs : Step c rp ch s s') : Sourced ch s' := by
  have mono : ∀ l, l ∈ s.events ∨ (∃ ls, s.logSub = some ls ∧ l ∈ ls) → ∃ b ≤ s'.head, l ∈ ch.logsAt b :=
    fun l hl => let ⟨b, hb, hl⟩ := h l hl; ⟨b, Nat.le_trans hb (hs.head_le c rp ch), hl⟩
  cases hs with
  | mine =>
    rintro l (hl | ⟨ls, hls, hl⟩)
    · exact mono l (.inl hl)
    · obtain ⟨ls₀, hls₀, rfl⟩ := Option.map_eq_some'.mp hls
      rcases List.mem_append.mp hl with hl | hl
      · exact mono l (.inr ⟨ls₀, hls₀, hl⟩)
      · exact ⟨_, Nat.le_refl _, (List.mem_filter.mp hl).1⟩
  | deliverLog hsub =>
    rintro l (hl | ⟨ls, hls, hl⟩)
    · rcases List.mem_append.mp hl with hl | hl
      · exact mono l (.inl hl)
      · exact mono l (.inr ⟨_, hsub, by simp_all⟩)
    · injection hls with hls; subst hls; exact mono l (.inr ⟨_, hsub, List.mem_cons_of_mem _ hl⟩)
  | dropLogSub | recvHeadErrShutdown | recvHeadErr | deinitUnsubscribe =>
    rintro l (hl | ⟨ls, hls, hl⟩)
    · exact mono l (.inl hl)
    · cases hls
  | recvLogErrShutdown _ hnone _ | recvLogErr _ hnone _ =>
    rintro l (hl | ⟨ls, hls, hl⟩)
    · exact mono l (.inl hl)
    · exact absurd hls (by simp [System.checkExit, hnone])
  | recvEvent _ hev =>
    rintro l (hl | hl)
    · exact mono l (.inl (by rw [hev]; exact List.mem_cons_of_mem _ hl))
    · exact mono l (.inr hl)
  | resubscribe =>
    rintro l (hl | ⟨ls, hls, hl⟩)
    · exact mono l (.inl hl)
    · cases hls; cases hl
  | _ => exact mono

theorem Step.indices {s s' : System} (hs : Step c rp ch s s') :
    ∃ L e, (∀ l ∈ L, l ∈ s.events ∨ ∃ b ≤ s.head, l ∈ ch.logsAt b) ∧
      handleEvents c rp L s.layer = some e ∧ s'.layer.indices = e.indices := by
  cases hs with
  | backfill _ hb =>
    obtain ⟨f, hf, hi⟩ := backfillEvents_client_some c rp ch hb
    exact ⟨_, f, fun l hl => .inr (mem_backfillLogs c ch hl), hf, hi.symm⟩
  | @recvEvent l _ e' _ hev he =>
    exact ⟨[l], e', by simp [hev], by simp [he], rfl⟩
  | _ => exact ⟨[], _, by simp, rfl, rfl⟩

/-! ## `minipoolIndex` の項は連鎖の上で正しい -/

theorem applyAll_minipoolIndex_eq_some {e : ExecutionLayer} {ws : List Store} {p : ValidatorPubkey} {n : Address}
    (h : (e.applyAll ws).minipoolIndex p = some n) : e.minipoolIndex p = some n ∨ .minipool p n ∈ ws := by
  induction ws generalizing e with
  | nil => exact .inl h
  | cons w ws ih =>
    rcases ih h with h | h
    · cases w with
      | node => exact .inl h
      | minipool q m =>
        by_cases hq : p = q
        · subst hq; simp at h; exact .inr (by simp [h])
        · simp [Function.update_noteq hq] at h; exact .inl h
    · exact .inr (List.mem_cons_of_mem _ h)

theorem mem_preloadNodes {opts : Option Nat} {nodes : List Address} {p : ValidatorPubkey} {n : Address}
    (h : .minipool p n ∈ (preloadNodes rp opts nodes).1) :
    n ∈ nodes ∧ ∃ ps, rp.getNodeMinipools n opts = .ok ps ∧ p ∈ ps := by
  induction nodes with
  | nil => cases h
  | cons m nodes ih =>
    simp only [preloadNodes] at h
    split at h
    · cases h
    · cases h
    · split at h
      · simp at h
      · rename_i ps hps
        simp only [List.cons_append, List.mem_cons, Store.minipool.injEq, reduceCtorEq, false_or,
          List.mem_append, List.mem_map] at h
        rcases h with ⟨q, hq, rfl, rfl⟩ | h
        · exact ⟨List.mem_cons_self _ _, ps, hps, hq⟩
        · exact (ih h).imp_left (List.mem_cons_of_mem _)

/-- 連鎖が公開鍵 `p` を節点 `n` のミニプールとする：ブロック `B` のスナップショットで読まれるか、高さ `head` までの `MinipoolCreated` が示す。 -/
def OnChain (B : Nat) (nodes : List Address) (head : Nat) (p : ValidatorPubkey) (n : Address) : Prop :=
  (n ∈ nodes ∧ ∃ ps, rp.getNodeMinipools n (some B) = .ok ps ∧ p ∈ ps) ∨
  ∃ b ≤ head, ∃ l ∈ ch.logsAt b, decode c rp l = some (.minipoolCreated p n)

variable {c rp ch} in
theorem OnChain.mono {B head head' : Nat} {nodes : List Address} {p : ValidatorPubkey} {n : Address}
    (h : OnChain c rp ch B nodes head p n) (hh : head ≤ head') : OnChain c rp ch B nodes head' p n :=
  h.imp_right fun ⟨b, hb, hl⟩ => ⟨b, Nat.le_trans hb hh, hl⟩

/-- 実行のどの状態でも成り立つこと。 -/
structure Sound (B : Nat) (nodes : List Address) (s : System) : Prop where
  sourced : Sourced ch s
  onChain : ∀ p n, s.layer.minipoolIndex p = some n → OnChain c rp ch B nodes s.head p n

/-- 初めの状態：`Init` のスナップショットの索引。 -/
def snapshotSystem (B : Nat) (nodes : List Address) (head : Nat) : System :=
  System.initial (ExecutionLayer.empty.applyAll (preloadNodes rp (some B) nodes).1) B head

/-- 例の初めの状態：ブロック 100 のスナップショット（例の RocketPool には節点がない）、連鎖の高さも 100。 -/
def sampleSystem : System := snapshotSystem sampleRocketPool 100 [] 100

theorem Sound.initial (B : Nat) (nodes : List Address) (head : Nat) :
    Sound c rp ch B nodes (snapshotSystem rp B nodes head) := by
  refine ⟨Sourced.initial ch _ B head, fun p n h => .inl ?_⟩
  rcases applyAll_minipoolIndex_eq_some h with h | h
  · cases h
  · exact mem_preloadNodes rp h

theorem Sound.step {B : Nat} {nodes : List Address} {s s' : System} (h : Sound c rp ch B nodes s)
    (hs : Step c rp ch s s') : Sound c rp ch B nodes s' := by
  refine ⟨h.sourced.step c rp ch hs, fun p n hp => ?_⟩
  obtain ⟨L, e, hL, he, hidx⟩ := hs.indices c rp ch
  have hp' : e.minipoolIndex p = some n := by
    rw [← show s'.layer.minipoolIndex = e.minipoolIndex from congrArg Prod.snd hidx]; exact hp
  rcases handleEvents_minipoolIndex c rp he hp' with hp | ⟨l, hl, hd⟩
  · exact (h.onChain p n hp).mono (hs.head_le c rp ch)
  · rcases hL l hl with hl | ⟨b, hb, hl⟩
    · obtain ⟨b, hb, hl⟩ := h.sourced l (.inl hl)
      exact .inr ⟨b, Nat.le_trans hb (hs.head_le c rp ch), l, hl, hd⟩
    · exact .inr ⟨b, Nat.le_trans hb (hs.head_le c rp ch), l, hl, hd⟩

theorem Sound.reach {B head : Nat} {nodes : List Address} {s : System}
    (h : Reach c rp ch (snapshotSystem rp B nodes head) s) : Sound c rp ch B nodes s :=
  h.induct_step c rp ch (Sound.initial c rp ch B nodes head) fun _ _ hs hst => hs.step c rp ch hst

theorem Sound.step_keep {B : Nat} {nodes : List Address} {s s' : System} (h : Sound c rp ch B nodes s)
    (huniq : ∀ p n n' h h', OnChain c rp ch B nodes h p n → OnChain c rp ch B nodes h' p n' → n = n')
    (hs : Step c rp ch s s') :
    (∀ p n, s.layer.minipoolIndex p = some n → s'.layer.minipoolIndex p = some n) ∧
    ∀ n, (s.layer.nodeIndex n).isSome → (s'.layer.nodeIndex n).isSome := by
  obtain ⟨L, e, hL, he, hidx⟩ := hs.indices c rp ch
  simp only [ExecutionLayer.indices, Prod.mk.injEq] at hidx
  refine ⟨fun p n hp => ?_, fun n hn => hidx.1 ▸ handleEvents_nodeIndex_isSome c rp he hn⟩
  rw [hidx.2]
  refine handleEvents_minipoolIndex_keep c rp he hp fun l hl n' hd => huniq p n' n s.head s.head ?_ (h.onChain p n hp)
  rcases hL l hl with hl | ⟨b, hb, hl⟩
  · obtain ⟨b, hb, hl⟩ := h.sourced l (.inl hl)
    exact .inr ⟨b, hb, l, hl, hd⟩
  · exact .inr ⟨b, hb, l, hl, hd⟩

/-- どの実行でも `minipoolIndex` の項は連鎖の上で正しく、連鎖が公開鍵ごとに節点を一つしか与えなければ、項は以後変わらない。 -/
theorem minipoolIndex_stable (B head : Nat) (nodes : List Address)
    (huniq : ∀ p n n' h h', OnChain c rp ch B nodes h p n → OnChain c rp ch B nodes h' p n' → n = n')
    {s : System} (hs : Reach c rp ch (snapshotSystem rp B nodes head) s) :
    (∀ p n, s.layer.minipoolIndex p = some n → OnChain c rp ch B nodes s.head p n) ∧
    ∀ s', Reach c rp ch s s' →
      (∀ p n, s.layer.minipoolIndex p = some n → s'.layer.minipoolIndex p = some n) ∧
      ∀ n, (s.layer.nodeIndex n).isSome → (s'.layer.nodeIndex n).isSome := by
  refine ⟨(Sound.reach c rp ch hs).onChain, fun s' hs' => ?_⟩
  induction hs' with
  | refl => exact ⟨fun _ _ h => h, fun _ h => h⟩
  | tail _ hr hst ih =>
    have hk := (Sound.reach c rp ch (hs.trans c rp ch hr)).step_keep c rp ch huniq (step_sound c rp ch hst)
    exact ⟨fun p n h => hk.1 p n (ih.1 p n h), fun n h => hk.2 n (ih.2 n h)⟩

theorem minipoolIndex_stable_sample :
    let ch := Chain.ofHistory sampleContracts sampleHistory
    let s₀ := snapshotSystem sampleRocketPool 100 [] 103
    ∃ h : (run sampleContracts sampleRocketPool ch s₀ [.backfill .answered]).isSome,
    (∀ p n n' h h', OnChain sampleContracts sampleRocketPool ch 100 [] h p n →
      OnChain sampleContracts sampleRocketPool ch 100 [] h' p n' → n = n') ∧
    Reach sampleContracts sampleRocketPool ch s₀ ((run sampleContracts sampleRocketPool ch s₀ [.backfill .answered]).get h) ∧
    let s := (run sampleContracts sampleRocketPool ch s₀ [.backfill .answered]).get h
    (∀ p n, s.layer.minipoolIndex p = some n → OnChain sampleContracts sampleRocketPool ch 100 [] s.head p n) ∧
    ∀ s', Reach sampleContracts sampleRocketPool ch s s' →
      (∀ p n, s.layer.minipoolIndex p = some n → s'.layer.minipoolIndex p = some n) ∧
      ∀ n, (s.layer.nodeIndex n).isSome → (s'.layer.nodeIndex n).isSome := by
  intro ch s₀
  have key : ∀ h p n, OnChain sampleContracts sampleRocketPool ch 100 [] h p n → n = 0x22 := by
    rintro h p n (⟨hn, -⟩ | ⟨b, -, l, hl, hd⟩)
    · cases hn
    · simp only [ch, Chain.ofHistory, sampleHistory, List.mem_map, List.mem_filter] at hl
      obtain ⟨x, ⟨hx, -⟩, rfl⟩ := hl
      simp only [List.mem_cons, List.mem_singleton, List.not_mem_nil, or_false] at hx
      rcases hx with rfl | rfl
      · simp at hd
      · simp [decode_minipoolCreated, sampleContracts, ChainEvent.decoded, sampleRocketPool] at hd
        exact hd.2.symm
  have huniq : ∀ p n n' h h', OnChain sampleContracts sampleRocketPool ch 100 [] h p n →
      OnChain sampleContracts sampleRocketPool ch 100 [] h' p n' → n = n' :=
    fun p n n' h h' hn hn' => (key h p n hn).trans (key h' p n' hn').symm
  have hr : (run sampleContracts sampleRocketPool ch s₀ [.backfill .answered]).isSome := by decide
  have hs := reach_of_run sampleContracts sampleRocketPool ch (Option.some_get hr).symm
  exact ⟨hr, huniq, hs, minipoolIndex_stable _ _ _ 100 s₀.head [] huniq hs⟩

end RescueProxy
