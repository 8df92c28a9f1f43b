import RescueProxy.Ingestor.Invariants

/-!
# `highestBlock` の動き

一歩で `highestBlock` に起こることは四つに限られる（`Step.highestBlock_eq`）。そこから、
`highestBlock` はどの実行でも連鎖の高さを超えないこと、下がるのは `e.events` に残っていた
ログを処理してそのブロック番号を書くときだけであることを示す。
-/

namespace RescueProxy

variable (c : Contracts) (rp : RocketPool) (ch : Chain)

theorem int64_le_toNat (n : UInt64) : int64 n ≤ n.toNat := by
  unfold int64; split <;> omega

theorem handleEvent_highestBlock {l : Log} {e e' : ExecutionLayer} (h : handleEvent c rp l e = some e') :
    e'.highestBlock = int64 l.blockNumber := by
  rw [handleEvent_eq] at h
  obtain ⟨d, -, rfl⟩ := Option.map_eq_some'.mp h
  rfl

/-! ## 一歩 -/

theorem Step.highestBlock_eq {s s' : System} (hs : Step c rp ch s s') :
    s'.layer.highestBlock = s.layer.highestBlock ∨
    (s.layer.highestBlock < s.head ∧ s'.layer.highestBlock = s.head) ∨
    (∃ l ls, s.events = l :: ls ∧ s'.layer.highestBlock = int64 l.blockNumber) ∨
    ∃ h hs, s.newHeaders = h :: hs ∧ s'.layer.highestBlock = max s.layer.highestBlock h.number := by
  cases hs with
  | backfill _ hb =>
    rcases backfillEvents_client_ok c rp ch hb with ⟨-, he⟩ | ⟨hle, he⟩
    · cases he; exact .inl rfl
    · obtain ⟨e, -, rfl⟩ := Option.map_eq_some'.mp he.symm
      exact .inr (.inl ⟨by omega, rfl⟩)
  | recvEvent _ hev he => exact .inr (.inr (.inl ⟨_, _, hev, handleEvent_highestBlock c rp he⟩))
  | recvHeader _ hh => exact .inr (.inr (.inr ⟨_, _, hh, rfl⟩))
  | _ => exact .inl (by simp [System.checkExit])

/-- `highestBlock` が一歩で下がるのは、`e.events` の先頭のログを処理して、そのブロック番号を書くときだけ。 -/
theorem Step.highestBlock_le_or_event {s s' : System} (hs : Step c rp ch s s') :
    s.layer.highestBlock ≤ s'.layer.highestBlock ∨
      ∃ l ls, s.events = l :: ls ∧ s'.layer.highestBlock = int64 l.blockNumber := by
  rcases hs.highestBlock_eq c rp ch with h | ⟨hlt, h⟩ | h | ⟨_, _, -, h⟩
  · exact .inl (by omega)
  · exact .inl (by rw [h]; exact Int.le_of_lt hlt)
  · exact .inr h
  · exact .inl (by rw [h]; exact Int.le_max_left _ _)

/-- 例の連鎖：ブロック 101 に `NodeRegistered` が一つ。 -/
def headerRaceChain : Chain := .ofHistory sampleContracts [(.nodeRegistered 0x22, 101)]

theorem highestBlock_le_or_event_sample :
    ∃ s s', Reach sampleContracts sampleRocketPool headerRaceChain sampleSystem s ∧
      Step sampleContracts sampleRocketPool headerRaceChain s s' ∧ s'.layer.highestBlock < s.layer.highestBlock ∧
      (s.layer.highestBlock ≤ s'.layer.highestBlock ∨
        ∃ l ls, s.events = l :: ls ∧ s'.layer.highestBlock = int64 l.blockNumber) := by
  obtain ⟨s, s', hr, hs, hlt⟩ := exists_step_of_run sampleContracts sampleRocketPool headerRaceChain
    (fun s s' => s'.layer.highestBlock < s.layer.highestBlock) sampleSystem
    [.backfill .answered, .start, .mine, .deliverHeader, .mine, .deliverHeader, .recvHeader, .recvHeader, .deliverLog]
    .recvEvent (by decide)
  have hst := step_sound sampleContracts sampleRocketPool headerRaceChain hs
  exact ⟨s, s', hr, hst, hlt, Step.highestBlock_le_or_event _ _ _ hst⟩

/-! ## 連鎖の高さを超えない -/

/-- `newHeaders` とヘッダの購読に残るヘッダの番号は、連鎖の高さを超えない。 -/
def HeadersBelow (s : System) : Prop :=
  ∀ h, h ∈ s.newHeaders ∨ (∃ hs, s.headSub = some hs ∧ h ∈ hs) → h.number ≤ s.head

theorem HeadersBelow.initial (e : ExecutionLayer) (B head : Nat) : HeadersBelow (System.initial e B head) := by
  rintro x (hx | ⟨xs, hxs, hx⟩)
  · cases hx
  · cases hxs; cases hx

theorem HeadersBelow.step {s s' : System} (h : HeadersBelow s) (hs : Step c rp ch s s') : HeadersBelow s' := by
  have mono : ∀ x, x ∈ s.newHeaders ∨ (∃ hs, s.headSub = some hs ∧ x ∈ hs) → x.number ≤ s'.head :=
    fun x hx => Nat.le_trans (h x hx) (hs.head_le c rp ch)
  cases hs with
  | mine =>
    rintro x (hx | ⟨xs, hxs, hx⟩)
    · exact mono x (.inl hx)
    · obtain ⟨xs₀, hxs₀, rfl⟩ := Option.map_eq_some'.mp hxs
      rcases List.mem_append.mp hx with hx | hx
      · exact mono x (.inr ⟨xs₀, hxs₀, hx⟩)
      · obtain rfl := List.mem_singleton.mp hx
        exact Nat.le_refl _
  | deliverHeader hsub =>
    rintro x (hx | ⟨xs, hxs, hx⟩)
    · rcases List.mem_append.mp hx with hx | hx
      · exact mono x (.inl hx)
      · exact mono x (.inr ⟨_, hsub, by simp_all⟩)
    · injection hxs with hxs; subst hxs; exact mono x (.inr ⟨_, hsub, List.mem_cons_of_mem _ hx⟩)
  | recvHeader _ hh =>
    rintro x (hx | hx)
    · exact mono x (.inl (by rw [hh]; exact List.mem_cons_of_mem _ hx))
    · exact mono x (.inr hx)
  | dropHeadSub | recvLogErrShutdown | recvLogErr | deinitUnsubscribe =>
    rintro x (hx | ⟨xs, hxs, hx⟩)
    · exact mono x (.inl hx)
    · simp [System.checkExit] at hxs
  | recvHeadErrShutdown _ hnone _ | recvHeadErr _ hnone _ =>
    rintro x (hx | ⟨xs, hxs, hx⟩)
    · exact mono x (.inl hx)
    · exact absurd hxs (by simp [System.checkExit, hnone])
  | resubscribe =>
    rintro x (hx | ⟨xs, hxs, hx⟩)
    · exact mono x (.inl hx)
    · cases hxs; cases hx
  | _ => exact mono

/-- 実行のどの状態でも成り立つこと：届くログは連鎖のもの、ヘッダは高さ以下、`highestBlock` も高さ以下。 -/
structure Bounded (s : System) : Prop where
  sourced : Sourced ch s
  headersBelow : HeadersBelow s
  highestBlock_le : s.layer.highestBlock ≤ s.head

theorem Bounded.step {s s' : System} (h : Bounded ch s) (hs : Step c rp ch s s') : Bounded ch s' := by
  refine ⟨h.sourced.step c rp ch hs, h.headersBelow.step c rp ch hs, ?_⟩
  have hle : (s.head : Int) ≤ s'.head := Int.ofNat_le.mpr (hs.head_le c rp ch)
  rcases hs.highestBlock_eq c rp ch with he | ⟨-, he⟩ | ⟨l, ls, hev, he⟩ | ⟨x, xs, hx, he⟩ <;> rw [he]
  · exact Int.le_trans h.highestBlock_le hle
  · exact hle
  · obtain ⟨b, hb, hl⟩ := h.sourced l (.inl (by rw [hev]; exact List.mem_cons_self _ _))
    have hbl := ch.blockNumber_logsAt b l hl
    calc int64 l.blockNumber ≤ l.blockNumber.toNat := int64_le_toNat _
      _ ≤ s.head := by rw [hbl]; exact Int.ofNat_le.mpr hb
      _ ≤ s'.head := hle
  · have hxle := h.headersBelow x (.inl (by rw [hx]; exact List.mem_cons_self _ _))
    exact Int.le_trans (Int.max_le.mpr ⟨h.highestBlock_le, Int.ofNat_le.mpr hxle⟩) hle

theorem highestBlock_le_head {B head : Nat} {nodes : List Address} (hB : B ≤ head) {s : System}
    (hs : Reach c rp ch (snapshotSystem rp B nodes head) s) : s.layer.highestBlock ≤ s.head :=
  (hs.induct_step c rp ch (P := Bounded ch)
    ⟨Sourced.initial ch _ B head, HeadersBelow.initial _ B head, Int.ofNat_le.mpr hB⟩
    fun _ _ h hst => h.step c rp ch hst).highestBlock_le

/-! ## 下がる実行 -/

/-- ブロック 101 と 102 のヘッダの後でブロック 101 のログを処理すると、`highestBlock` は 102 から 101 に下がる。 -/
theorem highestBlock_decreases :
    ¬ ∀ s a s', Reach sampleContracts sampleRocketPool headerRaceChain sampleSystem s →
      step sampleContracts sampleRocketPool headerRaceChain s a = some s' →
      s.layer.highestBlock ≤ s'.layer.highestBlock := by
  intro h
  obtain ⟨s, s', hr, hs, hlt⟩ := exists_step_of_run sampleContracts sampleRocketPool headerRaceChain
    (fun s s' => s'.layer.highestBlock < s.layer.highestBlock) sampleSystem
    [.backfill .answered, .start, .mine, .deliverHeader, .mine, .deliverHeader, .recvHeader, .recvHeader, .deliverLog]
    .recvEvent (by decide)
  exact Int.not_le.mpr hlt (h s _ s' hr hs)

end RescueProxy
