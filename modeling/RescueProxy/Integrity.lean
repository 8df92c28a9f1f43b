import RescueProxy.Init

/-!
# 二つの索引の参照の整合

`minipoolIndex` が指す節点は `nodeIndex` にある（`RefIntegrity`）。スナップショットの繰り返しは節点を
そのミニプールより先に書き、イベントの履歴はミニプールの節点をそれより前に登録している。
この二つから、スナップショットの途中の状態も、履歴（と、その後ろの部分の再送）を処理した後の状態も、
整合していることを示す。整合していれば `ValidatorFeeRecipient` は「索引の不具合」の枝に入らない。
-/

namespace RescueProxy

/-- `minipoolIndex` が指す節点は、みな `nodeIndex` の鍵である。 -/
def RefIntegrity (e : ExecutionLayer) : Prop :=
  ∀ p n, e.minipoolIndex p = some n → (e.nodeIndex n).isSome

namespace RefIntegrity

theorem empty : RefIntegrity .empty := fun _ _ h => nomatch h

theorem apply_node {e : ExecutionLayer} (h : RefIntegrity e) (n : Address) (i : NodeInfo) :
    RefIntegrity (e.apply (.node n i)) := by
  intro p m hp
  by_cases hm : m = n
  · simp [hm]
  · simpa [Function.update_noteq hm] using h p m hp

theorem apply_minipool {e : ExecutionLayer} (h : RefIntegrity e) {n : Address} (hn : (e.nodeIndex n).isSome)
    (p : ValidatorPubkey) : RefIntegrity (e.apply (.minipool p n)) := by
  intro q m hq
  by_cases hqp : q = p
  · simp_all
  · simpa using h q m (by simpa [Function.update_noteq hqp] using hq)

end RefIntegrity

theorem nodeIndex_isSome_apply {e : ExecutionLayer} {n : Address} (h : (e.nodeIndex n).isSome) (w : Store) :
    ((e.apply w).nodeIndex n).isSome := by
  cases w with
  | node m i => by_cases hm : n = m <;> simp [hm, Function.update_noteq, h]
  | minipool => exact h

theorem nodeIndex_isSome_applyAll {e : ExecutionLayer} {n : Address} (h : (e.nodeIndex n).isSome)
    (ws : List Store) : ((e.applyAll ws).nodeIndex n).isSome := by
  induction ws generalizing e with
  | nil => exact h
  | cons w ws ih => exact ih (nodeIndex_isSome_apply h w)

theorem nodeIndex_isSome_applyTo {e : ExecutionLayer} {n : Address} (h : (e.nodeIndex n).isSome) (d : Decoded) :
    ((d.applyTo e).nodeIndex n).isSome := by
  cases d with
  | nodeRegistered m => exact nodeIndex_isSome_apply h (.node m {})
  | smoothingPool m v =>
    simp only [Decoded.applyTo]
    split
    · exact nodeIndex_isSome_apply h (.node m _)
    · exact h
  | minipoolCreated p m => exact nodeIndex_isSome_apply h (.minipool p m)
  | ignored => exact h

theorem RefIntegrity.applyTo {e : ExecutionLayer} (h : RefIntegrity e) (d : Decoded)
    (hd : ∀ p n, d = .minipoolCreated p n → (e.nodeIndex n).isSome) : RefIntegrity (d.applyTo e) := by
  cases d with
  | nodeRegistered n => exact h.apply_node n _
  | smoothingPool n v => simp only [Decoded.applyTo]; split; exacts [h.apply_node n _, h]
  | minipoolCreated p n => exact h.apply_minipool (hd p n rfl) p
  | ignored => exact h

/-! ## スナップショットの繰り返し -/

/-- どの minipool の書き込みも、その節点が鍵になった後に来る。 -/
def StoresOrdered : ExecutionLayer → List Store → Prop
  | _, [] => True
  | e, .node n i :: ws => StoresOrdered (e.apply (.node n i)) ws
  | e, .minipool p n :: ws => (e.nodeIndex n).isSome ∧ StoresOrdered (e.apply (.minipool p n)) ws

theorem RefIntegrity.applyAll_take {e : ExecutionLayer} {ws : List Store} (h : RefIntegrity e)
    (ho : StoresOrdered e ws) (k : Nat) : RefIntegrity (e.applyAll (ws.take k)) := by
  induction ws generalizing e k with
  | nil => simpa using h
  | cons w ws ih =>
    cases k with
    | zero => exact h
    | succ k =>
      cases w with
      | node n i => exact ih (h.apply_node n i) ho k
      | minipool p n => exact ih (h.apply_minipool ho.1 p) ho.2 k

theorem storesOrdered_minipools {e : ExecutionLayer} {n : Address} (hn : (e.nodeIndex n).isSome)
    (ps : List ValidatorPubkey) (ws : List Store) (hws : ∀ e', (e'.nodeIndex n).isSome → StoresOrdered e' ws) :
    StoresOrdered e (ps.map (Store.minipool · n) ++ ws) := by
  induction ps generalizing e with
  | nil => exact hws e hn
  | cons p ps ih => exact ⟨hn, ih (nodeIndex_isSome_apply hn _)⟩

variable (c : Contracts) (rp : RocketPool)

theorem preloadNodes_ordered (opts : Option Nat) (nodes : List Address) (e : ExecutionLayer) :
    StoresOrdered e (preloadNodes rp opts nodes).1 := by
  induction nodes generalizing e with
  | nil => trivial
  | cons n nodes ih =>
    simp only [preloadNodes]
    split
    · trivial
    · trivial
    · split
      · exact trivial
      · exact storesOrdered_minipools (by simp) _ _ fun e' _ => ih e'

theorem preloadNodes_keys (opts : Option Nat) {nodes : List Address} (hok : (preloadNodes rp opts nodes).2 = none)
    (e : ExecutionLayer) : ∀ n ∈ nodes, ((e.applyAll (preloadNodes rp opts nodes).1).nodeIndex n).isSome := by
  induction nodes generalizing e with
  | nil => simp
  | cons m nodes ih =>
    simp only [preloadNodes] at hok ⊢
    split at hok
    · cases hok
    · cases hok
    · split at hok
      · cases hok
      · rename_i ps _
        intro n hn
        simp only [List.cons_append, ExecutionLayer.applyAll_cons, ExecutionLayer.applyAll_append]
        rcases List.mem_cons.mp hn with rfl | hn
        · exact nodeIndex_isSome_applyAll (nodeIndex_isSome_applyAll (by simp) _) _
        · exact ih hok _ n hn

/-! ## イベントの履歴 -/

/-- 履歴のどの `MinipoolCreated` も、スナップショットの節点か、それより前に登録された節点を名指す。 -/
def HistoryValid (nodes : List Address) (hs : List ChainEvent) : Prop :=
  ∀ pre mp n post, hs = pre ++ .minipoolCreated mp n :: post → n ∈ nodes ∨ .nodeRegistered n ∈ pre

namespace HistoryValid

variable {nodes : List Address} {hs : List ChainEvent}

theorem take (h : HistoryValid nodes hs) (k : Nat) : HistoryValid nodes (hs.take k) := by
  intro pre mp n post hk
  have hs' := List.take_append_drop k hs
  rw [hk] at hs'
  exact h pre mp n (post ++ hs.drop k) (by simpa using hs'.symm)

theorem append_of_subset (h : HistoryValid nodes hs) {t : List ChainEvent} (ht : t ⊆ hs) :
    HistoryValid nodes (hs ++ t) := by
  have hmem : ∀ mp n, .minipoolCreated mp n ∈ hs → n ∈ nodes ∨ .nodeRegistered n ∈ hs := by
    intro mp n hm
    obtain ⟨s, u, rfl⟩ := List.append_of_mem hm
    exact (h s mp n u rfl).imp_right fun hr => List.mem_append_left _ hr
  intro pre mp n post he
  rcases List.append_eq_append_iff.mp he with ⟨a, rfl, hta⟩ | ⟨c, rfl, hc⟩
  · exact (hmem mp n (ht (by simp [hta]))).imp_right fun hr => List.mem_append_left _ hr
  · cases c with
    | nil =>
      rw [List.nil_append] at hc
      simpa using hmem mp n (ht (hc ▸ List.mem_cons_self _ _))
    | cons x c =>
      obtain ⟨rfl, -⟩ := List.cons.inj hc
      exact h pre mp n c rfl

end HistoryValid

theorem RefIntegrity.decode_history {nodes : List Address} {pre : List ChainEvent} {e : ExecutionLayer}
    (hri : RefIntegrity e) (hk : ∀ n, n ∈ nodes ∨ .nodeRegistered n ∈ pre → (e.nodeIndex n).isSome)
    (ev : ChainEvent) (b : UInt64) (hv : ∀ mp m, ev = .minipoolCreated mp m → m ∈ nodes ∨ .nodeRegistered m ∈ pre) :
    ∃ d, decode c rp (ev.toLog c b) = some d ∧ RefIntegrity (d.applyTo e) ∧
      ∀ n, n ∈ nodes ∨ .nodeRegistered n ∈ pre ++ [ev] → ((d.applyTo e).nodeIndex n).isSome := by
  have hold : ∀ (d : Decoded) n, n ∈ nodes ∨ .nodeRegistered n ∈ pre → ((d.applyTo e).nodeIndex n).isSome :=
    fun d n hn => nodeIndex_isSome_applyTo (hk n hn) d
  cases ev with
  | nodeRegistered m =>
    refine ⟨_, decode_nodeRegistered c rp b m, hri.applyTo _ (by simp), fun n hn => ?_⟩
    by_cases hnm : n = m
    · subst hnm; simp [Decoded.applyTo]
    · exact hold _ n (by simpa [hnm] using hn)
  | smoothingPoolStateChanged m v =>
    exact ⟨_, decode_smoothingPoolStateChanged c rp b m v, hri.applyTo _ (by simp),
      fun n hn => hold _ n (by simpa using hn)⟩
  | minipoolCreated mp m =>
    refine ⟨_, decode_minipoolCreated c rp b mp m, hri.applyTo _ ?_, fun n hn => hold _ n (by simpa using hn)⟩
    intro p n hpn
    have hnm : n = m := by
      split at hpn
      · cases hpn
      · simp only [ChainEvent.decoded] at hpn; split at hpn <;> cases hpn; rfl
    exact hnm ▸ hk m (hv mp m rfl)

theorem handleEvents_history (nodes : List Address) (pre L : List (ChainEvent × UInt64)) (e : ExecutionLayer)
    (hv : HistoryValid nodes ((pre ++ L).map Prod.fst)) (hri : RefIntegrity e)
    (hk : ∀ n, n ∈ nodes ∨ .nodeRegistered n ∈ pre.map Prod.fst → (e.nodeIndex n).isSome) :
    ∃ e', handleEvents c rp (L.map fun x => x.1.toLog c x.2) e = some e' ∧ RefIntegrity e' := by
  induction L generalizing pre e with
  | nil => exact ⟨e, rfl, hri⟩
  | cons x L ih =>
    obtain ⟨ev, b⟩ := x
    obtain ⟨d, hd, hri', hk'⟩ := hri.decode_history c rp hk ev b
      fun mp m h => hv (pre.map Prod.fst) mp m (L.map Prod.fst) (by simp [h])
    simp only [List.map_cons, handleEvents_cons, handleEvent_eq, hd, Option.map_some', Option.some_bind]
    exact ih (pre ++ [(ev, b)]) _ (by simpa using hv) (fun _ _ h => by simpa using hri' _ _ h)
      fun n hn => by simpa using hk' n (by simpa using hn)

/-! ## `ValidatorFeeRecipient` -/

theorem validatorFeeRecipient_isSome {e : ExecutionLayer} (h : RefIntegrity e) {p : ValidatorPubkey} {n : Address}
    (hp : e.minipoolIndex p = some n) (q : Option Address) (hq : q.all (· == n)) :
    (validatorFeeRecipient c e p q).1.isSome := by
  obtain ⟨i, hi⟩ := Option.isSome_iff_exists.mp (h p n hp)
  have hq' : q.any (fun q => q != n) = false := by cases q <;> simp_all
  simp only [validatorFeeRecipient, hp, hq', hi, Bool.false_eq_true, if_false]
  split <;> rfl

/-! ## スナップショットと履歴 -/

/-- スナップショットの途中のどの状態も、その後に正しい履歴と再送のどこまでを処理した状態も、整合していてパニックしない。 -/
theorem refIntegrity_snapshot_history (B : Nat) (nodes : List Address) (hs t : List (ChainEvent × UInt64))
    (hv : HistoryValid nodes (hs.map Prod.fst)) (ht : t <:+ hs) (hok : (preloadNodes rp (some B) nodes).2 = none) :
    (∀ k, RefIntegrity (ExecutionLayer.empty.applyAll ((preloadNodes rp (some B) nodes).1.take k))) ∧
    ∀ k, ∃ e, handleEvents c rp (((hs ++ t).take k).map fun x => x.1.toLog c x.2)
      { ExecutionLayer.empty.applyAll (preloadNodes rp (some B) nodes).1 with highestBlock := B } = some e ∧
      RefIntegrity e ∧
      ∀ p n q, e.minipoolIndex p = some n → q.all (· == n) → (validatorFeeRecipient c e p q).1.isSome := by
  have hsnap := RefIntegrity.empty.applyAll_take (preloadNodes_ordered rp (some B) nodes .empty)
  refine ⟨hsnap, fun k => ?_⟩
  have hv' : HistoryValid nodes (([] ++ (hs ++ t).take k).map Prod.fst) := by
    rw [List.nil_append, List.map_take, List.map_append]
    exact (hv.append_of_subset (List.map_subset _ ht.subset)).take k
  obtain ⟨e, he, hi⟩ := handleEvents_history c rp nodes [] _
    { ExecutionLayer.empty.applyAll (preloadNodes rp (some B) nodes).1 with highestBlock := B } hv'
    (by simpa using hsnap (preloadNodes rp (some B) nodes).1.length)
    fun n hn => preloadNodes_keys rp (some B) hok _ n (by simpa using hn)
  exact ⟨e, he, hi, fun p n q hp hq => validatorFeeRecipient_isSome c hi hp q hq⟩

theorem refIntegrity_snapshot_history_sample :
    HistoryValid [0x44] (snapshotHistory.map Prod.fst) ∧ snapshotHistory.drop 1 <:+ snapshotHistory ∧
    (preloadNodes snapshotRocketPool (some 100) [0x44]).2 = none ∧
    ∀ k, ∃ e, handleEvents sampleContracts snapshotRocketPool
      (((snapshotHistory ++ snapshotHistory.drop 1).take k).map fun x => x.1.toLog sampleContracts x.2)
      { ExecutionLayer.empty.applyAll (preloadNodes snapshotRocketPool (some 100) [0x44]).1 with highestBlock := 100 } =
        some e ∧ RefIntegrity e ∧
        ∀ p n q, e.minipoolIndex p = some n → q.all (· == n) →
          (validatorFeeRecipient sampleContracts e p q).1.isSome := by
  have hv : HistoryValid [0x44] (snapshotHistory.map Prod.fst) := by
    intro pre mp n post h
    rcases pre with _ | ⟨x, _ | ⟨y, _ | ⟨z, pre⟩⟩⟩ <;> simp [snapshotHistory, sampleHistory] at h
    · obtain ⟨rfl, ⟨-, rfl⟩, -⟩ := h
      simp
    · obtain ⟨-, -, ⟨-, rfl⟩, -⟩ := h
      simp
  have ht : snapshotHistory.drop 1 <:+ snapshotHistory := List.drop_suffix 1 _
  exact ⟨hv, ht, rfl, (refIntegrity_snapshot_history sampleContracts snapshotRocketPool 100 [0x44] _ _ hv ht rfl).2⟩

/-- スナップショットの後に登録された節点のミニプールには、`ValidatorFeeRecipient` は連鎖の配布先でなく零アドレスを返す。 -/
theorem validatorFeeRecipient_registered_after_snapshot :
    sampleRocketPool.getDistributorAddress 0x22 none = .ok 0x122 ∧
    (handleEvents sampleContracts sampleRocketPool (sampleHistory.map fun x => x.1.toLog sampleContracts x.2)
        { ExecutionLayer.empty.applyAll (preloadNodes sampleRocketPool (some 100) []).1 with highestBlock := 100 }).map
      (fun e => validatorFeeRecipient sampleContracts e ((0x33 : Address).setWidth 384) none) =
      some (some 0, false) :=
  ⟨rfl, by decide⟩

end RescueProxy
