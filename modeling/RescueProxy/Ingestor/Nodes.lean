import RescueProxy.Ingestor.Coverage
import RescueProxy.FeeRecipient

/-!
# 観測した節点と `ForEachNode`

`ForEachNode` は `nodeIndex.Range` で記録のある節点を渡す。`nodeIndex` に記録を置くのはスナップショットと
`NodeRegistered` だけで（知らない節点の smoothing pool の更新は記録を置かない）、記録は消えないので、
どの実行でも `ForEachNode` が渡すのは、スナップショットの節点と、処理したログで登録された節点とにちょうど等しい。
スナップショットのミニプールの項も消えない。
-/

namespace RescueProxy

/-! ## `ForEachNode` -/

/-- `ForEachNode`：`Range` が鍵を `keys` の順に渡し、`closure` が `false` を返したところで止まる。呼んだ節点を呼んだ順に返す。 -/
def forEachNode (closure : Address → Bool) : List Address → List Address
  | [] => []
  | k :: keys => k :: if closure k then forEachNode closure keys else []

/-- `keys` は `nodeIndex` の鍵を一度ずつ並べたもの。`sync.Map.Range` の順は決まっていない。 -/
def RangeOrder (e : ExecutionLayer) (keys : List Address) : Prop :=
  keys.Nodup ∧ ∀ a, a ∈ keys ↔ (e.nodeIndex a).isSome

theorem forEachNode_sublist (closure : Address → Bool) (keys : List Address) : (forEachNode closure keys).Sublist keys := by
  induction keys with
  | nil => exact List.Sublist.refl _
  | cons k keys ih =>
    cases h : closure k
    · simp [forEachNode, h]
    · simpa [forEachNode, h] using ih

theorem forEachNode_of_forall {closure : Address → Bool} (h : ∀ a, closure a = true) (keys : List Address) :
    forEachNode closure keys = keys := by
  induction keys with
  | nil => rfl
  | cons k keys ih => simp [forEachNode, h, ih]

variable (c : Contracts) (rp : RocketPool) (ch : Chain)

/-! ## 記録のある節点 -/

/-- 節点 `a` が観測された：スナップショットの節点か、`handleEvent` に渡したログに `NodeRegistered(a)` がある。 -/
def Observed (nodes : List Address) (handled : List Log) (a : Address) : Prop :=
  a ∈ nodes ∨ ∃ l ∈ handled, decode c rp l = some (.nodeRegistered a)

theorem Decoded.nodeIndex_isSome_applyTo_iff (d : Decoded) (e : ExecutionLayer) (a : Address) :
    ((d.applyTo e).nodeIndex a).isSome ↔ (e.nodeIndex a).isSome ∨ d = .nodeRegistered a := by
  rw [Decoded.applyTo_nodeIndex]
  cases d with
  | nodeRegistered n => by_cases h : n = a <;> simp [Decoded.nodeEffect, NodeEffect.run, h]
  | smoothingPool n v => by_cases h : n = a <;> simp [Decoded.nodeEffect, NodeEffect.run, h]
  | _ => simp [Decoded.nodeEffect, NodeEffect.run]

theorem handleEvents_nodeIndex_isSome_iff {L : List Log} {e e' : ExecutionLayer} (h : handleEvents c rp L e = some e')
    (a : Address) : (e'.nodeIndex a).isSome ↔ (e.nodeIndex a).isSome ∨ ∃ l ∈ L, decode c rp l = some (.nodeRegistered a) := by
  induction L generalizing e with
  | nil => cases h; simp
  | cons l L ih =>
    rw [handleEvents_cons, handleEvent_eq] at h
    cases hd : decode c rp l with
    | none => simp [hd] at h
    | some d =>
      simp only [hd, Option.map_some', Option.some_bind] at h
      rw [ih h]
      simp only [Decoded.nodeIndex_isSome_applyTo_iff, List.mem_cons, exists_eq_or_imp, hd, Option.some.injEq, or_assoc]

theorem preloadNodes_nodeIndex_isSome_iff {opts : Option Nat} {nodes : List Address}
    (hok : (preloadNodes rp opts nodes).2 = none) (a : Address) :
    ((ExecutionLayer.empty.applyAll (preloadNodes rp opts nodes).1).nodeIndex a).isSome ↔ a ∈ nodes := by
  refine ⟨fun h => ?_, preloadNodes_keys rp opts hok _ a⟩
  by_contra hn
  rw [preloadNodes_nodeIndex_of_not_mem rp hn] at h
  cases h

theorem nodeIndex_isSome_iff_observed {B head : Nat} {nodes : List Address}
    (hok : (preloadNodes rp (some B) nodes).2 = none) {s : System}
    (hs : Reach c rp ch (snapshotSystem rp B nodes head) s) (a : Address) :
    (s.layer.nodeIndex a).isSome ↔ Observed c rp nodes s.handled a := by
  obtain ⟨e, he, hi⟩ := indices_replay c rp ch hs
  rw [← show e.nodeIndex = s.layer.nodeIndex from congrArg Prod.fst hi, handleEvents_nodeIndex_isSome_iff c rp he,
    preloadNodes_nodeIndex_isSome_iff rp hok]
  rfl

/-- どの実行でも、`Range` の順によらず、`ForEachNode` は観測された節点だけを一度ずつ渡し、`closure` が止めなければそのすべてを渡す。 -/
theorem forEachNode_observed {B head : Nat} {nodes : List Address}
    (hok : (preloadNodes rp (some B) nodes).2 = none) {s : System}
    (hs : Reach c rp ch (snapshotSystem rp B nodes head) s) {keys : List Address} (hk : RangeOrder s.layer keys)
    (closure : Address → Bool) :
    (forEachNode closure keys).Nodup ∧ (∀ a ∈ forEachNode closure keys, Observed c rp nodes s.handled a) ∧
      ((∀ a, closure a = true) → ∀ a, a ∈ forEachNode closure keys ↔ Observed c rp nodes s.handled a) := by
  have hobs : ∀ a, a ∈ keys ↔ Observed c rp nodes s.handled a := fun a =>
    (hk.2 a).trans (nodeIndex_isSome_iff_observed c rp ch hok hs a)
  refine ⟨hk.1.sublist (forEachNode_sublist closure keys), fun a ha => (hobs a).mp ((forEachNode_sublist closure keys).subset ha),
    fun hall a => ?_⟩
  rw [forEachNode_of_forall hall, hobs]

theorem exists_reach_registered :
    ∃ s, Reach sampleContracts snapshotRocketPool (.ofHistory sampleContracts sampleHistory)
      (snapshotSystem snapshotRocketPool 100 [0x44] 100) s ∧
      s.handled = [(ChainEvent.nodeRegistered 0x22).toLog sampleContracts 102] := by
  obtain ⟨s, hs, h⟩ := exists_run_eq sampleContracts snapshotRocketPool (.ofHistory sampleContracts sampleHistory)
    (fun s => s.handled = [(ChainEvent.nodeRegistered 0x22).toLog sampleContracts 102])
    (snapshotSystem snapshotRocketPool 100 [0x44] 100) [.backfill .answered, .start, .mine, .mine, .deliverLog, .recvEvent]
    (by decide)
  exact ⟨s, reach_of_run _ _ _ hs, h⟩

theorem forEachNode_observed_sample :
    ∃ s, Reach sampleContracts snapshotRocketPool (.ofHistory sampleContracts sampleHistory)
      (snapshotSystem snapshotRocketPool 100 [0x44] 100) s ∧ RangeOrder s.layer [0x44, 0x22] ∧
      (forEachNode (fun _ => true) [0x44, 0x22]).Nodup ∧
      (∀ a ∈ forEachNode (fun _ => true) [0x44, 0x22], Observed sampleContracts snapshotRocketPool [0x44] s.handled a) ∧
      ((∀ a : Address, (fun _ => true) a = true) →
        ∀ a, a ∈ forEachNode (fun _ => true) [0x44, 0x22] ↔ Observed sampleContracts snapshotRocketPool [0x44] s.handled a) := by
  obtain ⟨s, hs, hh⟩ := exists_reach_registered
  have hk : RangeOrder s.layer [0x44, 0x22] := by
    refine ⟨by decide, fun a => ?_⟩
    rw [@nodeIndex_isSome_iff_observed sampleContracts snapshotRocketPool _ 100 100 [0x44] rfl s hs, Observed, hh]
    simp [eq_comm]
  exact ⟨s, hs, hk, @forEachNode_observed sampleContracts snapshotRocketPool _ 100 100 [0x44] rfl s hs _ hk _⟩

/-! ## スナップショットの項 -/

theorem minipoolIndex_isSome_applyAll {e : ExecutionLayer} {ws : List Store} {p : ValidatorPubkey} {n : Address}
    (h : .minipool p n ∈ ws ∨ (e.minipoolIndex p).isSome) : ((e.applyAll ws).minipoolIndex p).isSome := by
  induction ws generalizing e with
  | nil => simpa using h
  | cons w ws ih =>
    refine ih ?_
    rcases h with h | h
    · rcases List.mem_cons.mp h with rfl | h
      · exact .inr (by simp)
      · exact .inl h
    · refine .inr ?_
      cases w with
      | node => exact h
      | minipool q m => by_cases hq : p = q <;> simp [Function.update_noteq, hq, h]

theorem mem_preloadNodes_of_minipools {opts : Option Nat} {nodes : List Address} (hok : (preloadNodes rp opts nodes).2 = none)
    {n : Address} (hn : n ∈ nodes) {ps : List ValidatorPubkey} (hps : rp.getNodeMinipools n opts = .ok ps)
    {p : ValidatorPubkey} (hp : p ∈ ps) : .minipool p n ∈ (preloadNodes rp opts nodes).1 := by
  induction nodes with
  | nil => cases hn
  | cons m nodes ih =>
    cases hm : (preloadNodes rp opts [m]).2 with
    | some err => rw [preloadNodes_cons_of_error rp hm, hm] at hok; cases hok
    | none =>
      rw [preloadNodes_cons_of_ok rp hm] at hok ⊢
      rcases List.mem_cons.mp hn with rfl | hn
      · refine List.mem_append_left _ ?_
        simp only [preloadNodes] at hm ⊢
        split at hm <;> try cases hm
        simp only [hps] at hm ⊢
        simpa using hp
      · exact List.mem_append_right _ (ih hok hn)

theorem handleEvents_minipoolIndex_isSome {L : List Log} {e e' : ExecutionLayer} (h : handleEvents c rp L e = some e')
    {p : ValidatorPubkey} (hp : (e.minipoolIndex p).isSome) : (e'.minipoolIndex p).isSome := by
  induction L generalizing e with
  | nil => cases h; exact hp
  | cons l L ih =>
    rw [handleEvents_cons, handleEvent_eq] at h
    cases hd : decode c rp l with
    | none => simp [hd] at h
    | some d =>
      simp only [hd, Option.map_some', Option.some_bind] at h
      refine ih h ?_
      show ((d.applyTo e).minipoolIndex p).isSome
      rw [Decoded.applyTo_minipoolIndex]
      cases d.minipoolEffect p <;> simp [hp]

/-- スナップショットが誤りなく終われば、どの実行のどの状態でも、その節点の記録とそのミニプールの公開鍵は索引に残っている。 -/
theorem snapshot_entries_persist {B head : Nat} {nodes : List Address}
    (hok : (preloadNodes rp (some B) nodes).2 = none) {s : System}
    (hs : Reach c rp ch (snapshotSystem rp B nodes head) s) {n : Address} (hn : n ∈ nodes) :
    (s.layer.nodeIndex n).isSome ∧
      ∀ ps, rp.getNodeMinipools n (some B) = .ok ps → ∀ p ∈ ps, (s.layer.minipoolIndex p).isSome := by
  refine ⟨(nodeIndex_isSome_iff_observed c rp ch hok hs n).mpr (.inl hn), fun ps hps p hp => ?_⟩
  obtain ⟨e, he, hi⟩ := indices_replay c rp ch hs
  rw [← show e.minipoolIndex = s.layer.minipoolIndex from congrArg Prod.snd hi]
  exact handleEvents_minipoolIndex_isSome c rp he
    (minipoolIndex_isSome_applyAll (.inl (mem_preloadNodes_of_minipools rp hok hn hps hp)))

theorem snapshot_entries_persist_sample :
    ∃ s, Reach sampleContracts snapshotRocketPool (.ofHistory sampleContracts sampleHistory)
      (snapshotSystem snapshotRocketPool 100 [0x44] 100) s ∧ s.handled ≠ [] ∧
      (s.layer.nodeIndex 0x44).isSome ∧
      ∀ ps, snapshotRocketPool.getNodeMinipools 0x44 (some 100) = .ok ps → ∀ p ∈ ps, (s.layer.minipoolIndex p).isSome := by
  obtain ⟨s, hs, hh⟩ := exists_reach_registered
  exact ⟨s, hs, by simp [hh], @snapshot_entries_persist sampleContracts snapshotRocketPool _ 100 100 [0x44] rfl s hs _
    (List.mem_singleton_self _)⟩

end RescueProxy
