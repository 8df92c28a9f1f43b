import RescueProxy.Init
import RescueProxy.Replay

/-!
# スナップショットの節点の配布先

スナップショットにあった節点のミニプールについては、`ValidatorFeeRecipient` は連鎖の答えを返す：配布先は
スナップショットのブロックで読んだもの、smoothing pool の状態は履歴の中の最後のもの
（`validatorFeeRecipient_snapshot_node`）。スナップショットの後で登録された節点の記録だけが、配布先を読まずに作られる。
-/

namespace RescueProxy

/-- 履歴の中の、節点 `n` の smoothing pool の最後の状態。変化がなければ `v`。 -/
def lastSmoothingPool (n : Address) (v : Bool) : List ChainEvent → Bool
  | [] => v
  | .smoothingPoolStateChanged m w :: hs => lastSmoothingPool n (if m = n then w else v) hs
  | _ :: hs => lastSmoothingPool n v hs

variable (c : Contracts) (rp : RocketPool)

/-! ## スナップショットの節点の記録 -/

theorem applyAll_minipools_nodeIndex (e : ExecutionLayer) (ps : List ValidatorPubkey) (m : Address) :
    (e.applyAll (ps.map (Store.minipool · m))).nodeIndex = e.nodeIndex := by
  induction ps generalizing e with
  | nil => rfl
  | cons p ps ih => exact ih _

theorem preloadNodes_nodeIndex_of_not_mem {opts : Option Nat} {nodes : List Address} {n : Address} (hn : n ∉ nodes)
    (e : ExecutionLayer) : (e.applyAll (preloadNodes rp opts nodes).1).nodeIndex n = e.nodeIndex n := by
  induction nodes generalizing e with
  | nil => rfl
  | cons m nodes ih =>
    have hnm : n ≠ m := fun h => hn (h ▸ List.mem_cons_self _ _)
    simp only [preloadNodes]
    split
    · rfl
    · rfl
    · split
      · simp [Function.update_noteq hnm]
      · rw [List.cons_append, ExecutionLayer.applyAll_cons, ExecutionLayer.applyAll_append,
          ih (fun h => hn (List.mem_cons_of_mem _ h)), applyAll_minipools_nodeIndex]
        simp [Function.update_noteq hnm]

theorem preloadNodes_nodeIndex {opts : Option Nat} {nodes : List Address} (hok : (preloadNodes rp opts nodes).2 = none)
    {n : Address} (hn : n ∈ nodes) (e : ExecutionLayer) :
    ∃ sp fd, rp.getSmoothingPoolRegistrationState n opts = .ok sp ∧ rp.getDistributorAddress n opts = .ok fd ∧
      (e.applyAll (preloadNodes rp opts nodes).1).nodeIndex n = some ⟨sp, fd⟩ := by
  induction nodes generalizing e with
  | nil => cases hn
  | cons m nodes ih =>
    simp only [preloadNodes] at hok ⊢
    split at hok
    · cases hok
    · cases hok
    · rename_i sp fd hsp hfd
      split at hok
      · cases hok
      · rename_i ps _
        rw [List.cons_append, ExecutionLayer.applyAll_cons, ExecutionLayer.applyAll_append]
        by_cases hn' : n ∈ nodes
        · exact ih hok hn' _
        · obtain rfl : n = m := (List.mem_cons.mp hn).resolve_right hn'
          refine ⟨sp, fd, hsp, hfd, ?_⟩
          rw [preloadNodes_nodeIndex_of_not_mem rp hn', applyAll_minipools_nodeIndex]
          simp

/-! ## 履歴の後 -/

theorem decode_toLog (hc : c.rocketNodeManager ≠ c.rocketMinipoolManager) (ev : ChainEvent) (b : UInt64) :
    decode c rp (ev.toLog c b) = some (ev.decoded rp) := by
  cases ev with
  | nodeRegistered n => exact decode_nodeRegistered c rp b n
  | smoothingPoolStateChanged n v => exact decode_smoothingPoolStateChanged c rp b n v
  | minipoolCreated mp n => rw [decode_minipoolCreated, if_neg hc]

theorem mapM_decode_toLog (hc : c.rocketNodeManager ≠ c.rocketMinipoolManager) (hs : List (ChainEvent × UInt64)) :
    (hs.map fun x => x.1.toLog c x.2).mapM (decode c rp) = some (hs.map fun x => x.1.decoded rp) := by
  induction hs with
  | nil => rfl
  | cons x hs ih => rw [List.map_cons, List.mapM_cons, decode_toLog c rp hc, ih]; rfl

theorem nodeEffects_run_of_not_registered (n : Address) (hs : List ChainEvent) (hreg : .nodeRegistered n ∉ hs)
    (i : NodeInfo) :
    (Decoded.nodeEffects n (hs.map (·.decoded rp))).run (some i) =
      some { i with inSmoothingPool := lastSmoothingPool n i.inSmoothingPool hs } := by
  induction hs generalizing i with
  | nil => rfl
  | cons ev hs ih =>
    have hreg' : .nodeRegistered n ∉ hs := fun h => hreg (List.mem_cons_of_mem _ h)
    rw [List.map_cons, Decoded.nodeEffects, NodeEffect.run_andThen]
    cases ev with
    | nodeRegistered m =>
      rw [show Decoded.nodeEffect n ((ChainEvent.nodeRegistered m).decoded rp) = .keep from
        if_neg fun (h : m = n) => hreg (h ▸ List.mem_cons_self _ _)]
      exact ih hreg' i
    | smoothingPoolStateChanged m w =>
      by_cases hm : m = n
      · rw [show Decoded.nodeEffect n ((ChainEvent.smoothingPoolStateChanged m w).decoded rp) = .flag w from if_pos hm]
        simp only [lastSmoothingPool, if_pos hm]
        exact ih hreg' _
      · rw [show Decoded.nodeEffect n ((ChainEvent.smoothingPoolStateChanged m w).decoded rp) = .keep from if_neg hm]
        simp only [lastSmoothingPool, if_neg hm]
        exact ih hreg' i
    | minipoolCreated mp m =>
      rw [show Decoded.nodeEffect n ((ChainEvent.minipoolCreated mp m).decoded rp) = .keep by
        simp only [ChainEvent.decoded]; split <;> rfl]
      exact ih hreg' i

/-- 再登録のない履歴の後、スナップショットの節点のミニプールには、最後の smoothing pool の状態が真なら smoothing pool、偽ならスナップショットで読んだ配布先を返す。 -/
theorem validatorFeeRecipient_snapshot_node (hc : c.rocketNodeManager ≠ c.rocketMinipoolManager) {B : Nat}
    {nodes : List Address} (hok : (preloadNodes rp (some B) nodes).2 = none) (hs : List (ChainEvent × UInt64))
    {e : ExecutionLayer} (he : handleEvents c rp (hs.map fun x => x.1.toLog c x.2)
      { ExecutionLayer.empty.applyAll (preloadNodes rp (some B) nodes).1 with highestBlock := B } = some e)
    {n : Address} (hn : n ∈ nodes) (hreg : .nodeRegistered n ∉ hs.map Prod.fst)
    {p : ValidatorPubkey} (hp : e.minipoolIndex p = some n) :
    ∃ sp fd, rp.getSmoothingPoolRegistrationState n (some B) = .ok sp ∧ rp.getDistributorAddress n (some B) = .ok fd ∧
      validatorFeeRecipient c e p none =
        (some (if lastSmoothingPool n sp (hs.map Prod.fst) then c.smoothingPool else fd), false) := by
  obtain ⟨sp, fd, hsp, hfd, hnode⟩ := preloadNodes_nodeIndex rp hok hn .empty
  obtain ⟨ds, hds, hi⟩ := handleEvents_some c rp he
  rw [mapM_decode_toLog c rp hc] at hds
  cases hds
  have hni : e.nodeIndex n = some ⟨lastSmoothingPool n sp (hs.map Prod.fst), fd⟩ := by
    simp only [ExecutionLayer.indices, Prod.mk.injEq] at hi
    rw [hi.1, Decoded.applyAll_nodeIndex]
    have h := nodeEffects_run_of_not_registered rp n _ hreg ⟨sp, fd⟩
    rw [List.map_map] at h
    rw [hnode]
    exact h
  refine ⟨sp, fd, hsp, hfd, ?_⟩
  simp only [validatorFeeRecipient, hp, hni, Option.any_none, Bool.false_eq_true, if_false]
  split <;> rfl

theorem validatorFeeRecipient_snapshot_node_sample :
    let hs : List (ChainEvent × UInt64) := [(.smoothingPoolStateChanged 0x44 true, 101)]
    ∃ e, handleEvents sampleContracts snapshotRocketPool (hs.map fun x => x.1.toLog sampleContracts x.2)
        { ExecutionLayer.empty.applyAll (preloadNodes snapshotRocketPool (some 100) [0x44]).1 with
          highestBlock := 100 } = some e ∧
      e.minipoolIndex ((0x55 : Address).setWidth 384) = some 0x44 ∧
      ∃ sp fd, snapshotRocketPool.getSmoothingPoolRegistrationState 0x44 (some 100) = .ok sp ∧
        snapshotRocketPool.getDistributorAddress 0x44 (some 100) = .ok fd ∧
        validatorFeeRecipient sampleContracts e ((0x55 : Address).setWidth 384) none =
          (some (if lastSmoothingPool 0x44 sp (hs.map Prod.fst) then sampleContracts.smoothingPool else fd), false) := by
  intro hs
  refine ⟨_, rfl, rfl, ?_⟩
  exact validatorFeeRecipient_snapshot_node sampleContracts snapshotRocketPool (by decide)
    (show (preloadNodes snapshotRocketPool (some 100) [0x44]).2 = none from rfl) hs rfl (by decide) (by decide)
    (by decide)

end RescueProxy
