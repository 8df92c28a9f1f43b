import RescueProxy.Event

/-!
# 同じログをもう一度処理すること

バックフィルと購読が重なると、同じログが二度届く。ここでは、処理の済んだ並びの後ろの部分をもう一度
処理しても二つの索引が変わらないことを示す。

鍵ごとに見ると、ログの効果は「変えない」「状態を書く」「記録を置く」の三つに限られ、
この三つは合成で閉じていて、どれも二度行っても一度と同じである（`NodeEffect.run_run`）。
-/

namespace RescueProxy

/-! ## 一つの節点の記録への効果 -/

inductive NodeEffect where
  | keep
  | flag (v : Bool)
  | set (i : NodeInfo)

namespace NodeEffect

def run : NodeEffect → Option NodeInfo → Option NodeInfo
  | keep, o => o
  | flag v, o => o.map ({ · with inSmoothingPool := v })
  | set i, _ => some i

/-- `a` の後に `b`。 -/
def andThen : NodeEffect → NodeEffect → NodeEffect
  | a, keep => a
  | _, set i => set i
  | keep, flag v => flag v
  | flag _, flag v => flag v
  | set i, flag v => set { i with inSmoothingPool := v }

theorem run_andThen (a b : NodeEffect) (o : Option NodeInfo) : (a.andThen b).run o = b.run (a.run o) := by
  cases a <;> cases b <;> cases o <;> rfl

theorem run_run (a : NodeEffect) (o : Option NodeInfo) : a.run (a.run o) = a.run o := by
  cases a <;> cases o <;> rfl

end NodeEffect

/-! ## ログの意味の鍵ごとの効果 -/

namespace Decoded

def nodeEffect (k : Address) : Decoded → NodeEffect
  | nodeRegistered n => if n = k then .set {} else .keep
  | smoothingPool n v => if n = k then .flag v else .keep
  | _ => .keep

/-- 公開鍵 `p` に書く節点（後に書いたものが勝つ）。 -/
def minipoolEffect (p : ValidatorPubkey) : Decoded → Option Address
  | minipoolCreated q n => if q = p then some n else none
  | _ => none

theorem applyTo_nodeIndex (d : Decoded) (e : ExecutionLayer) (k : Address) :
    (d.applyTo e).nodeIndex k = (d.nodeEffect k).run (e.nodeIndex k) := by
  cases d with
  | nodeRegistered n => by_cases h : k = n <;> simp [applyTo, nodeEffect, NodeEffect.run, h, eq_comm]
  | smoothingPool n v =>
    simp only [applyTo, nodeEffect]
    by_cases h : k = n
    · subst h; cases h' : e.nodeIndex k <;> simp [NodeEffect.run, h']
    · rw [if_neg (Ne.symm h)]; split <;> simp [NodeEffect.run, h]
  | _ => rfl

theorem applyTo_minipoolIndex (d : Decoded) (e : ExecutionLayer) (p : ValidatorPubkey) :
    (d.applyTo e).minipoolIndex p = (d.minipoolEffect p).or (e.minipoolIndex p) := by
  cases d with
  | minipoolCreated q n => by_cases h : p = q <;> simp [applyTo, minipoolEffect, h, eq_comm]
  | smoothingPool n v => simp only [applyTo]; split <;> rfl
  | _ => rfl

/-- 意味の並びを順に適用する。 -/
def applyAll (ds : List Decoded) (e : ExecutionLayer) : ExecutionLayer := ds.foldl (fun e d => d.applyTo e) e

@[simp] theorem applyAll_nil (e : ExecutionLayer) : applyAll [] e = e := rfl

@[simp] theorem applyAll_cons (d : Decoded) (ds : List Decoded) (e : ExecutionLayer) :
    applyAll (d :: ds) e = applyAll ds (d.applyTo e) := rfl

theorem applyAll_append (ds es : List Decoded) (e : ExecutionLayer) :
    applyAll (ds ++ es) e = applyAll es (applyAll ds e) := List.foldl_append _ _ _ _

def nodeEffects (k : Address) : List Decoded → NodeEffect
  | [] => .keep
  | d :: ds => (d.nodeEffect k).andThen (nodeEffects k ds)

def minipoolEffects (p : ValidatorPubkey) : List Decoded → Option Address
  | [] => none
  | d :: ds => (minipoolEffects p ds).or (d.minipoolEffect p)

theorem applyAll_nodeIndex (ds : List Decoded) (e : ExecutionLayer) (k : Address) :
    (applyAll ds e).nodeIndex k = (nodeEffects k ds).run (e.nodeIndex k) := by
  induction ds generalizing e with
  | nil => rfl
  | cons d ds ih => simp [applyAll, nodeEffects, NodeEffect.run_andThen, ← applyTo_nodeIndex, ← ih]

theorem applyAll_minipoolIndex (ds : List Decoded) (e : ExecutionLayer) (p : ValidatorPubkey) :
    (applyAll ds e).minipoolIndex p = (minipoolEffects p ds).or (e.minipoolIndex p) := by
  induction ds generalizing e with
  | nil => rfl
  | cons d ds ih =>
    simp only [applyAll, List.foldl_cons, minipoolEffects] at ih ⊢
    rw [ih, applyTo_minipoolIndex, Option.or_assoc]

theorem applyAll_indices_congr (ds : List Decoded) {e e' : ExecutionLayer} (h : e.indices = e'.indices) :
    (applyAll ds e).indices = (applyAll ds e').indices := by
  simp only [ExecutionLayer.indices, Prod.mk.injEq] at h ⊢
  exact ⟨funext fun k => by rw [applyAll_nodeIndex, applyAll_nodeIndex, h.1],
    funext fun p => by rw [applyAll_minipoolIndex, applyAll_minipoolIndex, h.2]⟩

theorem applyAll_applyAll_indices (ds : List Decoded) (e : ExecutionLayer) :
    (applyAll ds (applyAll ds e)).indices = (applyAll ds e).indices := by
  simp only [ExecutionLayer.indices, Prod.mk.injEq]
  exact ⟨funext fun k => by simp only [applyAll_nodeIndex, NodeEffect.run_run],
    funext fun p => by simp only [applyAll_minipoolIndex, ← Option.or_assoc, Option.or_self]⟩

end Decoded

/-! ## `handleEvents` の索引 -/

variable (c : Contracts) (rp : RocketPool)

theorem handleEvents_indices (ls : List Log) (e : ExecutionLayer) :
    (handleEvents c rp ls e).map ExecutionLayer.indices =
      (ls.mapM (decode c rp)).map fun ds => (Decoded.applyAll ds e).indices := by
  induction ls generalizing e with
  | nil => rfl
  | cons l ls ih =>
    rw [handleEvents_cons, handleEvent_eq, List.mapM_cons]
    cases decode c rp l with
    | none => rfl
    | some d =>
      simp only [Option.map_some', Option.some_bind, ih]
      cases ls.mapM (decode c rp) with
      | none => rfl
      | some ds => exact congrArg some (Decoded.applyAll_indices_congr ds rfl)

theorem handleEvents_some {L : List Log} {e e' : ExecutionLayer} (h : handleEvents c rp L e = some e') :
    ∃ ds, L.mapM (decode c rp) = some ds ∧ e'.indices = (Decoded.applyAll ds e).indices := by
  have := handleEvents_indices c rp L e
  rw [h] at this
  obtain ⟨ds, hds, hi⟩ := Option.map_eq_some'.mp this.symm
  exact ⟨ds, hds, hi.symm⟩

theorem handleEvents_of_mapM {L : List Log} {ds : List Decoded} (h : L.mapM (decode c rp) = some ds)
    (e : ExecutionLayer) : ∃ e', handleEvents c rp L e = some e' ∧ e'.indices = (Decoded.applyAll ds e).indices := by
  have := handleEvents_indices c rp L e
  rw [h, Option.map_some'] at this
  exact Option.map_eq_some'.mp this

theorem handleEvents_indices_congr {L : List Log} {e e' f : ExecutionLayer} (h : e.indices = e'.indices)
    (hf : handleEvents c rp L e = some f) : ∃ f', handleEvents c rp L e' = some f' ∧ f'.indices = f.indices := by
  obtain ⟨ds, hds, hi⟩ := handleEvents_some c rp hf
  obtain ⟨f', hf', hi'⟩ := handleEvents_of_mapM c rp hds e'
  exact ⟨f', hf', by rw [hi', hi, Decoded.applyAll_indices_congr ds h]⟩

theorem handleEvents_twice {L : List Log} {e e' : ExecutionLayer} (h : handleEvents c rp L e = some e') :
    ∃ e'', handleEvents c rp L e' = some e'' ∧ e''.indices = e'.indices := by
  obtain ⟨ds, hds, hi⟩ := handleEvents_some c rp h
  obtain ⟨e'', he'', hi'⟩ := handleEvents_of_mapM c rp hds e'
  refine ⟨e'', he'', ?_⟩
  calc e''.indices = (Decoded.applyAll ds e').indices := hi'
    _ = (Decoded.applyAll ds (Decoded.applyAll ds e)).indices := Decoded.applyAll_indices_congr ds hi
    _ = (Decoded.applyAll ds e).indices := Decoded.applyAll_applyAll_indices ds e
    _ = e'.indices := hi.symm

theorem handleEvents_dup {U W Z : List Log} {e f : ExecutionLayer}
    (h : handleEvents c rp (U ++ W ++ (W ++ Z)) e = some f) :
    ∃ f', handleEvents c rp (U ++ W ++ Z) e = some f' ∧ f'.indices = f.indices := by
  rw [handleEvents_append] at h ⊢
  obtain ⟨e₂, h₂, h⟩ := Option.bind_eq_some.mp h
  rw [handleEvents_append] at h
  obtain ⟨e₃, h₃, h⟩ := Option.bind_eq_some.mp h
  obtain ⟨e₁, -, h₁⟩ := Option.bind_eq_some.mp ((handleEvents_append c rp U W e).symm.trans h₂)
  obtain ⟨e₃', h₃', hi⟩ := handleEvents_twice c rp h₁
  rw [h₃, Option.some.injEq] at h₃'
  subst h₃'
  rw [h₂, Option.some_bind]
  exact handleEvents_indices_congr c rp hi h

/-- 処理の済んだ並び `es` の後ろの部分 `t` をもう一度処理しても、二つの索引は変わらない。 -/
theorem handleEvents_redeliver_suffix (s : ExecutionLayer) (es t : List Log) (ht : t <:+ es) :
    ((handleEvents c rp es s).bind (handleEvents c rp t)).map ExecutionLayer.indices =
      (handleEvents c rp es s).map ExecutionLayer.indices := by
  obtain ⟨u, rfl⟩ := ht
  cases hs : handleEvents c rp (u ++ t) s with
  | none => rfl
  | some s₁ =>
    rw [handleEvents_append] at hs
    obtain ⟨s₂, -, hs₂⟩ := Option.bind_eq_some.mp hs
    obtain ⟨s₃, hs₃, hi⟩ := handleEvents_twice c rp hs₂
    rw [Option.some_bind, hs₃, Option.map_some', Option.map_some', hi]

theorem handleEvents_redeliver_suffix_sample :
    let es := sampleHistory.map fun x => x.1.toLog sampleContracts x.2
    es.drop 1 <:+ es ∧
    ((handleEvents sampleContracts sampleRocketPool es .empty).bind
        (handleEvents sampleContracts sampleRocketPool (es.drop 1))).map ExecutionLayer.indices =
      (handleEvents sampleContracts sampleRocketPool es .empty).map ExecutionLayer.indices :=
  ⟨List.drop_suffix 1 _, handleEvents_redeliver_suffix _ _ _ _ _ (List.drop_suffix 1 _)⟩

end RescueProxy
