import RescueProxy.Ingestor.Coverage
import RescueProxy.Integrity

/-!
# 受け手が動いている間の参照の整合

`RefIntegrity` を、スナップショットと一つの履歴から、受け手の実行のどの状態にまで広げる。
購読が一度も切れない実行では、処理したログの並びは、連鎖のイベントの並びのあいだに、バックフィルと購読の
重なりを一度挟んだものの先頭部分である。重なりは既に処理したイベントなので、そこに現れるミニプールの節点は
みな登録済みで、どの状態も整合している（`refIntegrity_of_keepsSubscriptions`）。

再接続では、バックフィルの飛ばしたブロックの `NodeRegistered` が失われ、その節点の後のミニプールは
`ValidatorFeeRecipient` の「節点の索引にない」枝に入る（`reconnect_breaks_refIntegrity`）。
-/

namespace RescueProxy

/-! ## 意味の並びの整合 -/

namespace Decoded

/-- 並びのどの `minipoolCreated` の節点も、`known` にあるか、それより前に登録されている。 -/
def registersFirst (known : List Address) : List Decoded → Bool
  | [] => true
  | nodeRegistered n :: ds => registersFirst (n :: known) ds
  | minipoolCreated _ n :: ds => decide (n ∈ known) && registersFirst known ds
  | _ :: ds => registersFirst known ds

/-- 並びを読み終えたときに知られている節点。 -/
def knownAfter (known : List Address) : List Decoded → List Address
  | [] => known
  | nodeRegistered n :: ds => knownAfter (n :: known) ds
  | _ :: ds => knownAfter known ds

theorem registersFirst_append (known : List Address) (ds es : List Decoded) :
    registersFirst known (ds ++ es) = (registersFirst known ds && registersFirst (knownAfter known ds) es) := by
  induction ds generalizing known with
  | nil => rfl
  | cons d ds ih =>
    cases d with
    | minipoolCreated p n => exact (congrArg (decide (n ∈ known) && ·) (ih known)).trans (Bool.and_assoc _ _ _).symm
    | _ => exact ih _

theorem registersFirst_of_prefix {known : List Address} {ds es : List Decoded} (h : ds <+: es)
    (he : registersFirst known es = true) : registersFirst known ds = true := by
  obtain ⟨t, rfl⟩ := h
  rw [registersFirst_append, Bool.and_eq_true] at he
  exact he.1

theorem registersFirst_mono {known known' : List Address} (h : known ⊆ known') {ds : List Decoded}
    (hd : registersFirst known ds = true) : registersFirst known' ds = true := by
  induction ds generalizing known known' with
  | nil => rfl
  | cons d ds ih =>
    cases d with
    | nodeRegistered n => exact ih (List.cons_subset_cons n h) hd
    | minipoolCreated p n =>
      simp only [registersFirst, Bool.and_eq_true, decide_eq_true_eq] at hd ⊢
      exact ⟨h hd.1, ih h hd.2⟩
    | _ => exact ih h hd

theorem subset_knownAfter (known : List Address) (ds : List Decoded) : known ⊆ knownAfter known ds := by
  induction ds generalizing known with
  | nil => exact List.Subset.refl _
  | cons d ds ih =>
    cases d with
    | nodeRegistered n => exact List.Subset.trans (List.subset_cons_self n known) (ih _)
    | _ => exact ih _

theorem mem_knownAfter {known : List Address} {ds : List Decoded} (hd : registersFirst known ds = true)
    {p : ValidatorPubkey} {n : Address} (hm : minipoolCreated p n ∈ ds) : n ∈ knownAfter known ds := by
  induction ds generalizing known with
  | nil => cases hm
  | cons d ds ih =>
    rcases List.mem_cons.mp hm with rfl | hds
    · simp only [registersFirst, Bool.and_eq_true, decide_eq_true_eq] at hd
      exact subset_knownAfter known ds hd.1
    · cases d with
      | minipoolCreated q m =>
        simp only [registersFirst, Bool.and_eq_true] at hd
        exact ih hd.2 hds
      | _ => exact ih hd hds

theorem registersFirst_of_known {known : List Address} {ds : List Decoded}
    (h : ∀ p n, minipoolCreated p n ∈ ds → n ∈ known) : registersFirst known ds = true := by
  induction ds generalizing known with
  | nil => rfl
  | cons d ds ih =>
    have h' : ∀ p n, minipoolCreated p n ∈ ds → n ∈ known := fun p n hm => h p n (List.mem_cons_of_mem _ hm)
    cases d with
    | nodeRegistered m => exact ih fun p n hm => List.mem_cons_of_mem m (h' p n hm)
    | minipoolCreated q m =>
      simp only [registersFirst, Bool.and_eq_true, decide_eq_true_eq]
      exact ⟨h q m (List.mem_cons_self _ _), ih h'⟩
    | _ => exact ih h'

theorem registersFirst_insert {known : List Address} {xs zs ws : List Decoded}
    (h : registersFirst known (xs ++ ws) = true) (hz : zs ⊆ xs) : registersFirst known (xs ++ zs ++ ws) = true := by
  rw [registersFirst_append, Bool.and_eq_true] at h
  rw [List.append_assoc, registersFirst_append, registersFirst_append, h.1, Bool.true_and, Bool.and_eq_true]
  exact ⟨registersFirst_of_known fun p n hm => mem_knownAfter h.1 (hz hm),
    registersFirst_mono (subset_knownAfter _ zs) h.2⟩

end Decoded

theorem RefIntegrity.of_indices {e e' : ExecutionLayer} (h : RefIntegrity e) (he : e.indices = e'.indices) :
    RefIntegrity e' := by
  simp only [ExecutionLayer.indices, Prod.mk.injEq] at he
  intro p n hp
  rw [← he.1]
  exact h p n (he.2 ▸ hp)

theorem RefIntegrity.applyAll {known : List Address} {e : ExecutionLayer} (h : RefIntegrity e)
    (hk : ∀ n ∈ known, (e.nodeIndex n).isSome) {ds : List Decoded} (hd : Decoded.registersFirst known ds = true) :
    RefIntegrity (Decoded.applyAll ds e) := by
  induction ds generalizing known e with
  | nil => exact h
  | cons d ds ih =>
    have hk' : ∀ n ∈ known, ((d.applyTo e).nodeIndex n).isSome := fun n hn => nodeIndex_isSome_applyTo (hk n hn) d
    cases d with
    | nodeRegistered n =>
      refine ih (h.applyTo _ (by simp)) (fun m hm => ?_) hd
      rcases List.mem_cons.mp hm with rfl | hm
      · simp [Decoded.applyTo]
      · exact hk' m hm
    | minipoolCreated p n =>
      simp only [Decoded.registersFirst, Bool.and_eq_true, decide_eq_true_eq] at hd
      exact ih (h.applyTo _ fun q m hq => by cases hq; exact hk n hd.1) hk' hd.2
    | _ => exact ih (h.applyTo _ (by simp)) hk' hd

variable (c : Contracts) (rp : RocketPool) (ch : Chain)

theorem filterMap_decode_of_mapM {L : List Log} {ds : List Decoded} (h : L.mapM (decode c rp) = some ds) :
    L.filterMap (decode c rp) = ds := by
  induction L generalizing ds with
  | nil => cases h; rfl
  | cons l L ih =>
    rw [List.mapM_cons] at h
    obtain ⟨d, hd, h⟩ := Option.bind_eq_some.mp h
    obtain ⟨ds', hds', h⟩ := Option.bind_eq_some.mp h
    cases h
    rw [List.filterMap_cons_some hd, ih hds']

/-! ## 連鎖の整合 -/

/-- ブロック `B` の後の連鎖のイベントは、どの高さまで読んでも、スナップショットの節点 `nodes` から見て整合している。 -/
def Chain.RegistersFirst (B : Nat) (nodes : List Address) : Prop :=
  ∀ b, Decoded.registersFirst nodes
    ((ch.logs (eventQuery c.rocketMinipoolManager c.rocketNodeManager) (B + 1) b).filterMap (decode c rp)) = true

theorem Chain.logs_eq_nil {q : FilterQuery} {a b : Nat} (h : ∀ b', a ≤ b' → b' ≤ b → ch.logsAt b' = []) :
    ch.logs q a b = [] := by
  refine List.eq_nil_iff_forall_not_mem.mpr fun l hl => ?_
  obtain ⟨b', h₁, h₂, hl'⟩ := mem_chain_logs ch hl
  rw [h b' h₁ h₂] at hl'
  cases hl'

theorem Chain.ofHistory_logsAt_of_lt {hs : List (ChainEvent × UInt64)} {m : Nat} (hm : ∀ x ∈ hs, x.2.toNat ≤ m)
    {b : Nat} (hb : m < b) : (Chain.ofHistory c hs).logsAt b = [] := by
  simp only [Chain.ofHistory, List.map_eq_nil_iff, List.filter_eq_nil_iff, decide_eq_true_eq]
  exact fun x hx h => by have := hm x hx; omega

theorem Chain.registersFirst_of_le {B m : Nat} {nodes : List Address} (hBm : B ≤ m)
    (hm : ∀ b, m < b → ch.logsAt b = [])
    (h : Decoded.registersFirst nodes
      ((ch.logs (eventQuery c.rocketMinipoolManager c.rocketNodeManager) (B + 1) m).filterMap (decode c rp)) = true) :
    ch.RegistersFirst c rp B nodes := by
  intro b
  by_cases hb : b ≤ m
  · by_cases hBb : B ≤ b
    · rw [ch.logs_append _ (by omega) hb, List.filterMap_append] at h
      exact Decoded.registersFirst_of_prefix (List.prefix_append _ _) h
    · rw [ch.logs_empty _ (by omega)]
      rfl
  · have hnil : ch.logs (eventQuery c.rocketMinipoolManager c.rocketNodeManager) (m + 1) b = [] :=
      ch.logs_eq_nil fun b' h₁ _ => hm b' (by omega)
    rw [ch.logs_append _ (by omega) (Nat.le_of_not_le hb), hnil, List.append_nil]
    exact h

/-! ## 購読が切れない実行 -/

theorem Connected.registersFirst {B head₀ : Nat} {nodes : List Address} (hB : B ≤ head₀)
    (hv : ch.RegistersFirst c rp B nodes) {s : System} (hc : Connected c ch B head₀ s) :
    Decoded.registersFirst nodes (s.handled.filterMap (decode c rp)) = true := by
  obtain ⟨filled, heq, ⟨-, hnil, -, -⟩ | ⟨h₁, h₀₁, h₁h, rfl, -⟩⟩ := hc.stream
  · rw [hnil]
    rfl
  have hpre : s.handled <+: s.handled ++ s.events ++ s.logSub.getD [] :=
    (List.prefix_append _ _).trans (List.prefix_append _ _)
  rw [heq, ch.logs_append _ (by omega : head₀ + 1 ≤ h₁ + 1) h₁h, ← List.append_assoc] at hpre
  have hz : (ch.logs (eventQuery c.rocketMinipoolManager c.rocketNodeManager) (head₀ + 1) h₁).filterMap
      (decode c rp) ⊆
      (ch.logs (eventQuery c.rocketMinipoolManager c.rocketNodeManager) (B + 1) h₁).filterMap (decode c rp) := by
    rw [ch.logs_append _ (by omega : B + 1 ≤ head₀ + 1) h₀₁, List.filterMap_append]
    exact List.subset_append_right _ _
  have hxw := hv s.head
  rw [ch.logs_append _ (by omega : B + 1 ≤ h₁ + 1) h₁h, List.filterMap_append] at hxw
  refine Decoded.registersFirst_of_prefix (hpre.filterMap _) ?_
  rw [List.filterMap_append, List.filterMap_append]
  exact Decoded.registersFirst_insert hxw hz

/-- 購読が一度も切れず `Deinit` も呼ばれない実行では、連鎖がミニプールの節点を先に登録していれば、どの状態の索引も整合している。 -/
theorem refIntegrity_of_keepsSubscriptions {B head₀ : Nat} {nodes : List Address} (hB : B ≤ head₀)
    (hok : (preloadNodes rp (some B) nodes).2 = none) (hv : ch.RegistersFirst c rp B nodes) {as : List Action}
    (has : as.all Action.keepsSubscriptions = true) {s : System}
    (hs : run c rp ch (snapshotSystem rp B nodes head₀) as = some s) :
    RefIntegrity s.layer ∧
      ∀ p n q, s.layer.minipoolIndex p = some n → q.all (· == n) → (validatorFeeRecipient c s.layer p q).1.isSome := by
  have hc := Connected.run c rp ch has (Connected.initial c ch B head₀ _) hs
  obtain ⟨e, he, hi⟩ := indices_replay c rp ch (reach_of_run c rp ch hs)
  obtain ⟨ds, hds, hdi⟩ := handleEvents_some c rp he
  have hvalid : Decoded.registersFirst nodes ds = true := by
    rw [← filterMap_decode_of_mapM c rp hds]
    exact hc.registersFirst c rp ch hB hv
  have hsnap : RefIntegrity (ExecutionLayer.empty.applyAll (preloadNodes rp (some B) nodes).1) := by
    simpa using RefIntegrity.empty.applyAll_take (preloadNodes_ordered rp (some B) nodes .empty)
      (preloadNodes rp (some B) nodes).1.length
  have hri : RefIntegrity s.layer :=
    (hsnap.applyAll (preloadNodes_keys rp (some B) hok .empty) hvalid).of_indices (hdi.symm.trans hi)
  exact ⟨hri, fun p n q hp hq => validatorFeeRecipient_isSome c hri hp q hq⟩

theorem refIntegrity_of_keepsSubscriptions_sample :
    ∃ s, run sampleContracts sampleRocketPool (.ofHistory sampleContracts sampleHistory)
        (snapshotSystem sampleRocketPool 100 [] 100) deliveredRun = some s ∧
      (preloadNodes sampleRocketPool (some 100) []).2 = none ∧
      (Chain.ofHistory sampleContracts sampleHistory).RegistersFirst sampleContracts sampleRocketPool 100 [] ∧
      deliveredRun.all Action.keepsSubscriptions = true ∧
      RefIntegrity s.layer ∧
      ∀ p n q, s.layer.minipoolIndex p = some n → q.all (· == n) →
        (validatorFeeRecipient sampleContracts s.layer p q).1.isSome := by
  obtain ⟨s, hs, -⟩ := exists_run_eq sampleContracts sampleRocketPool (.ofHistory sampleContracts sampleHistory)
    (fun _ => True) (snapshotSystem sampleRocketPool 100 [] 100) deliveredRun (by decide)
  have hv : (Chain.ofHistory sampleContracts sampleHistory).RegistersFirst sampleContracts sampleRocketPool 100 [] :=
    @Chain.registersFirst_of_le _ _ _ 100 103 [] (by decide)
      (fun _ => Chain.ofHistory_logsAt_of_lt _ (by decide)) (by decide)
  exact ⟨s, hs, rfl, hv, by decide, refIntegrity_of_keepsSubscriptions _ _ _ (Nat.le_refl 100) (by rfl) hv (by decide) hs⟩

/-! ## 再接続で失われる登録 -/

/-- 例の連鎖：ブロック 101 で節点 `0x22` と `0x23` が登録され、102 で `0x23` がミニプール `0x33` を作る。 -/
def lostRegistrationChain : Chain :=
  .ofHistory sampleContracts
    [(.nodeRegistered 0x22, 101), (.nodeRegistered 0x23, 101), (.minipoolCreated 0x33 0x23, 102)]

/-- `splitBlockRun` の後、ブロック 102 が掘られ、そのログが配られて処理される。 -/
def lostRegistrationRun : List Action := splitBlockRun ++ [.mine, .deliverLog, .recvEvent]

theorem reconnect_breaks_refIntegrity :
    lostRegistrationChain.RegistersFirst sampleContracts sampleRocketPool 100 [] ∧
    ∃ s, run sampleContracts sampleRocketPool lostRegistrationChain sampleSystem lostRegistrationRun = some s ∧
      s.layer.minipoolIndex ((0x33 : Address).setWidth 384) = some 0x23 ∧ s.layer.nodeIndex 0x23 = none ∧
      validatorFeeRecipient sampleContracts s.layer ((0x33 : Address).setWidth 384) none = (none, false) := by
  refine ⟨@Chain.registersFirst_of_le _ _ _ 100 102 [] (by decide)
    (fun _ => Chain.ofHistory_logsAt_of_lt _ (by decide)) (by decide), ?_⟩
  exact exists_run_eq sampleContracts sampleRocketPool lostRegistrationChain
    (fun s => s.layer.minipoolIndex ((0x33 : Address).setWidth 384) = some 0x23 ∧ s.layer.nodeIndex 0x23 = none ∧
      validatorFeeRecipient sampleContracts s.layer ((0x33 : Address).setWidth 384) none = (none, false))
    sampleSystem lostRegistrationRun (by decide)

end RescueProxy
