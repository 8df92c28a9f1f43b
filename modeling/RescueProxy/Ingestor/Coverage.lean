import RescueProxy.Ingestor.HighestBlock

/-!
# 取りこぼしと古いログ

索引はいつも、受け手が処理したログをスナップショットから順に再生したものである（`indices_replay`）。
購読が一度も切れない実行では、`highestBlock` 以下のブロックのイベントは処理されたか通路か購読に残っていて
（`noGap_of_keepsSubscriptions`）、通路と購読が空になった時点の索引は途切れない実行のものと同じになる
（`quiescent_indices_of_keepsSubscriptions`）。初めのバックフィルと購読が重なっても、二度目の処理は索引を変えない。

再接続ではどちらも崩れる。`handleSubscriptionError` の後のバックフィルは `highestBlock + 1` から始まるが、
`highestBlock` はログを一つ処理するたびにそのブロック番号になり、ヘッダが届くだけでも進むので、切れた購読が
まだ配っていなかった同じブロックのログは、バックフィルの範囲にも新しい購読にも入らない。また、切れる前に
`e.events` に入っていたログは、後のブロックまで進んだバックフィルの後で処理される。
-/

namespace RescueProxy

variable (c : Contracts) (rp : RocketPool) (ch : Chain)

/-- ブロック `B` より後で `highestBlock` 以下のブロックの合うログは、処理されたか、`e.events` かログの購読に残っている。 -/
def NoGap (B : Nat) (s : System) : Prop :=
  ∀ b l, B < b → (b : Int) ≤ s.layer.highestBlock → l ∈ ch.logsAt b →
    (eventQuery c.rocketMinipoolManager c.rocketNodeManager).matches l = true →
    l ∈ s.handled ∨ l ∈ s.events ∨ l ∈ s.logSub.getD []

/-- 途切れない実行の索引：スナップショットに、ブロック `B + 1` から `head` までのイベントを連鎖の順に一度ずつ処理したもの。 -/
def uninterrupted (B : Nat) (nodes : List Address) (head : Nat) : Option ExecutionLayer :=
  handleEvents c rp (ch.logs (eventQuery c.rocketMinipoolManager c.rocketNodeManager) (B + 1) head)
    (ExecutionLayer.empty.applyAll (preloadNodes rp (some B) nodes).1)

/-! ## 索引は処理したログの再生 -/

/-- 索引は、`e₀` から `handled` のログを順に処理したものと同じ。 -/
def Replayed (e₀ : ExecutionLayer) (s : System) : Prop :=
  ∃ e, handleEvents c rp s.handled e₀ = some e ∧ e.indices = s.layer.indices

theorem Replayed.append {e₀ : ExecutionLayer} {s : System} (h : Replayed c rp e₀ s) {L : List Log}
    {e : ExecutionLayer} (he : handleEvents c rp L s.layer = some e) :
    ∃ f, handleEvents c rp (s.handled ++ L) e₀ = some f ∧ f.indices = e.indices := by
  obtain ⟨e₁, h₁, hi⟩ := h
  obtain ⟨f, hf, hfi⟩ := handleEvents_indices_congr c rp hi.symm he
  exact ⟨f, by rw [handleEvents_append, h₁, Option.some_bind, hf], hfi⟩

theorem Replayed.step {e₀ : ExecutionLayer} {s s' : System} (h : Replayed c rp e₀ s) (hs : Step c rp ch s s') :
    Replayed c rp e₀ s' := by
  cases hs with
  | backfill _ hb =>
    obtain ⟨f, hf, hi⟩ := backfillEvents_client_some c rp ch hb
    obtain ⟨g, hg, hgi⟩ := h.append c rp hf
    exact ⟨g, hg, hgi.trans hi⟩
  | recvEvent _ _ he => exact h.append c rp (by simp [he])
  | _ => exact h

theorem indices_replay {B head : Nat} {nodes : List Address} {s : System}
    (hs : Reach c rp ch (snapshotSystem rp B nodes head) s) :
    ∃ e, handleEvents c rp s.handled (ExecutionLayer.empty.applyAll (preloadNodes rp (some B) nodes).1) = some e ∧
      e.indices = s.layer.indices :=
  hs.induct_step c rp ch (P := Replayed c rp _) ⟨_, rfl, rfl⟩ fun _ _ h hst => h.step c rp ch hst

/-! ## 購読が切れない実行 -/

/-- 購読を切らず、`Deinit` も呼ばない行為。 -/
def Action.keepsSubscriptions : Action → Bool
  | .dropLogSub | .dropHeadSub | .deinit => false
  | _ => true

theorem step_keepsSubscriptions {s s' : System} {a : Action} (h : step c rp ch s a = some s')
    (ha : a.keepsSubscriptions = true) (hl : s.logSub.isSome) (hh : s.headSub.isSome) :
    s'.logSub.isSome ∧ s'.headSub.isSome ∧ s'.deinit = s.deinit := by
  unfold step at h
  split at h
  · cases h
  cases a with
  | mine => cases h; simp [hl, hh]
  | deliverLog =>
    simp only [stepLive] at h
    split at h <;> try cases h
    split at h
    · cases h; exact ⟨hl, hh, rfl⟩
    · split at h <;> cases h; simp [hh]
  | deliverHeader =>
    simp only [stepLive] at h
    split at h <;> try cases h
    split at h
    · cases h; exact ⟨hl, hh, rfl⟩
    · split at h <;> cases h; simp [hl]
  | backfill ok =>
    simp only [stepLive] at h
    split at h <;> try cases h
    split at h <;> cases h <;> exact ⟨hl, hh, rfl⟩
  | start => simp only [stepLive] at h; split at h <;> cases h; exact ⟨hl, hh, rfl⟩
  | recvEvent | recvHeader =>
    simp only [stepLive] at h
    split at h; · cases h
    split at h <;> split at h <;> cases h <;> exact ⟨hl, hh, rfl⟩
  | recvLogErr => simp only [stepLive, hl, or_true, if_true] at h; cases h
  | recvHeadErr => simp only [stepLive, hh, or_true, if_true] at h; cases h
  | resubscribe ok =>
    simp only [stepLive] at h
    split at h; · cases h
    split at h <;> cases h <;> simp [hl, hh]
  | dropLogSub | dropHeadSub | deinit => cases ha

/-- 初めのバックフィルの前にありうる位置。 -/
def Phase.unfilled : Phase → Bool
  | .backfilling true | .stopped | .panicked => true
  | _ => false

/-- 初めのバックフィルの後にありうる位置。 -/
def Phase.filled : Phase → Bool
  | .spawned | .running | .panicked => true
  | _ => false

/-- 初めのバックフィルの前：処理したログはなく、`highestBlock` はスナップショットのブロック。 -/
def Unfilled (B : Nat) (s : System) : Prop :=
  s.handled = [] ∧ s.layer.highestBlock = B ∧ s.phase.unfilled = true

/-- 初めのバックフィルの後：購読を作ったときの高さ `head₀` 以上のブロック `h₁` までのイベント `filled` をバックフィルした。 -/
def Filled (B head₀ : Nat) (s : System) (filled : List Log) : Prop :=
  ∃ h₁, head₀ ≤ h₁ ∧ h₁ ≤ s.head ∧
    filled = ch.logs (eventQuery c.rocketMinipoolManager c.rocketNodeManager) (B + 1) h₁ ∧ s.phase.filled = true

/-- 購読が一度も切れず、`Deinit` も呼ばれていない実行で成り立つこと。`head₀` は購読を作ったときの連鎖の高さ。 -/
structure Connected (B head₀ : Nat) (s : System) : Prop where
  logSub : s.logSub.isSome
  headSub : s.headSub.isSome
  idle : s.deinit = .idle
  eventsOpen : s.eventsClosed = false
  headersOpen : s.headersClosed = false
  head_ge : head₀ ≤ s.head
  /-- 処理したログ、`e.events`、購読に残るログを並べると、バックフィルしたイベントに、
  ブロック `head₀ + 1` からの連鎖のイベントが続く。 -/
  stream : ∃ filled, s.handled ++ s.events ++ s.logSub.getD [] =
      filled ++ ch.logs (eventQuery c.rocketMinipoolManager c.rocketNodeManager) (head₀ + 1) s.head ∧
    (filled = [] ∧ Unfilled B s ∨ Filled c ch B head₀ s filled)

theorem Connected.initial (B head₀ : Nat) (e : ExecutionLayer) :
    Connected c ch B head₀ (System.initial e B head₀) :=
  ⟨rfl, rfl, rfl, rfl, rfl, Nat.le_refl _,
    ⟨[], by simp [System.initial, ch.logs_empty _ (Nat.lt_succ_self head₀)], .inl ⟨rfl, rfl, rfl, rfl⟩⟩⟩

theorem Connected.step {B head₀ : Nat} {s s' : System} (h : Connected c ch B head₀ s) (hs : Step c rp ch s s')
    (hl : s'.logSub.isSome) (hh : s'.headSub.isSome) (hd : s'.deinit = s.deinit) : Connected c ch B head₀ s' := by
  obtain ⟨hl₀, hh₀, hi, heo, hho, hge, filled, heq, hst⟩ := h
  cases hs with
  | mine =>
    obtain ⟨ls, hls⟩ := Option.isSome_iff_exists.mp hl₀
    refine ⟨hl, hh, hi, heo, hho, Nat.le_succ_of_le hge, filled, ?_, ?_⟩
    · simp only [hls, Option.map_some', Option.getD_some] at heq ⊢
      rw [ch.logs_succ _ (by omega), ← List.append_assoc, ← List.append_assoc, ← heq]
    · exact hst.imp id fun ⟨h₁, h₀₁, h₁h, hf, hp⟩ => ⟨h₁, h₀₁, Nat.le_succ_of_le h₁h, hf, hp⟩
  | deliverLog hsub =>
    refine ⟨hl, hh, hi, heo, hho, hge, filled, ?_, hst⟩
    rw [hsub] at heq
    simpa using heq
  | deliverHeader => exact ⟨hl, hh, hi, heo, hho, hge, filled, heq, hst⟩
  | @backfill initial _ _ hp hb =>
    rcases hst with ⟨rfl, hnil, hB, hph⟩ | ⟨_, -, -, -, hph⟩
    · cases initial
      · rw [hp] at hph; cases hph
      refine ⟨hl, hh, hi, heo, hho, hge, _, ?_, .inr ⟨s.head, hge, Nat.le_refl _, rfl, rfl⟩⟩
      rw [hnil, List.nil_append] at heq
      rw [hnil, List.nil_append, backfillLogs_eq c ch hB, List.append_assoc, heq, List.nil_append]
    · rw [hp] at hph; cases hph
  | backfillStopped hp =>
    rcases hst with hst | ⟨_, -, -, -, hph⟩
    · exact ⟨hl, hh, hi, heo, hho, hge, filled, heq, .inl ⟨hst.1, hst.2.1, hst.2.2.1, rfl⟩⟩
    · rw [hp] at hph; cases hph
  | start hp =>
    rcases hst with ⟨-, -, -, hph⟩ | ⟨h₁, h₀₁, h₁h, hf, -⟩
    · rw [hp] at hph; cases hph
    · exact ⟨hl, hh, hi, heo, hho, hge, filled, heq, .inr ⟨h₁, h₀₁, h₁h, hf, rfl⟩⟩
  | recvEvent hp hev =>
    rcases hst with ⟨-, -, -, hph⟩ | hf
    · rw [hp] at hph; cases hph
    · refine ⟨hl, hh, hi, heo, hho, hge, filled, ?_, .inr hf⟩
      rw [hev] at heq
      simpa using heq
  | recvHeader hp =>
    rcases hst with ⟨-, -, -, hph⟩ | hf
    · rw [hp] at hph; cases hph
    · exact ⟨hl, hh, hi, heo, hho, hge, filled, heq, .inr hf⟩
  | panic =>
    refine ⟨hl, hh, hi, heo, hho, hge, filled, heq, ?_⟩
    exact hst.imp (fun ⟨hf, hn, hB, _⟩ => ⟨hf, hn, hB, rfl⟩) fun ⟨h₁, h₀₁, h₁h, hf, _⟩ => ⟨h₁, h₀₁, h₁h, hf, rfl⟩
  | dropLogSub | recvHeadErrShutdown | recvHeadErr => simp [System.checkExit] at hl
  | dropHeadSub | recvLogErrShutdown | recvLogErr => simp [System.checkExit] at hh
  | recvEventsClosed _ _ hc => rw [heo] at hc; cases hc
  | recvHeadersClosed _ _ hc => rw [hho] at hc; cases hc
  | resubscribe hp =>
    rcases hst with ⟨-, -, -, hph⟩ | ⟨_, -, -, -, hph⟩ <;> rw [hp] at hph <;> cases hph
  | deinitUnsubscribe | deinitNoCallback => rw [hi] at hd; cases hd
  | deinitCloseEvents hdi | deinitCloseHeaders hdi | deinitReturn hdi => rw [hi] at hdi; cases hdi

theorem Connected.run {B head₀ : Nat} {as : List Action} (has : as.all Action.keepsSubscriptions = true) :
    ∀ {s s' : System}, Connected c ch B head₀ s → run c rp ch s as = some s' → Connected c ch B head₀ s' := by
  induction as with
  | nil => intro s s' h hr; cases hr; exact h
  | cons a as ih =>
    intro s s' h hr
    simp only [List.all_cons, Bool.and_eq_true] at has
    obtain ⟨s₁, hs₁, hr⟩ := Option.bind_eq_some.mp hr
    obtain ⟨hl, hh, hd⟩ := step_keepsSubscriptions c rp ch hs₁ has.1 h.logSub h.headSub
    exact ih has.2 (h.step c rp ch (step_sound c rp ch hs₁) hl hh hd) hr

/-- 例の実行：初めのバックフィルの後、ブロック 101 から 103 が掘られ、購読のログがみな配られて処理される。 -/
def deliveredRun : List Action :=
  [.backfill .answered, .start, .mine, .mine, .mine, .deliverLog, .recvEvent, .deliverLog, .recvEvent]

/-- 購読が一度も切れず `Deinit` も呼ばれない実行では、ブロック `B` の後で `highestBlock` 以下のイベントはどれも処理済みか、通路か購読に残っている。 -/
theorem noGap_of_keepsSubscriptions {B head₀ : Nat} {nodes : List Address} (hB : B ≤ head₀) {as : List Action}
    (has : as.all Action.keepsSubscriptions = true) {s : System}
    (hs : run c rp ch (snapshotSystem rp B nodes head₀) as = some s) : NoGap c ch B s := by
  have hc := Connected.run c rp ch has (Connected.initial c ch B head₀ _) hs
  have hle := highestBlock_le_head c rp ch hB (reach_of_run c rp ch hs)
  intro b l hBb hb hl hq
  obtain ⟨filled, heq, ⟨-, -, hB', -⟩ | ⟨h₁, h₀₁, -, rfl, -⟩⟩ := hc.stream
  · omega
  · have hmem : l ∈ s.handled ++ s.events ++ s.logSub.getD [] := by
      rw [heq]
      by_cases hb₁ : b ≤ h₁
      · exact List.mem_append_left _ (ch.mem_logs hl (by omega) hb₁ hq)
      · exact List.mem_append_right _ (ch.mem_logs hl (by omega) (by omega) hq)
    simpa [or_assoc] using hmem

theorem noGap_of_keepsSubscriptions_sample :
    ∃ s, run sampleContracts sampleRocketPool (.ofHistory sampleContracts sampleHistory)
        (snapshotSystem sampleRocketPool 100 [] 100) deliveredRun = some s ∧
      deliveredRun.all Action.keepsSubscriptions = true ∧
      NoGap sampleContracts (.ofHistory sampleContracts sampleHistory) 100 s := by
  obtain ⟨s, hs, -⟩ := exists_run_eq sampleContracts sampleRocketPool (.ofHistory sampleContracts sampleHistory)
    (fun _ => True) (snapshotSystem sampleRocketPool 100 [] 100) deliveredRun (by decide)
  exact ⟨s, hs, by decide, noGap_of_keepsSubscriptions _ _ _ (Nat.le_refl 100) (by decide) hs⟩

/-- 購読が一度も切れず `Deinit` も呼ばれない実行では、通路も購読も空になった時点の索引は途切れない実行の索引と同じ。 -/
theorem quiescent_indices_of_keepsSubscriptions {B head₀ : Nat} {nodes : List Address} (hB : B ≤ head₀)
    {as : List Action} (has : as.all Action.keepsSubscriptions = true) {s : System}
    (hs : run c rp ch (snapshotSystem rp B nodes head₀) as = some s) (hp : s.phase = .running)
    (hev : s.events = []) (hsub : s.logSub = some []) :
    (uninterrupted c rp ch B nodes s.head).map ExecutionLayer.indices = some s.layer.indices := by
  have hc := Connected.run c rp ch has (Connected.initial c ch B head₀ _) hs
  obtain ⟨e, he, hi⟩ := indices_replay c rp ch (reach_of_run c rp ch hs)
  obtain ⟨filled, heq, ⟨-, -, -, hph⟩ | ⟨h₁, h₀₁, h₁h, rfl, -⟩⟩ := hc.stream
  · rw [hp] at hph; cases hph
  simp only [hev, hsub, List.append_nil, Option.getD_some] at heq
  rw [heq, ch.logs_append _ (by omega : B + 1 ≤ head₀ + 1) h₀₁, ch.logs_append _ (by omega : head₀ + 1 ≤ h₁ + 1) h₁h]
    at he
  obtain ⟨f, hf, hfi⟩ := handleEvents_dup c rp he
  rw [uninterrupted, ch.logs_append _ (by omega : B + 1 ≤ h₁ + 1) h₁h, ch.logs_append _ (by omega : B + 1 ≤ head₀ + 1) h₀₁,
    hf, Option.map_some', hfi, hi]

theorem quiescent_indices_of_keepsSubscriptions_sample :
    ∃ s, run sampleContracts sampleRocketPool (.ofHistory sampleContracts sampleHistory)
        (snapshotSystem sampleRocketPool 100 [] 100) deliveredRun = some s ∧
      deliveredRun.all Action.keepsSubscriptions = true ∧ s.phase = .running ∧ s.events = [] ∧ s.logSub = some [] ∧
      (uninterrupted sampleContracts sampleRocketPool (.ofHistory sampleContracts sampleHistory) 100 [] s.head).map
        ExecutionLayer.indices = some s.layer.indices := by
  obtain ⟨s, hs, hp, hev, hsub⟩ := exists_run_eq sampleContracts sampleRocketPool
    (.ofHistory sampleContracts sampleHistory) (fun s => s.phase = .running ∧ s.events = [] ∧ s.logSub = some [])
    (snapshotSystem sampleRocketPool 100 [] 100) deliveredRun (by decide)
  exact ⟨s, hs, by decide, hp, hev, hsub,
    quiescent_indices_of_keepsSubscriptions _ _ _ (Nat.le_refl 100) (by decide) hs hp hev hsub⟩

/-! ## 抜けるイベント -/

/-- 例の連鎖：ブロック 101 に二つの `NodeRegistered`。 -/
def splitBlockChain : Chain :=
  .ofHistory sampleContracts [(.nodeRegistered 0x22, 101), (.nodeRegistered 0x23, 101)]

/-- ブロック 101 の一つ目のログだけが処理された後、ログの購読が切れて再接続し、バックフィルする。 -/
def splitBlockRun : List Action :=
  [.backfill .answered, .start, .mine, .deliverLog, .recvEvent, .dropLogSub, .recvLogErr, .resubscribe true, .backfill .answered]

/-- `splitBlockRun` の後、ブロック 101 の二つ目のログは処理されず、どこにも残らない。 -/
theorem backfill_skips_undelivered :
    ∃ s, run sampleContracts sampleRocketPool splitBlockChain sampleSystem splitBlockRun = some s ∧
      s.phase = .running ∧ ¬ NoGap sampleContracts splitBlockChain 100 s := by
  obtain ⟨s, hs, hp, hB, hl⟩ := exists_run_eq sampleContracts sampleRocketPool splitBlockChain
    (fun s => s.phase = .running ∧ s.layer.highestBlock = 101 ∧
      ¬ ((ChainEvent.nodeRegistered 0x23).toLog sampleContracts 101 ∈ s.handled ∨
        (ChainEvent.nodeRegistered 0x23).toLog sampleContracts 101 ∈ s.events ∨
        (ChainEvent.nodeRegistered 0x23).toLog sampleContracts 101 ∈ s.logSub.getD []))
    sampleSystem splitBlockRun (by decide)
  exact ⟨s, hs, hp, fun h => hl (h 101 _ (by decide) (by rw [hB]; decide) (by decide) (by decide))⟩

/-! ## 古いログが後から処理される -/

/-- 例の連鎖：ブロック 101 に `NodeRegistered`、ブロック 102 でその節点が smoothing pool に入る。 -/
def staleEventChain : Chain :=
  .ofHistory sampleContracts [(.nodeRegistered 0x22, 101), (.smoothingPoolStateChanged 0x22 true, 102)]

/-- ブロック 101 の `NodeRegistered` が `e.events` に残ったまま再接続し、ブロック 102 までのバックフィルの後でそれを処理する。 -/
def staleEventRun : List Action :=
  [.backfill .answered, .start, .mine, .deliverLog, .dropLogSub, .recvLogErr, .mine, .resubscribe true, .backfill .answered,
    .recvEvent]

/-- `staleEventRun` の後、通路も購読も空なのに、節点の記録は作り直されて smoothing pool の状態を失い、途切れない実行の索引と違う。 -/
theorem reconnect_replays_stale_event :
    ∃ s, run sampleContracts sampleRocketPool staleEventChain sampleSystem staleEventRun = some s ∧
      s.events = [] ∧ s.logSub = some [] ∧
      (uninterrupted sampleContracts sampleRocketPool staleEventChain 100 [] s.head).map ExecutionLayer.indices ≠
        some s.layer.indices := by
  obtain ⟨s, hs, hev, hsub, hne⟩ := exists_run_eq sampleContracts sampleRocketPool staleEventChain
    (fun s => s.events = [] ∧ s.logSub = some [] ∧
      (uninterrupted sampleContracts sampleRocketPool staleEventChain 100 [] s.head).map (·.nodeIndex 0x22) ≠
        some (s.layer.nodeIndex 0x22))
    sampleSystem staleEventRun (by decide)
  refine ⟨s, hs, hev, hsub, fun h => hne ?_⟩
  simpa [Option.map_map, Function.comp_def, ExecutionLayer.indices] using
    congrArg (Option.map fun i => i.1 0x22) h

end RescueProxy
