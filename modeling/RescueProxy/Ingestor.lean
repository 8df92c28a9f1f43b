import RescueProxy.Chain

/-!
# 受け手の繰り返しと、その環境

`ecEventsConnect` が起こす go 文の `select` の繰り返し、`handleSubscriptionError` による再接続、
`Deinit` を、連鎖と二つの購読と二つの通路を含む一つの状態の遷移として書く。
遷移 `step` は行為のラベルごとに決まっていて、`none` はその行為がその状態でできないことを表す。
非決定性（`select` の選び方、連鎖の進み方、購読の配り方と切れ方、`Deinit` との交互）はラベルの選び方にある。
-/

namespace RescueProxy

/-- 受け手の go 文がどこにいるか。 -/
inductive Phase where
  /-- 購読を作った後、バックフィルの前。`initial` は `Init` の中のもの。 -/
  | backfilling (initial : Bool)
  /-- go 文の後、`wg.Add(1)` の前。 -/
  | spawned
  | running
  /-- `handleSubscriptionError` の中、再購読の前。 -/
  | reconnecting
  | exited
  /-- `Init` のバックフィルが失敗し、go 文まで進まなかった。 -/
  | stopped
  | panicked
  deriving DecidableEq, Repr

/-- `Deinit` がどこまで進んだか。 -/
inductive DeinitPc where
  | idle
  | unsubscribed
  | eventsClosed
  | headersClosed
  | returned
  deriving DecidableEq, Repr

structure System where
  layer : ExecutionLayer
  /-- 連鎖の高さ。 -/
  head : Nat
  events : List Log
  eventsClosed : Bool
  newHeaders : List Header
  headersClosed : Bool
  /-- 今のログの購読。生きていれば、まだ `e.events` に送っていないログ。 -/
  logSub : Option (List Log)
  headSub : Option (List Header)
  phase : Phase
  noMoreEvents : Bool
  noMoreHeaders : Bool
  wg : Nat
  shutdown : Bool
  /-- `ethclientShutdownCb` が置かれたか。 -/
  shutdownCb : Bool
  deinit : DeinitPc
  /-- `handleEvent` に渡したログ（証明のための記録）。 -/
  handled : List Log
  /-- `close(e.events)` の時点の `e.events` と、それまでに処理したログの数（証明のための記録）。 -/
  closedBuffer : List Log
  closedMark : Nat

inductive Action where
  | mine
  | deliverLog
  | deliverHeader
  | dropLogSub
  | dropHeadSub
  | backfill (fault : QueryFault)
  | start
  | recvEvent
  | recvHeader
  | recvLogErr
  | recvHeadErr
  | resubscribe (ok : Bool)
  | deinit
  deriving DecidableEq, Repr

/-- `Init` が購読を作った直後。索引 `e` はブロック `B` のスナップショット、連鎖の高さは `head`。 -/
def System.initial (e : ExecutionLayer) (B head : Nat) : System where
  layer := { e with highestBlock := B }
  head := head
  events := []
  eventsClosed := false
  newHeaders := []
  headersClosed := false
  logSub := some []
  headSub := some []
  phase := .backfilling true
  noMoreEvents := false
  noMoreHeaders := false
  wg := 0
  shutdown := false
  shutdownCb := false
  deinit := .idle
  handled := []
  closedBuffer := []
  closedMark := 0

/-- `if noMoreEvents && noMoreHeaders { break }` と、その後の `wg.Done()`。 -/
def System.checkExit (s : System) : System :=
  { s with
    phase := if s.noMoreEvents && s.noMoreHeaders then .exited else s.phase
    wg := if s.noMoreEvents && s.noMoreHeaders then s.wg - 1 else s.wg }

theorem System.checkExit_of_exit {s : System} (h : (s.noMoreEvents && s.noMoreHeaders) = true) :
    s.checkExit = { s with phase := .exited, wg := s.wg - 1 } := by
  simp only [System.checkExit, h, if_true]

theorem System.checkExit_of_stay {s : System} (h : (s.noMoreEvents && s.noMoreHeaders) = false) : s.checkExit = s := by
  simp only [System.checkExit, h, Bool.false_eq_true, if_false]

variable (c : Contracts) (rp : RocketPool) (ch : Chain)

/-- 生きているプロセスの一歩。 -/
def stepLive (s : System) : Action → Option System
  | .mine =>
    let b := s.head + 1
    some { s with
      head := b
      logSub := s.logSub.map (· ++ (ch.logsAt b).filter (eventQuery c.rocketMinipoolManager c.rocketNodeManager).matches)
      headSub := s.headSub.map (· ++ [⟨b⟩]) }
  | .deliverLog =>
    match s.logSub with
    | some (l :: ls) =>
      if s.eventsClosed then some { s with phase := .panicked }
      else if s.events.length < 32 then some { s with events := s.events ++ [l], logSub := some ls }
      else none
    | _ => none
  | .deliverHeader =>
    match s.headSub with
    | some (h :: hs) =>
      if s.headersClosed then some { s with phase := .panicked }
      else if s.newHeaders.length < 32 then some { s with newHeaders := s.newHeaders ++ [h], headSub := some hs }
      else none
    | _ => none
  | .dropLogSub => s.logSub.map fun _ => { s with logSub := none }
  | .dropHeadSub => s.headSub.map fun _ => { s with headSub := none }
  | .backfill fault =>
    match s.phase with
    | .backfilling initial =>
      match backfillEvents c rp (ch.client s.head fault) s.layer with
      | .ok (some e) =>
        some { s with
          layer := e
          handled := s.handled ++ backfillLogs c ch s.layer s.head
          phase := if initial then .spawned else .running
          shutdownCb := true }
      | .ok none => some { s with phase := .panicked }
      | .error _ => some { s with phase := if initial then .stopped else .panicked }
    | _ => none
  | .start => if s.phase = .spawned then some { s with phase := .running, wg := s.wg + 1 } else none
  | .recvEvent =>
    if s.phase ≠ .running then none else
    match s.events with
    | l :: ls =>
      match handleEvent c rp l s.layer with
      | some e => some { s with layer := e, events := ls, noMoreEvents := false, handled := s.handled ++ [l] }
      | none => some { s with phase := .panicked }
    | [] => if s.eventsClosed then some { s with noMoreEvents := true }.checkExit else none
  | .recvHeader =>
    if s.phase ≠ .running then none else
    match s.newHeaders with
    | h :: hs =>
      if (h.number : Int) ≤ s.layer.highestBlock then some { s with newHeaders := hs, noMoreHeaders := false }
      else some { s with newHeaders := hs, noMoreHeaders := false, layer := { s.layer with highestBlock := h.number } }
    | [] => if s.headersClosed then some { s with noMoreHeaders := true }.checkExit else none
  | .recvLogErr =>
    if s.phase ≠ .running ∨ s.logSub.isSome then none
    else if s.shutdown then some { s with headSub := none }.checkExit
    else some { s with headSub := none, phase := .reconnecting }
  | .recvHeadErr =>
    if s.phase ≠ .running ∨ s.headSub.isSome then none
    else if s.shutdown then some { s with logSub := none }.checkExit
    else some { s with logSub := none, phase := .reconnecting }
  | .resubscribe ok =>
    if s.phase ≠ .reconnecting then none
    else if ok then some { s with logSub := some [], headSub := some [], phase := .backfilling false }
    else some { s with phase := .panicked }
  | .deinit =>
    match s.deinit with
    | .idle =>
      if s.shutdownCb then some { s with shutdown := true, logSub := none, headSub := none, deinit := .unsubscribed }
      else some { s with deinit := .returned }
    | .unsubscribed =>
      some { s with
        eventsClosed := true
        closedBuffer := s.events
        closedMark := s.handled.length
        deinit := .eventsClosed }
    | .eventsClosed => some { s with headersClosed := true, deinit := .headersClosed }
    | .headersClosed => if s.wg = 0 then some { s with deinit := .returned } else none
    | .returned => none

/-- 止まったプロセスは動かない。 -/
def step (s : System) (a : Action) : Option System :=
  if s.phase = .panicked then none else stepLive c rp ch s a

/-! ## 一歩でできること -/

/-- 一歩の遷移の形。`step` の返す遷移はみなこれに入る（`step_sound`）。パニックはどの状態からも起こりうるとする。 -/
inductive Step : System → System → Prop
  | mine (s : System) : Step s { s with
      head := s.head + 1
      logSub := s.logSub.map
        (· ++ (ch.logsAt (s.head + 1)).filter (eventQuery c.rocketMinipoolManager c.rocketNodeManager).matches)
      headSub := s.headSub.map (· ++ [⟨s.head + 1⟩]) }
  | deliverLog {s : System} {l : Log} {ls : List Log} : s.logSub = some (l :: ls) → s.eventsClosed = false →
      Step s { s with events := s.events ++ [l], logSub := some ls }
  | deliverHeader {s : System} {h : Header} {hs : List Header} : s.headSub = some (h :: hs) →
      s.headersClosed = false → Step s { s with newHeaders := s.newHeaders ++ [h], headSub := some hs }
  | dropLogSub (s : System) : Step s { s with logSub := none }
  | dropHeadSub (s : System) : Step s { s with headSub := none }
  | backfill {s : System} {initial : Bool} {fault : QueryFault} {e : ExecutionLayer} : s.phase = .backfilling initial →
      backfillEvents c rp (ch.client s.head fault) s.layer = .ok (some e) →
      Step s { s with
        layer := e
        handled := s.handled ++ backfillLogs c ch s.layer s.head
        phase := if initial then .spawned else .running
        shutdownCb := true }
  | backfillStopped {s : System} : s.phase = .backfilling true → Step s { s with phase := .stopped }
  | start {s : System} : s.phase = .spawned → Step s { s with phase := .running, wg := s.wg + 1 }
  | recvEvent {s : System} {l : Log} {ls : List Log} {e : ExecutionLayer} : s.phase = .running →
      s.events = l :: ls → handleEvent c rp l s.layer = some e →
      Step s { s with layer := e, events := ls, noMoreEvents := false, handled := s.handled ++ [l] }
  | recvEventsClosed {s : System} : s.phase = .running → s.events = [] → s.eventsClosed = true →
      Step s { s with noMoreEvents := true }.checkExit
  | recvHeader {s : System} {h : Header} {hs : List Header} : s.phase = .running → s.newHeaders = h :: hs →
      Step s { s with
        newHeaders := hs
        noMoreHeaders := false
        layer := { s.layer with highestBlock := max s.layer.highestBlock h.number } }
  | recvHeadersClosed {s : System} : s.phase = .running → s.newHeaders = [] → s.headersClosed = true →
      Step s { s with noMoreHeaders := true }.checkExit
  | recvLogErrShutdown {s : System} : s.phase = .running → s.logSub = none → s.shutdown = true →
      Step s { s with headSub := none }.checkExit
  | recvLogErr {s : System} : s.phase = .running → s.logSub = none → s.shutdown = false →
      Step s { s with headSub := none, phase := .reconnecting }
  | recvHeadErrShutdown {s : System} : s.phase = .running → s.headSub = none → s.shutdown = true →
      Step s { s with logSub := none }.checkExit
  | recvHeadErr {s : System} : s.phase = .running → s.headSub = none → s.shutdown = false →
      Step s { s with logSub := none, phase := .reconnecting }
  | resubscribe {s : System} : s.phase = .reconnecting →
      Step s { s with logSub := some [], headSub := some [], phase := .backfilling false }
  | deinitUnsubscribe {s : System} : s.deinit = .idle → s.shutdownCb = true →
      Step s { s with shutdown := true, logSub := none, headSub := none, deinit := .unsubscribed }
  | deinitNoCallback {s : System} : s.deinit = .idle → s.shutdownCb = false → Step s { s with deinit := .returned }
  | deinitCloseEvents {s : System} : s.deinit = .unsubscribed →
      Step s { s with
        eventsClosed := true
        closedBuffer := s.events
        closedMark := s.handled.length
        deinit := .eventsClosed }
  | deinitCloseHeaders {s : System} : s.deinit = .eventsClosed →
      Step s { s with headersClosed := true, deinit := .headersClosed }
  | deinitReturn {s : System} : s.deinit = .headersClosed → s.wg = 0 → Step s { s with deinit := .returned }
  | panic (s : System) : Step s { s with phase := .panicked }

theorem step_sound {s s' : System} {a : Action} (h : step c rp ch s a = some s') : Step c rp ch s s' := by
  unfold step at h
  split at h
  · cases h
  cases a with
  | mine => cases h; exact .mine s
  | deliverLog =>
    simp only [stepLive] at h
    split at h <;> try cases h
    split at h
    · cases h; exact .panic s
    · split at h <;> cases h; exact .deliverLog ‹_› (by simpa using ‹¬s.eventsClosed = true›)
  | deliverHeader =>
    simp only [stepLive] at h
    split at h <;> try cases h
    split at h
    · cases h; exact .panic s
    · split at h <;> cases h; exact .deliverHeader ‹_› (by simpa using ‹¬s.headersClosed = true›)
  | dropLogSub => simp only [stepLive, Option.map_eq_some'] at h; obtain ⟨_, -, rfl⟩ := h; exact .dropLogSub s
  | dropHeadSub => simp only [stepLive, Option.map_eq_some'] at h; obtain ⟨_, -, rfl⟩ := h; exact .dropHeadSub s
  | backfill fault =>
    simp only [stepLive] at h
    split at h <;> try cases h
    rename_i initial hp
    split at h
    · cases h; exact .backfill hp ‹_›
    · cases h; exact .panic s
    · cases h
      cases initial
      · exact .panic s
      · exact .backfillStopped hp
  | start => simp only [stepLive] at h; split at h <;> cases h; exact .start ‹_›
  | recvEvent =>
    simp only [stepLive] at h
    split at h; · cases h
    have hp : s.phase = .running := by simpa using ‹¬s.phase ≠ .running›
    split at h
    · split at h <;> cases h
      · exact .recvEvent hp ‹_› ‹_›
      · exact .panic s
    · split at h <;> cases h; exact .recvEventsClosed hp ‹_› ‹_›
  | recvHeader =>
    simp only [stepLive] at h
    split at h; · cases h
    have hp : s.phase = .running := by simpa using ‹¬s.phase ≠ .running›
    split at h
    · rename_i hd hs hh
      have hr : Step c rp ch s _ := .recvHeader hp hh
      split at h <;> cases h
      · rwa [Int.max_eq_left ‹_›] at hr
      · rwa [Int.max_eq_right (Int.le_of_lt (Int.not_le.mp ‹_›))] at hr
    · split at h <;> cases h; exact .recvHeadersClosed hp ‹_› ‹_›
  | recvLogErr =>
    simp only [stepLive] at h
    split at h; · cases h
    rename_i hc
    simp only [not_or, not_not, Option.not_isSome_iff_eq_none] at hc
    split at h <;> cases h
    · exact .recvLogErrShutdown hc.1 hc.2 ‹_›
    · exact .recvLogErr hc.1 hc.2 (by simpa using ‹¬s.shutdown = true›)
  | recvHeadErr =>
    simp only [stepLive] at h
    split at h; · cases h
    rename_i hc
    simp only [not_or, not_not, Option.not_isSome_iff_eq_none] at hc
    split at h <;> cases h
    · exact .recvHeadErrShutdown hc.1 hc.2 ‹_›
    · exact .recvHeadErr hc.1 hc.2 (by simpa using ‹¬s.shutdown = true›)
  | resubscribe ok =>
    simp only [stepLive] at h
    split at h; · cases h
    split at h <;> cases h
    · exact .resubscribe (by simpa using ‹¬s.phase ≠ .reconnecting›)
    · exact .panic s
  | deinit =>
    simp only [stepLive] at h
    split at h <;> try cases h
    · split at h <;> cases h
      · exact .deinitUnsubscribe ‹_› ‹_›
      · exact .deinitNoCallback ‹_› (by simpa using ‹¬s.shutdownCb = true›)
    · exact .deinitCloseEvents ‹_›
    · exact .deinitCloseHeaders ‹_›
    · split at h <;> cases h; exact .deinitReturn ‹_› ‹_›

inductive Reach (s₀ : System) : System → Prop
  | refl : Reach s₀ s₀
  | tail {s s' : System} (a : Action) : Reach s₀ s → step c rp ch s a = some s' → Reach s₀ s'

/-- 行為の並びを順に行う。 -/
def run : System → List Action → Option System
  | s, [] => some s
  | s, a :: as => (step c rp ch s a).bind (run · as)

theorem Reach.trans {s₀ s₁ s₂ : System} (h₁ : Reach c rp ch s₀ s₁) (h₂ : Reach c rp ch s₁ s₂) :
    Reach c rp ch s₀ s₂ := by
  induction h₂ with
  | refl => exact h₁
  | tail a _ hs ih => exact .tail a ih hs

theorem reach_of_run {s s' : System} {as : List Action} (h : run c rp ch s as = some s') : Reach c rp ch s s' := by
  induction as generalizing s with
  | nil => cases h; exact .refl
  | cons a as ih =>
    simp only [run] at h
    cases hs : step c rp ch s a with
    | none => simp [hs] at h
    | some s₁ => rw [hs, Option.some_bind] at h; exact (Reach.tail a .refl hs).trans c rp ch (ih h)

theorem exists_run_eq (P : System → Prop) [DecidablePred P] (s₀ : System) (as : List Action)
    (h : (run c rp ch s₀ as).map (fun s => decide (P s)) = some true) : ∃ s, run c rp ch s₀ as = some s ∧ P s := by
  obtain ⟨s, hs, hp⟩ := Option.map_eq_some'.mp h
  exact ⟨s, hs, of_decide_eq_true hp⟩

theorem exists_step_of_run (P : System → System → Prop) [∀ s s', Decidable (P s s')] (s₀ : System)
    (as : List Action) (a : Action)
    (h : (run c rp ch s₀ as).bind (fun s => (step c rp ch s a).map fun s' => decide (P s s')) = some true) :
    ∃ s s', Reach c rp ch s₀ s ∧ step c rp ch s a = some s' ∧ P s s' := by
  obtain ⟨s, hs, h⟩ := Option.bind_eq_some.mp h
  obtain ⟨s', hs', hp⟩ := Option.map_eq_some'.mp h
  exact ⟨s, s', reach_of_run c rp ch hs, hs', of_decide_eq_true hp⟩

theorem Step.head_le {s s' : System} (h : Step c rp ch s s') : s.head ≤ s'.head := by
  cases h <;> simp [System.checkExit]

theorem Reach.induct_step {P : System → Prop} {s₀ s : System} (h : Reach c rp ch s₀ s) (h₀ : P s₀)
    (hs : ∀ s s', P s → Step c rp ch s s' → P s') : P s := by
  induction h with
  | refl => exact h₀
  | tail _ _ hst ih => exact hs _ _ ih (step_sound c rp ch hst)

end RescueProxy
