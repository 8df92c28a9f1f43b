import RescueProxy.Ingestor.HighestBlock

/-!
# `Deinit` と受け手の終わり

`wg.Add(1)` は受け手の go 文の中にあるので、`Deinit` の `wg.Wait()` が待つのは、受け手が繰り返しに入った後だけである。
ここでは、どの実行でも `Deinit` が戻るとき受け手は繰り返しの中にいないこと、受け手が繰り返しを抜けたなら
`close(e.events)` の時点で通路にあったログはみな処理されていることを示す。
一方、受け手が最初の文を実行する前に `Deinit` が呼ばれると、`Deinit` は繰り返しを待たずに戻り、
通路のログは処理されないまま残る。
-/

namespace RescueProxy

/-- 受け手が `wg.Add(1)` の後、`wg.Done()` の前にいる。 -/
def Phase.inLoop : Phase → Bool
  | .running | .reconnecting | .backfilling false => true
  | _ => false

variable (c : Contracts) (rp : RocketPool) (ch : Chain)

theorem step_deinit_returned {s s' : System} (h : step c rp ch s .deinit = some s') (hr : s'.deinit = .returned) :
    s' = { s with deinit := .returned } ∧ s.phase ≠ .panicked ∧
      (s.deinit = .idle ∧ s.shutdownCb = false ∨ s.deinit = .headersClosed ∧ s.wg = 0) := by
  unfold step at h
  split at h
  · cases h
  rename_i hp
  simp only [stepLive] at h
  split at h <;> try (cases h <;> cases hr)
  · split at h <;> cases h
    · cases hr
    · exact ⟨rfl, hp, .inl ⟨‹_›, by simpa using ‹¬s.shutdownCb = true›⟩⟩
  · split at h <;> cases h
    exact ⟨rfl, hp, .inr ⟨‹_›, ‹_›⟩⟩

/-! ## 不変条件 -/

/-- 実行のどの状態でも成り立つこと。 -/
structure ShutdownInv (s : System) : Prop where
  /-- `wg` は受け手が繰り返しの中にいるときだけ 1。 -/
  wg : s.phase ≠ .panicked → s.wg = if s.phase.inLoop then 1 else 0
  /-- 受け手の go 文が起こされた後は、`ethclientShutdownCb` が置かれている。 -/
  callback : s.phase = .spawned ∨ s.phase.inLoop = true ∨ s.phase = .exited → s.shutdownCb = true
  noMoreEvents : s.noMoreEvents = true → s.events = [] ∧ s.eventsClosed = true
  exited : s.phase = .exited → s.noMoreEvents = true
  mark_le : s.closedMark ≤ s.handled.length
  /-- `close(e.events)` の時点で通路にあったログは、その後に処理されたか、まだ通路にある。 -/
  closed : s.eventsClosed = true → ∀ l ∈ s.closedBuffer, l ∈ s.handled.drop s.closedMark ∨ l ∈ s.events

theorem ShutdownInv.initial (e : ExecutionLayer) (B head : Nat) : ShutdownInv (System.initial e B head) where
  wg _ := rfl
  callback h := by simp [System.initial, Phase.inLoop] at h
  noMoreEvents h := nomatch h
  exited h := nomatch h
  mark_le := Nat.zero_le _
  closed h := nomatch h

theorem mem_drop_append {l : Log} {xs ys : List Log} {m : Nat} (hm : m ≤ xs.length) (h : l ∈ xs.drop m ∨ l ∈ ys) :
    l ∈ (xs ++ ys).drop m := by
  rw [List.drop_append_of_le_length hm]
  exact List.mem_append.mpr h

section
variable {s : System} (h : ShutdownInv s)
include h

theorem ShutdownInv.wg_of_running (hp : s.phase = .running) : s.wg = 1 := by
  simpa [hp, Phase.inLoop] using h.wg (by rw [hp]; nofun)

theorem ShutdownInv.closed_append (ys : List Log) :
    s.eventsClosed = true → ∀ l ∈ s.closedBuffer, l ∈ (s.handled ++ ys).drop s.closedMark ∨ l ∈ s.events :=
  fun hc l hl => (h.closed hc l hl).imp_left fun hl => mem_drop_append h.mark_le (.inl hl)

theorem ShutdownInv.closedBuffer_handled (he : s.phase = .exited) :
    ∀ l ∈ s.closedBuffer, l ∈ s.handled.drop s.closedMark := by
  obtain ⟨hev, hc⟩ := h.noMoreEvents (h.exited he)
  intro l hl
  simpa [hev] using h.closed hc l hl

theorem ShutdownInv.checkExit (hp : s.phase = .running) : ShutdownInv s.checkExit := by
  cases hx : s.noMoreEvents && s.noMoreHeaders
  · rwa [System.checkExit_of_stay hx]
  · rw [System.checkExit_of_exit hx]
    exact ⟨fun _ => by simp [h.wg_of_running hp, Phase.inLoop], fun _ => h.callback (.inr (.inl (by rw [hp]; rfl))),
      h.noMoreEvents, fun _ => (Bool.and_eq_true _ _).mp hx |>.1, h.mark_le, h.closed⟩

end

theorem ShutdownInv.step {s s' : System} (h : ShutdownInv s) (hs : Step c rp ch s s') : ShutdownInv s' := by
  have hrun : s.phase = .running → s.shutdownCb = true := fun hp => h.callback (.inr (.inl (by rw [hp]; rfl)))
  cases hs with
  | @deliverLog l _ _ hc =>
    exact ⟨h.wg, h.callback, fun hn => absurd (h.noMoreEvents hn).2 (by simp [hc]), h.exited, h.mark_le,
      fun hc' => absurd hc' (by simp [hc])⟩
  | @backfill initial _ _ hp _ =>
    have hw := h.wg (by rw [hp]; nofun)
    rw [hp] at hw
    exact ⟨by cases initial <;> simpa [Phase.inLoop] using hw, fun _ => rfl, h.noMoreEvents,
      fun he => (by cases initial <;> cases he), Nat.le_trans h.mark_le (by simp), h.closed_append _⟩
  | backfillStopped hp =>
    exact ⟨fun _ => by simpa [hp, Phase.inLoop] using h.wg (by rw [hp]; nofun),
      fun hp' => (by simp [Phase.inLoop] at hp'), h.noMoreEvents, nofun, h.mark_le, h.closed⟩
  | start hp =>
    have hw := h.wg (by rw [hp]; nofun)
    rw [hp] at hw
    exact ⟨fun _ => by simp [Phase.inLoop, hw], fun _ => h.callback (.inl hp), h.noMoreEvents, nofun, h.mark_le, h.closed⟩
  | @recvEvent l ls _ hp hev _ =>
    refine ⟨h.wg, h.callback, nofun, fun he => (by simp [hp] at he), Nat.le_trans h.mark_le (by simp),
      fun hc l' hl' => ?_⟩
    rcases h.closed hc l' hl' with hl' | hl'
    · exact .inl (mem_drop_append h.mark_le (.inl hl'))
    · rw [hev] at hl'
      rcases List.mem_cons.mp hl' with rfl | hl'
      · exact .inl (mem_drop_append h.mark_le (.inr (List.mem_singleton_self _)))
      · exact .inr hl'
  | recvEventsClosed hp hev hc =>
    exact ShutdownInv.checkExit ⟨h.wg, h.callback, fun _ => ⟨hev, hc⟩, fun he => (by simp [hp] at he), h.mark_le,
      h.closed⟩ hp
  | recvHeadersClosed hp | recvLogErrShutdown hp | recvHeadErrShutdown hp =>
    exact ShutdownInv.checkExit ⟨h.wg, h.callback, h.noMoreEvents, h.exited, h.mark_le, h.closed⟩ hp
  | recvLogErr hp | recvHeadErr hp =>
    exact ⟨fun _ => by simpa [hp, Phase.inLoop] using h.wg (by rw [hp]; nofun), fun _ => hrun hp, h.noMoreEvents,
      nofun, h.mark_le, h.closed⟩
  | resubscribe hp =>
    exact ⟨fun _ => by simpa [hp, Phase.inLoop] using h.wg (by rw [hp]; nofun),
      fun _ => h.callback (.inr (.inl (by rw [hp]; rfl))), h.noMoreEvents, nofun, h.mark_le, h.closed⟩
  | deinitCloseEvents =>
    exact ⟨h.wg, h.callback, fun hn => ⟨(h.noMoreEvents hn).1, rfl⟩, h.exited, Nat.le_refl _,
      fun _ l hl => .inr hl⟩
  | panic => exact ⟨nofun, fun hp => (by simp [Phase.inLoop] at hp), h.noMoreEvents, nofun, h.mark_le, h.closed⟩
  | _ => exact ⟨h.wg, h.callback, h.noMoreEvents, h.exited, h.mark_le, h.closed⟩

/-! ## `Deinit` が戻るとき -/

/-- どの実行でも、`Deinit` が戻るとき受け手は繰り返しの中になく、抜けていれば閉じたときの通路のログはみな処理されている。 -/
theorem deinit_returns_outside_loop {B head : Nat} {nodes : List Address} {s s' : System}
    (hs : Reach c rp ch (snapshotSystem rp B nodes head) s) (hd : step c rp ch s .deinit = some s')
    (hr : s'.deinit = .returned) :
    s'.phase.inLoop = false ∧ (s'.phase = .exited → ∀ l ∈ s'.closedBuffer, l ∈ s'.handled.drop s'.closedMark) := by
  have hi := hs.induct_step c rp ch (ShutdownInv.initial _ B head) fun _ _ h hst => h.step c rp ch hst
  obtain ⟨rfl, hp, hcase⟩ := step_deinit_returned c rp ch hd hr
  refine ⟨?_, fun he l hl => ?_⟩
  · show s.phase.inLoop = false
    cases hl : s.phase.inLoop
    · rfl
    · rcases hcase with ⟨-, hcb⟩ | ⟨-, hw⟩
      · simp [hi.callback (.inr (.inl hl))] at hcb
      · simp [hi.wg hp, hl] at hw
  · exact hi.closedBuffer_handled he l hl

theorem deinit_returns_outside_loop_sample :
    ∃ s s', Reach sampleContracts sampleRocketPool headerRaceChain sampleSystem s ∧
      step sampleContracts sampleRocketPool headerRaceChain s .deinit = some s' ∧ s'.deinit = .returned ∧
      s'.phase.inLoop = false ∧ (s'.phase = .exited → ∀ l ∈ s'.closedBuffer, l ∈ s'.handled.drop s'.closedMark) := by
  obtain ⟨s, s', hr, hs, hret⟩ := exists_step_of_run sampleContracts sampleRocketPool headerRaceChain
    (fun _ s' => s'.deinit = .returned) sampleSystem
    [.backfill .answered, .start, .mine, .deliverLog, .deinit, .deinit, .deinit, .recvEvent, .recvEvent, .recvHeader]
    .deinit (by decide)
  exact ⟨s, s', hr, hs, hret, deinit_returns_outside_loop _ _ _ hr hs hret⟩

/-- 受け手が `wg.Add(1)` の前なら、`Deinit` は繰り返しを待たずに戻り、通路のログは処理されない。 -/
theorem deinit_returns_before_start :
    ¬ ∀ s s', Reach sampleContracts sampleRocketPool headerRaceChain sampleSystem s →
      step sampleContracts sampleRocketPool headerRaceChain s .deinit = some s' → s'.deinit = .returned →
      s'.phase = .exited ∧ ∀ l ∈ s'.closedBuffer, l ∈ s'.handled.drop s'.closedMark := by
  intro h
  obtain ⟨s, s', hr, hs, hret, hsp, -⟩ := exists_step_of_run sampleContracts sampleRocketPool headerRaceChain
    (fun _ s' => s'.deinit = .returned ∧ s'.phase = .spawned ∧ s'.closedBuffer.length = 1 ∧ s'.handled = [])
    sampleSystem [.backfill .answered, .mine, .deliverLog, .deinit, .deinit, .deinit] .deinit (by decide)
  exact absurd (h s s' hr hs hret).1 (by rw [hsp]; nofun)

end RescueProxy
