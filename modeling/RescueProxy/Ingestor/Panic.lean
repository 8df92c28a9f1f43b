import RescueProxy.Ingestor.HighestBlock

/-!
# パニックの出どころ

プロセスがパニックする一歩は五つに限られる（`step_panicked`）：閉じた通路への配送、読めないログの処理
（受け手の `handleEvent` とバックフィル）、再接続のバックフィルの問い合わせ（`HeaderByNumber` か `FilterLogs`）の失敗、
再購読の失敗。
契約の出すログはどれも読めるので、連鎖のログだけが届く実行では、残るのは通路の閉鎖と再接続の失敗である。

`Deinit` が再接続の外で始まれば、その後はどの一歩もパニックせず、購読は切れたままである
（`deinit_outside_reconnect_never_panics`）。再接続の中で始まったときのことは `Liveness` で扱う。
-/

namespace RescueProxy

variable (c : Contracts) (rp : RocketPool) (ch : Chain)

theorem backfillEvents_client_none {head : Nat} {fault : QueryFault} {e : ExecutionLayer}
    (h : backfillEvents c rp (ch.client head fault) e = .ok none) : ∃ l ∈ backfillLogs c ch e head, decode c rp l = none := by
  rcases backfillEvents_client_ok c rp ch h with ⟨-, he⟩ | ⟨-, he⟩
  · cases he
  · exact handleEvents_eq_none c rp (Option.map_eq_none'.mp he.symm)

theorem backfillEvents_client_error {head : Nat} {fault : QueryFault} {e : ExecutionLayer} {err : Error}
    (h : backfillEvents c rp (ch.client head fault) e = .error err) : fault ≠ .answered := by
  rintro rfl
  obtain ⟨r, hr⟩ := backfillEvents_client_answered c rp ch head e
  rw [hr] at h
  cases h

/-! ## パニックする一歩 -/

theorem System.checkExit_phase {s : System} (h : s.checkExit.phase = .panicked) : s.phase = .panicked := by
  unfold System.checkExit at h
  split at h
  · cases h
  · exact h

theorem step_panicked {s s' : System} {a : Action} (h : step c rp ch s a = some s') (hp : s'.phase = .panicked) :
    (a = .deliverLog ∧ s.eventsClosed = true) ∨ (a = .deliverHeader ∧ s.headersClosed = true) ∨
    (a = .recvEvent ∧ ∃ l ∈ s.events, decode c rp l = none) ∨
    (∃ f, a = .backfill f ∧ ∃ l ∈ backfillLogs c ch s.layer s.head, decode c rp l = none) ∨
    (∃ f, a = .backfill f ∧ f ≠ .answered ∧ s.phase = .backfilling false) ∨ a = .resubscribe false := by
  unfold step at h
  split at h
  · cases h
  rename_i hs
  cases a with
  | deliverLog =>
    simp only [stepLive] at h
    split at h <;> try cases h
    split at h
    · exact .inl ⟨rfl, ‹_›⟩
    · split at h <;> cases h; exact absurd hp hs
  | deliverHeader =>
    simp only [stepLive] at h
    split at h <;> try cases h
    split at h
    · exact .inr (.inl ⟨rfl, ‹_›⟩)
    · split at h <;> cases h; exact absurd hp hs
  | backfill fault =>
    simp only [stepLive] at h
    split at h <;> try cases h
    rename_i initial hph
    split at h <;> cases h
    · cases initial <;> cases hp
    · exact .inr (.inr (.inr (.inl ⟨fault, rfl, backfillEvents_client_none c rp ch ‹_›⟩)))
    · rename_i hb
      cases initial
      · exact .inr (.inr (.inr (.inr (.inl ⟨fault, rfl, backfillEvents_client_error c rp ch hb, hph⟩))))
      · cases hp
  | recvEvent =>
    simp only [stepLive] at h
    split at h; · cases h
    split at h
    · rename_i l ls hev
      split at h <;> cases h
      · exact absurd hp hs
      · rename_i hn
        rw [handleEvent_eq, Option.map_eq_none'] at hn
        exact .inr (.inr (.inl ⟨rfl, l, by simp [hev], hn⟩))
    · split at h <;> cases h; exact absurd (System.checkExit_phase hp) hs
  | recvHeader =>
    simp only [stepLive] at h
    split at h; · cases h
    split at h
    · split at h <;> cases h <;> exact absurd hp hs
    · split at h <;> cases h; exact absurd (System.checkExit_phase hp) hs
  | recvLogErr | recvHeadErr =>
    simp only [stepLive] at h
    split at h; · cases h
    split at h <;> cases h
    · exact absurd (System.checkExit_phase hp) hs
    · cases hp
  | resubscribe ok =>
    simp only [stepLive] at h
    split at h; · cases h
    split at h <;> cases h
    · cases hp
    · exact .inr (.inr (.inr (.inr (.inr (by simp_all)))))
  | start => simp only [stepLive] at h; split at h <;> cases h; cases hp
  | deinit =>
    simp only [stepLive] at h
    split at h <;> try cases h
    all_goals first | exact absurd hp hs | (split at h <;> cases h <;> exact absurd hp hs)
  | mine | dropLogSub | dropHeadSub =>
    simp only [stepLive, Option.map_eq_some'] at h
    first | (cases h; exact absurd hp hs) | (obtain ⟨_, -, rfl⟩ := h; exact absurd hp hs)

theorem decodable_of_reach {B head : Nat} {nodes : List Address} (hdec : ch.Decodable c rp) {s : System}
    (hs : Reach c rp ch (snapshotSystem rp B nodes head) s) :
    (∀ l ∈ s.events, decode c rp l ≠ none) ∧ ∀ l ∈ backfillLogs c ch s.layer s.head, decode c rp l ≠ none := by
  have hread : ∀ b l, l ∈ ch.logsAt b → decode c rp l ≠ none := fun b l hl hn => by simpa [hn] using hdec b l hl
  refine ⟨fun l hl => ?_, fun l hl => ?_⟩
  · obtain ⟨b, -, hlb⟩ := (Sound.reach c rp ch hs).sourced l (.inl hl)
    exact hread b l hlb
  · obtain ⟨b, -, hlb⟩ := mem_backfillLogs c ch hl
    exact hread b l hlb

/-- 連鎖のログがみな読めれば、パニックに入る一歩は、閉じた通路への配送か、再接続の失敗（バックフィルの問い合わせか再購読）だけ。 -/
theorem panicked_of_decodable {B head : Nat} {nodes : List Address} (hdec : ch.Decodable c rp) {s s' : System}
    {a : Action} (hs : Reach c rp ch (snapshotSystem rp B nodes head) s) (h : step c rp ch s a = some s')
    (hp : s'.phase = .panicked) :
    (a = .deliverLog ∧ s.eventsClosed = true) ∨ (a = .deliverHeader ∧ s.headersClosed = true) ∨
    (∃ f, a = .backfill f ∧ f ≠ .answered ∧ s.phase = .backfilling false) ∨ a = .resubscribe false := by
  have hread := decodable_of_reach c rp ch hdec hs
  rcases step_panicked c rp ch h hp with hd | hd | ⟨-, l, hl, hn⟩ | ⟨_, -, l, hl, hn⟩ | hb | hr
  · exact .inl hd
  · exact .inr (.inl hd)
  · exact absurd hn (hread.1 l hl)
  · exact absurd hn (hread.2 l hl)
  · exact .inr (.inr (.inl hb))
  · exact .inr (.inr (.inr hr))

/-- 例：ログの購読が切れ、再購読に失敗してパニックする。 -/
theorem panicked_of_decodable_sample :
    ∃ s s', Reach sampleContracts sampleRocketPool headerRaceChain sampleSystem s ∧
      step sampleContracts sampleRocketPool headerRaceChain s (.resubscribe false) = some s' ∧
      s'.phase = .panicked ∧
      ((Action.resubscribe false = .deliverLog ∧ s.eventsClosed = true) ∨
        (Action.resubscribe false = .deliverHeader ∧ s.headersClosed = true) ∨
        (∃ f, Action.resubscribe false = .backfill f ∧ f ≠ .answered ∧ s.phase = .backfilling false) ∨
        Action.resubscribe false = .resubscribe false) := by
  obtain ⟨s, s', hr, hs, hp⟩ := exists_step_of_run sampleContracts sampleRocketPool headerRaceChain
    (fun _ s' => s'.phase = .panicked) sampleSystem [.backfill .answered, .start, .dropLogSub, .recvLogErr]
    (.resubscribe false) (by decide)
  exact ⟨s, s', hr, hs, hp, panicked_of_decodable _ _ _ (Chain.ofHistory_decodable _ _ _) hr hs hp⟩

/-! ## 再接続と重なる `Deinit` -/

/-- 受け手が `handleSubscriptionError` の中にいる。 -/
def Phase.inReconnect : Phase → Bool
  | .reconnecting | .backfilling false => true
  | _ => false

theorem System.checkExit_inReconnect {s : System} (h : s.phase.inReconnect = false) :
    s.checkExit.phase.inReconnect = false := by
  unfold System.checkExit
  split
  · rfl
  · exact h

/-- `Deinit` が購読を切った後、再接続の外にいる限り成り立つこと。 -/
structure Silenced (s : System) : Prop where
  logSub : s.logSub = none
  headSub : s.headSub = none
  shutdown : s.shutdown = true
  outside : s.phase.inReconnect = false

theorem Silenced.step {s s' : System} (h : Silenced s) (hs : Step c rp ch s s') : Silenced s' := by
  obtain ⟨hl, hh, hsd, ho⟩ := h
  cases hs with
  | mine => exact ⟨by simp [hl], by simp [hh], hsd, ho⟩
  | deliverLog hsub => rw [hl] at hsub; cases hsub
  | deliverHeader hsub => rw [hh] at hsub; cases hsub
  | @backfill initial _ _ hp => exact ⟨hl, hh, hsd, by cases initial <;> rfl⟩
  | recvLogErr _ _ hsd' | recvHeadErr _ _ hsd' => rw [hsd] at hsd'; cases hsd'
  | recvLogErrShutdown => exact ⟨hl, rfl, hsd, System.checkExit_inReconnect ho⟩
  | recvHeadErrShutdown => exact ⟨rfl, hh, hsd, System.checkExit_inReconnect ho⟩
  | recvEventsClosed | recvHeadersClosed => exact ⟨hl, hh, hsd, System.checkExit_inReconnect ho⟩
  | resubscribe hp => rw [hp] at ho; cases ho
  | dropLogSub => exact ⟨rfl, hh, hsd, ho⟩
  | dropHeadSub => exact ⟨hl, rfl, hsd, ho⟩
  | deinitUnsubscribe => exact ⟨rfl, rfl, rfl, ho⟩
  | start hp => exact ⟨hl, hh, hsd, rfl⟩
  | panic => exact ⟨hl, hh, hsd, rfl⟩
  | backfillStopped => exact ⟨hl, hh, hsd, rfl⟩
  | _ => exact ⟨hl, hh, hsd, ho⟩

theorem step_deinit_unsubscribed {s s' : System} (h : step c rp ch s .deinit = some s')
    (hd : s'.deinit = .unsubscribed) :
    s' = { s with shutdown := true, logSub := none, headSub := none, deinit := .unsubscribed } := by
  unfold step at h
  split at h
  · cases h
  simp only [stepLive] at h
  split at h <;> try (cases h <;> cases hd)
  · split at h <;> cases h
    · rfl
    · cases hd
  · split at h <;> cases h; cases hd

/-- 再接続の外で始まった `Deinit` の後は、どの一歩もパニックせず、二つの購読は切れたままで、再接続も始まらない。 -/
theorem deinit_outside_reconnect_never_panics {B head : Nat} {nodes : List Address} (hdec : ch.Decodable c rp)
    {s s₁ s' s'' : System} {a : Action} (hs : Reach c rp ch (snapshotSystem rp B nodes head) s)
    (hd : step c rp ch s .deinit = some s₁) (hu : s₁.deinit = .unsubscribed) (hr : s.phase.inReconnect = false)
    (hs' : Reach c rp ch s₁ s') (h : step c rp ch s' a = some s'') :
    s''.phase ≠ .panicked ∧ s''.logSub = none ∧ s''.headSub = none ∧ s''.phase.inReconnect = false := by
  have h₁ : Silenced s₁ := by
    rw [step_deinit_unsubscribed c rp ch hd hu]
    exact ⟨rfl, rfl, rfl, hr⟩
  have hsil := hs'.induct_step c rp ch h₁ fun _ _ h hst => h.step c rp ch hst
  obtain ⟨hl'', hh'', -, ho''⟩ := hsil.step c rp ch (step_sound c rp ch h)
  refine ⟨fun hp => ?_, hl'', hh'', ho''⟩
  obtain ⟨hl, hh, -, ho⟩ := hsil
  have hread := decodable_of_reach c rp ch hdec ((hs.trans c rp ch (.tail .deinit .refl hd)).trans c rp ch hs')
  rcases step_panicked c rp ch h hp with ⟨rfl, -⟩ | ⟨rfl, -⟩ | ⟨-, l, hl', hn⟩ | ⟨_, -, l, hl', hn⟩ | ⟨_, -, -, hb⟩ | rfl
  · simp [step, stepLive, hl] at h
  · simp [step, stepLive, hh] at h
  · exact hread.1 l hl' hn
  · exact hread.2 l hl' hn
  · rw [hb] at ho; cases ho
  · have hph : s'.phase = .reconnecting := by
      by_contra hne
      simp [step, stepLive, hne] at h
    rw [hph] at ho; cases ho

theorem deinit_outside_reconnect_never_panics_sample :
    ∃ s s₁ s'', Reach sampleContracts sampleRocketPool headerRaceChain sampleSystem s ∧
      step sampleContracts sampleRocketPool headerRaceChain s .deinit = some s₁ ∧ s₁.deinit = .unsubscribed ∧
      s.phase.inReconnect = false ∧ step sampleContracts sampleRocketPool headerRaceChain s₁ .mine = some s'' ∧
      s''.phase ≠ .panicked ∧ s''.logSub = none ∧ s''.headSub = none ∧ s''.phase.inReconnect = false := by
  obtain ⟨s, s₁, hr, hd, hu, ho, hm⟩ := exists_step_of_run sampleContracts sampleRocketPool headerRaceChain
    (fun s s₁ => s₁.deinit = .unsubscribed ∧ s.phase.inReconnect = false ∧
      (step sampleContracts sampleRocketPool headerRaceChain s₁ .mine).isSome)
    sampleSystem [.backfill .answered, .start] .deinit (by decide)
  obtain ⟨s'', hs''⟩ := Option.isSome_iff_exists.mp hm
  exact ⟨s, s₁, s'', hr, hd, hu, ho, hs'', deinit_outside_reconnect_never_panics _ _ _
    (Chain.ofHistory_decodable _ _ _) hr hd hu ho .refl hs''⟩

end RescueProxy
