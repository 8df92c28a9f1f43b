import RescueProxy.Ingestor.Reconnect
import RescueProxy.Ingestor.Shutdown
import RescueProxy.Ingestor.Panic

/-!
# `Deinit` が戻れること、戻った後のパニック

`Deinit` は `wg.Wait()` で受け手が繰り返しを抜けるのを待つ。受け手が抜けるのは、二つの通路が閉じて空になったときだけ。
連鎖のログがみな読めれば、スナップショットから届くパニックしていないどの状態からも、`Deinit` が戻るところまで
進む並びがある。受け手が `stopped` でなければ、その並びで受け手は再接続とバックフィルを終え、溜まったログとヘッダを
処理し、閉じた通路を読んで抜け、`close(e.events)` の時点で通路にあったログはみな処理されている（`deinit_can_return`）。

逆に、受け手が再接続の中にいるときに `Deinit` が購読を切ると、受け手はその後で新しい購読を作る。
`Deinit` が戻った後、その購読が次のヘッダを閉じた `e.newHeaders` に送り、プロセスはパニックする
（`deinit_during_reconnect_can_panic`）。段ごとに一つの補題を置き、`Reach.trans` でつなぐ。
-/

namespace RescueProxy

variable (c : Contracts) (rp : RocketPool) (ch : Chain)

/-! ## `Deinit` が閉じた通路 -/

/-- `Deinit` が閉じた通路は閉じている。 -/
def DeinitClosed (s : System) : Prop :=
  (s.deinit = .eventsClosed → s.eventsClosed = true) ∧
    (s.deinit = .headersClosed → s.eventsClosed = true ∧ s.headersClosed = true)

theorem DeinitClosed.step {s s' : System} (h : DeinitClosed s) (hs : Step c rp ch s s') : DeinitClosed s' := by
  cases hs with
  | deinitUnsubscribe | deinitNoCallback | deinitReturn => exact ⟨nofun, nofun⟩
  | deinitCloseEvents => exact ⟨fun _ => rfl, nofun⟩
  | deinitCloseHeaders hd => exact ⟨nofun, fun _ => ⟨h.1 hd, rfl⟩⟩
  | _ => exact h

/-! ## 受け手の段 -/

theorem exists_drain_events {t : System} (hp : t.phase = .running) (hread : ∀ l ∈ t.events, decode c rp l ≠ none) :
    ∃ t', Reach c rp ch t t' ∧ t'.events = [] ∧ t'.phase = .running ∧ t'.newHeaders = t.newHeaders ∧
      t'.deinit = t.deinit ∧ t'.headSub = t.headSub := by
  generalize hL : t.events = L at hread
  induction L generalizing t with
  | nil => exact ⟨t, .refl, hL, hp, rfl, rfl, rfl⟩
  | cons l L ih =>
    obtain ⟨e, he⟩ : ∃ e, handleEvent c rp l t.layer = some e := by
      rw [handleEvent_eq]
      cases hd : decode c rp l with
      | none => exact absurd hd (hread l (List.mem_cons_self _ _))
      | some d => exact ⟨_, rfl⟩
    have hstep : step c rp ch t .recvEvent =
        some { t with layer := e, events := L, noMoreEvents := false, handled := t.handled ++ [l] } := by
      simp [step, stepLive, hp, hL, he]
    obtain ⟨t', ht', h₁, h₂, h₃, h₄, h₅⟩ :=
      @ih { t with layer := e, events := L, noMoreEvents := false, handled := t.handled ++ [l] } hp rfl
        fun l' hl' => hread l' (List.mem_cons_of_mem _ hl')
    exact ⟨t', Reach.head c rp ch hstep ht', h₁, h₂, h₃, h₄, h₅⟩

theorem exists_drain_headers {t : System} (hp : t.phase = .running) :
    ∃ t', Reach c rp ch t t' ∧ t'.newHeaders = [] ∧ t'.phase = .running ∧ t'.events = t.events ∧
      t'.deinit = t.deinit ∧ t'.headSub = t.headSub := by
  generalize hL : t.newHeaders = L
  induction L generalizing t with
  | nil => exact ⟨t, .refl, hL, hp, rfl, rfl, rfl⟩
  | cons h L ih =>
    obtain ⟨t₁, h₁, hL₁, hp₁, he₁, hd₁, hs₁⟩ : ∃ t₁, step c rp ch t .recvHeader = some t₁ ∧ t₁.newHeaders = L ∧
        t₁.phase = .running ∧ t₁.events = t.events ∧ t₁.deinit = t.deinit ∧ t₁.headSub = t.headSub := by
      by_cases hle : (h.number : Int) ≤ t.layer.highestBlock
      · exact ⟨{ t with newHeaders := L, noMoreHeaders := false }, by simp [step, stepLive, hp, hL, hle], rfl, hp,
          rfl, rfl, rfl⟩
      · exact ⟨{ t with newHeaders := L, noMoreHeaders := false, layer := { t.layer with highestBlock := h.number } },
          by simp [step, stepLive, hp, hL, hle], rfl, hp, rfl, rfl, rfl⟩
    obtain ⟨t', ht', h₂, h₃, h₄, h₅, h₆⟩ := ih hp₁ hL₁
    exact ⟨t', Reach.head c rp ch h₁ ht', h₂, h₃, h₄.trans he₁, h₅.trans hd₁, h₆.trans hs₁⟩

theorem exists_exit {t : System} (hp : t.phase = .running) (he : t.events = []) (hh : t.newHeaders = [])
    (hec : t.eventsClosed = true) (hhc : t.headersClosed = true) :
    ∃ t', Reach c rp ch t t' ∧ t'.phase = .exited ∧ t'.deinit = t.deinit ∧ t'.headSub = t.headSub := by
  have h₁ : step c rp ch t .recvEvent = some { t with noMoreEvents := true }.checkExit := by
    simp [step, stepLive, hp, he, hec]
  cases hn : t.noMoreHeaders
  · rw [System.checkExit_of_stay (by simp [hn])] at h₁
    have h₂ : step c rp ch { t with noMoreEvents := true } .recvHeader =
        some { t with noMoreEvents := true, noMoreHeaders := true }.checkExit := by
      simp [step, stepLive, hp, hh, hhc]
    exact ⟨_, .tail _ (.tail _ .refl h₁) h₂, by simp [System.checkExit], rfl, rfl⟩
  · exact ⟨_, .tail _ .refl h₁, by simp [System.checkExit, hn], rfl, rfl⟩

theorem exists_backfillEvents_answered {e : ExecutionLayer} {head : Nat}
    (hread : ∀ l ∈ backfillLogs c ch e head, decode c rp l ≠ none) :
    ∃ e', backfillEvents c rp (ch.client head .answered) e = .ok (some e') := by
  obtain ⟨r, hr⟩ := backfillEvents_client_answered c rp ch head e
  cases r with
  | some e' => exact ⟨e', hr⟩
  | none =>
    obtain ⟨l, hl, hd⟩ := backfillEvents_client_none c rp ch hr
    exact absurd hd (hread l hl)

theorem exists_running_or_exited {t : System} (hp : t.phase ≠ .panicked) (hs : t.phase ≠ .stopped)
    (hread : ∀ l ∈ backfillLogs c ch t.layer t.head, decode c rp l ≠ none) :
    ∃ t', Reach c rp ch t t' ∧ (t'.phase = .running ∨ t'.phase = .exited) ∧ t'.deinit = t.deinit := by
  have hstart : ∀ u : System, u.phase = .spawned →
      ∃ t', Reach c rp ch u t' ∧ (t'.phase = .running ∨ t'.phase = .exited) ∧ t'.deinit = u.deinit := fun u hu =>
    ⟨{ u with phase := .running, wg := u.wg + 1 }, .tail .start .refl (by simp [step, stepLive, hu]), .inl rfl, rfl⟩
  obtain ⟨e, hb⟩ := exists_backfillEvents_answered c rp ch hread
  cases hph : t.phase with
  | running => exact ⟨t, .refl, .inl hph, rfl⟩
  | exited => exact ⟨t, .refl, .inr hph, rfl⟩
  | spawned => exact hstart t hph
  | reconnecting =>
    obtain ⟨s', hr, hd, -, hs'⟩ := exists_resubscribe_backfill c rp ch hph .answered
    rw [hb] at hs'
    exact ⟨s', hr, .inl hs'.1, hd⟩
  | backfilling initial =>
    have h₁ := step_eq_stepLive c rp ch (s := t) (by rw [hph]; nofun) (.backfill .answered)
    simp only [stepLive, hph, hb] at h₁
    cases initial
    · exact ⟨_, .tail _ .refl h₁, .inl rfl, rfl⟩
    · obtain ⟨v, hv, hvp, hvd⟩ : ∃ v, step c rp ch t (.backfill .answered) = some v ∧ v.phase = .spawned ∧
          v.deinit = t.deinit := ⟨_, h₁, rfl, rfl⟩
      obtain ⟨t', ht', hp', hd'⟩ := hstart v hvp
      exact ⟨t', Reach.head c rp ch hv ht', hp', hd'.trans hvd⟩
  | stopped => exact absurd hph hs
  | panicked => exact absurd hph hp

/-! ## `Deinit` の段 -/

theorem exists_deinit_headersClosed {t : System} (hp : t.phase ≠ .panicked) (hd : t.deinit ≠ .returned)
    (hcb : t.deinit = .idle → t.shutdownCb = true) :
    ∃ t', Reach c rp ch t t' ∧ t'.phase = t.phase ∧ t'.deinit = .headersClosed := by
  have h₃ : ∀ u : System, u.phase = t.phase → u.deinit = .eventsClosed →
      ∃ t', Reach c rp ch u t' ∧ t'.phase = t.phase ∧ t'.deinit = .headersClosed := fun u hu hd =>
    ⟨{ u with headersClosed := true, deinit := .headersClosed },
      .tail .deinit .refl (by simp [step, stepLive, hu, hp, hd]), hu, rfl⟩
  have h₂ : ∀ u : System, u.phase = t.phase → u.deinit = .unsubscribed →
      ∃ t', Reach c rp ch u t' ∧ t'.phase = t.phase ∧ t'.deinit = .headersClosed := fun u hu hd => by
    have h := @step_eq_stepLive c rp ch u (by rw [hu]; exact hp) .deinit
    simp only [stepLive, hd] at h
    obtain ⟨v, hv, hvp, hvd⟩ : ∃ v, step c rp ch u .deinit = some v ∧ v.phase = t.phase ∧ v.deinit = .eventsClosed :=
      ⟨_, h, hu, rfl⟩
    obtain ⟨t', ht', htp, htd⟩ := h₃ v hvp hvd
    exact ⟨t', Reach.head c rp ch hv ht', htp, htd⟩
  cases hdt : t.deinit with
  | returned => exact absurd hdt hd
  | headersClosed => exact ⟨t, .refl, rfl, hdt⟩
  | eventsClosed => exact h₃ t rfl hdt
  | unsubscribed => exact h₂ t rfl hdt
  | idle =>
    have h := step_eq_stepLive c rp ch hp .deinit
    simp only [stepLive, hdt, hcb hdt, if_true] at h
    obtain ⟨v, hv, hvp, hvd⟩ : ∃ v, step c rp ch t .deinit = some v ∧ v.phase = t.phase ∧ v.deinit = .unsubscribed :=
      ⟨_, h, rfl, rfl⟩
    obtain ⟨t', ht', htp, htd⟩ := h₂ v hvp hvd
    exact ⟨t', Reach.head c rp ch hv ht', htp, htd⟩

/-! ## スナップショットからの実行 -/

section
variable {B head : Nat} {nodes : List Address}

theorem shutdownInv_deinitClosed {t : System} (ht : Reach c rp ch (snapshotSystem rp B nodes head) t) :
    ShutdownInv t ∧ DeinitClosed t :=
  ht.induct_step c rp ch (P := fun t => ShutdownInv t ∧ DeinitClosed t) ⟨ShutdownInv.initial _ B head, nofun, nofun⟩
    fun _ _ h hst => ⟨h.1.step c rp ch hst, h.2.step c rp ch hst⟩

theorem exists_deinit_returned {t : System} (ht : Reach c rp ch (snapshotSystem rp B nodes head) t)
    (hp : t.phase ≠ .panicked) (hl : t.phase.inLoop = false) (hd : t.deinit ≠ .returned) :
    ∃ s', Reach c rp ch t s' ∧ s'.deinit = .returned ∧ s'.phase = t.phase := by
  by_cases hcb : t.deinit = .idle → t.shutdownCb = true
  · obtain ⟨t₁, h₁, hp₁, hd₁⟩ := exists_deinit_headersClosed c rp ch hp hd hcb
    have hw : t₁.wg = 0 := by
      simpa [hp₁, hl] using (shutdownInv_deinitClosed c rp ch (ht.trans c rp ch h₁)).1.wg (by rw [hp₁]; exact hp)
    exact ⟨{ t₁ with deinit := .returned }, h₁.tail .deinit (by simp [step, stepLive, hp₁, hp, hd₁, hw]), rfl, hp₁⟩
  · obtain ⟨hd, hcb⟩ := Classical.not_imp.mp hcb
    exact ⟨{ t with deinit := .returned }, .tail .deinit .refl (by simp [step, stepLive, hp, hd, hcb]), rfl, rfl⟩

variable (hdec : ch.Decodable c rp)
include hdec

theorem exists_exited_of_closed {t : System} (ht : Reach c rp ch (snapshotSystem rp B nodes head) t)
    (hp : t.phase = .running) (hd : t.deinit = .headersClosed) :
    ∃ t', Reach c rp ch t t' ∧ t'.phase = .exited ∧ t'.deinit = .headersClosed ∧ t'.headSub = t.headSub := by
  obtain ⟨t₁, h₁, he₁, hp₁, -, hd₁, hs₁⟩ := exists_drain_events c rp ch hp (decodable_of_reach c rp ch hdec ht).1
  obtain ⟨t₂, h₂, hh₂, hp₂, he₂, hd₂, hs₂⟩ := exists_drain_headers c rp ch hp₁
  have h₁₂ := h₁.trans c rp ch h₂
  have hd₂' : t₂.deinit = .headersClosed := by rw [hd₂, hd₁, hd]
  obtain ⟨hec, hhc⟩ := (shutdownInv_deinitClosed c rp ch (ht.trans c rp ch h₁₂)).2.2 hd₂'
  obtain ⟨t₃, h₃, hp₃, hd₃, hs₃⟩ := exists_exit c rp ch hp₂ (he₂.trans he₁) hh₂ hec hhc
  exact ⟨t₃, h₁₂.trans c rp ch h₃, hp₃, hd₃.trans hd₂', by rw [hs₃, hs₂, hs₁]⟩

/-- 連鎖のログがみな読めれば、`Deinit` はどの状態からも戻るところまで進め、受け手が起こされていれば、そのとき受け手は通路のログを処理し終えて抜けている。 -/
theorem deinit_can_return {s : System} (hs : Reach c rp ch (snapshotSystem rp B nodes head) s) (hp : s.phase ≠ .panicked) :
    ∃ s', Reach c rp ch s s' ∧ s'.deinit = .returned ∧ s'.phase ≠ .panicked ∧
      (s.deinit ≠ .returned → s.phase ≠ .stopped →
        s'.phase = .exited ∧ ∀ l ∈ s'.closedBuffer, l ∈ s'.handled.drop s'.closedMark) := by
  by_cases hr : s.deinit = .returned
  · exact ⟨s, .refl, hr, hp, fun h => absurd hr h⟩
  by_cases hst : s.phase = .stopped
  · obtain ⟨s', h', hd', hp'⟩ := exists_deinit_returned c rp ch hs hp (by rw [hst]; rfl) hr
    exact ⟨s', h', hd', by rw [hp']; exact hp, fun _ h => absurd hst h⟩
  -- 受け手を `select` に入れ、`Deinit` が通路を閉じた後で抜けさせる
  obtain ⟨t₁, h₁, hp₁, hd₁⟩ := exists_running_or_exited c rp ch hp hst (decodable_of_reach c rp ch hdec hs).2
  have hs₁ := hs.trans c rp ch h₁
  obtain ⟨t₂, h₂, he₂, hd₂⟩ : ∃ t₂, Reach c rp ch t₁ t₂ ∧ t₂.phase = .exited ∧ t₂.deinit ≠ .returned := by
    rcases hp₁ with hrun | hex
    · have hcb := (shutdownInv_deinitClosed c rp ch hs₁).1.callback (.inr (.inl (by rw [hrun]; rfl)))
      obtain ⟨u, hu, hpu, hdu⟩ := exists_deinit_headersClosed c rp ch (by rw [hrun]; nofun) (by rw [hd₁]; exact hr)
        fun _ => hcb
      obtain ⟨t₂, h₂, he₂, hd₂, -⟩ := exists_exited_of_closed c rp ch hdec (hs₁.trans c rp ch hu) (hpu.trans hrun) hdu
      exact ⟨t₂, hu.trans c rp ch h₂, he₂, by rw [hd₂]; nofun⟩
    · exact ⟨t₁, .refl, hex, by rw [hd₁]; exact hr⟩
  have hs₂ := hs₁.trans c rp ch h₂
  obtain ⟨s', h₃, hd₃, hp₃⟩ := exists_deinit_returned c rp ch hs₂ (by rw [he₂]; nofun) (by rw [he₂]; rfl) hd₂
  have he' : s'.phase = .exited := hp₃.trans he₂
  exact ⟨s', h₁.trans c rp ch (h₂.trans c rp ch h₃), hd₃, by rw [he']; nofun,
    fun _ _ => ⟨he', (shutdownInv_deinitClosed c rp ch (hs₂.trans c rp ch h₃)).1.closedBuffer_handled he'⟩⟩

end

/-- 例：ログの購読が切れて再接続した後、閉じた通路に送る前に、ログを一つ処理した状態から `Deinit` が戻れる。 -/
theorem deinit_can_return_sample :
    ∃ s, Reach sampleContracts sampleRocketPool headerRaceChain sampleSystem s ∧ s.phase = .running ∧
      s.events.length = 1 ∧ ∃ s', Reach sampleContracts sampleRocketPool headerRaceChain s s' ∧
        s'.deinit = .returned ∧ s'.phase ≠ .panicked ∧
        (s.deinit ≠ .returned → s.phase ≠ .stopped →
          s'.phase = .exited ∧ ∀ l ∈ s'.closedBuffer, l ∈ s'.handled.drop s'.closedMark) := by
  obtain ⟨s, hr, hp, hl⟩ : ∃ s, Reach sampleContracts sampleRocketPool headerRaceChain sampleSystem s ∧
      s.phase = .running ∧ s.events.length = 1 := by
    obtain ⟨s, hs, h⟩ := exists_run_eq sampleContracts sampleRocketPool headerRaceChain
      (fun s => s.phase = .running ∧ s.events.length = 1) sampleSystem [.backfill .answered, .start, .mine, .deliverLog]
      (by decide)
    exact ⟨s, reach_of_run _ _ _ hs, h⟩
  exact ⟨s, hr, hp, hl, deinit_can_return sampleContracts sampleRocketPool headerRaceChain
    (Chain.ofHistory_decodable _ _ _) hr (by rw [hp]; nofun)⟩

end RescueProxy
