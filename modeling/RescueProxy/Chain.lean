import RescueProxy.Init

/-!
# 連鎖とバックフィル

連鎖はブロックごとのログの並びで、上流のクライアントはそれに答える。`backfillEvents` が問い合わせるのは、
`highestBlock` の次のブロックから連鎖の高さまでの、二つの契約の三つのイベントである。
-/

namespace RescueProxy

/-- 連鎖：ブロックごとのログ（連鎖の順）。ログのブロック番号は、そのブロックの番号。 -/
structure Chain where
  logsAt : Nat → List Log
  blockNumber_logsAt : ∀ b, ∀ l ∈ logsAt b, l.blockNumber.toNat = b

/-- イベントの履歴だけを載せた連鎖。 -/
def Chain.ofHistory (c : Contracts) (hs : List (ChainEvent × UInt64)) : Chain where
  logsAt b := (hs.filter (·.2.toNat = b)).map fun x => x.1.toLog c x.2
  blockNumber_logsAt b l hl := by
    simp only [List.mem_map, List.mem_filter, decide_eq_true_eq] at hl
    obtain ⟨x, ⟨-, hx⟩, rfl⟩ := hl
    simpa using hx

/-- ブロック `first` から `last` までのログのうち、問い合わせに合うもの（連鎖の順）。 -/
def Chain.logs (ch : Chain) (q : FilterQuery) (first last : Nat) : List Log :=
  ((List.range' first (last + 1 - first)).flatMap ch.logsAt).filter q.matches

theorem Chain.logs_append (ch : Chain) (q : FilterQuery) {a m b : Nat} (h₁ : a ≤ m + 1) (h₂ : m ≤ b) :
    ch.logs q a b = ch.logs q a m ++ ch.logs q (m + 1) b := by
  have h := List.range'_append_1 a (m + 1 - a) (b + 1 - (m + 1))
  rw [show a + (m + 1 - a) = m + 1 by omega, show b + 1 - (m + 1) + (m + 1 - a) = b + 1 - a by omega] at h
  simp only [Chain.logs, ← h, List.flatMap_append, List.filter_append]

theorem Chain.logs_succ (ch : Chain) (q : FilterQuery) {a b : Nat} (h : a ≤ b + 1) :
    ch.logs q a (b + 1) = ch.logs q a b ++ (ch.logsAt (b + 1)).filter q.matches := by
  rw [ch.logs_append q h (Nat.le_succ b)]
  simp [Chain.logs, show b + 1 - b = 1 by omega]

theorem Chain.logs_empty (ch : Chain) (q : FilterQuery) {a b : Nat} (h : b < a) : ch.logs q a b = [] := by
  simp [Chain.logs, show b + 1 - a = 0 by omega]

theorem Chain.mem_logs (ch : Chain) {q : FilterQuery} {a b last : Nat} {l : Log} (hl : l ∈ ch.logsAt b) (ha : a ≤ b)
    (hb : b ≤ last) (hq : q.matches l = true) : l ∈ ch.logs q a last := by
  simp only [Chain.logs, List.mem_filter, List.mem_flatMap, List.mem_range'_1]
  exact ⟨⟨b, ⟨ha, by omega⟩, hl⟩, hq⟩

/-- バックフィルの二つの問い合わせのうち、失敗するもの。 -/
inductive QueryFault where
  | answered
  | headerByNumber
  | filterLogs
  deriving DecidableEq, Repr

/-- 高さ `head` の連鎖に答えるクライアント。`fault` の問い合わせだけが失敗する。 -/
def Chain.client (ch : Chain) (head : Nat) (fault : QueryFault) : Client where
  headerByNumber := if fault = .headerByNumber then .error "header query failed" else .ok ⟨head⟩
  filterLogs q := if fault = .filterLogs then .error "log query failed" else .ok (ch.logs q 0 head)
  subscribeFilterLogs := .ok ()
  subscribeNewHead := .ok ()

variable (c : Contracts) (rp : RocketPool) (ch : Chain)

theorem Chain.logs_congr {q₁ q₂ : FilterQuery} {a b : Nat}
    (h : ∀ k l, a ≤ k → k ≤ b → l ∈ ch.logsAt k → q₁.matches l = q₂.matches l) : ch.logs q₁ a b = ch.logs q₂ a b := by
  refine List.filter_congr fun l hl => ?_
  obtain ⟨k, hk, hlk⟩ := List.mem_flatMap.mp hl
  rw [List.mem_range'_1] at hk
  exact h k l hk.1 (by omega) hlk

theorem Chain.logs_eq_nil_of_not_matches {q : FilterQuery} {a b : Nat}
    (h : ∀ k l, a ≤ k → k ≤ b → l ∈ ch.logsAt k → q.matches l = false) : ch.logs q a b = [] := by
  refine List.filter_eq_nil_iff.mpr fun l hl => ?_
  obtain ⟨k, hk, hlk⟩ := List.mem_flatMap.mp hl
  rw [List.mem_range'_1] at hk
  simp [h k l hk.1 (by omega) hlk]

/-! ## バックフィルの範囲 -/

/-- バックフィルが `handleEvent` に渡すログ。 -/
def backfillLogs (e : ExecutionLayer) (head : Nat) : List Log :=
  if (head : Int) < e.highestBlock + 1 then [] else ch.logs (backfillQuery c e head) 0 head

theorem mem_chain_logs {q : FilterQuery} {first last : Nat} {l : Log} (h : l ∈ ch.logs q first last) :
    ∃ b, first ≤ b ∧ b ≤ last ∧ l ∈ ch.logsAt b := by
  simp only [Chain.logs, List.mem_filter, List.mem_flatMap, List.mem_range'_1] at h
  obtain ⟨⟨b, hb, hl⟩, -⟩ := h
  exact ⟨b, hb.1, by omega, hl⟩

theorem mem_backfillLogs {e : ExecutionLayer} {head : Nat} {l : Log} (h : l ∈ backfillLogs c ch e head) :
    ∃ b ≤ head, l ∈ ch.logsAt b := by
  unfold backfillLogs at h
  split at h
  · cases h
  · obtain ⟨b, -, hb, hl⟩ := mem_chain_logs ch h
    exact ⟨b, hb, hl⟩

theorem backfillQuery_matches (e : ExecutionLayer) (stop : Int) (l : Log) :
    (backfillQuery c e stop).matches l = (decide (e.highestBlock + 1 ≤ (l.blockNumber.toNat : Int)) &&
      decide ((l.blockNumber.toNat : Int) ≤ stop) && (eventQuery c.rocketMinipoolManager c.rocketNodeManager).matches l) := by
  simp [FilterQuery.matches, backfillQuery, eventQuery, Bool.and_assoc]

theorem Chain.logs_backfillQuery (e : ExecutionLayer) (stop : Nat) :
    ch.logs (backfillQuery c e stop) 0 stop =
      ch.logs (eventQuery c.rocketMinipoolManager c.rocketNodeManager) (e.highestBlock + 1).toNat stop := by
  have hm : ∀ k l, k ≤ stop → l ∈ ch.logsAt k → (backfillQuery c e stop).matches l =
      (decide ((e.highestBlock + 1).toNat ≤ k) && (eventQuery c.rocketMinipoolManager c.rocketNodeManager).matches l) := by
    intro k l hk hl
    rw [backfillQuery_matches, ch.blockNumber_logsAt k l hl]
    have h₁ : decide (e.highestBlock + 1 ≤ (k : Int)) = decide ((e.highestBlock + 1).toNat ≤ k) :=
      decide_eq_decide.mpr (by omega)
    have h₂ : decide ((k : Int) ≤ stop) = true := decide_eq_true (by omega)
    rw [h₁, h₂, Bool.and_true]
  generalize ha : (e.highestBlock + 1).toNat = a at hm
  have hlow : ∀ m, m < a → m ≤ stop → ch.logs (backfillQuery c e stop) 0 m = [] := fun m hma hms =>
    ch.logs_eq_nil_of_not_matches fun k l _ hk hl => by rw [hm k l (by omega) hl]; simp; omega
  rcases Nat.lt_or_ge stop a with hs | hs
  · rw [ch.logs_empty _ hs, hlow stop hs (Nat.le_refl _)]
  have hhigh : ch.logs (backfillQuery c e stop) a stop =
      ch.logs (eventQuery c.rocketMinipoolManager c.rocketNodeManager) a stop :=
    ch.logs_congr fun k l hk hks hl => by rw [hm k l hks hl, decide_eq_true hk, Bool.true_and]
  cases a with
  | zero => exact hhigh
  | succ m =>
    rw [ch.logs_append _ (Nat.zero_le _) (by omega : m ≤ stop), hlow m (Nat.lt_succ_self m) (by omega), List.nil_append]
    exact hhigh

theorem backfillLogs_eq {e : ExecutionLayer} {B : Nat} (hB : e.highestBlock = B) (head : Nat) :
    backfillLogs c ch e head = ch.logs (eventQuery c.rocketMinipoolManager c.rocketNodeManager) (B + 1) head := by
  unfold backfillLogs
  split
  · exact (ch.logs_empty _ (by omega)).symm
  · rw [ch.logs_backfillQuery, hB, show ((B : Int) + 1).toNat = B + 1 by omega]

theorem backfillEvents_client (head : Nat) (fault : QueryFault) (e : ExecutionLayer) :
    backfillEvents c rp (ch.client head fault) e =
      if fault = .headerByNumber then .error "header query failed"
      else if (head : Int) < e.highestBlock + 1 then .ok (some e)
      else if fault = .filterLogs then .error "log query failed"
      else .ok ((handleEvents c rp (backfillLogs c ch e head) e).map ({ · with highestBlock := head })) := by
  cases fault
  case headerByNumber => rfl
  all_goals
    simp only [backfillEvents, Chain.client, backfillLogs, reduceCtorEq, if_true, if_false]
    split_ifs with h <;> simp [h, bind, Except.bind, pure, Except.pure]

theorem backfillEvents_client_ok {head : Nat} {fault : QueryFault} {e : ExecutionLayer} {r : Option ExecutionLayer}
    (h : backfillEvents c rp (ch.client head fault) e = .ok r) :
    ((head : Int) < e.highestBlock + 1 ∧ r = some e) ∨
      (e.highestBlock + 1 ≤ head ∧ r = (handleEvents c rp (backfillLogs c ch e head) e).map ({ · with highestBlock := head })) := by
  rw [backfillEvents_client] at h
  split_ifs at h with h₁ h₂ h₃
  · exact .inl ⟨h₂, (Except.ok.inj h).symm⟩
  · exact .inr ⟨by omega, (Except.ok.inj h).symm⟩

theorem backfillEvents_client_answered (head : Nat) (e : ExecutionLayer) :
    ∃ r, backfillEvents c rp (ch.client head .answered) e = .ok r := by
  rw [backfillEvents_client]
  simp only [reduceCtorEq, if_false]
  split_ifs <;> exact ⟨_, rfl⟩

theorem backfillEvents_client_some {head : Nat} {fault : QueryFault} {e e' : ExecutionLayer}
    (h : backfillEvents c rp (ch.client head fault) e = .ok (some e')) :
    ∃ f, handleEvents c rp (backfillLogs c ch e head) e = some f ∧ f.indices = e'.indices := by
  rcases backfillEvents_client_ok c rp ch h with ⟨hlt, he⟩ | ⟨-, he⟩
  · cases he; exact ⟨e, by simp [backfillLogs, hlt], rfl⟩
  · obtain ⟨f, hf, rfl⟩ := Option.map_eq_some'.mp he.symm
    exact ⟨f, hf, rfl⟩

/-! ## 読めるログ -/

theorem decode_toLog_isSome (b : UInt64) (ev : ChainEvent) : (decode c rp (ev.toLog c b)).isSome := by
  cases ev with
  | minipoolCreated mp n => simp [decode_minipoolCreated]
  | _ => simp

/-- 連鎖のどのログも読める。 -/
def Chain.Decodable : Prop := ∀ b, ∀ l ∈ ch.logsAt b, (decode c rp l).isSome

theorem Chain.ofHistory_decodable (hs : List (ChainEvent × UInt64)) : (Chain.ofHistory c hs).Decodable c rp := by
  intro b l hl
  obtain ⟨x, -, rfl⟩ := List.mem_map.mp hl
  exact decode_toLog_isSome c rp _ _

theorem handleEvents_eq_none {L : List Log} {e : ExecutionLayer} (h : handleEvents c rp L e = none) :
    ∃ l ∈ L, decode c rp l = none := by
  induction L generalizing e with
  | nil => cases h
  | cons l L ih =>
    rw [handleEvents_cons, handleEvent_eq] at h
    cases hd : decode c rp l with
    | none => exact ⟨l, List.mem_cons_self _ _, hd⟩
    | some d =>
      rw [hd, Option.map_some', Option.some_bind] at h
      obtain ⟨l', hl', hd'⟩ := ih h
      exact ⟨l', List.mem_cons_of_mem _ hl', hd'⟩

theorem handleEvents_logs_isSome (hd : ch.Decodable c rp) (q : FilterQuery) (a b : Nat) (e : ExecutionLayer) :
    (handleEvents c rp (ch.logs q a b) e).isSome := by
  cases hn : handleEvents c rp (ch.logs q a b) e with
  | some _ => rfl
  | none =>
    obtain ⟨l, hl, hnone⟩ := handleEvents_eq_none c rp hn
    obtain ⟨k, -, -, hlk⟩ := mem_chain_logs ch hl
    simpa [hnone] using hd k l hlk

/-! ## バックフィルの結果 -/

/-- バックフィルは、問い合わせの誤りをそのまま返すか、ブロック `highestBlock + 1` から `H` までの合うログを連鎖の順に処理して `highestBlock` を `max highestBlock H` にする。 -/
theorem backfillEvents_outcome (H : Nat) {client : Client}
    (hh : ∀ hd, client.headerByNumber = .ok hd → hd.number = H)
    (hf : ∀ q ls, client.filterLogs q = .ok ls → ls = ch.logs q 0 H) (e : ExecutionLayer) :
    (∃ err, (client.headerByNumber = .error err ∨ client.filterLogs (backfillQuery c e H) = .error err) ∧
        backfillEvents c rp client e = .error err) ∨
    (backfillEvents c rp client e =
        .ok ((handleEvents c rp (ch.logs (eventQuery c.rocketMinipoolManager c.rocketNodeManager)
          (e.highestBlock + 1).toNat H) e).map fun e' => { e' with highestBlock := max e.highestBlock H }) ∧
      ((H : Int) ≤ e.highestBlock →
        ch.logs (eventQuery c.rocketMinipoolManager c.rocketNodeManager) (e.highestBlock + 1).toNat H = []) ∧
      (ch.Decodable c rp → (handleEvents c rp (ch.logs (eventQuery c.rocketMinipoolManager c.rocketNodeManager)
          (e.highestBlock + 1).toNat H) e).isSome)) := by
  have hempty : (H : Int) ≤ e.highestBlock →
      ch.logs (eventQuery c.rocketMinipoolManager c.rocketNodeManager) (e.highestBlock + 1).toNat H = [] :=
    fun hle => ch.logs_empty _ (by omega)
  cases hhd : client.headerByNumber with
  | error err => exact .inl ⟨err, .inl rfl, by simp [backfillEvents, hhd, bind, Except.bind]⟩
  | ok header =>
    obtain rfl := hh header hhd
    by_cases hlt : (header.number : Int) < e.highestBlock + 1
    · refine .inr ⟨?_, hempty, fun hdec => handleEvents_logs_isSome c rp ch hdec _ _ _ e⟩
      rw [hempty (by omega), handleEvents_nil, Option.map_some', Int.max_eq_left (by omega)]
      simp [backfillEvents, hhd, hlt, bind, Except.bind, pure, Except.pure]
    · cases hfl : client.filterLogs (backfillQuery c e header.number) with
      | error err =>
        exact .inl ⟨err, .inr rfl, by simp [backfillEvents, hhd, hlt, hfl, bind, Except.bind, pure, Except.pure]⟩
      | ok ls =>
        obtain rfl := hf _ _ hfl
        refine .inr ⟨?_, hempty, fun hdec => handleEvents_logs_isSome c rp ch hdec _ _ _ e⟩
        rw [← ch.logs_backfillQuery, Int.max_eq_right (by omega)]
        simp [backfillEvents, hhd, hlt, hfl, bind, Except.bind, pure, Except.pure]

/-- 例：ブロック 100 まで処理した索引が、高さ 103 の連鎖のブロック 101 から 103 までをバックフィルする。 -/
theorem backfillEvents_outcome_sample :
    (∃ err, (((Chain.ofHistory sampleContracts sampleHistory).client 103 .answered).headerByNumber = .error err ∨
        ((Chain.ofHistory sampleContracts sampleHistory).client 103 .answered).filterLogs
          (backfillQuery sampleContracts ⟨fun _ => none, fun _ => none, 100⟩ 103) = .error err) ∧
        backfillEvents sampleContracts sampleRocketPool ((Chain.ofHistory sampleContracts sampleHistory).client 103 .answered)
          ⟨fun _ => none, fun _ => none, 100⟩ = .error err) ∨
    (backfillEvents sampleContracts sampleRocketPool ((Chain.ofHistory sampleContracts sampleHistory).client 103 .answered)
          ⟨fun _ => none, fun _ => none, 100⟩ =
        .ok ((handleEvents sampleContracts sampleRocketPool
          ((Chain.ofHistory sampleContracts sampleHistory).logs (eventQuery 2 1) 101 103)
          ⟨fun _ => none, fun _ => none, 100⟩).map fun e' => { e' with highestBlock := max 100 103 }) ∧
      ((103 : Int) ≤ 100 → (Chain.ofHistory sampleContracts sampleHistory).logs (eventQuery 2 1) 101 103 = []) ∧
      ((Chain.ofHistory sampleContracts sampleHistory).Decodable sampleContracts sampleRocketPool →
        (handleEvents sampleContracts sampleRocketPool
          ((Chain.ofHistory sampleContracts sampleHistory).logs (eventQuery 2 1) 101 103)
          ⟨fun _ => none, fun _ => none, 100⟩).isSome)) :=
  backfillEvents_outcome sampleContracts sampleRocketPool _ 103 (fun _ h => by cases Except.ok.inj h; rfl)
    (fun _ _ h => (Except.ok.inj h).symm) _

end RescueProxy
