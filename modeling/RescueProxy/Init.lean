import RescueProxy.Event

/-!
# 初期化とバックフィル

`Init`、その中のスナップショットの繰り返し（`preloadNodes`）、`ecEventsConnect` と `backfillEvents`。
Go の関数は `e` をその場で書き換えてから誤りを返すので、誤りで止まったときの索引も結果に残す。
-/

namespace RescueProxy

/-- ある時点での上流のクライアント（`ethclient.Client`）の応答。購読は作れたかどうかだけを見る。 -/
structure Client where
  headerByNumber : Except Error Header
  filterLogs : FilterQuery → Except Error (List Log)
  subscribeFilterLogs : Except Error Unit
  subscribeNewHead : Except Error Unit

/-- 初期化の終わり方：索引、返した誤り、受け手の go 文まで進んだか。 -/
structure InitResult where
  layer : ExecutionLayer
  err : Option Error
  started : Bool

variable (c : Contracts) (rp : RocketPool)

/-! ## バックフィル -/

/-- バックフィルの問い合わせ：二つの契約の三つのイベントの、`highestBlock` の次から `stop` まで。 -/
def backfillQuery (e : ExecutionLayer) (stop : Int) : FilterQuery :=
  { eventQuery c.rocketMinipoolManager c.rocketNodeManager with
    fromBlock := some (e.highestBlock + 1), toBlock := some stop }

/-- 外側の誤りは問い合わせの失敗（索引は触らない）、内側の `none` は処理中のパニック。 -/
def backfillEvents (client : Client) (e : ExecutionLayer) : Except Error (Option ExecutionLayer) := do
  let start := e.highestBlock + 1
  let header ← client.headerByNumber
  let stop : Int := header.number
  if stop < start then return some e
  let missedEvents ← client.filterLogs (backfillQuery c e stop)
  return (handleEvents c rp missedEvents e).map ({ · with highestBlock := stop })

def ecEventsConnect (client : Client) (blockNumber : Nat) (e : ExecutionLayer) : Option InitResult :=
  let e := { e with highestBlock := blockNumber }
  match client.subscribeFilterLogs, client.subscribeNewHead with
  | .error err, _ => some ⟨e, some err, false⟩
  | .ok _, .error err => some ⟨e, some err, false⟩
  | .ok _, .ok _ =>
    match backfillEvents c rp client e with
    | .error err => some ⟨e, some err, false⟩
    | .ok none => none
    | .ok (some e) => some ⟨e, none, true⟩

/-! ## スナップショット -/

/-- `Init` の節点の繰り返しが行う `Store` の並びと、途中で返す誤り。 -/
def preloadNodes (opts : Option Nat) : List Address → List Store × Option Error
  | [] => ([], none)
  | n :: nodes =>
    match rp.getSmoothingPoolRegistrationState n opts, rp.getDistributorAddress n opts with
    | .error err, _ => ([], some err)
    | .ok _, .error err => ([], some err)
    | .ok inSmoothingPool, .ok feeDistributor =>
      let node := Store.node n ⟨inSmoothingPool, feeDistributor⟩
      match rp.getNodeMinipools n opts with
      | .error err => ([node], some err)
      | .ok minipools =>
        let rest := preloadNodes opts nodes
        (node :: minipools.map (Store.minipool · n) ++ rest.1, rest.2)

/-- `Init`。`dial` はスナップショットの時点、`live` は `ecEventsConnect` の時点のクライアントの応答で、`none` はパニック。 -/
def init (dial : Except Error Client) (newRocketPool : Except Error RocketPool) (live : Client)
    (e : ExecutionLayer) : Option InitResult :=
  match dial, newRocketPool with
  | .error err, _ => some ⟨e, some err, false⟩
  | .ok _, .error err => some ⟨e, some err, false⟩
  | .ok client, .ok rp =>
    match client.headerByNumber with
    | .error err => some ⟨e, some err, false⟩
    | .ok header =>
      let opts := some header.number
      match rp.getContract "rocketNodeManager" opts, rp.getContract "rocketMinipoolManager" opts,
          rp.getContract "rocketSmoothingPool" opts with
      | .error err, _, _ => some ⟨e, some err, false⟩
      | .ok _, .error err, _ => some ⟨e, some err, false⟩
      | .ok _, .ok _, .error err => some ⟨e, some err, false⟩
      | .ok nodeManager, .ok minipoolManager, .ok smoothingPool =>
        match rp.getNodes opts with
        | .error err => some ⟨e, some err, false⟩
        | .ok nodes =>
          let loaded := preloadNodes rp opts nodes
          let e := e.applyAll loaded.1
          match loaded.2 with
          | some err => some ⟨e, some err, false⟩
          | none =>
            (ecEventsConnect ⟨nodeManager, minipoolManager, smoothingPool⟩ rp live header.number e).map
              fun r => ⟨r.layer, none, r.started⟩

/-- 例のクライアント：ブロック 100 にあり、ログはなく、購読は作れる。 -/
def sampleClient : Client where
  headerByNumber := .ok ⟨100⟩
  filterLogs _ := .ok []
  subscribeFilterLogs := .ok ()
  subscribeNewHead := .ok ()

/-- ログの購読が作れなくても `Init` は誤りを返さず、受け手は起動しない。 -/
theorem init_ignores_subscribe_error :
    (init (.ok sampleClient) (.ok sampleRocketPool)
        { sampleClient with subscribeFilterLogs := .error "subscription failed" } .empty).map
      (fun r => (r.err, r.started)) = some (none, false) := by
  rfl

/-! ## スナップショットの途中の誤り

繰り返しは節点ごとに、状態と配布先を読んで記録を `Store` し、それからミニプールを読む。誤りで止まっても、
それまでの `Store` は取り消されない。 -/

theorem preloadNodes_cons_of_error {opts : Option Nat} {n : Address} {err : Error}
    (h : (preloadNodes rp opts [n]).2 = some err) (nodes : List Address) :
    preloadNodes rp opts (n :: nodes) = preloadNodes rp opts [n] := by
  rcases hs : rp.getSmoothingPoolRegistrationState n opts with _ | sp <;>
    rcases hf : rp.getDistributorAddress n opts with _ | fd <;>
    rcases hm : rp.getNodeMinipools n opts with _ | mps <;> simp [preloadNodes, hs, hf, hm] at h ⊢

theorem preloadNodes_cons_of_ok {opts : Option Nat} {n : Address} (h : (preloadNodes rp opts [n]).2 = none)
    (nodes : List Address) :
    preloadNodes rp opts (n :: nodes) =
      ((preloadNodes rp opts [n]).1 ++ (preloadNodes rp opts nodes).1, (preloadNodes rp opts nodes).2) := by
  rcases hs : rp.getSmoothingPoolRegistrationState n opts with _ | sp <;>
    rcases hf : rp.getDistributorAddress n opts with _ | fd <;>
    rcases hm : rp.getNodeMinipools n opts with _ | mps <;> simp [preloadNodes, hs, hf, hm] at h ⊢

end RescueProxy
