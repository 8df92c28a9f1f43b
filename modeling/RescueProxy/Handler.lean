import RescueProxy.Basic

/-!
# イベントの処理と読み出し

`handleNodeEvent`、`handleMinipoolEvent`、`handleEvent` と `ValidatorFeeRecipient`。
トピックの添字が範囲外なら Go は実行時にパニックするので、処理は `Option` を返し、`none` がパニックを表す。

後半では、ログが索引に対して何を意味するか（`Decoded`）を索引から切り離して定め、
`handleEvent` がその意味を適用することを示す（`handleEvent_eq`）。以後の証明はこの形だけを使う。
-/

namespace RescueProxy

variable (c : Contracts) (rp : RocketPool)

def handleNodeEvent (event : Log) (e : ExecutionLayer) : Option ExecutionLayer := do
  let topic0 ← event.topics[0]?
  if topic0 = nodeRegisteredTopic then
    let addr := bytesToAddress (← event.topics[1]?)
    return e.apply (.node addr {})
  if topic0 = smoothingPoolStatusChangedTopic then
    let nodeAddr := bytesToAddress (← event.topics[1]?)
    let status := setBytes event.data
    match e.nodeIndex nodeAddr with
    | some n => return e.apply (.node nodeAddr { n with inSmoothingPool := status == 1 })
    | none =>
      -- 記録を作って配布先を計算するが、索引には `Store` しない
      let _n : NodeInfo :=
        { feeDistributor := (rp.getDistributorAddress nodeAddr none).toOption.getD 0
          inSmoothingPool := status == 1 }
      return e
  return e

def handleMinipoolEvent (event : Log) (e : ExecutionLayer) : Option ExecutionLayer := do
  let topic0 ← event.topics[0]?
  if topic0 ≠ minipoolLaunchedTopic then return e
  let nodeAddr := bytesToAddress (← event.topics[2]?)
  let minipoolAddr := bytesToAddress (← event.topics[1]?)
  match rp.getMinipoolDetails minipoolAddr none with
  | .error _ => return e
  | .ok pubkey => return e.apply (.minipool pubkey nodeAddr)

def handleEvent (event : Log) (e : ExecutionLayer) : Option ExecutionLayer := do
  let e ←
    if c.rocketNodeManager = event.address then handleNodeEvent rp event e
    else if c.rocketMinipoolManager = event.address then handleMinipoolEvent rp event e
    else pure e
  return { e with highestBlock := int64 event.blockNumber }

/-- `for _, event := range events { e.handleEvent(event) }` -/
def handleEvents : List Log → ExecutionLayer → Option ExecutionLayer
  | [], e => some e
  | event :: events, e => (handleEvent c rp event e).bind (handleEvents events)

def validatorFeeRecipient (e : ExecutionLayer) (pubkey : ValidatorPubkey) (queryNodeAddr : Option Address) :
    Option Address × Bool :=
  match e.minipoolIndex pubkey with
  | none => (none, false)
  | some nodeAddr =>
    if queryNodeAddr.any (fun q => q != nodeAddr) then (none, true)
    else
      match e.nodeIndex nodeAddr with
      | none => (none, false)
      | some n => if n.inSmoothingPool then (some c.smoothingPool, false) else (some n.feeDistributor, false)

@[simp] theorem handleEvents_nil (e : ExecutionLayer) : handleEvents c rp [] e = some e := rfl

@[simp] theorem handleEvents_cons (l : Log) (ls : List Log) (e : ExecutionLayer) :
    handleEvents c rp (l :: ls) e = (handleEvent c rp l e).bind (handleEvents c rp ls) := rfl

theorem handleEvents_append (ls ms : List Log) (e : ExecutionLayer) :
    handleEvents c rp (ls ++ ms) e = (handleEvents c rp ls e).bind (handleEvents c rp ms) := by
  induction ls generalizing e with
  | nil => rfl
  | cons l ls ih => cases h : handleEvent c rp l e <;> simp [h, ih]

/-! ## ログの意味 -/

/-- ログ一つが索引に対して表すもの。 -/
inductive Decoded where
  | nodeRegistered (node : Address)
  | smoothingPool (node : Address) (status : Bool)
  | minipoolCreated (pubkey : ValidatorPubkey) (node : Address)
  | ignored
  deriving DecidableEq, Repr

/-- `handleNodeEvent` が読むログの意味。`none` はパニック。 -/
def decodeNodeEvent (event : Log) : Option Decoded := do
  let topic0 ← event.topics[0]?
  if topic0 = nodeRegisteredTopic then return .nodeRegistered (bytesToAddress (← event.topics[1]?))
  if topic0 = smoothingPoolStatusChangedTopic then
    return .smoothingPool (bytesToAddress (← event.topics[1]?)) (setBytes event.data == 1)
  return .ignored

/-- `handleMinipoolEvent` が読むログの意味。公開鍵の問い合わせの失敗は無視になる。 -/
def decodeMinipoolEvent (event : Log) : Option Decoded := do
  let topic0 ← event.topics[0]?
  if topic0 ≠ minipoolLaunchedTopic then return .ignored
  let nodeAddr := bytesToAddress (← event.topics[2]?)
  match rp.getMinipoolDetails (bytesToAddress (← event.topics[1]?)) none with
  | .error _ => return .ignored
  | .ok pubkey => return .minipoolCreated pubkey nodeAddr

/-- `handleEvent` の分岐をたどって、ログの意味を読む。 -/
def decode (event : Log) : Option Decoded :=
  if c.rocketNodeManager = event.address then decodeNodeEvent event
  else if c.rocketMinipoolManager = event.address then decodeMinipoolEvent rp event
  else some .ignored

/-- 意味を索引に適用する。状態の変化した節点のない smoothing pool の更新は何もしない。 -/
def Decoded.applyTo : Decoded → ExecutionLayer → ExecutionLayer
  | .nodeRegistered n, e => e.apply (.node n {})
  | .smoothingPool n v, e =>
    match e.nodeIndex n with
    | some i => e.apply (.node n { i with inSmoothingPool := v })
    | none => e
  | .minipoolCreated p n, e => e.apply (.minipool p n)
  | .ignored, e => e

@[simp] theorem Decoded.applyTo_highestBlock (d : Decoded) (e : ExecutionLayer) :
    (d.applyTo e).highestBlock = e.highestBlock := by
  cases d with
  | smoothingPool n v => simp only [applyTo]; split <;> simp
  | _ => simp [applyTo]

theorem handleNodeEvent_eq (l : Log) (e : ExecutionLayer) :
    handleNodeEvent rp l e = (decodeNodeEvent l).map (·.applyTo e) := by
  unfold handleNodeEvent decodeNodeEvent
  cases l.topics[0]? with
  | none => rfl
  | some t0 =>
    cases l.topics[1]? <;> simp only [Option.pure_def, Option.bind_eq_bind, Option.bind] <;>
      split_ifs <;> simp only [Option.map_some', Option.map_none', Decoded.applyTo]
    split <;> rfl

theorem handleMinipoolEvent_eq (l : Log) (e : ExecutionLayer) :
    handleMinipoolEvent rp l e = (decodeMinipoolEvent rp l).map (·.applyTo e) := by
  unfold handleMinipoolEvent decodeMinipoolEvent
  cases l.topics[0]? with
  | none => rfl
  | some t0 =>
    by_cases ht : t0 = minipoolLaunchedTopic
    · cases l.topics[2]? <;> cases l.topics[1]? <;> simp only [ht, Option.pure_def, Option.bind_eq_bind,
        Option.bind, ne_eq, not_true_eq_false, if_false]
      all_goals first | rfl | (split <;> rfl)
    · simp [ht, Decoded.applyTo]

theorem handleEvent_eq (l : Log) (e : ExecutionLayer) :
    handleEvent c rp l e = (decode c rp l).map fun d => { d.applyTo e with highestBlock := int64 l.blockNumber } := by
  unfold handleEvent decode
  split_ifs
  · rw [handleNodeEvent_eq]; cases decodeNodeEvent l <;> rfl
  · rw [handleMinipoolEvent_eq]; cases decodeMinipoolEvent rp l <;> rfl
  · rfl

end RescueProxy
