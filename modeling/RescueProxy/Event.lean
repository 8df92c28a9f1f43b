import RescueProxy.Handler

/-!
# 連鎖のイベントとそのログ

連鎖が出す三つのイベントと、それが載るログの形（ABI の符号化）。
`decode` は符号化されたログから元のイベントの意味を読み戻す。
-/

namespace RescueProxy

/-- 連鎖のイベント。`minipoolCreated` はミニプールの契約のアドレスと、その節点を持つ。 -/
inductive ChainEvent where
  | nodeRegistered (node : Address)
  | smoothingPoolStateChanged (node : Address) (state : Bool)
  | minipoolCreated (minipool node : Address)
  deriving DecidableEq, Repr

/-- `bool` の ABI 符号化：32 バイトのビッグエンディアンの 0 か 1。 -/
def boolData (b : Bool) : List UInt8 := List.replicate 31 0 ++ [if b then 1 else 0]

@[simp] theorem setBytes_boolData (b : Bool) : (setBytes (boolData b) == 1) = b := by
  cases b <;> rfl

/-- イベントのログ。索引付きの引数はトピックに、`bool` はデータに入る。時刻の引数は読まれないので省く。 -/
def ChainEvent.toLog (c : Contracts) (blockNumber : UInt64) : ChainEvent → Log
  | .nodeRegistered n => ⟨c.rocketNodeManager, [nodeRegisteredTopic, n.toHash], [], blockNumber⟩
  | .smoothingPoolStateChanged n v =>
    ⟨c.rocketNodeManager, [smoothingPoolStatusChangedTopic, n.toHash], boolData v, blockNumber⟩
  | .minipoolCreated mp n =>
    ⟨c.rocketMinipoolManager, [minipoolLaunchedTopic, mp.toHash, n.toHash], [], blockNumber⟩

@[simp] theorem ChainEvent.toLog_blockNumber (c : Contracts) (b : UInt64) (ev : ChainEvent) :
    (ev.toLog c b).blockNumber = b := by
  cases ev <;> rfl

/-- イベントが索引に対して表すはずのもの。公開鍵はミニプールの契約から問い合わせる。 -/
def ChainEvent.decoded (rp : RocketPool) : ChainEvent → Decoded
  | .nodeRegistered n => .nodeRegistered n
  | .smoothingPoolStateChanged n v => .smoothingPool n v
  | .minipoolCreated mp n =>
    match rp.getMinipoolDetails mp none with
    | .ok p => .minipoolCreated p n
    | .error _ => .ignored

variable (c : Contracts) (rp : RocketPool) (b : UInt64)

@[simp] theorem decode_nodeRegistered (n : Address) :
    decode c rp ((ChainEvent.nodeRegistered n).toLog c b) = some (.nodeRegistered n) := by
  simp [decode, decodeNodeEvent, ChainEvent.toLog]

@[simp] theorem decode_smoothingPoolStateChanged (n : Address) (v : Bool) :
    decode c rp ((ChainEvent.smoothingPoolStateChanged n v).toLog c b) = some (.smoothingPool n v) := by
  simp [decode, decodeNodeEvent, ChainEvent.toLog, smoothingPoolStatusChangedTopic_ne]

theorem decode_minipoolCreated (mp n : Address) :
    decode c rp ((ChainEvent.minipoolCreated mp n).toLog c b) =
      some (if c.rocketNodeManager = c.rocketMinipoolManager then .ignored
        else (ChainEvent.minipoolCreated mp n).decoded rp) := by
  by_cases h : c.rocketNodeManager = c.rocketMinipoolManager
  · simp [decode, decodeNodeEvent, ChainEvent.toLog, h, minipoolLaunchedTopic_ne]
  · simp only [decode, ChainEvent.toLog, h, if_false, if_true, decodeMinipoolEvent, ChainEvent.decoded]
    cases hp : rp.getMinipoolDetails mp none <;> simp [hp]

/-! ## 例に使う連鎖

節点のない連鎖。三つの契約は 1、2、3 番地、配布先は節点のアドレスに 0x100 を足したもの、
ミニプールの公開鍵は契約のアドレスを広げたもの。 -/

def sampleContracts : Contracts := ⟨1, 2, 3⟩

def sampleRocketPool : RocketPool where
  getContract name _ :=
    .ok (if name = "rocketNodeManager" then 1 else if name = "rocketMinipoolManager" then 2 else 3)
  getNodes _ := .ok []
  getSmoothingPoolRegistrationState _ _ := .ok false
  getDistributorAddress n _ := .ok (n + 0x100)
  getNodeMinipools _ _ := .ok []
  getMinipoolDetails mp _ := .ok (mp.setWidth 384)

/-- 例の RocketPool：スナップショットに節点 `0x44` があり、ミニプール `0x55` を持つ。 -/
def snapshotRocketPool : RocketPool :=
  { sampleRocketPool with
    getNodes := fun _ => .ok [0x44]
    getNodeMinipools := fun n _ => .ok (if n = 0x44 then [(0x55 : Address).setWidth 384] else []) }

/-- 例の履歴：ブロック 102 で節点 `0x22` が登録され、103 でそれがミニプール `0x33` を作る。 -/
def sampleHistory : List (ChainEvent × UInt64) := [(.nodeRegistered 0x22, 102), (.minipoolCreated 0x33 0x22, 103)]

/-- 例の履歴に続けて、スナップショットの節点 `0x44` がブロック 104 でミニプール `0x66` を作る。 -/
def snapshotHistory : List (ChainEvent × UInt64) := sampleHistory ++ [(.minipoolCreated 0x66 0x44, 104)]

/-! ## smoothing pool の状態の変化 -/

/-- 登録の見えていない節点が smoothing pool に入っても記録は索引に入らず、`ValidatorFeeRecipient` は「索引の不具合」の答えを返す。 -/
theorem handleEvent_smoothingPool_unknown_node :
    (handleEvent sampleContracts sampleRocketPool
        ((ChainEvent.smoothingPoolStateChanged 0x22 true).toLog sampleContracts 101)
        (ExecutionLayer.empty.apply (.minipool ((0x33 : Address).setWidth 384) 0x22))).map
      (fun e => (e.nodeIndex 0x22, validatorFeeRecipient sampleContracts e ((0x33 : Address).setWidth 384) none)) =
      some (none, (none, false)) := by
  decide

end RescueProxy
