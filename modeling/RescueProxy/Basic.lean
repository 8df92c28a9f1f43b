import Mathlib.Logic.Function.Basic
import Mathlib.Algebra.Group.Int

/-!
# データの形

`execution-layer.go` が扱う値：アドレス、ハッシュ、ログ、二つの索引と `highestBlock`。
索引への書き込みは `sync.Map.Store` だけなので、それを `Store` として一つの型にまとめる。
-/

namespace RescueProxy

/-- 20 バイトのアカウントのアドレス（`common.Address`）。 -/
abbrev Address := BitVec 160

/-- 32 バイトのハッシュ（`common.Hash`）。ログのトピックの型。 -/
abbrev Hash := BitVec 256

/-- 48 バイトのバリデータの公開鍵（`rptypes.ValidatorPubkey`）。 -/
abbrev ValidatorPubkey := BitVec 384

/-- 上流の呼び出しが返す誤り。 -/
abbrev Error := String

/-- `common.BytesToAddress(h.Bytes())`：後ろの 20 バイト、つまり下位 160 ビット。 -/
def bytesToAddress (h : Hash) : Address := h.setWidth 160

/-- 索引付きの引数としてトピックに入るアドレス（左を 0 で埋めた 32 バイト）。 -/
def Address.toHash (a : Address) : Hash := a.setWidth 256

@[simp] theorem bytesToAddress_toHash (a : Address) : bytesToAddress a.toHash = a := by
  simp [bytesToAddress, Address.toHash, BitVec.setWidth_setWidth_of_le]

/-- `big.NewInt(0).SetBytes(data)`：ビッグエンディアンの符号なし整数。 -/
def setBytes (data : List UInt8) : Nat := data.foldl (fun acc b => acc * 256 + b.toNat) 0

/-- `int64(n)`：`uint64` を 2 の補数で読み直す。 -/
def int64 (n : UInt64) : Int := if n.toNat < 2 ^ 63 then n.toNat else n.toNat - 2 ^ 64

/-- 連鎖のログ（`types.Log`）のうち、ここで読むもの。 -/
structure Log where
  address : Address
  topics : List Hash
  data : List UInt8
  blockNumber : UInt64
  deriving DecidableEq, Repr

/-- ブロックのヘッダ（`types.Header`）のうち、ここで読む番号。 -/
structure Header where
  number : Nat
  deriving DecidableEq, Repr

/-! ## イベントのトピック

`ecEventsConnect` は `crypto.Keccak256Hash` でイベントの署名からトピックを作る。ここではその値を置く。 -/

/-- `Keccak256Hash("NodeRegistered(address,uint256)")` -/
def nodeRegisteredTopic : Hash :=
  0xf773bca07d020a1bc1fdd45ea3db573da547dd27180143afaf075c158a847594#256

/-- `Keccak256Hash("NodeSmoothingPoolStateChanged(address,bool)")` -/
def smoothingPoolStatusChangedTopic : Hash :=
  0xed2d3ca39683fb0f50a70ed75c33a19bfe200e529d99e6f7518453b3fc4e9be4#256

/-- `Keccak256Hash("MinipoolCreated(address,address,uint256)")` -/
def minipoolLaunchedTopic : Hash :=
  0x08b4b91bafaf992145c5dd7e098dfcdb32f879714c154c651c2758a44c7aeae4#256

theorem smoothingPoolStatusChangedTopic_ne : smoothingPoolStatusChangedTopic ≠ nodeRegisteredTopic := by
  decide

theorem minipoolLaunchedTopic_ne :
    minipoolLaunchedTopic ≠ nodeRegisteredTopic ∧ minipoolLaunchedTopic ≠ smoothingPoolStatusChangedTopic := by
  decide

/-! ## 索引 -/

/-- 節点ごとの記録（`nodeInfo`）。既定値は Go の零値 `&nodeInfo{}`。 -/
structure NodeInfo where
  inSmoothingPool : Bool := false
  feeDistributor : Address := 0
  deriving DecidableEq, Repr

/-- `ExecutionLayer` の書き換わる部分：二つの `sync.Map` と `highestBlock`。 -/
structure ExecutionLayer where
  nodeIndex : Address → Option NodeInfo
  minipoolIndex : ValidatorPubkey → Option Address
  highestBlock : Int

/-- `NewExecutionLayer` が作る空の索引。`highestBlock` は `ecEventsConnect` が置くまで読まれない。 -/
def ExecutionLayer.empty : ExecutionLayer := ⟨fun _ => none, fun _ => none, 0⟩

/-- 二つの索引。`highestBlock` を除いた部分。 -/
def ExecutionLayer.indices (e : ExecutionLayer) : (Address → Option NodeInfo) × (ValidatorPubkey → Option Address) :=
  (e.nodeIndex, e.minipoolIndex)

/-- 索引への一回の `Store`。 -/
inductive Store where
  | node (addr : Address) (info : NodeInfo)
  | minipool (pubkey : ValidatorPubkey) (addr : Address)
  deriving DecidableEq, Repr

namespace ExecutionLayer

def apply (e : ExecutionLayer) : Store → ExecutionLayer
  | .node addr info => { e with nodeIndex := Function.update e.nodeIndex addr (some info) }
  | .minipool pubkey addr => { e with minipoolIndex := Function.update e.minipoolIndex pubkey (some addr) }

/-- 書き込みを順に行う。 -/
def applyAll (e : ExecutionLayer) (ws : List Store) : ExecutionLayer := ws.foldl apply e

@[simp] theorem apply_highestBlock (e : ExecutionLayer) (w : Store) :
    (e.apply w).highestBlock = e.highestBlock := by cases w <;> rfl

@[simp] theorem apply_node_nodeIndex (e : ExecutionLayer) (a : Address) (i : NodeInfo) :
    (e.apply (.node a i)).nodeIndex = Function.update e.nodeIndex a (some i) := rfl

@[simp] theorem apply_node_minipoolIndex (e : ExecutionLayer) (a : Address) (i : NodeInfo) :
    (e.apply (.node a i)).minipoolIndex = e.minipoolIndex := rfl

@[simp] theorem apply_minipool_nodeIndex (e : ExecutionLayer) (p : ValidatorPubkey) (a : Address) :
    (e.apply (.minipool p a)).nodeIndex = e.nodeIndex := rfl

@[simp] theorem apply_minipool_minipoolIndex (e : ExecutionLayer) (p : ValidatorPubkey) (a : Address) :
    (e.apply (.minipool p a)).minipoolIndex = Function.update e.minipoolIndex p (some a) := rfl

@[simp] theorem applyAll_nil (e : ExecutionLayer) : e.applyAll [] = e := rfl

@[simp] theorem applyAll_cons (e : ExecutionLayer) (w : Store) (ws : List Store) :
    e.applyAll (w :: ws) = (e.apply w).applyAll ws := rfl

theorem applyAll_append (e : ExecutionLayer) (ws vs : List Store) :
    e.applyAll (ws ++ vs) = (e.applyAll ws).applyAll vs := List.foldl_append _ _ _ _

end ExecutionLayer

/-! ## ログの問い合わせ

`ethereum.FilterQuery` と、上流がそれに合うログを選ぶ規則：ブロックは範囲（両端を含む）にあり、
アドレスはどれかに一致し、トピックは位置ごとに、空でない候補の並びのどれかに一致する。 -/

structure FilterQuery where
  addresses : List Address
  topics : List (List Hash)
  fromBlock : Option Int := none
  toBlock : Option Int := none
  deriving DecidableEq, Repr

def topicsMatch : List (List Hash) → List Hash → Bool
  | [], _ => true
  | _ :: _, [] => false
  | sub :: subs, t :: ts => (sub.isEmpty || sub.contains t) && topicsMatch subs ts

def FilterQuery.matches (q : FilterQuery) (l : Log) : Bool :=
  (q.fromBlock.all fun b => b ≤ (l.blockNumber.toNat : Int)) && (q.toBlock.all fun b => (l.blockNumber.toNat : Int) ≤ b) &&
    (q.addresses.isEmpty || q.addresses.contains l.address) && topicsMatch q.topics l.topics

/-- 二つの契約の三つのイベント（`e.query` とバックフィルの問い合わせ）。 -/
def eventQuery (rocketMinipoolManager rocketNodeManager : Address) : FilterQuery :=
  { addresses := [rocketMinipoolManager, rocketNodeManager]
    topics := [[nodeRegisteredTopic, smoothingPoolStatusChangedTopic, minipoolLaunchedTopic]] }

/-! ## 上流の読み出し -/

/-- `rocketpool-go` の読み出し。`opts` は読むブロック（`none` は Go の `nil`、最新のブロック）。 -/
structure RocketPool where
  getContract : String → Option Nat → Except Error Address
  getNodes : Option Nat → Except Error (List Address)
  getSmoothingPoolRegistrationState : Address → Option Nat → Except Error Bool
  getDistributorAddress : Address → Option Nat → Except Error Address
  getNodeMinipools : Address → Option Nat → Except Error (List ValidatorPubkey)
  getMinipoolDetails : Address → Option Nat → Except Error ValidatorPubkey

/-- `Init` が読み込む三つの契約のアドレス。 -/
structure Contracts where
  rocketNodeManager : Address
  rocketMinipoolManager : Address
  smoothingPool : Address
  deriving DecidableEq, Repr

end RescueProxy
