import Vls.Chain.Tracker
import Vls.Monitor.Listener

/-! # The monitor as a listener of the tracker

The monitor of a channel is told of a block at once, with its transactions, or piece by piece while
the block is streamed. In the second case it keeps what it has made of the pieces until it is told
whether the block is added or removed. -/

namespace Vls.Monitor

open Chain (BlockHash PushEvent ChainListener)

/-- The state of decoding a streamed block, with the hash of the block once its start was seen. -/
structure StreamState extends BlockDecodeState where
  blockHash : Option BlockHash

structure ChainMonitor where
  fundingOutpoint : OutPoint
  state : State
  /-- The state of decoding, while a block is being streamed. -/
  decodeState : Option StreamState
  commitmentPointProvider : CommitmentPointProvider

structure PushListener where
  decodeState : StreamState
  sawBlock : Bool

namespace PushListener

variable (prims : Primitives) (provider : CommitmentPointProvider) (l : PushListener)

/-- A listener that never saw the start of a block ignores what comes. -/
def isNotReadyForPush : Result Empty Bool :=
  if l.sawBlock then
    if l.decodeState.blockHash.isSome then .ok false
    else Result.panic "saw block but no decode state"
  else
    if l.decodeState.blockHash.isNone then .ok true
    else Result.panic "never saw a block but decode state is present"

def onBlockStart (hash : BlockHash) : Result Empty PushListener :=
  if l.decodeState.blockHash.isSome then Result.panic "saw more than one on_block_start"
  else .ok { l with decodeState.blockHash := some hash, sawBlock := true }

def whenReady (f : BlockDecodeState → Result Empty BlockDecodeState) :
    Result Empty PushListener := do
  if ← l.isNotReadyForPush then .ok l
  else
    let decoded ← f l.decodeState.toBlockDecodeState
    .ok { l with decodeState.toBlockDecodeState := decoded }

def onEvent (blockHash : Chain.BlockHeader → BlockHash) : PushEvent → Result Empty PushListener
  | .blockStart header => l.onBlockStart (blockHash header)
  | .transactionStart version => l.whenReady fun d => .ok (d.onTransactionStart version)
  | .transactionInput input => l.whenReady fun d => d.onTransactionInput input
  | .transactionOutput output => l.whenReady fun d => d.onTransactionOutput output
  | .transactionEnd lockTime txid =>
    l.whenReady fun d => d.onTransactionEnd prims provider lockTime txid
  | .blockEnd => .ok l

end PushListener

namespace ChainMonitor

variable (prims : Primitives) (m : ChainMonitor)

def onAddBlock (txs : List Transaction) : Result Empty (ChainMonitor × Watch) := do
  let (state, watch) ← m.state.onAddBlock prims m.commitmentPointProvider txs
  .ok ({ m with state := state }, watch)

def onRemoveBlock (txs : List Transaction) : Result Empty (ChainMonitor × Watch) := do
  let (state, watch) ← m.state.onRemoveBlock prims m.commitmentPointProvider txs
  .ok ({ m with state := state }, watch)

/-- The end of a streamed block. A monitor that saw no block start is not ready, and bails. -/
def onStreamedBlockEnd (finish : State → List StateChange → Result Empty (State × Watch))
    (blockHash : BlockHash) : Result Empty (ChainMonitor × Watch) :=
  let taken := { m with decodeState := none }
  if m.state.sawBlock = false then .ok (taken, .none)
  else do
    let decodeState ← Result.expect "called `Option::unwrap()` on a `None` value" m.decodeState
    if decodeState.blockHash ≠ some blockHash then
      Result.panic "assertion `left == right` failed"
    let (state, watch) ← finish m.state decodeState.changes
    .ok ({ taken with state := state }, watch)

def onAddStreamedBlockEnd (blockHash : BlockHash) : Result Empty (ChainMonitor × Watch) :=
  m.onStreamedBlockEnd State.onAddBlockEnd blockHash

def onRemoveStreamedBlockEnd (blockHash : BlockHash) : Result Empty (ChainMonitor × Watch) :=
  m.onStreamedBlockEnd State.onRemoveBlockEnd blockHash

/-- A piece of a streamed block. The first one makes a copy of the state to decode with. -/
def onPush (blockHash : Chain.BlockHeader → BlockHash) (event : PushEvent) :
    Result Empty ChainMonitor := do
  let decodeState := m.decodeState.getD ⟨.new m.state, none⟩
  let l ← PushListener.onEvent prims m.commitmentPointProvider ⟨decodeState, m.state.sawBlock⟩
    blockHash event
  .ok { m with decodeState := some l.decodeState, state.sawBlock := l.sawBlock }

end ChainMonitor

def listener (prims : Primitives) (blockHash : Chain.BlockHeader → BlockHash) :
    ChainListener ChainMonitor OutPoint where
  key m := m.fundingOutpoint
  onAddBlock m txs _ := m.onAddBlock prims txs
  onAddStreamedBlockEnd m hash := m.onAddStreamedBlockEnd hash
  onRemoveBlock m txs _ := m.onRemoveBlock prims txs
  onRemoveStreamedBlockEnd m hash := m.onRemoveStreamedBlockEnd hash
  onPush m event := m.onPush prims blockHash event

end Vls.Monitor
