import Vls.Monitor.State

/-! # Following the chain block by block

A block is decoded by pushing its transactions, part by part, through a listener that works on a
copy of the monitor's state, so that a transaction is seen in the light of those before it. The
changes it collects are then applied to the state itself, or taken back from it. -/

namespace Vls.Monitor

/-- An output of the close that is to be swept. -/
inductive Tracked where
  | ourOutput
  | htlcOutput
  | secondLevelHtlcOutput
  deriving DecidableEq

/-- Which output of the close an outpoint is, in the order in which the listener asks. -/
def State.tracks (s : State) (outpoint : OutPoint) : Option Tracked :=
  match s.closingOutpoints with
  | some c =>
    if c.includesOurOutput outpoint then some .ourOutput
    else if c.includesHtlcOutput outpoint then some .htlcOutput
    else if c.includesSecondLevelHtlcOutput outpoint then some .secondLevelHtlcOutput
    else none
  | none => none

structure BlockDecodeState where
  changes : List StateChange
  version : U32
  inputNum : Nat
  outputNum : Nat
  closingTx : Option Transaction
  /-- The HTLC outputs spent by the current transaction, and the inputs that spend them. -/
  spentHtlcOutputs : List (U32 × U32)
  /-- The copy of the state. -/
  state : State

namespace BlockDecodeState

def new (state : State) : BlockDecodeState where
  changes := []
  version := 0
  inputNum := 0
  outputNum := 0
  closingTx := none
  spentHtlcOutputs := []
  state := state

variable (d : BlockDecodeState)

def addChange (change : StateChange) : Result Empty BlockDecodeState := do
  let (state, _) ← d.state.applyForwardChange change
  .ok { d with changes := d.changes ++ [change], state := state }

def maxCommitmentOutputs : Nat := 600

def onTransactionStart (version : U32) : BlockDecodeState :=
  { d with
    version := version
    inputNum := 0
    outputNum := 0
    closingTx := none
    spentHtlcOutputs := [] }

def noteFundingInput (outpoint : OutPoint) : Result Empty BlockDecodeState :=
  if outpoint ∈ d.state.fundingInputs then d.addChange (.fundingInputSpent outpoint) else .ok d

/-- A spend of the funding outpoint is gathered, to be looked at when the transaction ends. -/
def gatherClosing (input : TxIn) : BlockDecodeState :=
  if some input.previousOutput = d.state.fundingOutpoint then
    { d with closingTx := some ⟨d.version, 0, [input], []⟩ }
  else d

/-- The spend of an output of the close. That of an HTLC is kept until the transaction ends. -/
def noteSweep (outpoint : OutPoint) : Result Empty BlockDecodeState :=
  match d.state.tracks outpoint with
  | some .ourOutput => d.addChange (.ourOutputSpent outpoint.vout)
  | some .htlcOutput => .ok { d with
      spentHtlcOutputs := d.spentHtlcOutputs ++ [(outpoint.vout, .ofNat 32 d.inputNum)] }
  | some .secondLevelHtlcOutput => d.addChange (.secondLevelHtlcOutputSpent outpoint)
  | none => .ok d

def dropSplice : BlockDecodeState :=
  if d.closingTx.isSome ∧ d.inputNum ≠ 0 then { d with closingTx := none } else d

def onTransactionInput (input : TxIn) : Result Empty BlockDecodeState := do
  let d ← d.noteFundingInput input.previousOutput
  let d ← (d.gatherClosing input).noteSweep input.previousOutput
  let d := d.dropSplice
  .ok { d with inputNum := d.inputNum + 1 }

def onTransactionOutput (output : TxOut) : Result Empty BlockDecodeState := do
  let d ← match d.closingTx with
    | some closingTx =>
      if d.outputNum < maxCommitmentOutputs then
        .ok { d with
          closingTx := some { closingTx with output := closingTx.output ++ [output] } }
      else Result.panic "more than 600 commitment outputs"
    | none => .ok d
  .ok { d with outputNum := d.outputNum + 1 }

end BlockDecodeState

section

variable (prims : Primitives) (provider : CommitmentPointProvider) (closingTx : Transaction)

def spendableHtlcs (commitmentNumber : U64) (htlcIndices : List U32) :
    Result Empty (List U32) :=
  if htlcIndices.isEmpty then .ok []
  else
    (provider.getSpendableHtlcIndices closingTx commitmentNumber).expectOk
      "valid spendable HTLC indices for a decoded commitment transaction"

def unilateralClose (txid : BitVec 256) (commitmentNumber : U64) (fundingOutpoint : OutPoint) :
    Result Empty StateChange := do
  let holderPerCommitment := provider.getHolderCommitmentPoint commitmentNumber
  let cpPerCommitment ← provider.getCounterpartyCommitmentPoint commitmentNumber
  let decoded := decodeCommitmentTx prims closingTx holderPerCommitment cpPerCommitment
    provider.getTransactionParameters
  let spendableHtlcIndices ← spendableHtlcs provider closingTx commitmentNumber decoded.2
  .ok (.unilateralCloseConfirmed txid fundingOutpoint decoded.1 spendableHtlcIndices)

/-- What the close of a channel changes: a unilateral close if the transaction carries a
    commitment number, a mutual one otherwise. -/
def closeChange (txid : BitVec 256) : Result Empty StateChange :=
  match closingTx.input with
  | [input] =>
    match decodeCommitmentNumber prims closingTx provider.getTransactionParameters with
    | some commitmentNumber =>
      unilateralClose prims provider closingTx txid commitmentNumber input.previousOutput
    | none => .ok (.mutualCloseConfirmed txid input.previousOutput)
  | _ => Result.panic "assertion `left == right` failed"

end

namespace BlockDecodeState

variable (prims : Primitives) (provider : CommitmentPointProvider) (d : BlockDecodeState)

def noteFunding (txid : BitVec 256) : Result Empty BlockDecodeState :=
  match d.state.fundingTxids.findIdx? (· = txid) with
  | some ind => do
    let vout ← Result.expect "index out of bounds" (d.state.fundingVouts[ind]?)
    if vout.toNat < d.outputNum then d.addChange (.fundingConfirmed ⟨txid, vout⟩)
    else Result.panic ("tx " ++ txid.toHex ++ " doesn't have funding output index "
      ++ toString vout.toNat)
  | none => .ok d

/-- The close that was gathered. A transaction that creates the current funding is a splice. -/
def noteClosing (lockTime : U32) (txid : BitVec 256) : Result Empty BlockDecodeState :=
  match d.closingTx with
  | some closingTx =>
    let d := { d with closingTx := none }
    if txid ∈ d.state.fundingTxids then .ok d
    else do
      let change ← closeChange prims provider { closingTx with lockTime := lockTime } txid
      d.addChange change
  | none => .ok d

/-- The spend of an HTLC output by an input. The second-level output is taken to be the output at
    the position of the input. -/
def htlcChange (txid : BitVec 256) (spent : U32 × U32) : StateChange :=
  .htlcOutputSpent spent.1 ⟨txid, spent.2⟩

def onTransactionEnd (lockTime : U32) (txid : BitVec 256) : Result Empty BlockDecodeState := do
  let d ← d.noteFunding txid
  let d ← d.noteClosing prims provider lockTime txid
  d.spentHtlcOutputs.foldlM (fun d spent => d.addChange (htlcChange txid spent))
    { d with spentHtlcOutputs := [] }

def pushTransaction (tx : Transaction) : Result Empty BlockDecodeState := do
  let d ← tx.input.foldlM onTransactionInput (d.onTransactionStart tx.version)
  let d ← tx.output.foldlM onTransactionOutput d
  d.onTransactionEnd prims provider tx.lockTime (prims.computeTxid tx)

end BlockDecodeState

namespace State

variable (prims : Primitives) (provider : CommitmentPointProvider) (s : State)

def pushTransactions (txs : List Transaction) : Result Empty BlockDecodeState :=
  txs.foldlM (BlockDecodeState.pushTransaction prims provider) (.new s)

def applyChanges (apply : State → StateChange → Result Empty (State × Watch))
    (changes : List StateChange) : Result Empty (State × Watch) :=
  changes.foldlM (fun (s, watch) change => do
    let (s, more) ← apply s change
    .ok (s, watch.append more)) (s, .none)

/-- The heights at which the close, and our output of it, were swept are set when they were not
    swept before. -/
def noteSwept (closingWasSwept ourOutputWasSwept : Bool) : State :=
  { s with
    closingSweptHeight :=
      if !closingWasSwept && s.isClosingSwept then some s.height else s.closingSweptHeight
    ourOutputSweptHeight :=
      if !ourOutputWasSwept && s.isOurOutputSwept then some s.height else s.ourOutputSweptHeight }

def dropSwept (closingWasSwept ourOutputWasSwept : Bool) : State :=
  { s with
    closingSweptHeight :=
      if closingWasSwept && !s.isClosingSwept then none else s.closingSweptHeight
    ourOutputSweptHeight :=
      if ourOutputWasSwept && !s.isOurOutputSwept then none else s.ourOutputSweptHeight }

def onAddBlockEnd (changes : List StateChange) : Result Empty (State × Watch) := do
  let s := { s with sawBlock := true, height := s.height + 1 }
  let (applied, watch) ← s.applyChanges applyForwardChange changes
  .ok (applied.noteSwept s.isClosingSwept s.isOurOutputSwept, watch)

def onRemoveBlockEnd (changes : List StateChange) : Result Empty (State × Watch) := do
  let (applied, watch) ← s.applyChanges applyBackwardChange changes
  let s := applied.dropSwept s.isClosingSwept s.isOurOutputSwept
  .ok ({ s with height := s.height - 1 }, watch)

def onAddBlock (txs : List Transaction) : Result Empty (State × Watch) := do
  let s := { s with sawBlock := true }
  let decodeState ← s.pushTransactions prims provider txs
  s.onAddBlockEnd decodeState.changes

def onRemoveBlock (txs : List Transaction) : Result Empty (State × Watch) := do
  let s := { s with sawBlock := true }
  let decodeState ← s.pushTransactions prims provider txs
  s.onRemoveBlockEnd decodeState.changes

def minDepth : Nat := 100

def depthOf (otherHeight : Option Nat) : Nat :=
  s.height + 1 - otherHeight.getD (s.height + 1)

def deepEnoughAndSawNodeForget (otherHeight : Option Nat) (limit : Nat) : Bool :=
  if s.depthOf otherHeight < limit then false else s.sawForgetChannel

/-- The funding was double-spent, the channel was closed mutually, or it was closed unilaterally
    and the close was swept, and the host asked to forget the channel. -/
def isDone : Bool :=
  s.deepEnoughAndSawNodeForget s.fundingDoubleSpentHeight minDepth
    || s.deepEnoughAndSawNodeForget s.mutualClosingHeight minDepth
    || s.deepEnoughAndSawNodeForget s.closingSweptHeight minDepth

end State

namespace State

variable (s : State)

def new (height : Nat) : State where
  height := height
  fundingTxids := []
  fundingVouts := []
  fundingInputs := ∅
  fundingHeight := none
  fundingOutpoint := none
  fundingDoubleSpentHeight := none
  mutualClosingHeight := none
  unilateralClosingHeight := none
  closingOutpoints := none
  closingSweptHeight := none
  ourOutputSweptHeight := none
  sawBlock := false
  sawForgetChannel := false

def addFundingOutpoint (outpoint : OutPoint) : Result Empty State :=
  if s.fundingTxids ≠ [] then
    Result.panic "only a single funding tx currently supported"
  else if s.fundingTxids.length ≠ s.fundingVouts.length then
    Result.panic "assertion `left == right` failed"
  else
    .ok { s with
      fundingTxids := s.fundingTxids ++ [outpoint.txid]
      fundingVouts := s.fundingVouts ++ [outpoint.vout] }

def addFundingInputs (tx : Transaction) : State :=
  { s with fundingInputs := s.fundingInputs ∪ (tx.input.map (·.previousOutput)).toFinset }

def addFunding (prims : Primitives) (tx : Transaction) (vout : U32) : Result Empty State := do
  let s ← s.addFundingOutpoint ⟨prims.computeTxid tx, vout⟩
  .ok (s.addFundingInputs tx)

/-- The funding moves to a new outpoint. The outpoint confirmed before stays on record. -/
def replaceFundingOutpoint (outpoint : OutPoint) : State :=
  { s with
    fundingTxids := [outpoint.txid]
    fundingVouts := [outpoint.vout]
    fundingHeight := none
    fundingDoubleSpentHeight := none }

def forgetChannel : State := { s with sawForgetChannel := true }

end State

end Vls.Monitor
