import Mathlib.Data.Finset.Basic
import Vls.Lib.Marked
import Vls.Monitor.Commitment

/-! # The state of a chain monitor

The monitor of a channel follows the funding and closing of the channel on chain. What it finds in
a block is a list of changes; they are applied when the block is added, and taken back one by one,
in the same order, when the block is removed. -/

namespace Vls.Monitor

/-- The outputs of a unilateral close that are to be swept, marked once they are spent. A
    second-level output is one that an HTLC output was spent into. -/
structure ClosingOutpoints where
  txid : BitVec 256
  ourOutput : Option (Marked U32)
  htlcOutputs : List (Marked U32)
  secondLevelHtlcOutputs : List (Marked OutPoint)
  deriving DecidableEq

namespace ClosingOutpoints

def new (txid : BitVec 256) (ourOutputIndex : Option U32) (htlcOutputIndexes : List U32) :
    ClosingOutpoints where
  txid := txid
  ourOutput := ourOutputIndex.map (⟨·, false⟩)
  htlcOutputs := Marked.unmarked htlcOutputIndexes
  secondLevelHtlcOutputs := []

variable (c : ClosingOutpoints)

def includesOurOutput (outpoint : OutPoint) : Bool :=
  c.txid = outpoint.txid ∧ c.ourOutput.map (·.key) = some outpoint.vout

def includesHtlcOutput (outpoint : OutPoint) : Bool :=
  c.txid = outpoint.txid ∧ Marked.Has c.htlcOutputs outpoint.vout

def includesSecondLevelHtlcOutput (outpoint : OutPoint) : Bool :=
  Marked.Has c.secondLevelHtlcOutputs outpoint

def setOurOutputSpent (vout : U32) (spent : Bool) : Result Empty ClosingOutpoints := do
  let ourOutput ← Result.expect "called `Option::unwrap()` on a `None` value" c.ourOutput
  if ourOutput.key = vout then .ok { c with ourOutput := some ⟨vout, spent⟩ }
  else Result.panic "assertion `left == right` failed"

def setHtlcOutputSpent (vout : U32) (spent : Bool) : Result Empty ClosingOutpoints :=
  if Marked.Has c.htlcOutputs vout then
    .ok { c with htlcOutputs := Marked.setMark vout spent c.htlcOutputs }
  else Result.panic "called `Option::unwrap()` on a `None` value"

def isAllSpent : Bool :=
  (c.ourOutput.map (·.mark)).getD true && Marked.allMarked c.htlcOutputs
    && Marked.allMarked c.secondLevelHtlcOutputs

def addSecondLevelHtlcOutput (outpoint : OutPoint) : ClosingOutpoints :=
  { c with secondLevelHtlcOutputs := c.secondLevelHtlcOutputs ++ [⟨outpoint, false⟩] }

def setSecondLevelHtlcSpent (outpoint : OutPoint) (spent : Bool) : Result Empty ClosingOutpoints :=
  if Marked.Has c.secondLevelHtlcOutputs outpoint then
    .ok { c with
      secondLevelHtlcOutputs := Marked.setMark outpoint spent c.secondLevelHtlcOutputs }
  else Result.panic "second-level HTLC outpoint"

def removeSecondLevelHtlcOutput (outpoint : OutPoint) : ClosingOutpoints :=
  { c with secondLevelHtlcOutputs := Marked.remove outpoint c.secondLevelHtlcOutputs }

variable {c : ClosingOutpoints} {outpoint : OutPoint}

@[simp]
theorem includesOurOutput_iff : c.includesOurOutput outpoint ↔
    c.txid = outpoint.txid ∧ c.ourOutput.map (·.key) = some outpoint.vout := by
  simp [includesOurOutput]

@[simp]
theorem includesHtlcOutput_iff : c.includesHtlcOutput outpoint ↔
    c.txid = outpoint.txid ∧ Marked.Has c.htlcOutputs outpoint.vout := by
  simp [includesHtlcOutput]

@[simp]
theorem includesSecondLevelHtlcOutput_iff : c.includesSecondLevelHtlcOutput outpoint ↔
    Marked.Has c.secondLevelHtlcOutputs outpoint := by
  simp [includesSecondLevelHtlcOutput]

end ClosingOutpoints

/-- Heights have no end here. Those of the source have 32 bits, which no chain comes to, and a
    removal at height 0 overflows. -/
structure State where
  height : Nat
  fundingTxids : List (BitVec 256)
  /-- The index of the funding output, for each funding transaction. -/
  fundingVouts : List U32
  fundingInputs : Finset OutPoint
  fundingHeight : Option Nat
  /-- The funding outpoint that was confirmed. -/
  fundingOutpoint : Option OutPoint
  fundingDoubleSpentHeight : Option Nat
  mutualClosingHeight : Option Nat
  unilateralClosingHeight : Option Nat
  closingOutpoints : Option ClosingOutpoints
  closingSweptHeight : Option Nat
  ourOutputSweptHeight : Option Nat
  sawBlock : Bool
  sawForgetChannel : Bool
  deriving DecidableEq

inductive StateChange where
  | fundingConfirmed (outpoint : OutPoint)
  | fundingInputSpent (outpoint : OutPoint)
  | unilateralCloseConfirmed (txid : BitVec 256) (fundingOutpoint : OutPoint)
      (ourOutputIndex : Option U32) (htlcsIndices : List U32)
  | mutualCloseConfirmed (txid : BitVec 256) (fundingOutpoint : OutPoint)
  | ourOutputSpent (vout : U32)
  | htlcOutputSpent (vout : U32) (secondLevelHtlcOutpoint : OutPoint)
  | secondLevelHtlcOutputSpent (outpoint : OutPoint)
  deriving DecidableEq

/-- What the monitor asks of the tracker: outpoints to watch from now on, and outpoints to watch
    no longer. When a block is removed, the tracker does the reverse. -/
structure Watch where
  adds : List OutPoint
  removes : List OutPoint
  deriving DecidableEq

namespace Watch

def none : Watch := ⟨[], []⟩

def append (w w' : Watch) : Watch := ⟨w.adds ++ w'.adds, w.removes ++ w'.removes⟩

end Watch

namespace State

variable (s : State)

def isClosingSwept : Bool :=
  (s.closingOutpoints.map (·.isAllSpent)).getD false

def isOurOutputSwept : Bool :=
  (s.closingOutpoints.map fun c => (c.ourOutput.map (·.mark)).getD true).getD false

def unwrapClosing : Result Empty ClosingOutpoints :=
  Result.expect "called `Option::unwrap()` on a `None` value" s.closingOutpoints

def applyForwardChange : StateChange → Result Empty (State × Watch)
  | .fundingConfirmed outpoint =>
    .ok ({ s with
      fundingHeight := some s.height
      fundingOutpoint := some outpoint
      fundingDoubleSpentHeight := none }, ⟨[outpoint], []⟩)
  | .fundingInputSpent outpoint =>
    .ok ({ s with
      fundingDoubleSpentHeight := some (s.fundingDoubleSpentHeight.getD s.height) },
      ⟨[], [outpoint]⟩)
  | .unilateralCloseConfirmed txid fundingOutpoint ourOutputIndex htlcsIndices =>
    .ok ({ s with
      unilateralClosingHeight := some s.height
      closingOutpoints := some (.new txid ourOutputIndex htlcsIndices) },
      ⟨ourOutputIndex.toList.map (⟨txid, ·⟩) ++ htlcsIndices.map (⟨txid, ·⟩), [fundingOutpoint]⟩)
  | .mutualCloseConfirmed _ fundingOutpoint =>
    .ok ({ s with mutualClosingHeight := some s.height }, ⟨[], [fundingOutpoint]⟩)
  | .ourOutputSpent vout => do
    let c ← s.unwrapClosing
    let c ← c.setOurOutputSpent vout true
    .ok ({ s with closingOutpoints := some c }, ⟨[], [⟨c.txid, vout⟩]⟩)
  | .htlcOutputSpent vout secondLevel => do
    let c ← s.unwrapClosing
    let c ← c.setHtlcOutputSpent vout true
    .ok ({ s with closingOutpoints := some (c.addSecondLevelHtlcOutput secondLevel) },
      ⟨[secondLevel], [⟨c.txid, vout⟩]⟩)
  | .secondLevelHtlcOutputSpent outpoint => do
    let c ← s.unwrapClosing
    let c ← c.setSecondLevelHtlcSpent outpoint true
    .ok ({ s with closingOutpoints := some c }, ⟨[], [outpoint]⟩)

/-- The lists are those of the forward change, since the tracker swaps them. But for a spent HTLC
    output the code swaps them as well, and for a spent second-level output it lists the outpoint on
    the other side. -/
def applyBackwardChange : StateChange → Result Empty (State × Watch)
  | .fundingConfirmed outpoint =>
    if s.fundingHeight = some s.height then
      .ok ({ s with fundingHeight := none, fundingOutpoint := none }, ⟨[outpoint], []⟩)
    else Result.panic "assertion `left == right` failed"
  | .fundingInputSpent outpoint =>
    .ok (if s.fundingDoubleSpentHeight = some s.height then
        { s with fundingDoubleSpentHeight := none } else s, ⟨[], [outpoint]⟩)
  | .unilateralCloseConfirmed txid fundingOutpoint ourOutputIndex htlcsIndices =>
    if s.unilateralClosingHeight = some s.height then
      .ok ({ s with unilateralClosingHeight := none, closingOutpoints := none },
        ⟨ourOutputIndex.toList.map (⟨txid, ·⟩) ++ htlcsIndices.map (⟨txid, ·⟩),
          [fundingOutpoint]⟩)
    else Result.panic "assertion `left == right` failed"
  | .mutualCloseConfirmed _ fundingOutpoint =>
    .ok ({ s with mutualClosingHeight := none }, ⟨[], [fundingOutpoint]⟩)
  | .ourOutputSpent vout => do
    let c ← s.unwrapClosing
    let c ← c.setOurOutputSpent vout false
    .ok ({ s with closingOutpoints := some c }, ⟨[], [⟨c.txid, vout⟩]⟩)
  | .htlcOutputSpent vout secondLevel => do
    let c ← s.unwrapClosing
    let c ← c.setHtlcOutputSpent vout false
    .ok ({ s with closingOutpoints := some (c.removeSecondLevelHtlcOutput secondLevel) },
      ⟨[⟨c.txid, vout⟩], [secondLevel]⟩)
  | .secondLevelHtlcOutputSpent outpoint => do
    let c ← s.unwrapClosing
    let c ← c.setSecondLevelHtlcSpent outpoint false
    .ok ({ s with closingOutpoints := some c }, ⟨[outpoint], []⟩)

end State

end Vls.Monitor
