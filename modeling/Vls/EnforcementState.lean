import Vls.Lib.Map
import Vls.Policy.Error
import Vls.Primitives

/-! # The enforcement state of a channel

What the signer remembers of a channel between calls: how far each side has advanced, the
commitments that are current, and, while a splice is in flight, the commitments of the funding
that is about to retire. -/

namespace Vls

/-- The revocation secrets received so far, compressed so that each stored secret yields those
    before it. -/
structure CounterpartyCommitmentSecrets where
  oldSecrets : List (BitVec 256 × U64)
  deriving DecidableEq

namespace CounterpartyCommitmentSecrets

def new : CounterpartyCommitmentSecrets := ⟨[]⟩

def placeSecret (idx : U64) : Nat :=
  ((List.range 48).find? (fun i => idx.getLsbD i)).getD 48

def getMinSeenSecret (secrets : CounterpartyCommitmentSecrets) : U64 :=
  secrets.oldSecrets.foldl (fun least entry => if entry.2 < least then entry.2 else least)
    (1 <<< 48)

/-- Byte `i` of a secret is the one at bits `8 * (31 - i)` of its value. -/
def flipBit (secret : BitVec 256) (bitpos : Nat) : BitVec 256 :=
  secret ^^^ (1 <<< (8 * (31 - bitpos / 8) + bitpos % 8))

def deriveSecret (prims : Primitives) (secret : BitVec 256) : Nat → U64 → BitVec 256
  | 0, _ => secret
  | bitpos + 1, idx =>
    if idx.getLsbD bitpos then
      deriveSecret prims (prims.sha256 (flipBit secret bitpos)) bitpos idx
    else
      deriveSecret prims secret bitpos idx

def provideSecret (prims : Primitives) (secrets : CounterpartyCommitmentSecrets) (idx : U64)
    (secret : BitVec 256) : Option CounterpartyCommitmentSecrets :=
  let pos := placeSecret idx
  if secrets.oldSecrets.length < pos then
    none
  else if (secrets.oldSecrets.take pos).any
      (fun old => deriveSecret prims secret pos old.2 ≠ old.1) then
    none
  else if secrets.getMinSeenSecret ≤ idx then
    some secrets
  else if pos < secrets.oldSecrets.length then
    some ⟨secrets.oldSecrets.set pos (secret, idx)⟩
  else
    some ⟨secrets.oldSecrets ++ [(secret, idx)]⟩

end CounterpartyCommitmentSecrets

/-- The commitments of the funding that a splice is about to retire. -/
structure PrevFundingCommitment where
  outpoint : OutPoint
  currentHolderInfo : Option CommitmentInfo2
  currentHolderSignatures : Option CommitmentSignatures
  nextHolderInfo : Option (CommitmentInfo2 × CommitmentSignatures)
  currentCounterpartyInfo : Option CommitmentInfo2
  retiringPushValueMsat : U64
  deriving DecidableEq

structure EnforcementState where
  nextHolderCommitNum : U64
  nextCounterpartyCommitNum : U64
  nextCounterpartyRevokeNum : U64
  currentCounterpartyPoint : Option PublicKey
  previousCounterpartyPoint : Option PublicKey
  currentHolderCommitInfo : Option CommitmentInfo2
  currentCounterpartySignatures : Option CommitmentSignatures
  nextHolderCommitInfo : Option (CommitmentInfo2 × CommitmentSignatures)
  currentCounterpartyCommitInfo : Option CommitmentInfo2
  previousCounterpartyCommitInfo : Option CommitmentInfo2
  channelClosed : Bool
  initialHolderValue : U64
  counterpartySecrets : Option CounterpartyCommitmentSecrets
  holderCommitmentFunding : Option OutPoint
  prevFundingCommitment : Option PrevFundingCommitment
  counterpartyCommitmentFunding : Option OutPoint
  deriving DecidableEq

/-- The holder's claimable balance before and after a new commitment. -/
structure BalanceDelta where
  curBal : U64
  newBal : U64
  deriving DecidableEq

def minOpt : Option U64 → Option U64 → Option U64
  | some a, some b => some (if a ≤ b then a else b)
  | some a, none => some a
  | none, b => b

namespace EnforcementState

def new (initialHolderValue : U64) : EnforcementState where
  nextHolderCommitNum := 0
  nextCounterpartyCommitNum := 0
  nextCounterpartyRevokeNum := 0
  currentCounterpartyPoint := none
  previousCounterpartyPoint := none
  currentHolderCommitInfo := none
  currentCounterpartySignatures := none
  nextHolderCommitInfo := none
  currentCounterpartyCommitInfo := none
  previousCounterpartyCommitInfo := none
  channelClosed := false
  initialHolderValue := initialHolderValue
  counterpartySecrets := some .new
  holderCommitmentFunding := none
  prevFundingCommitment := none
  counterpartyCommitmentFunding := none

variable (estate : EnforcementState)

/-- What is stored of the holder commitment on a given funding: the channel slot where its tag
    is unset or names the funding, the snapshot where that is the retiring funding. -/
def holderCommitInfoFor (viewOutpoint : OutPoint) : Option CommitmentInfo2 :=
  if estate.holderCommitmentFunding.all (· = viewOutpoint) then
    estate.currentHolderCommitInfo
  else
    match estate.prevFundingCommitment with
    | some prev => if prev.outpoint = viewOutpoint then prev.currentHolderInfo else none
    | none => none

/-- The same for the counterparty commitment, except that an empty slot is passed over. -/
def counterpartyCommitInfoFor (viewOutpoint : OutPoint) : Option CommitmentInfo2 :=
  if estate.counterpartyCommitmentFunding.all (· = viewOutpoint)
      && estate.currentCounterpartyCommitInfo.isSome then
    estate.currentCounterpartyCommitInfo
  else
    match estate.prevFundingCommitment with
    | some prev => if prev.outpoint = viewOutpoint then prev.currentCounterpartyInfo else none
    | none => none

def setNextHolderCommitNum {ε : Type} (num : U64) (currentCommitmentInfo : CommitmentInfo2)
    (counterpartySignatures : CommitmentSignatures) : Result ε EnforcementState :=
  if num = estate.nextHolderCommitNum + 1 then
    .ok { estate with
      nextHolderCommitNum := num
      currentHolderCommitInfo := some currentCommitmentInfo
      currentCounterpartySignatures := some counterpartySignatures }
  else
    .panic "assertion failed: num == current + 1"

/-- The current point and commitment become the previous ones when the counter moves by one, and
    the previous ones are forgotten when it jumps. -/
def shiftPrevious (num : U64) : EnforcementState :=
  let current := estate.nextCounterpartyCommitNum
  if num = current + 1 then
    { estate with
      previousCounterpartyPoint := estate.currentCounterpartyPoint
      previousCounterpartyCommitInfo := estate.currentCounterpartyCommitInfo
      currentCounterpartyCommitInfo := none }
  else if num > current + 1 ∨ num < current then
    { estate with
      previousCounterpartyPoint := none
      previousCounterpartyCommitInfo := none }
  else
    estate

/-- The point and the commitment of a number that was signed already are not replaced. -/
def recordCurrent (num : U64) (currentPoint : PublicKey)
    (currentCommitmentInfo : CommitmentInfo2) : EnforcementState :=
  if num ≥ estate.nextCounterpartyCommitNum + 1 then
    { estate with
      currentCounterpartyPoint := some currentPoint
      currentCounterpartyCommitInfo := some currentCommitmentInfo }
  else
    estate

def setNextCounterpartyCommitNum {ε : Type} (num : U64) (currentPoint : PublicKey)
    (currentCommitmentInfo : CommitmentInfo2) : Result ε EnforcementState :=
  if num = 0 then
    .panic "assertion failed: num > 0"
  else
    let estate := (estate.shiftPrevious num).recordCurrent num currentPoint currentCommitmentInfo
    .ok { estate with nextCounterpartyCommitNum := num }

def getPreviousCounterpartyPoint (num : U64) : Option PublicKey :=
  if num + 1 = estate.nextCounterpartyCommitNum then
    estate.currentCounterpartyPoint
  else if num + 2 = estate.nextCounterpartyCommitNum then
    estate.previousCounterpartyPoint
  else
    none

def getPreviousCounterpartyCommitInfo (num : U64) : Option CommitmentInfo2 :=
  if num + 1 = estate.nextCounterpartyCommitNum then
    estate.currentCounterpartyCommitInfo
  else if num + 2 = estate.nextCounterpartyCommitNum then
    estate.previousCounterpartyCommitInfo
  else
    none

def setNextCounterpartyRevokeNum {ε : Type} (num : U64) : Result ε EnforcementState :=
  if num = 0 then
    .panic "assertion failed: num != 0"
  else
    .ok { estate with
      previousCounterpartyCommitInfo :=
        if num + 1 ≥ estate.nextCounterpartyCommitNum then none
        else estate.previousCounterpartyCommitInfo
      nextCounterpartyRevokeNum := num }

def snapshotFundingForSplice (outpoint : OutPoint) (retiringPushValueMsat : U64) :
    EnforcementState :=
  { estate with
    prevFundingCommitment := some
      { outpoint := outpoint
        currentHolderInfo := estate.currentHolderCommitInfo
        currentHolderSignatures := estate.currentCounterpartySignatures
        nextHolderInfo := estate.nextHolderCommitInfo
        currentCounterpartyInfo := estate.currentCounterpartyCommitInfo
        retiringPushValueMsat := retiringPushValueMsat }
    currentHolderCommitInfo := none
    currentCounterpartySignatures := none
    nextHolderCommitInfo := none
    currentCounterpartyCommitInfo := none }

def retirePrevFunding : EnforcementState :=
  { estate with prevFundingCommitment := none }

def summarizePayments (htlcs : List HTLCInfo2) : Map PaymentHash U64 :=
  htlcs.foldl (fun summary h => summary.upsert h.paymentHash (· + h.valueSat) h.valueSat) ∅

def addZeroEntries (htlcs : Option (List HTLCInfo2)) (summary : Map PaymentHash U64) :
    Map PaymentHash U64 :=
  (htlcs.getD []).foldl (fun summary h => summary.orInsert h.paymentHash 0) summary

/-- The outgoing payments in flight: of the amounts on the two commitments the greater counts. -/
def paymentsSummary (newHolderTx newCounterpartyTx : Option CommitmentInfo2) :
    Map PaymentHash U64 :=
  let holderOffered := (newHolderTx.or estate.currentHolderCommitInfo).map (·.offeredHtlcs)
  let counterpartyReceived :=
    (newCounterpartyTx.or estate.currentCounterpartyCommitInfo).map (·.receivedHtlcs)
  let holderSummary := (holderOffered.map summarizePayments).getD ∅
  let counterpartySummary := (counterpartyReceived.map summarizePayments).getD ∅
  let summary := counterpartySummary.entries.foldl
    (fun summary entry => summary.upsert entry.1 (fun e => if e < entry.2 then entry.2 else e)
      entry.2)
    holderSummary
  addZeroEntries (estate.currentCounterpartyCommitInfo.map (·.receivedHtlcs))
    (addZeroEntries (estate.currentHolderCommitInfo.map (·.offeredHtlcs)) summary)

/-- The incoming payments in flight: a payment counts once it is on both commitments, and then
    with the lower of the two amounts. -/
def incomingPaymentsSummary (newHolderTx newCounterpartyTx : Option CommitmentInfo2) :
    Map PaymentHash U64 :=
  let holderReceived := (newHolderTx.or estate.currentHolderCommitInfo).map (·.receivedHtlcs)
  let counterpartyOffered :=
    (newCounterpartyTx.or estate.currentCounterpartyCommitInfo).map (·.offeredHtlcs)
  let holderSummary := (holderReceived.map summarizePayments).getD ∅
  let counterpartySummary := (counterpartyOffered.map summarizePayments).getD ∅
  let summary := counterpartySummary.entries.foldl
    (fun summary entry => summary.modify entry.1 (fun e => if entry.2 < e then entry.2 else e))
    (holderSummary.retain (fun k => decide (k ∈ counterpartySummary)))
  addZeroEntries (estate.currentCounterpartyCommitInfo.map (·.offeredHtlcs))
    (addZeroEntries (estate.currentHolderCommitInfo.map (·.receivedHtlcs)) summary)

def flattenOrErr : Option (Option U64) → Result Status (Option U64)
  | some none => .err (Status.invalidArgument "commitment totals exceed the funding value")
  | some (some balance) => .ok (some balance)
  | none => .ok none

/-- The claimable balance before and after a new commitment. Stored commitments are valued against
    the funding they are taken to belong to; one that does not fit it counts as absent, while a new
    commitment that does not fit is refused. -/
def claimableBalances (hasPreimage : PaymentHash → Bool)
    (newHolderTx newCounterpartyTx : Option CommitmentInfo2) (channelSetup : ChannelSetup)
    (prevSetup : Option ChannelSetup) : Result Status BalanceDelta := do
  if newHolderTx.isNone ∧ newCounterpartyTx.isNone then
    .panic "must have at least one new tx"
  if newHolderTx.isSome ∧ newCounterpartyTx.isSome then
    .panic "must have at most one new tx"
  let straggler := prevSetup.any (·.fundingOutpoint = channelSetup.fundingOutpoint)
  let viewValue := channelSetup.channelValueSat
  let prevOrViewValue := (prevSetup.map (·.channelValueSat)).getD viewValue
  let curHolder := match straggler, estate.prevFundingCommitment with
    | true, some snap => snap.currentHolderInfo
    | _, _ => estate.currentHolderCommitInfo
  let curCounterparty := match straggler, estate.prevFundingCommitment with
    | true, some snap => snap.currentCounterpartyInfo
    | _, _ => estate.currentCounterpartyCommitInfo
  let curValueSat := if straggler then viewValue else prevOrViewValue
  let curHolderValueSat :=
    if estate.holderCommitmentFunding = some channelSetup.fundingOutpoint then viewValue
    else prevOrViewValue
  let curCounterpartyValueSat :=
    if estate.counterpartyCommitmentFunding = some channelSetup.fundingOutpoint then viewValue
    else prevOrViewValue
  let balance (value : U64) (tx : CommitmentInfo2) :=
    tx.claimableBalance hasPreimage channelSetup.isOutbound value
  let curHolderBal :=
    curHolder.bind (balance (if straggler then curValueSat else curHolderValueSat))
  let curCpBal :=
    curCounterparty.bind (balance (if straggler then curValueSat else curCounterpartyValueSat))
  let newHolderBal ←
    if newHolderTx.isSome then flattenOrErr (newHolderTx.map (balance viewValue))
    else .ok ((estate.holderCommitInfoFor channelSetup.fundingOutpoint).bind (balance viewValue))
  let newCpBal ←
    if newCounterpartyTx.isSome then flattenOrErr (newCounterpartyTx.map (balance viewValue))
    else .ok ((estate.counterpartyCommitInfoFor channelSetup.fundingOutpoint).bind
      (balance viewValue))
  let newBal ← Result.expect "already checked that we have a new tx" (minOpt newHolderBal newCpBal)
  .ok { curBal := (minOpt curHolderBal curCpBal).getD estate.initialHolderValue, newBal := newBal }

end EnforcementState

end Vls
