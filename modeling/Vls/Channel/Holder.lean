import Vls.Channel.Basic

/-! # The holder's commitments

A commitment the counterparty signed for the holder is validated, kept as the next one, made
current when its predecessor is revoked, and signed when the channel is closed by force. -/

namespace Vls

/-- What a channel call holds while it runs: its channel and the state of the node. -/
structure Locked where
  chan : Channel
  state : NodeState

abbrev ChannelCall := Call Status Locked

def Locked.withEstate (s : Locked) (estate : EnforcementState) : Locked :=
  { s with chan := { s.chan with enforcementState := estate } }

def Locked.modifyEstate (f : EnforcementState → EnforcementState) : ChannelCall Unit :=
  modify fun s => s.withEstate (f s.chan.enforcementState)

theorem Locked.ends_modifyEstate {f s} {good : Unit → Locked → Prop}
    {bad : Fault Status → Locked → Prop} :
    Call.Ends (Locked.modifyEstate f) s good bad ↔
      good () (s.withEstate (f s.chan.enforcementState)) :=
  Call.ends_modify

/-- A holder commitment that passed every check, with the funding it belongs to. -/
structure HolderCommitment where
  view : ChannelSetup
  commitmentNumber : U64
  info2 : CommitmentInfo2
  signatures : CommitmentSignatures
  deriving DecidableEq

namespace Channel

variable (ctx : Context) (chan : Channel)

/-- The signature of an HTLC transaction is looked up by the position of its HTLC, and a list that
    is too short makes the lookup panic. -/
def checkHtlcSignatures (txkeys : TxCreationKeys) (feeratePerKw : U32)
    (commitmentTxid : BitVec 256) (htlcPubkey : PublicKey) (counterpartyHtlcSigs : List Signature) :
    List HTLCOutputInCommitment → Nat → Result Status Unit
  | [], _ => .ok ()
  | htlc :: rest, ndx => do
    let features := chan.setup.features
    let buildFeerate := if chan.setup.isZeroFeeHtlc then 0 else feeratePerKw
    let redeemscript := ctx.prims.getHtlcRedeemscript htlc features txkeys
    let htlcTx ← Result.okOr (Status.internal "build_htlc_transaction panic")
      (ctx.prims.buildHtlcTransaction commitmentTxid buildFeerate
        chan.setup.counterpartySelectedContestDelay htlc features
        txkeys.broadcasterDelayedPaymentKey txkeys.revocationKey)
    let sighashType :=
      if chan.setup.isAnchors then EcdsaSighashType.singlePlusAnyoneCanPay else .all
    let sighash := ctx.prims.p2wshSignatureHash htlcTx 0 redeemscript (htlc.amountMsat / 1000)
      sighashType
    let sig ← Result.expect "index out of bounds" counterpartyHtlcSigs[ndx]?
    if ctx.prims.verifyEcdsa sighash sig htlcPubkey then
      checkHtlcSignatures txkeys feeratePerKw commitmentTxid htlcPubkey counterpartyHtlcSigs rest
        (ndx + 1)
    else
      .err (policyError "policy-revoke-new-commitment-signed"
        s!"commit sig verify failed for htlc {ndx}").toStatus

def commitmentSighash (setup : ChannelSetup) (tx : Transaction) : BitVec 256 :=
  ctx.prims.p2wshSignatureHash tx 0
    (ctx.prims.makeFundingRedeemscript (chan.keys.pubkeys ctx.prims).fundingPubkey
      setup.counterpartyPoints.fundingPubkey)
    setup.channelValueSat .all

def checkHolderTxSignatures (setup : ChannelSetup) (perCommitmentPoint : PublicKey)
    (txkeys : TxCreationKeys) (feeratePerKw : U32) (signatures : CommitmentSignatures)
    (recomposedTx : CommitmentTransaction) : Result Status Unit := do
  -- the key is that of the current funding even where the script is that of another view
  if ctx.prims.verifyEcdsa (chan.commitmentSighash ctx setup recomposedTx.transaction)
      signatures.commitmentSig chan.setup.counterpartyPoints.fundingPubkey = false then
    .err (policyError "policy-revoke-new-commitment-signed" "commit sig verify failed").toStatus
  let htlcPubkey ← Result.okOr (Status.internal "derive_public_key failed")
    (ctx.prims.derivePublicKey perCommitmentPoint chan.setup.counterpartyPoints.htlcBasepoint)
  chan.checkHtlcSignatures ctx txkeys feeratePerKw (ctx.prims.computeTxid recomposedTx.transaction)
    htlcPubkey signatures.htlcSigs recomposedTx.nondustHtlcs 0

variable (env : Env) (state : NodeState)

/-- The values a commitment is announced with. -/
structure CommitmentValues where
  feeratePerKw : U32
  toHolderValueSat : U64
  toCounterpartyValueSat : U64
  offeredHtlcs : List HTLCInfo2
  receivedHtlcs : List HTLCInfo2

def checkHolderCommitmentTxPhase2 (fundingOutpoint : OutPoint) (commitmentNumber : U64)
    (values : CommitmentValues) (signatures : CommitmentSignatures) :
    Result Status HolderCommitment := do
  let view ← chan.setupForOutpoint fundingOutpoint
  let perCommitmentPoint ← chan.getPerCommitmentPoint ctx commitmentNumber
  let info2 := buildHolderCommitmentInfo values.toHolderValueSat values.toCounterpartyValueSat
    values.offeredHtlcs values.receivedHtlcs values.feeratePerKw
  let delta ← chan.enforcementState.claimableBalances state.hasPreimage (some info2) none view
    chan.prevSetup
  ctx.validator.validateHolderCommitmentTx ctx.prims chan.enforcementState commitmentNumber view
    (chan.getChainState env) info2
  let recomposedTx := chan.makeHolderCommitmentTxWithSetup ctx view commitmentNumber
    perCommitmentPoint values.feeratePerKw values.toHolderValueSat values.toCounterpartyValueSat
    (htlcsInfo2ToOic info2.offeredHtlcs info2.receivedHtlcs)
  chan.checkHolderTxSignatures ctx view perCommitmentPoint
    (chan.makeHolderTxKeys ctx perCommitmentPoint) values.feeratePerKw signatures recomposedTx
  state.validatePayments chan.id0
    (chan.enforcementState.incomingPaymentsSummary (some info2) none)
    (chan.enforcementState.paymentsSummary (some info2) none) delta ctx.validator
  .ok ⟨view, commitmentNumber, info2, signatures⟩

def checkHolderCommitmentTx (tx : Transaction) (outputWitscripts : List Script)
    (commitmentNumber : U64) (feeratePerKw : U32) (offeredHtlcs receivedHtlcs : List HTLCInfo2)
    (signatures : CommitmentSignatures) : Result Status HolderCommitment := do
  let perCommitmentPoint ← chan.getPerCommitmentPoint ctx commitmentNumber
  let view := chan.setupForTx tx
  if tx.output.length ≠ outputWitscripts.length then
    .err (Status.invalidArgument
      s!"len(tx.output):{tx.output.length} != len(witscripts):{outputWitscripts.length}")
  ctx.validator.validateChannelValue view
  let info ← ctx.decodeCommitmentTx chan.keys view false tx outputWitscripts
  let info2 := buildHolderCommitmentInfo info.toBroadcasterValueSat info.toCountersignerValueSat
    offeredHtlcs receivedHtlcs feeratePerKw
  ctx.validator.validateHolderCommitmentTx ctx.prims chan.enforcementState commitmentNumber view
    (chan.getChainState env) info2
  let recomposedTx := chan.makeHolderCommitmentTxWithSetup ctx view commitmentNumber
    perCommitmentPoint feeratePerKw info.toBroadcasterValueSat info.toCountersignerValueSat
    (htlcsInfo2ToOic info2.offeredHtlcs info2.receivedHtlcs)
  ctx.validator.filter.refuseIf (recomposedTx.transaction ≠ tx)
    "make_validated_recomposed_holder_commitment_tx" "policy-commitment" "recomposed tx mismatch"
  let delta ← chan.enforcementState.claimableBalances state.hasPreimage (some info2) none view
    chan.prevSetup
  chan.checkHolderTxSignatures ctx view perCommitmentPoint
    (chan.makeHolderTxKeys ctx perCommitmentPoint) feeratePerKw signatures recomposedTx
  state.validatePayments chan.id0
    (chan.enforcementState.incomingPaymentsSummary (some info2) none)
    (chan.enforcementState.paymentsSummary (some info2) none) delta ctx.validator
  .ok ⟨view, commitmentNumber, info2, signatures⟩

/-- Keep a commitment that passed its checks. One with the next number waits to become current;
    one with the current number on a retiring funding goes to the record of that funding. -/
def storeHolderCommitment (estate : EnforcementState) (commitment : HolderCommitment)
    (straggler : Bool) : EnforcementState :=
  if commitment.commitmentNumber = estate.nextHolderCommitNum then
    { estate with
      nextHolderCommitInfo := some (commitment.info2, commitment.signatures)
      holderCommitmentFunding := some commitment.view.fundingOutpoint }
  else if commitment.commitmentNumber + 1 = estate.nextHolderCommitNum ∧ straggler = true then
    { estate with
      prevFundingCommitment := estate.prevFundingCommitment.map fun prev =>
        { prev with nextHolderInfo := some (commitment.info2, commitment.signatures) } }
  else
    estate

def validateHolderCommitmentTxPhase2 (fundingOutpoint : OutPoint) (commitmentNumber : U64)
    (values : CommitmentValues) (signatures : CommitmentSignatures) : ChannelCall Unit := do
  let s ← get
  let commitment ← s.chan.checkHolderCommitmentTxPhase2 ctx env s.state fundingOutpoint
    commitmentNumber values signatures
  let straggler := decide (s.chan.enforcementState.holderCommitmentFunding
    ≠ some commitment.view.fundingOutpoint)
  Locked.modifyEstate (storeHolderCommitment · commitment straggler)
  persist env

/-- The transaction form tells a straggler by the current funding instead of by the tag. -/
def validateHolderCommitmentTx (tx : Transaction) (outputWitscripts : List Script)
    (commitmentNumber : U64) (feeratePerKw : U32) (offeredHtlcs receivedHtlcs : List HTLCInfo2)
    (signatures : CommitmentSignatures) : ChannelCall Unit := do
  let s ← get
  let commitment ← s.chan.checkHolderCommitmentTx ctx env s.state tx outputWitscripts
    commitmentNumber feeratePerKw offeredHtlcs receivedHtlcs signatures
  let straggler := decide (commitment.view.fundingOutpoint ≠ s.chan.setup.fundingOutpoint)
  Locked.modifyEstate (storeHolderCommitment · commitment straggler)
  persist env

def withoutNext (estate : EnforcementState) : EnforcementState :=
  { estate with nextHolderCommitInfo := none }

def advanceHolderCommitmentState (newCurrentCommitmentNumber : U64) (info2 : CommitmentInfo2)
    (signatures : CommitmentSignatures) : ChannelCall (PublicKey × Option SecretKey) := do
  let s ← get
  let estate ← ctx.validator.setNextHolderCommitNum s.chan.enforcementState
    (newCurrentCommitmentNumber + 1) info2 signatures
  Locked.modifyEstate fun _ => estate
  let s ← get
  s.chan.releaseCommitmentSecret ctx newCurrentCommitmentNumber

/-- Disclose the secret of the commitment before the given one. If the given one is waiting it
    becomes current now, and its payments are recorded without being validated again; nor is it
    asked whether the channel is being closed. -/
def revokePreviousHolderCommitment (newCurrentCommitmentNumber : U64) :
    ChannelCall (PublicKey × Option SecretKey) := do
  let s ← get
  if newCurrentCommitmentNumber ≠ s.chan.enforcementState.nextHolderCommitNum then
    s.chan.releaseCommitmentSecret ctx newCurrentCommitmentNumber
  else
    match s.chan.enforcementState.nextHolderCommitInfo with
    | none =>
      ctx.validator.filter.policyErrorWithFilter "policy-revoke-new-commitment-signed"
        ("revoke_previous_holder_commitment: new_current_commitment == next_holder_commit_num " ++
          s!"{newCurrentCommitmentNumber.toNat} but next_holder_commit_info.is_none")
      let point ← s.chan.getPerCommitmentPoint ctx newCurrentCommitmentNumber
      return (point, none)
    | some (info2, signatures) =>
      -- the waiting commitment is taken here, and is gone if a check below fails
      Locked.modifyEstate withoutNext
      let estate := (← get).chan.enforcementState
      let delta ← estate.claimableBalances s.state.hasPreimage (some info2) none s.chan.setup
        s.chan.prevSetup
      let released ← advanceHolderCommitmentState ctx newCurrentCommitmentNumber info2 signatures
      let state ← s.state.applyPayments s.chan.id0
        (estate.incomingPaymentsSummary (some info2) none)
        (estate.paymentsSummary (some info2) none) delta ctx.validator info2
      modify fun s => { s with state := state }
      persist env
      return released

/-- Make the first commitment current, which has no predecessor to revoke. In a splice window the
    current commitment number may also be activated once more, on the new funding. -/
def activateInitialCommitment : ChannelCall PublicKey := do
  let s ← get
  let estate := s.chan.enforcementState
  let next := estate.nextHolderCommitNum
  if next > 1 ∨ (next = 1 ∧ estate.prevFundingCommitment.isNone) then
    throw (.err (Status.invalidArgument
      s!"activate_initial_commitment called with next_holder_commit_num {next.toNat}"))
  match estate.nextHolderCommitInfo with
  | none => throw (.err (Status.invalidArgument
      "activate_initial_commitment called before validation of the initial commitment"))
  | some (info2, signatures) =>
    let estate := withoutNext estate
    if next = 0 then
      let estate ← estate.setNextHolderCommitNum (ε := Status) 1 info2 signatures
      Locked.modifyEstate fun _ => estate
    else
      Locked.modifyEstate fun _ => { estate with
        currentHolderCommitInfo := some info2
        currentCounterpartySignatures := some signatures }
    persist env
    return s.chan.getPerCommitmentPointUnchecked ctx 1

structure ClosableHolderCommitment where
  commitmentNumber : U64
  info : CommitmentInfo2
  counterpartySignatures : CommitmentSignatures

/-- The commitment waiting to become current, if its number is asked for, else the current one. -/
def getHolderCommitmentForClose (commitmentNumber : U64) :
    Result Status ClosableHolderCommitment := do
  let estate := chan.enforcementState
  match (if commitmentNumber = estate.nextHolderCommitNum then estate.nextHolderCommitInfo
    else none) with
  | some (info, signatures) => .ok ⟨commitmentNumber, info, signatures⟩
  | none =>
    let info ← ctx.validator.getCurrentHolderCommitmentInfo estate commitmentNumber
    let signatures ← Result.okOr
      (Status.internal "channel not open: counterparty sigs missing")
      estate.currentCounterpartySignatures
    .ok ⟨commitmentNumber, info, signatures⟩

def getLatestHolderCommitmentForClose : Result Status ClosableHolderCommitment := do
  let estate := chan.enforcementState
  if estate.nextHolderCommitInfo.isSome then
    chan.getHolderCommitmentForClose ctx estate.nextHolderCommitNum
  else
    let commitmentNumber ← Result.okOr
      (Status.internal "channel was not open: commit info missing")
      (estate.nextHolderCommitNum.checkedSub 1)
    chan.getHolderCommitmentForClose ctx commitmentNumber

def signHolderCommitmentTxPhase2 (commitmentNumber : U64) : ChannelCall Signature := do
  let s ← get
  let commitment ← s.chan.getHolderCommitmentForClose ctx commitmentNumber
  let recomposed ← s.chan.recomposeHolderCommitmentTx ctx commitment.commitmentNumber
    commitment.info
  let sig := s.chan.keys.signHolderCommitment ctx.prims (s.chan.makeChannelParameters ctx)
    recomposed.1
  Locked.modifyEstate fun estate => { estate with channelClosed := true }
  persist env
  return sig

end Channel

end Vls
