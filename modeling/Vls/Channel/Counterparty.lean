import Vls.Channel.Holder

/-! # The counterparty's commitments

The signer signs the counterparty's commitments and takes in the secrets of those that the
counterparty revokes. -/

namespace Vls

/-- A counterparty commitment that passed every check, with what signing it changes. -/
structure CounterpartyCommitment where
  view : ChannelSetup
  commitmentNumber : U64
  point : PublicKey
  info2 : CommitmentInfo2
  delta : BalanceDelta
  signatures : CommitmentSignatures
  deriving DecidableEq

namespace Channel

variable (ctx : Context) (chan : Channel) (env : Env) (state : NodeState)

def checkCounterpartyCommitmentTxPhase2 (fundingOutpoint : OutPoint)
    (remotePerCommitmentPoint : PublicKey) (commitmentNumber : U64) (values : CommitmentValues) :
    Result Status CounterpartyCommitment := do
  let view ← chan.setupForOutpoint fundingOutpoint
  ctx.validator.validateChannelValue view
  let info2 := buildCounterpartyCommitmentInfo values.toHolderValueSat
    values.toCounterpartyValueSat values.offeredHtlcs values.receivedHtlcs values.feeratePerKw
  let delta ← chan.enforcementState.claimableBalances state.hasPreimage none (some info2) view
    chan.prevSetup
  ctx.validator.validateCounterpartyCommitmentTx ctx.prims chan.enforcementState commitmentNumber
    remotePerCommitmentPoint view (chan.getChainState env) info2
  let commitmentTx := chan.makeCounterpartyCommitmentTxWithSetup ctx view remotePerCommitmentPoint
    commitmentNumber values.feeratePerKw values.toHolderValueSat values.toCounterpartyValueSat
    (htlcsInfo2ToOic info2.offeredHtlcs info2.receivedHtlcs)
  let (sig, htlcSigs) ← Result.okOr (Status.internal "sign_counterparty_commitment panic")
    (chan.keys.signCounterpartyCommitment ctx.prims (chan.makeChannelParametersWithSetup ctx view)
      commitmentTx)
  state.validatePayments chan.id0
    (chan.enforcementState.incomingPaymentsSummary none (some info2))
    (chan.enforcementState.paymentsSummary none (some info2)) delta ctx.validator
  .ok ⟨view, commitmentNumber, remotePerCommitmentPoint, info2, delta, ⟨sig, htlcSigs⟩⟩

/-- The check of a commitment given by its transaction ends with a commitment to advance to, or,
    where the policy lets pass what could not be recomposed, with a signature on it as it is. -/
inductive CheckedTx where
  | recomposed (commitment : CounterpartyCommitment)
  | verbatim (sig : Signature)

/-- The checks of a commitment given by its transaction, up to the point where the state
    advances. Its outputs are decoded against the current funding, whatever funding it spends. -/
def checkCounterpartyCommitmentTx (tx : Transaction) (outputWitscripts : List Script)
    (remotePerCommitmentPoint : PublicKey) (commitmentNumber : U64) (feeratePerKw : U32)
    (offeredHtlcs receivedHtlcs : List HTLCInfo2) : Result Status CheckedTx := do
  if tx.output.length ≠ outputWitscripts.length then
    .err (Status.invalidArgument "len(tx.output) != len(witscripts)")
  ctx.validator.validateChannelValue chan.setup
  let info ← ctx.decodeCommitmentTx chan.keys chan.setup true tx outputWitscripts
  let info2 := buildCounterpartyCommitmentInfo info.toCountersignerValueSat
    info.toBroadcasterValueSat offeredHtlcs receivedHtlcs feeratePerKw
  let view := chan.setupForTx tx
  let delta ← chan.enforcementState.claimableBalances state.hasPreimage none (some info2) view
    chan.prevSetup
  ctx.validator.validateCounterpartyCommitmentTx ctx.prims chan.enforcementState commitmentNumber
    remotePerCommitmentPoint view (chan.getChainState env) info2
  let recomposedTx := chan.makeCounterpartyCommitmentTxWithSetup ctx view remotePerCommitmentPoint
    commitmentNumber feeratePerKw info2.toCountersignerValueSat info2.toBroadcasterValueSat
    (htlcsInfo2ToOic info2.offeredHtlcs info2.receivedHtlcs)
  let parameters := chan.makeChannelParametersWithSetup ctx view
  if recomposedTx.transaction ≠ tx then
    ctx.validator.filter.policyErrorWithFilter "policy-commitment"
      "sign_counterparty_commitment_tx_inner: recomposed tx mismatch"
    .ok (.verbatim (chan.keys.signFundingSpend ctx.prims parameters tx))
  else
    state.validatePayments chan.id0
      (chan.enforcementState.incomingPaymentsSummary none (some info2))
      (chan.enforcementState.paymentsSummary none (some info2)) delta ctx.validator
    -- the number is counted backwards in the transaction
    .ok (.recomposed ⟨view, initialCommitmentNumber - recomposedTx.commitmentNumber,
      recomposedTx.keys.perCommitmentPoint, info2, delta,
      ⟨chan.keys.signFundingSpend ctx.prims parameters recomposedTx.transaction, []⟩⟩)

def counterpartySigned (estate : EnforcementState) (commitment : CounterpartyCommitment) :
    Result ValidationError EnforcementState := do
  let fundingChanged := estate.counterpartyCommitmentFunding.any
    (· ≠ commitment.view.fundingOutpoint)
  let estate ← ctx.validator.setNextCounterpartyCommitNum estate (commitment.commitmentNumber + 1)
    commitment.point commitment.info2 fundingChanged
  .ok { estate with counterpartyCommitmentFunding := some commitment.view.fundingOutpoint }

def advanceCounterpartyCommitment (commitment : CounterpartyCommitment) : ChannelCall Unit := do
  let s ← get
  let estate ← counterpartySigned ctx s.chan.enforcementState commitment
  Locked.modifyEstate fun _ => estate
  let state ← s.state.applyPayments s.chan.id0
    (s.chan.enforcementState.incomingPaymentsSummary none (some commitment.info2))
    (s.chan.enforcementState.paymentsSummary none (some commitment.info2)) commitment.delta
    ctx.validator commitment.info2
  modify fun s => { s with state := state }
  persist env

def signCounterpartyCommitmentTxPhase2 (fundingOutpoint : OutPoint)
    (remotePerCommitmentPoint : PublicKey) (commitmentNumber : U64) (values : CommitmentValues) :
    ChannelCall (Signature × List Signature) := do
  let s ← get
  let commitment ← s.chan.checkCounterpartyCommitmentTxPhase2 ctx env s.state fundingOutpoint
    remotePerCommitmentPoint commitmentNumber values
  advanceCounterpartyCommitment ctx env commitment
  return (commitment.signatures.commitmentSig, commitment.signatures.htlcSigs)

def signCounterpartyCommitmentTx (tx : Transaction) (outputWitscripts : List Script)
    (remotePerCommitmentPoint : PublicKey) (commitmentNumber : U64) (feeratePerKw : U32)
    (offeredHtlcs receivedHtlcs : List HTLCInfo2) : ChannelCall Signature := do
  let s ← get
  let checked ← s.chan.checkCounterpartyCommitmentTx ctx env s.state tx outputWitscripts
    remotePerCommitmentPoint commitmentNumber feeratePerKw offeredHtlcs receivedHtlcs
  match checked with
  | .verbatim sig => return sig
  | .recomposed commitment =>
    advanceCounterpartyCommitment ctx env commitment
    return commitment.signatures.commitmentSig

def replaceSecrets (estate : EnforcementState) :
    Option CounterpartyCommitmentSecrets → Result ValidationError EnforcementState
  | some secrets => .ok { estate with counterpartySecrets := some secrets }
  | none => do
    ctx.validator.filter.policyErrorWithFilter "policy-commitment-previous-revoked"
      "validate_counterparty_revocation: counterparty secret does not chain"
    .ok estate

def storeSecret (estate : EnforcementState) (revokeNum : U64) (oldSecret : SecretKey) :
    Result ValidationError EnforcementState :=
  match estate.counterpartySecrets with
  | none => .ok estate
  | some secrets => replaceSecrets ctx estate
    (secrets.provideSecret ctx.prims (initialCommitmentNumber - revokeNum) oldSecret.bytes)

def validateCounterpartyRevocation (revokeNum : U64) (oldSecret : SecretKey) :
    ChannelCall Unit := do
  let s ← get
  ctx.validator.validateCounterpartyRevocation ctx.prims s.chan.enforcementState revokeNum oldSecret
  let estate ← storeSecret ctx s.chan.enforcementState revokeNum oldSecret
  -- the secret stays stored if the counter is refused below
  Locked.modifyEstate fun _ => estate
  let estate ← ctx.validator.setNextCounterpartyRevokeNum estate (revokeNum + 1)
  Locked.modifyEstate fun _ => estate
  persist env

end Channel

end Vls
