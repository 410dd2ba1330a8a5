import Vls.NodeState

/-! # Channels: what can be read off them

The parts of a channel and the functions that do not change it: points and secrets, the funding of a
commitment, recomposed transactions, and the check of the signatures on them. -/

namespace Vls

def initialCommitmentNumber : U64 := 0xffffffffffff

/-- The values of a commitment transaction that were read from its outputs. -/
structure CommitmentInfo where
  toCountersignerValueSat : U64
  toBroadcasterValueSat : U64

/-- What a channel call is given besides its arguments, for as long as the node runs. -/
structure Context where
  prims : Primitives
  validator : Validator
  decodeCommitmentTx : VlsChannelSigner → ChannelSetup → (isCounterparty : Bool) → Transaction →
    (outputWitscripts : List Script) → Result ValidationError CommitmentInfo

/-- What a single call finds in its surroundings: what the monitor of the channel has seen of the
    chain, what the wallet answers, the time, and whether the store accepts what is changed. -/
structure Env where
  monitorState : ChainState
  wallet : Wallet
  now : Duration
  persisted : Bool
  trackerPersisted : Bool

structure Channel where
  keys : VlsChannelSigner
  enforcementState : EnforcementState
  setup : ChannelSetup
  id0 : ChannelId
  id : Option ChannelId
  prevSetup : Option ChannelSetup
  prevPrevSetup : Option ChannelSetup
  fundingLocked : Option OutPoint
  deriving DecidableEq

namespace Channel

variable (ctx : Context) (chan : Channel)

def getChainState (env : Env) : ChainState :=
  { env.monitorState with splicePending := chan.prevSetup.isSome }

def persist (env : Env) : Result Status Unit :=
  if env.persisted then .ok () else .err (Status.internal "persist failed")

def getPerCommitmentPointUnchecked (commitmentNumber : U64) : PublicKey :=
  chan.keys.getPerCommitmentPoint ctx.prims (initialCommitmentNumber - commitmentNumber)

def getPerCommitmentPoint (commitmentNumber : U64) : Result Status PublicKey :=
  let next := chan.enforcementState.nextHolderCommitNum
  if commitmentNumber > next + 1 then
    .err (policyError "policy-optional-fail-fast"
      (s!"get_per_commitment_point: commitment_number {commitmentNumber.toNat} invalid " ++
        s!"when next_holder_commit_num is {next.toNat}")).toStatus
  else
    .ok (chan.getPerCommitmentPointUnchecked ctx commitmentNumber)

def commitmentSecret (commitmentNumber : U64) : SecretKey :=
  chan.keys.releaseCommitmentSecret ctx.prims (initialCommitmentNumber - commitmentNumber)

def getPerCommitmentSecret (commitmentNumber : U64) : Result Status SecretKey := do
  let next := chan.enforcementState.nextHolderCommitNum
  ctx.validator.filter.refuseIf (commitmentNumber + 2 > next)
    "get_per_commitment_secret" "policy-revoke-new-commitment-signed"
    (s!"cannot revoke commitment_number {commitmentNumber.toNat} " ++
      s!"when next_holder_commit_num is {next.toNat}")
  .ok (chan.commitmentSecret ctx commitmentNumber)

def getPerCommitmentSecretOrNone (commitmentNumber : U64) : Option SecretKey :=
  if commitmentNumber + 2 > chan.enforcementState.nextHolderCommitNum then
    none
  else
    some (chan.commitmentSecret ctx commitmentNumber)

def releaseCommitmentSecret (commitmentNumber : U64) :
    Result Status (PublicKey × Option SecretKey) := do
  let nextPoint ← chan.getPerCommitmentPoint ctx (commitmentNumber + 1)
  if commitmentNumber ≥ 1 then
    let oldSecret ← chan.getPerCommitmentSecret ctx (commitmentNumber - 1)
    .ok (nextPoint, some oldSecret)
  else
    .ok (nextPoint, none)

def views : List ChannelSetup :=
  chan.setup :: (chan.prevSetup.toList ++ chan.prevPrevSetup.toList)

def setupForTx (tx : Transaction) : ChannelSetup :=
  (tx.input.findSome? fun input =>
    chan.views.find? (·.fundingOutpoint = input.previousOutput)).getD chan.setup

def setupForOutpoint (outpoint : OutPoint) : Result Status ChannelSetup :=
  Result.okOr
    (Status.failedPrecondition (s!"policy-splice-abort: funding era {outpoint} not found " ++
      s!"(current {chan.setup.fundingOutpoint}, prev {chan.prevSetup.map (·.fundingOutpoint)}, " ++
      s!"prev_prev {chan.prevPrevSetup.map (·.fundingOutpoint)})"))
    (chan.views.find? (·.fundingOutpoint = outpoint))

/-- A setup that differs from the current one in the funding, its balances and the counterparty's
    funding key at most. -/
def isSpliceCompatible (newSetup : ChannelSetup) : Bool :=
  let other := { newSetup with
    counterpartyPoints := { newSetup.counterpartyPoints with
      fundingPubkey := chan.setup.counterpartyPoints.fundingPubkey }
    holderShutdownScript :=
      if chan.setup.holderShutdownScript.isNone then none else newSetup.holderShutdownScript
    counterpartyShutdownScript :=
      if chan.setup.counterpartyShutdownScript.isNone then none
      else newSetup.counterpartyShutdownScript
    fundingOutpoint := chan.setup.fundingOutpoint
    channelValueSat := chan.setup.channelValueSat
    pushValueMsat := chan.setup.pushValueMsat }
  decide (other = chan.setup) && decide (newSetup.fundingOutpoint ≠ chan.setup.fundingOutpoint)

def makeChannelParametersWithSetup (setup : ChannelSetup) : ChannelTransactionParameters where
  holderPubkeys := chan.keys.pubkeys ctx.prims
  holderSelectedContestDelay := setup.holderSelectedContestDelay
  isOutboundFromHolder := setup.isOutbound
  counterpartyPubkeys := setup.counterpartyPoints
  counterpartySelectedContestDelay := setup.counterpartySelectedContestDelay
  fundingTxid := setup.fundingOutpoint.txid
  fundingIndex := setup.fundingOutpoint.vout.truncate 16
  channelTypeFeatures := setup.features
  channelValueSatoshis := setup.channelValueSat

def makeChannelParameters : ChannelTransactionParameters :=
  chan.makeChannelParametersWithSetup ctx chan.setup

def htlcInfo2ToOic (offered : Bool) (htlc : HTLCInfo2) : HTLCOutputInCommitment where
  offered := offered
  amountMsat := htlc.valueSat * 1000
  cltvExpiry := htlc.cltvExpiry
  paymentHash := htlc.paymentHash
  transactionOutputIndex := none

def htlcsInfo2ToOic (offeredHtlcs receivedHtlcs : List HTLCInfo2) :
    List HTLCOutputInCommitment :=
  offeredHtlcs.map (htlcInfo2ToOic true) ++ receivedHtlcs.map (htlcInfo2ToOic false)

def makeHolderTxKeys (perCommitmentPoint : PublicKey) : TxCreationKeys :=
  ctx.prims.txCreationKeys perCommitmentPoint (chan.keys.pubkeys ctx.prims)
    chan.setup.counterpartyPoints

def makeHolderCommitmentTxWithSetup (setup : ChannelSetup) (commitmentNumber : U64)
    (perCommitmentPoint : PublicKey) (feeratePerKw : U32)
    (toHolderValueSat toCounterpartyValueSat : U64) (htlcs : List HTLCOutputInCommitment) :
    CommitmentTransaction :=
  let tx := ctx.prims.newCommitmentTransaction
    { commitmentNumber := initialCommitmentNumber - commitmentNumber
      perCommitmentPoint := perCommitmentPoint
      toBroadcasterValueSat := toHolderValueSat
      toCountersignatoryValueSat := toCounterpartyValueSat
      htlcs := htlcs
      parameters := ⟨chan.makeChannelParametersWithSetup ctx setup, true⟩ }
    feeratePerKw
  { tx with nonZeroFeeAnchors := setup.isAnchors }

def makeCounterpartyCommitmentTxWithSetup (setup : ChannelSetup)
    (remotePerCommitmentPoint : PublicKey) (commitmentNumber : U64) (feeratePerKw : U32)
    (toHolderValueSat toCounterpartyValueSat : U64) (htlcs : List HTLCOutputInCommitment) :
    CommitmentTransaction :=
  ctx.prims.newCommitmentTransaction
    { commitmentNumber := initialCommitmentNumber - commitmentNumber
      perCommitmentPoint := remotePerCommitmentPoint
      toBroadcasterValueSat := toCounterpartyValueSat
      toCountersignatoryValueSat := toHolderValueSat
      htlcs := htlcs
      parameters := ⟨chan.makeChannelParametersWithSetup ctx setup, false⟩ }
    feeratePerKw

def recomposeHolderCommitmentTx (commitmentNumber : U64) (info2 : CommitmentInfo2) :
    Result Status (CommitmentTransaction × PublicKey × TxCreationKeys) := do
  let perCommitmentPoint ← chan.getPerCommitmentPoint ctx commitmentNumber
  let buildFeerate := if chan.setup.isZeroFeeHtlc then 0 else info2.feeratePerKw
  let recomposedTx := chan.makeHolderCommitmentTxWithSetup ctx chan.setup commitmentNumber
    perCommitmentPoint buildFeerate info2.toBroadcasterValueSat info2.toCountersignerValueSat
    (htlcsInfo2ToOic info2.offeredHtlcs info2.receivedHtlcs)
  .ok (recomposedTx, perCommitmentPoint, chan.makeHolderTxKeys ctx perCommitmentPoint)

def buildCounterpartyCommitmentInfo (toHolderValueSat toCounterpartyValueSat : U64)
    (offeredHtlcs receivedHtlcs : List HTLCInfo2) (feeratePerKw : U32) : CommitmentInfo2 :=
  .new true toHolderValueSat toCounterpartyValueSat offeredHtlcs receivedHtlcs feeratePerKw

def buildHolderCommitmentInfo (toHolderValueSat toCounterpartyValueSat : U64)
    (offeredHtlcs receivedHtlcs : List HTLCInfo2) (feeratePerKw : U32) : CommitmentInfo2 :=
  .new false toCounterpartyValueSat toHolderValueSat offeredHtlcs receivedHtlcs feeratePerKw

end Channel

end Vls
