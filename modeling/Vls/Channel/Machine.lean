import Vls.Channel.Counterparty
import Vls.Channel.Recovery
import Vls.Channel.Splice
import Vls.Lib.Machine

/-! # A channel as a machine

The calls a channel answers, and the machine they drive. -/

namespace Vls

inductive ChannelRequest where
  | validateHolderCommitmentTx (tx : Transaction) (outputWitscripts : List Script)
      (commitmentNumber : U64) (feeratePerKw : U32) (offeredHtlcs receivedHtlcs : List HTLCInfo2)
      (signatures : CommitmentSignatures)
  | validateHolderCommitmentTxPhase2 (fundingOutpoint : OutPoint) (commitmentNumber : U64)
      (values : Channel.CommitmentValues) (signatures : CommitmentSignatures)
  | revokePreviousHolderCommitment (newCurrentCommitmentNumber : U64)
  | activateInitialCommitment
  | signHolderCommitmentTxPhase2 (commitmentNumber : U64)
  | signHolderCommitmentTxForRecovery (spentHtlcIndices : List Bool) (persistClose : Bool)
      (chainHeightOverride : Option U32)
  | getPerCommitmentSecret (commitmentNumber : U64)
  | getPerCommitmentSecretOrNone (commitmentNumber : U64)
  | signCounterpartyCommitmentTx (tx : Transaction) (outputWitscripts : List Script)
      (remotePerCommitmentPoint : PublicKey) (commitmentNumber : U64) (feeratePerKw : U32)
      (offeredHtlcs receivedHtlcs : List HTLCInfo2)
  | signCounterpartyCommitmentTxPhase2 (fundingOutpoint : OutPoint)
      (remotePerCommitmentPoint : PublicKey) (commitmentNumber : U64)
      (values : Channel.CommitmentValues)
  | validateCounterpartyRevocation (revokeNum : U64) (oldSecret : SecretKey)
  | setupSplice (setup : ChannelSetup) (holderShutdownKeyPath : DerivationPath)
  | confirmFundingLocked (outpoint : OutPoint)
  | htlcsFulfilled (preimages : List PaymentPreimage)

inductive ChannelReply where
  | done
  | point (point : PublicKey)
  | released (nextPoint : PublicKey) (oldSecret : Option SecretKey)
  | secret (secret : Option SecretKey)
  | signature (sig : Signature) (htlcSigs : List Signature)
  | recovery (recovery : Channel.Recovery)
  | channel (chan : Channel)

namespace Channel

variable (ctx : Context) (env : Env)

def fulfillHtlcs (preimages : List PaymentPreimage) : ChannelCall Unit := do
  let s ← get
  let state ← NodeState.htlcsFulfilled ctx.prims ctx.validator s.state preimages
  modify fun s => { s with state := state }

def perform : ChannelRequest → ChannelCall ChannelReply
  | .validateHolderCommitmentTx tx outputWitscripts commitmentNumber feeratePerKw offeredHtlcs
      receivedHtlcs signatures => do
    validateHolderCommitmentTx ctx env tx outputWitscripts commitmentNumber feeratePerKw
      offeredHtlcs receivedHtlcs signatures
    return .done
  | .validateHolderCommitmentTxPhase2 fundingOutpoint commitmentNumber values signatures => do
    validateHolderCommitmentTxPhase2 ctx env fundingOutpoint commitmentNumber values signatures
    return .done
  | .revokePreviousHolderCommitment newCurrentCommitmentNumber => do
    let released ← revokePreviousHolderCommitment ctx env newCurrentCommitmentNumber
    return .released released.1 released.2
  | .activateInitialCommitment => do
    let point ← activateInitialCommitment ctx env
    return .point point
  | .signHolderCommitmentTxPhase2 commitmentNumber => do
    let sig ← signHolderCommitmentTxPhase2 ctx env commitmentNumber
    return .signature sig []
  | .signHolderCommitmentTxForRecovery spentHtlcIndices persistClose chainHeightOverride => do
    let recovery ← signHolderCommitmentTxForRecoveryInner ctx env spentHtlcIndices persistClose
      chainHeightOverride
    return .recovery recovery
  | .getPerCommitmentSecret commitmentNumber => do
    let s ← get
    let secret ← s.chan.getPerCommitmentSecret ctx commitmentNumber
    return .secret (some secret)
  | .getPerCommitmentSecretOrNone commitmentNumber => do
    let s ← get
    return .secret (s.chan.getPerCommitmentSecretOrNone ctx commitmentNumber)
  | .signCounterpartyCommitmentTx tx outputWitscripts remotePerCommitmentPoint commitmentNumber
      feeratePerKw offeredHtlcs receivedHtlcs => do
    let sig ← signCounterpartyCommitmentTx ctx env tx outputWitscripts remotePerCommitmentPoint
      commitmentNumber feeratePerKw offeredHtlcs receivedHtlcs
    return .signature sig []
  | .signCounterpartyCommitmentTxPhase2 fundingOutpoint remotePerCommitmentPoint commitmentNumber
      values => do
    let sigs ← signCounterpartyCommitmentTxPhase2 ctx env fundingOutpoint
      remotePerCommitmentPoint commitmentNumber values
    return .signature sigs.1 sigs.2
  | .validateCounterpartyRevocation revokeNum oldSecret => do
    validateCounterpartyRevocation ctx env revokeNum oldSecret
    return .done
  | .setupSplice setup holderShutdownKeyPath => do
    let chan ← setupSplice ctx env setup holderShutdownKeyPath
    return .channel chan
  | .confirmFundingLocked outpoint => do
    confirmFundingLocked env outpoint
    return .done
  | .htlcsFulfilled preimages => do
    fulfillHtlcs ctx preimages
    return .done

end Channel

/-- What happens to a channel: it is called, or the node changes while it is idle. -/
inductive ChannelInput where
  | call (env : Env) (request : ChannelRequest)
  | others (state : NodeState)

abbrev ChannelStep := Machine.Step Locked ChannelInput (Except Status ChannelReply)

def channelMachine (ctx : Context) :
    Machine Locked ChannelInput (Except Status ChannelReply) where
  step s
    | .others state => some (.ok .done, { s with state := state })
    | .call env request =>
      match Channel.perform ctx env request s with
      | .ok reply s' => some (.ok reply, s')
      | .error (.err status) s' => some (.error status, s')
      | .error (.panic _) _ => none

theorem perform_of_step {ctx env request s s' reply}
    (stepped : (channelMachine ctx).step s (.call env request) = some (.ok reply, s')) :
    Channel.perform ctx env request s = .ok reply s' := by
  simp only [channelMachine] at stepped
  split at stepped <;> simp_all

/-- A channel as it is when it is set up for the first time. -/
structure Fresh (s : Locked) : Prop where
  enforcementState : ∃ value, s.chan.enforcementState = .new value
  prevSetup : s.chan.prevSetup = none
  prevPrevSetup : s.chan.prevPrevSetup = none
  fundingLocked : s.chan.fundingLocked = none

end Vls
