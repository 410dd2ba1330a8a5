import Vls.Channel.Holder

/-! # Splices

A splice moves a channel to a new funding. The new parameters are set up first, which opens a
window in which the commitments of both fundings are accepted; the window closes when the new
funding is locked. -/

namespace Vls

namespace Channel

variable (ctx : Context) (chan : Channel) (env : Env)

/-- Values above this are balances that went negative and wrapped around. -/
def maxPlainMsat : U64 := 0x7fffffffffffffff

def spliced (setup : ChannelSetup) : Channel :=
  { chan with
    enforcementState := chan.enforcementState.snapshotFundingForSplice chan.setup.fundingOutpoint
      chan.setup.pushValueMsat
    prevPrevSetup := chan.prevSetup
    prevSetup := some chan.setup
    setup := setup }

/-- Setting up a channel that is ready already. The channel is replaced before the new
    parameters are validated. -/
def setupSplice (setup : ChannelSetup) (holderShutdownKeyPath : DerivationPath) :
    ChannelCall Channel := do
  let s ← get
  if s.chan.setup = setup then
    return s.chan
  if s.chan.isSpliceCompatible setup = false then
    throw (.err (Status.invalidArgument s!"incompatible splice setup for channel {s.chan.id0}"))
  if setup.pushValueMsat ≤ maxPlainMsat ∧ setup.pushValueMsat > setup.channelValueSat * 1000 then
    throw (.err (Status.invalidArgument (s!"beneficial channel value underflow: " ++
      s!"{(setup.channelValueSat * 1000).toNat} - {setup.pushValueMsat.toNat}")))
  let spliced := s.chan.spliced setup
  modify fun s => { s with chan := spliced }
  ctx.validator.validateSetupChannel env.wallet setup holderShutdownKeyPath
  if env.trackerPersisted = false then
    throw (.err (Status.internal "tracker persist failed"))
  persist env
  return spliced

/-- The view of the funding that an input of a splice transaction spends. The oldest one is only
    looked at where there is a previous one. -/
def spliceView (outpoint : OutPoint) : Result Status ChannelSetup :=
  let refused := Result.err
    (Status.invalidArgument "splice input is not the channel funding outpoint")
  if outpoint = chan.setup.fundingOutpoint then .ok chan.setup
  else match chan.prevSetup with
    | none => refused
    | some prevSetup =>
      if outpoint = prevSetup.fundingOutpoint then .ok prevSetup
      else match chan.prevPrevSetup with
        | none => refused
        | some prevPrevSetup =>
          if outpoint = prevPrevSetup.fundingOutpoint then .ok prevPrevSetup else refused

def signSpliceTx (tx : Transaction) (inputIndex : U32) (remoteFundingKey : PublicKey)
    (inputAmountSat : Option U64) : Result Status Signature := do
  let input ← Result.okOr (Status.invalidArgument "splice input index out of range")
    tx.input[inputIndex.toNat]?
  let view ← chan.spliceView input.previousOutput
  if remoteFundingKey ≠ view.counterpartyPoints.fundingPubkey then
    .err (Status.invalidArgument "remote funding key mismatch")
  let inputAmountSat := inputAmountSat.getD view.channelValueSat
  if inputAmountSat ≠ view.channelValueSat then
    .err (Status.invalidArgument "splice input value is not the channel value")
  let redeemscript := ctx.prims.makeFundingRedeemscript
    (ctx.prims.publicKey chan.keys.fundingKey) remoteFundingKey
  let sighash := ctx.prims.p2wshSignatureHash tx inputIndex.toNat redeemscript inputAmountSat .all
  .ok (ctx.prims.signEcdsa sighash chan.keys.fundingKey)

def baselineSplit : U64 × U64 :=
  let value := chan.setup.channelValueSat
  if chan.setup.pushValueMsat ≤ maxPlainMsat then
    let pushSat := chan.setup.pushValueMsat / 1000
    (value.saturatingSub pushSat, pushSat)
  else
    let initial := chan.enforcementState.initialHolderValue
    (initial, value.saturatingSub initial)

/-- The channel after its funding is locked. Where that ends a splice, the current commitments
    are replaced by ones made up from the balances of the setup. -/
def fundingLockedState (outpoint : OutPoint) : Channel :=
  let estate := chan.enforcementState.retirePrevFunding
  let (toHolder, toCp) := chan.baselineSplit
  { chan with
    fundingLocked := some outpoint
    prevSetup := none
    prevPrevSetup := none
    enforcementState :=
      if chan.prevSetup.isSome ∨ chan.prevPrevSetup.isSome then
        { estate with
          currentHolderCommitInfo := some (.new false toCp toHolder [] [] 0)
          currentCounterpartyCommitInfo := some (.new true toHolder toCp [] [] 0) }
      else
        estate }

def confirmFundingLocked (outpoint : OutPoint) : ChannelCall Unit := do
  let s ← get
  if s.chan.fundingLocked = some outpoint then
    return
  if outpoint ≠ s.chan.setup.fundingOutpoint then
    throw (.err (Status.invalidArgument (s!"funding_locked: {outpoint} is not the current " ++
      s!"funding {s.chan.setup.fundingOutpoint}")))
  modify fun s => { s with chan := s.chan.fundingLockedState outpoint }
  persist env

end Channel

end Vls
