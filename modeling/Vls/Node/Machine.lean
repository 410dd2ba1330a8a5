import Vls.Channel.Machine

/-! # A node as a machine

The channels of a node share its state. They are reached by their ids: a channel has the id it was
created with and may get a permanent one as well, and both then lead to the same slot. -/

namespace Vls

structure NodeContext extends Context where
  getChannelKeysWithId : ChannelId → VlsChannelSigner

/-- A channel whose parameters are not known yet. -/
structure ChannelStub where
  keys : VlsChannelSigner
  id0 : ChannelId

inductive ChannelSlot where
  | stub (stub : ChannelStub)
  | ready (chan : Channel)

structure Node where
  /-- The slots that were ever made. Ids refer to them by position. -/
  slots : List ChannelSlot
  channels : Map ChannelId Nat
  state : NodeState

abbrev NodeCall := Call Status Node

/-- The first 33 bytes are those of the peer, the others the number, the lowest byte first. -/
def ChannelId.newFromPeerIdAndOid (peerId : Vector U8 33) (oid : U64) : ChannelId :=
  ⟨peerId.toList ++ (List.range 8).map fun i => (oid >>> (8 * i)).truncate 8⟩

namespace ChannelStub

/-- A stub gives up no secret, and has no funding that could be confirmed. -/
def perform (channelId : ChannelId) : ChannelRequest → Result Status ChannelReply
  | .getPerCommitmentSecret _ => .err (policyError "policy-revoke-new-commitment-valid"
      "channel stub cannot release commitment secret").toStatus
  | .getPerCommitmentSecretOrNone _ => .ok (.secret none)
  | .confirmFundingLocked _ => .ok .done
  | _ => .err (Status.invalidArgument s!"channel not ready: {channelId}")

def toHolderMsat (setup : ChannelSetup) : Result Status U64 :=
  if setup.isOutbound then
    Result.okOr
      (policyError "policy-routing-balanced" (s!"beneficial channel value underflow: " ++
        s!"{(setup.channelValueSat * 1000).toNat} - {setup.pushValueMsat.toNat}")).toStatus
      ((setup.channelValueSat * 1000).checkedSub setup.pushValueMsat)
  else
    .ok setup.pushValueMsat

def ready (stub : ChannelStub) (channelId0 : ChannelId) (optChannelId : Option ChannelId)
    (setup : ChannelSetup) : Result Status Channel := do
  let toHolder ← toHolderMsat setup
  .ok
    { keys := stub.keys
      enforcementState := .new (Validator.minimumInitialBalance toHolder)
      setup := setup
      id0 := channelId0
      id := optChannelId
      prevSetup := none
      prevPrevSetup := none
      fundingLocked := none }

end ChannelStub

inductive NodeRequest where
  | newChannel (dbid : U64) (peerId : Vector U8 33)
  | setupChannel (channelId0 : ChannelId) (optChannelId : Option ChannelId) (setup : ChannelSetup)
      (holderShutdownKeyPath : DerivationPath)
  | withChannel (channelId : ChannelId) (request : ChannelRequest)
  | addInvoice (invoice : NodeState.Invoice)
  | addKeysend (payee : PublicKey) (paymentHash : PaymentHash) (amountMsat : U64)
  | signBolt11Invoice (invoice : NodeState.Invoice)

inductive NodeReply where
  | slot (channelId : ChannelId) (slot : ChannelSlot)
  | channel (reply : ChannelReply)
  | added (added : Bool)
  | done

namespace Node

def new (velocityControl : VelocityControl) : Node where
  slots := []
  channels := ∅
  state := .new velocityControl

variable (ctx : NodeContext) (env : Env)

def getChannel (node : Node) (channelId : ChannelId) : Option (Nat × ChannelSlot) := do
  let position ← node.channels.lookup channelId
  let slot ← node.slots[position]?
  return (position, slot)

def put (node : Node) (position : Nat) (s : Locked) : Node :=
  { node with
    slots := node.slots.set position (.ready s.chan)
    state := s.state }

def addSlot (node : Node) (slot : ChannelSlot) (ids : List ChannelId) : Node :=
  { node with
    slots := node.slots ++ [slot]
    channels := ids.foldl (fun channels id => channels.insert id node.slots.length)
      node.channels }

/-- Run a call on the channel at a position, which stays changed if the call fails. -/
def onChannel {α : Type} (position : Nat) (chan : Channel) (call : ChannelCall α) : NodeCall α :=
  fun node =>
    match call ⟨chan, node.state⟩ with
    | .ok a s => .ok a (node.put position s)
    | .error fault s => .error fault (node.put position s)

def newChannel (dbid : U64) (peerId : Vector U8 33) : NodeCall NodeReply := do
  let node ← get
  if node.state.dbidHighWaterMark ≥ dbid then
    throw (.err (policyError "policy-channel-original-channel-id-reuse"
      s!"original channel id {dbid.toNat} is potentially being reused").toStatus)
  let channelId := ChannelId.newFromPeerIdAndOid peerId dbid
  if node.channels.keys.length ≥ ctx.validator.policy.maxChannels then
    throw (.err (Status.failedPrecondition (s!"too many channels ({node.channels.keys.length} " ++
      s!">= {ctx.validator.policy.maxChannels})")))
  match node.getChannel channelId with
  | some (_, slot) => return .slot channelId slot
  | none =>
    let stub : ChannelSlot := .stub ⟨ctx.getChannelKeysWithId channelId, channelId⟩
    modify (·.addSlot stub [channelId])
    if env.persisted = false then
      throw (.panic "channel was in storage but not in memory")
    return .slot channelId stub

/-- Set up a channel. A stub becomes a channel in a new slot; a channel that is ready already gets
    the parameters of a splice. -/
def setupChannel (channelId0 : ChannelId) (optChannelId : Option ChannelId) (setup : ChannelSetup)
    (holderShutdownKeyPath : DerivationPath) : NodeCall NodeReply := do
  let node ← get
  match node.getChannel channelId0 with
  | none => throw (.err (Status.invalidArgument s!"channel does not exist: {channelId0}"))
  | some (position, .ready chan) =>
    let reply ← onChannel position chan
      (Channel.perform ctx.toContext env (.setupSplice setup holderShutdownKeyPath))
    return .channel reply
  | some (_, .stub stub) =>
    let chan ← stub.ready channelId0 optChannelId setup
    ctx.validator.validateSetupChannel env.wallet setup holderShutdownKeyPath
    modify (·.addSlot (.ready chan) (optChannelId.getD channelId0 :: [channelId0]))
    if env.trackerPersisted = false then
      throw (.err (Status.internal "tracker persist failed"))
    Channel.persist env
    return .channel (.channel chan)

def withChannel (channelId : ChannelId) (request : ChannelRequest) : NodeCall NodeReply := do
  let node ← get
  match node.getChannel channelId with
  | none => throw (.err (Status.invalidArgument s!"no such channel: {channelId}"))
  | some (_, .stub _) =>
    let reply ← ChannelStub.perform channelId request
    return .channel reply
  | some (position, .ready chan) =>
    let reply ← onChannel position chan (Channel.perform ctx.toContext env request)
    return .channel reply

def onState {α : Type} (call : NodeState → Result Status (α × NodeState)) : NodeCall α := do
  let node ← get
  let (a, state) ← call node.state
  modify fun node => { node with state := state }
  return a

def perform : NodeRequest → NodeCall NodeReply
  | .newChannel dbid peerId => newChannel ctx env dbid peerId
  | .setupChannel channelId0 optChannelId setup holderShutdownKeyPath =>
    setupChannel ctx env channelId0 optChannelId setup holderShutdownKeyPath
  | .withChannel channelId request => withChannel ctx env channelId request
  | .addInvoice invoice => do
    let added ← onState fun state => state.addInvoice ctx.validator invoice env.now env.persisted
    return .added added
  | .addKeysend payee paymentHash amountMsat => do
    let added ← onState fun state =>
      state.addKeysend ctx.validator payee paymentHash amountMsat env.now env.persisted
    return .added added
  | .signBolt11Invoice invoice => do
    onState fun state => do
      let state ← state.signBolt11Invoice ctx.validator invoice
      .ok ((), state)
    return .done

end Node

def Node.channelAt (node : Node) (position : Nat) : Option Channel :=
  match node.slots[position]? with
  | some (.ready chan) => some chan
  | _ => none

theorem slot_of_channelAt {node : Node} {position chan} (found : chan ∈ node.channelAt position) :
    node.slots[position]? = some (.ready chan) := by
  unfold Node.channelAt at found
  split at found
  · rename_i here
    cases found
    exact here
  · cases found

structure NodeInput where
  env : Env
  request : NodeRequest

abbrev NodeStep := Machine.Step Node NodeInput (Except Status NodeReply)

/-- A panic stops the node. -/
def nodeMachine (ctx : NodeContext) : Machine Node NodeInput (Except Status NodeReply) where
  step node input :=
    match Node.perform ctx input.env input.request node with
    | .ok reply node' => some (.ok reply, node')
    | .error (.err status) node' => some (.error status, node')
    | .error (.panic _) _ => none

end Vls
