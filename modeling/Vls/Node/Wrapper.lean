import Vls.Channel.MutualClose
import Vls.Channel.Within
import Vls.Node.Excess
import Vls.Policy.Demotion

/-! # The on-chain validator as a wrapper

The on-chain validator is meant to add checks to the validator it wraps and to change nothing else:
a run that it accepts is a run under the wrapped validator as well, with the same answers and the
same states. The requests are those of the node machine and the mutual closes. Merging a filter into
that of a node goes the other way. -/

namespace Vls

open NodeState Call

variable {α : Type} {call call' : ChannelCall α} {validator : Validator} {now : Duration}
  {channelId : ChannelId}

inductive ClosingRequest where
  | node (request : NodeRequest)
  | signMutualCloseTx (channelId : ChannelId) (tx : Transaction) (opaths : List DerivationPath)
  | signMutualCloseTxPhase2 (channelId : ChannelId) (args : ValidateArgs)

inductive ClosingReply where
  | node (reply : NodeReply)
  | signature (sig : Signature)

namespace Node

variable (ctx : NodeContext) (env : Env)

def onReady {α : Type} (channelId : ChannelId) (call : ChannelCall α) : NodeCall α := do
  let node ← get
  match node.getChannel channelId with
  | none => throw (.err (Status.invalidArgument s!"no such channel: {channelId}"))
  | some (_, .stub _) => throw (.err (Status.invalidArgument s!"channel not ready: {channelId}"))
  | some (position, .ready chan) => onChannel position chan call

def performClosing : ClosingRequest → NodeCall ClosingReply
  | .node request => do
    let reply ← perform ctx env request
    return .node reply
  | .signMutualCloseTx channelId tx opaths => do
    let sig ← onReady channelId (Channel.signMutualCloseTx ctx.toContext env tx opaths)
    return .signature sig
  | .signMutualCloseTxPhase2 channelId args => do
    let sig ← onReady channelId (Channel.signMutualCloseTxPhase2 ctx.toContext env args)
    return .signature sig

end Node

structure ClosingInput where
  env : Env
  request : ClosingRequest

abbrev ClosingStep := Machine.Step Node ClosingInput (Except Status ClosingReply)

def closingMachine (ctx : NodeContext) :
    Machine Node ClosingInput (Except Status ClosingReply) where
  step node input :=
    match Node.performClosing ctx input.env input.request node with
    | .ok reply node' => some (.ok reply, node')
    | .error (.err status) node' => some (.error status, node')
    | .error (.panic _) _ => none

def Accepted (history : List ClosingStep) : Prop :=
  ∀ step ∈ history, ∃ reply, step.output = .ok reply

namespace Node

variable {ctx : NodeContext} {validator' : Validator} {env : Env} {node : Node}

theorem onChannel_within {position chan} (within : call.Within call' ⟨chan, node.state⟩) :
    Call.Within (onChannel position chan call) (onChannel position chan call') node := by
  intro a node' returned
  unfold onChannel at returned ⊢
  cases ended : call ⟨chan, node.state⟩ with
  | ok b s =>
    rw [ended] at returned
    rw [within b s ended]
    exact returned
  | error fault s => simp [ended] at returned

theorem onState_within {call call' : NodeState → Result Status (α × NodeState)}
    (within : ∀ state, (call state).Within (call' state)) :
    Call.Within (onState call) (onState call') node := by
  refine .after fun node₀ _ _ => ?_
  exact .bind (.lift (within node₀.state)) fun _ _ _ => .refl _ _

theorem approve_congr (within : validator.Within validator') {state : NodeState}
    {hash : PaymentHash} {payment duplicate persisted} :
    state.approve validator hash payment duplicate now persisted
      = state.approve validator' hash payment duplicate now persisted := by
  simp only [approve, within.maxInvoices]

theorem setupChannel_within (within : ctx.validator.Within validator')
    {channelId0 optChannelId setup path} :
    Call.Within (setupChannel ctx env channelId0 optChannelId setup path)
      (setupChannel { ctx with validator := validator' } env channelId0 optChannelId setup path)
      node := by
  refine .after fun node₀ _ _ => ?_
  cases node₀.getChannel channelId0 with
  | none => exact within_throw
  | some found =>
    obtain ⟨position, slot⟩ := found
    cases slot with
    | ready chan =>
      exact .bind (onChannel_within (Channel.perform_within within _)) fun _ _ _ => .refl _ _
    | stub stub =>
      refine .after fun chan _ _ => ?_
      exact .bind (within_lift_validation (within.validateSetupChannel _ _ _))
        fun _ _ _ => .refl _ _

theorem withChannel_within (within : ctx.validator.Within validator') {request : ChannelRequest} :
    Call.Within (withChannel ctx env channelId request)
      (withChannel { ctx with validator := validator' } env channelId request) node := by
  refine .after fun node₀ _ _ => ?_
  cases node₀.getChannel channelId with
  | none => exact within_throw
  | some found =>
    obtain ⟨position, slot⟩ := found
    cases slot with
    | stub stub => exact .refl _ _
    | ready chan =>
      exact .bind (onChannel_within (Channel.perform_within within _)) fun _ _ _ => .refl _ _

theorem perform_within (within : ctx.validator.Within validator') (request : NodeRequest) :
    Call.Within (perform ctx env request)
      (perform { ctx with validator := validator' } env request) node := by
  cases request with
  | newChannel => exact .of_eq (by simp only [perform, newChannel, within.maxChannels])
  | setupChannel => exact setupChannel_within within
  | withChannel => exact withChannel_within within
  | addInvoice invoice =>
    refine .bind (onState_within fun state => ?_) fun _ _ _ => .refl _ _
    exact .bind (.mapErr (.bind within.filter.refuseIf fun _ _ => within.filter.refuseIf))
      fun _ _ => .of_eq (approve_congr within)
  | addKeysend =>
    refine .bind (onState_within fun state => ?_) fun _ _ _ => .refl _ _
    exact .of_eq (approve_congr within)
  | signBolt11Invoice invoice =>
    refine .bind (onState_within fun state => ?_) fun _ _ _ => .refl _ _
    refine .bind (.of_eq ?_) fun _ _ => .refl _
    simp only [signBolt11Invoice, within.maxInvoices]

theorem onReady_within (within : ∀ s, call.Within call' s) :
    Call.Within (onReady channelId call) (onReady channelId call') node := by
  refine .after fun node₀ _ _ => ?_
  cases node₀.getChannel channelId with
  | none => exact within_throw
  | some found =>
    obtain ⟨position, slot⟩ := found
    cases slot with
    | stub stub => exact within_throw
    | ready chan => exact onChannel_within (within _)

theorem performClosing_within (within : ctx.validator.Within validator')
    (policy : ctx.validator.policy = validator'.policy) (request : ClosingRequest) :
    Call.Within (performClosing ctx env request)
      (performClosing { ctx with validator := validator' } env request) node := by
  cases request with
  | node request => exact .bind (perform_within within request) fun _ _ _ => .refl _ _
  | signMutualCloseTx channelId tx opaths =>
    refine .bind (onReady_within fun s => .of_eq ?_) fun _ _ _ => .refl _ _
    simp only [Channel.signMutualCloseTx, policy]
    rfl
  | signMutualCloseTxPhase2 channelId args =>
    refine .bind (onReady_within fun s => .of_eq ?_) fun _ _ _ => .refl _ _
    simp only [Channel.signMutualCloseTxPhase2, policy]
    rfl

end Node

theorem closingMachine_step {ctx ctx' node node' input reply}
    (within : Call.Within (Node.performClosing ctx input.env input.request) (Node.performClosing
      ctx' input.env input.request) node)
    (stepped : (closingMachine ctx).step node input = some (.ok reply, node')) :
    (closingMachine ctx').step node input = some (.ok reply, node') := by
  unfold closingMachine at stepped ⊢
  simp only at stepped ⊢
  split at stepped
  · rename_i performed
    rw [within _ _ performed]
    exact stepped
  · cases stepped
  · cases stepped

def receivingNode (prims : Primitives) : Node where
  slots := [.ready Toy.chan]
  channels := AList.insert Toy.chan.id0 0 ∅
  state := { new .newUnlimited with
    payments := AList.insert ⟨prims.sha256 0⟩
      { RoutedPayment.new with incoming := AList.insert Toy.chan.id0 1 ∅ } ∅ }

def settlePayment : ClosingInput :=
  ⟨Toy.env, .node (.withChannel Toy.chan.id0 (.htlcsFulfilled [⟨0⟩]))⟩

def settledState (prims : Primitives) (excessAmount : U64) : NodeState :=
  { new .newUnlimited with
    excessAmount := excessAmount
    payments := AList.insert ⟨prims.sha256 0⟩
      { RoutedPayment.new with
        incoming := AList.insert Toy.chan.id0 1 ∅
        preimage := some ⟨0⟩ } ∅ }

theorem receivingNode_fulfilled (prims : Primitives) (validator : Validator) :
    htlcsFulfilled prims validator (receivingNode prims).state [⟨0⟩]
      = .ok (settledState prims (if validator.enforceBalance then 1 else 0)) := by
  cases enforced : validator.enforceBalance with
  | true =>
    simp [htlcsFulfilled, htlcFulfilled, receivingNode, settledState, new, settledExcess,
      RoutedPayment.new, enforced, Map.modify, -AList.insert_empty]
    rfl
  | false =>
    simp [htlcsFulfilled, htlcFulfilled, receivingNode, settledState, new, settledExcess,
      RoutedPayment.new, enforced, Map.modify, -AList.insert_empty]
    rfl

theorem settlePayment_step (ctx : NodeContext) :
    (closingMachine ctx).step (receivingNode ctx.prims) settlePayment
      = some (.ok (.node (.channel .done)), (receivingNode ctx.prims).put 0 ⟨Toy.chan,
        settledState ctx.prims (if ctx.validator.enforceBalance then 1 else 0)⟩) := by
  have settled := receivingNode_fulfilled ctx.prims ctx.validator
  have fulfilled : Channel.perform ctx.toContext Toy.env (.htlcsFulfilled [⟨0⟩])
      ⟨Toy.chan, (receivingNode ctx.prims).state⟩
      = .ok .done ⟨Toy.chan,
        settledState ctx.prims (if ctx.validator.enforceBalance then 1 else 0)⟩ := by
    refine bind_ok.mpr ⟨(), _, ?_, pure_ok.mpr ⟨rfl, rfl⟩⟩
    refine bind_ok.mpr ⟨_, _, get_ok.mpr ⟨rfl, rfl⟩, ?_⟩
    exact bind_ok.mpr ⟨_, _, lift_ok.mpr ⟨settled, rfl⟩, modify_ok.mpr rfl⟩
  have found : (receivingNode ctx.prims).getChannel Toy.chan.id0 = some (0, .ready Toy.chan) := rfl
  have performed : Node.performClosing ctx settlePayment.env settlePayment.request
      (receivingNode ctx.prims) = .ok (.node (.channel .done)) ((receivingNode ctx.prims).put 0
        ⟨Toy.chan, settledState ctx.prims (if ctx.validator.enforceBalance then 1 else 0)⟩) := by
    refine bind_ok.mpr ⟨_, _, ?_, pure_ok.mpr ⟨rfl, rfl⟩⟩
    refine bind_ok.mpr ⟨_, _, get_ok.mpr ⟨rfl, rfl⟩, ?_⟩
    rw [found]
    refine bind_ok.mpr ⟨_, _, ?_, pure_ok.mpr ⟨rfl, rfl⟩⟩
    unfold Node.onChannel
    rw [show settlePayment.env = Toy.env from rfl, fulfilled]
  unfold closingMachine
  simp only [performed]

/-- Whatever a node accepts under the wrapper it accepts under the wrapped validator, with the same
    answers and states, exactly if the wrapped validator does not enforce balances. -/
theorem wrapper_only_adds_iff (ctx : NodeContext) (inner : SimplePolicy) :
    (∀ start history node,
        (closingMachine { ctx with validator := .onchain inner }).Run start history node →
        Accepted history →
        (closingMachine { ctx with validator := .simple inner }).Run start history node)
      ↔ inner.enforceBalance = false := by
  constructor
  · intro adds
    by_contra enforced
    have enforced : inner.enforceBalance = true := by simpa using enforced
    have wrapped := settlePayment_step { ctx with validator := .onchain inner }
    have alone := settlePayment_step { ctx with validator := .simple inner }
    have run := adds _ _ _ (.step .init wrapped) (by simp [Accepted])
    cases run with
    | step earlier stepped =>
      rw [alone] at stepped
      have states := congrArg (fun outcome => outcome.map (·.2.state.excessAmount)) stepped
      simp [Node.put, settledState, Validator.enforceBalance, enforced] at states
  · intro unenforced start history node run accepted
    apply run.transfer
    intro step earlier node' stepped
    obtain ⟨reply, answered⟩ := accepted step earlier
    rw [answered] at stepped ⊢
    have within : Call.Within
        (Node.performClosing { ctx with validator := .onchain inner } step.input.env
          step.input.request)
        (Node.performClosing { ctx with validator := .simple inner } step.input.env
          step.input.request) step.before :=
      @Node.performClosing_within { ctx with validator := .onchain inner } (.simple inner) _ _
        (Validator.onchain_within unenforced) rfl _
    exact closingMachine_step within stepped

def giveUp : List ClosingInput :=
  [Toy.createChannel 1, Toy.openChannel 1, Toy.sign 1 0 ⟨1000, 499000, 500000, [], []⟩,
    Toy.sign 1 1 ⟨1000, 0, 999000, [], []⟩].map fun input => ⟨input.env, .node input.request⟩

def wrappedNode : NodeContext :=
  { balancedNode with validator := .onchain balancedNode.validator.policy }

/-- The shortfall that the validator refuses is not refused by the wrapper around it. -/
theorem shortfall_passes_wrapper :
    ∃ history node, (closingMachine wrappedNode).Run Toy.nodeStart history node ∧ Accepted history
      ∧ ∃ step ∈ history.head?, ∃ status node',
        (closingMachine balancedNode).step step.before step.input = some (.error status, node')
        ∧ status
          = (policyError "policy-routing-balanced" "shortfall 0 + 1000 - 500000").toStatus := by
  obtain ⟨history, node, run, accepted, refused⟩ :
      ∃ history node, (closingMachine wrappedNode).Run Toy.nodeStart history node
        ∧ (history.all fun step => step.output.isOk) = true
        ∧ (history.head?.any fun step =>
          ((closingMachine balancedNode).step step.before step.input).any fun outcome =>
            match outcome.1 with
            | .error status => decide (status =
                (policyError "policy-routing-balanced" "shortfall 0 + 1000 - 500000").toStatus)
            | .ok _ => false) = true :=
    Machine.exists_run giveUp (by decide +kernel)
  refine ⟨history, node, run, ?_, ?_⟩
  · intro step earlier
    have answered := List.all_eq_true.mp accepted step earlier
    cases output : step.output with
    | ok reply => exact ⟨reply, rfl⟩
    | error status => simp [output, Except.isOk, Except.toBool] at answered
  · obtain ⟨step, last, refused⟩ := (Option.any_eq_true _ _).mp refused
    obtain ⟨⟨output, node'⟩, stepped, refused⟩ := (Option.any_eq_true _ _).mp refused
    cases output with
    | ok reply => cases refused
    | error status => exact ⟨step, last, status, node', stepped, of_decide_eq_true refused⟩

def acceptedRuns (ctx : NodeContext) : Set (Node × List NodeStep × Node) :=
  {run | (nodeMachine ctx).Run run.1 run.2.1 run.2.2 ∧ ∀ step ∈ run.2.1, step.output.isOk}

/-- Whatever is merged into the filter of a node, the node accepts what it accepted before, with
    the same answers and states. -/
theorem merge_accepts (ctx : NodeContext) (other : PolicyFilter) :
    acceptedRuns ctx ⊆ acceptedRuns { ctx with
      validator := ctx.validator.withFilter (ctx.validator.filter.merge other) } := by
  rintro ⟨start, history, node⟩ ⟨run, accepted⟩
  refine ⟨run.transfer ?_, accepted⟩
  intro step earlier node' stepped
  have within := @Node.perform_within ctx _ step.input.env step.before
    (Validator.withFilter_within (ctx.validator.filter.merge_within other)) step.input.request
  have accepted := accepted step earlier
  simp only [nodeMachine] at stepped ⊢
  split at stepped
  · rename_i performed
    rw [within _ _ performed]
    exact stepped
  · obtain ⟨refused, _⟩ := Prod.mk.inj (Option.some.inj stepped)
    simp [← refused, Except.isOk, Except.toBool] at accepted
  · cases stepped

end Vls
