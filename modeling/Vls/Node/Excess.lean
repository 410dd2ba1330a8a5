import Vls.Channel.Accounting
import Vls.Node.Effect
import Vls.Node.Toy

/-! # The excess a node keeps

The channels of a node share one excess. A holder commitment is checked against it when it is
validated and takes from it when its predecessor is revoked, and in between another channel may
have used it up. -/

namespace Vls

open Result NodeState

variable {panics : Set String} {α : Type} {state : NodeState} {validator : Validator}
  {now : Duration} {persisted : Bool}

def KeepsExcess (ctx : NodeContext) (node : Node) (input : NodeInput) : Prop :=
  ctx.validator.enforceBalance = true → ∀ call ∈ input.request.calls node,
    call.2.2.KeepsExcess ctx.toContext ⟨call.2.1, node.state⟩
  deriving Decidable

namespace Node

variable {ctx : NodeContext} {env : Env} {node : Node}

theorem onChannel_avoids {position} {chan : Channel} {call : ChannelCall α} :
    Call.Avoids panics (onChannel position chan call) node ↔
      Call.Avoids panics call ⟨chan, node.state⟩ :=
  ends_onChannel

theorem onState_avoids {call : NodeState → Result Status (α × NodeState)} :
    Call.Avoids panics (onState call) node ↔ (call node.state).Avoids panics := by
  simp only [Call.Avoids, ends_onState, implies_true, true_and]
  constructor
  · intro avoids message member reached
    exact avoids _ reached message member rfl
  · intro avoids fault reached message member same
    exact avoids message member (same ▸ reached)

theorem approve_avoids {hash paymentState duplicate} :
    Avoids accountingPanics
      (state.approve validator hash paymentState duplicate now persisted) := by
  simp only [approve, err_bind, avoids_ite, avoids_err, implies_true, true_and]
  intro _
  split
  · simp
  · split
    · simp
    · simp

theorem addInvoice_avoids {invoice} :
    Avoids accountingPanics (state.addInvoice validator invoice now persisted) := by
  have valid : Avoids accountingPanics (validateInvoice validator invoice now) := by
    simp [validateInvoice, avoids_bind, PolicyFilter.refuseIf_avoids]
  unfold addInvoice
  generalize validateInvoice validator invoice now = checked at valid
  simp [avoids_bind, avoids_liftM, valid, approve_avoids]

theorem signBolt11Invoice_avoids {state : NodeState} {validator invoice} :
    Avoids accountingPanics (state.signBolt11Invoice validator invoice) := by
  simp only [signBolt11Invoice, err_bind, avoids_ite, avoids_err, implies_true, true_and]
  intro _
  split <;> simp

theorem newChannel_avoids {dbid peerId} :
    Call.Avoids accountingPanics (newChannel ctx env dbid peerId) node := by
  simp only [newChannel, Call.avoids_get_bind]
  split
  · simp
  · split
    · simp
    · split
      · simp
      · simp

theorem setupChannel_avoids (decodes : ctx.DecodesOnly) {channelId0 optChannelId}
    {setup : ChannelSetup} {path : DerivationPath} :
    Call.Avoids accountingPanics (setupChannel ctx env channelId0 optChannelId setup path)
      node := by
  simp only [setupChannel, Call.avoids_get_bind]
  split
  · simp
  · have spliced : ∀ s, Call.Avoids accountingPanics
        (Channel.perform ctx.toContext env (.setupSplice setup path)) s := by
      intro s
      refine Channel.perform_avoids decodes fun _ => ⟨?_, trivial⟩
      intro moved
      cases moved
    simpa [onChannel_avoids] using spliced _
  · simp [ChannelStub.ready, ChannelStub.toHolderMsat, Validator.validateSetupChannel]

theorem withChannel_avoids (decodes : ctx.DecodesOnly) {channelId} {request : ChannelRequest}
    (keeps : KeepsExcess ctx node ⟨env, .withChannel channelId request⟩) :
    Call.Avoids accountingPanics (withChannel ctx env channelId request) node := by
  simp only [withChannel, Call.avoids_get_bind]
  split
  · simp
  · have stub : Avoids accountingPanics (ChannelStub.perform channelId request) := by
      cases request <;> simp [ChannelStub.perform]
    simpa using stub
  · rename_i position chan found
    have called : Call.Avoids accountingPanics (Channel.perform ctx.toContext env request)
        ⟨chan, node.state⟩ := by
      refine Channel.perform_avoids decodes ?_
      intro enforced
      refine keeps enforced (position, chan, request) ?_
      simp [NodeRequest.calls, found]
    simpa [onChannel_avoids] using called

end Node

theorem Node.perform_avoids {ctx : NodeContext} (decodes : ctx.DecodesOnly) {node input}
    (keeps : KeepsExcess ctx node input) :
    Call.Avoids accountingPanics (Node.perform ctx input.env input.request) node := by
  obtain ⟨env, request⟩ := input
  cases request with
  | newChannel => exact Node.newChannel_avoids
  | setupChannel => exact Node.setupChannel_avoids decodes
  | withChannel => exact Node.withChannel_avoids decodes keeps
  | addInvoice => simpa [Node.perform, Node.onState_avoids] using Node.addInvoice_avoids
  | addKeysend => simpa [Node.perform, Node.onState_avoids, addKeysend] using Node.approve_avoids
  | signBolt11Invoice =>
    have signed := @Node.signBolt11Invoice_avoids
    simp [Node.perform, Node.onState_avoids, signed]

/-- In a run that keeps within the excess, the balance accounting aborts no request. -/
theorem accounting_never_aborts {ctx : NodeContext} (decodes : ctx.DecodesOnly)
    {velocityControl : VelocityControl} {inputs : List NodeInput}
    (keeps : (nodeMachine ctx).Along (KeepsExcess ctx) (.new velocityControl) inputs) :
    (nodeMachine ctx).Along
      (fun node input => ∀ message ∈ accountingPanics, ∀ node',
        Node.perform ctx input.env input.request node ≠ .error (.panic message) node')
      (.new velocityControl) inputs := by
  refine keeps.mono ?_
  intro node input keeps message accounting node'
  exact (Node.perform_avoids decodes keeps).ne_panic accounting

open Toy

def balancedNode : NodeContext :=
  nodeCtx { makeDefaultSimplePolicy .testnet with enforceBalance := true }

theorem balancedNode_decodes : balancedNode.DecodesOnly := by
  refine ⟨?_⟩
  intro keys setup isCounterparty tx witscripts
  exact avoids_ok

def giveUpGain : List NodeInput :=
  [createChannel 1, createChannel 2, createChannel 3,
    openChannel 1, openChannel 2, openChannel 3,
    sign 1 0 ⟨1000, 499000, 500000, [], []⟩, sign 1 1 ⟨1000, 599000, 400000, [], []⟩,
    validate 2 0 ⟨1000, 499000, 500000, [], []⟩, activateOn 2,
    validate 2 1 ⟨1000, 399000, 600000, [], []⟩]

def giveUpAgain : List NodeInput :=
  [sign 3 0 ⟨1000, 499000, 500000, [], []⟩, sign 3 1 ⟨1000, 399000, 600000, [], []⟩]

theorem covered_commitment_recorded :
    (nodeMachine balancedNode).Along
      (fun node input => ∀ message ∈ accountingPanics, ∀ node',
        Node.perform balancedNode input.env input.request node ≠ .error (.panic message) node')
      nodeStart (giveUpGain ++ [revokeOn 2 1]) :=
  accounting_never_aborts balancedNode_decodes (by decide +kernel)

/-- A commitment that passed its checks cannot be recorded after the excess is spent elsewhere. -/
theorem spent_excess_aborts :
    ∃ history node, (nodeMachine balancedNode).Run nodeStart history node
      ∧ ∃ node', Node.perform balancedNode Toy.env (revokeOn 2 1).request node
        = .error (.panic "validation didn't catch underflow") node' := by
  obtain ⟨history, node, run, panicked⟩ :
      ∃ history node, (nodeMachine balancedNode).Run nodeStart history node
        ∧ (Node.perform balancedNode Toy.env (revokeOn 2 1).request).panicked node
          = some "validation didn't catch underflow" :=
    Machine.exists_run (giveUpGain ++ giveUpAgain) (by decide +kernel)
  exact ⟨history, node, run, Call.exists_of_panicked panicked⟩

end Vls
