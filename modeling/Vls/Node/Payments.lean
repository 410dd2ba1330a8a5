import Vls.Node.Effect
import Vls.Node.Records

/-! # What a node does to its records of payments

Of all that a node does, four things change what payments are validated against: a commitment of
either side is applied, preimages are reported, and a payment is approved. -/

namespace Vls

open NodeState

def Channel.holderShare (chan : Channel) (info2 : CommitmentInfo2) : Share where
  channelId := chan.id0
  incoming := chan.enforcementState.incomingPaymentsSummary (some info2) none
  outgoing := chan.enforcementState.paymentsSummary (some info2) none
  commitInfo := info2

def Channel.counterpartyShare (chan : Channel) (info2 : CommitmentInfo2) : Share where
  channelId := chan.id0
  incoming := chan.enforcementState.incomingPaymentsSummary none (some info2)
  outgoing := chan.enforcementState.paymentsSummary none (some info2)
  commitInfo := info2

def ChannelRequest.share (ctx : Context) (env : Env) (s : Locked) (request : ChannelRequest) :
    Option Share :=
  match request with
  | .revokePreviousHolderCommitment _ =>
    if request.movesOn s then
      s.chan.enforcementState.nextHolderCommitInfo.map fun next => s.chan.holderShare next.1
    else
      none
  | _ => (request.counterpartyCommitment ctx env s).map fun commitment =>
    s.chan.counterpartyShare commitment.info2

namespace NodeRequest

variable (ctx : NodeContext) (env : Env) (node : Node) (request : NodeRequest)

def share : Option Share :=
  (request.calls node).bind fun call => call.2.2.share ctx.toContext env ⟨call.2.1, node.state⟩

def movesOn : Bool :=
  (request.calls node).any fun call => call.2.2.movesOn ⟨call.2.1, node.state⟩

end NodeRequest

inductive PaymentChange (ctx : NodeContext) (node : Node) : NodeInput → NodeState → Prop where
  | none {input state} (invoices : state.invoices = node.state.invoices)
      (payments : state.payments = node.state.payments) : PaymentChange ctx node input state
  | applied {env request share state} (shares : request.share ctx env node = some share)
      (validated : request.movesOn node = true ∨ ∀ hash ∈ share.hashes,
        node.state.unbalanced ctx.validator share.channelId share.incoming share.outgoing hash
          = false)
      (applied : Applied node.state share state) : PaymentChange ctx node ⟨env, request⟩ state
  | settled {input state} (settled : Settled node.state state) :
      PaymentChange ctx node input state
  | approved {env request hash paymentState state}
      (asked : request.approval env = some (hash, paymentState))
      (new : node.state.invoices.lookup hash = .none)
      (invoices : state.invoices = node.state.invoices.insert hash paymentState)
      (payments : state.payments = node.state.payments.orInsert hash .new) :
      PaymentChange ctx node ⟨env, request⟩ state

theorem share_of_counterparty {ctx env} {s : Locked} {request : ChannelRequest}
    {commitment : CounterpartyCommitment}
    (asked : request.counterpartyCommitment ctx env s = some commitment) :
    request.share ctx env s = some (s.chan.counterpartyShare commitment.info2) := by
  cases request with
  | revokePreviousHolderCommitment => cases asked
  | _ => simp [ChannelRequest.share, asked]

theorem called_change {ctx} (strict : ctx.validator.Strict) {node env request} {position : Nat}
    {chan : Channel} {asked : ChannelRequest} {events : List Event} {s' : Locked}
    (calls : request.calls node = some (position, chan, asked))
    (effect : Effect ctx.toContext env ⟨chan, node.state⟩ asked events s') :
    PaymentChange ctx node ⟨env, request⟩ s'.state := by
  cases effect with
  | idle | released | validated | dropped | stalled | activated | reactivated | closed | stored
  | revoked | spliced | locked => exact .none rfl rfl
  | advanced pending balances applied disclosed =>
    rename_i info2 signatures delta state
    have pending : chan.enforcementState.nextHolderCommitInfo = some (info2, signatures) :=
      pending
    have movesOn : ChannelRequest.movesOn ⟨chan, node.state⟩ (.revokePreviousHolderCommitment
        chan.enforcementState.nextHolderCommitNum) = true := by
      simp [ChannelRequest.movesOn, pending]
    have shares : request.share ctx env node = some (chan.holderShare info2) := by
      simp [NodeRequest.share, calls, ChannelRequest.share, movesOn, pending]
    refine .applied shares (.inl ?_) (applyPayments_applied applied)
    simp [NodeRequest.movesOn, calls, movesOn]
  | signed asked checked signed =>
    rename_i commitment
    have shares : request.share ctx env node = some (chan.counterpartyShare commitment.info2) := by
      simp [NodeRequest.share, calls, share_of_counterparty asked]
    exact .applied shares (.inr (validatePayments_balanced strict checked.payments))
      (applyPayments_applied signed.applied)
  | fulfilled applied => exact .settled (htlcsFulfilled_settled applied)

theorem payment_change {ctx} (strict : ctx.validator.Strict) {node node' input}
    (effect : NodeEffect ctx node input node') : PaymentChange ctx node input node'.state := by
  cases effect with
  | idle | added => exact .none rfl rfl
  | recorded payments invoices => exact .none invoices payments
  | approved asked new => exact .approved asked new rfl rfl
  | called calls stepped =>
    rename_i env request position chan asked output s'
    cases step_effect strict stepped with
    | call effect => exact called_change strict calls effect

end Vls
