import Vls.Node.Payments
import Vls.Node.Toy

/-! # Approved payments stay covered

What goes out for an approved payment should be covered by what comes in, the approved amount and
the routing fee. A commitment of the counterparty is validated and recorded in one call, one of the
holder in two, and what other channels record in between is not looked at again. -/

namespace Vls

open NodeState

/-- What is recorded can be told in millisatoshi, a holder commitment that is recorded still
    balances, and a payment is approved only if what is recorded for it is covered. -/
def KeepsCovered (ctx : NodeContext) (node : Node) (input : NodeInput) : Prop :=
  (∀ share ∈ input.request.share ctx input.env node, ∀ hash ∈ share.hashes,
    (node.state.invoices.lookup hash).isSome → (node.state.record hash).preimage = none →
      1000 * (share.recordedIn (node.state.record hash) hash).outgoingTotal < 2 ^ 64
        ∧ (input.request.movesOn node = true →
          node.state.unbalanced ctx.validator share.channelId share.incoming share.outgoing hash
            = false))
  ∧ ∀ approval ∈ input.request.approval input.env,
    node.state.invoices.lookup approval.1 = none →
    (node.state.record approval.1).preimage = none →
    Covered ctx.validator approval.2 (node.state.record approval.1)
  deriving Decidable

def AllCovered (validator : Validator) (state : NodeState) : Prop :=
  ∀ hash payment invoice, state.payments.lookup hash = some payment →
    state.invoices.lookup hash = some invoice → payment.preimage = none →
    Covered validator invoice payment

section step

variable {ctx : NodeContext} {node : Node} {state : NodeState}

theorem AllCovered.apply (strict : ctx.validator.Strict)
    (covered : AllCovered ctx.validator node.state) {share}
    (applied : Applied node.state share state)
    (balanced : ∀ hash ∈ share.hashes, (node.state.invoices.lookup hash).isSome →
      (node.state.record hash).preimage = none → 1000 * (share.recordedIn (node.state.record hash)
      hash).outgoingTotal < 2 ^ 64 ∧ node.state.unbalanced ctx.validator share.channelId
      share.incoming share.outgoing hash = false) : AllCovered ctx.validator state := by
  intro hash payment invoice found invoiced unsettled
  rw [applied.invoices] at invoiced
  by_cases touched : hash ∈ share.hashes
  · obtain ⟨preimage, recorded, settled⟩ := applied.touched hash touched
    cases recorded.symm.trans found
    obtain ⟨fits, balanced⟩ := balanced hash touched (by rw [invoiced]; rfl) (settled unsettled)
    exact covered_of_balanced strict invoiced balanced fits
  · rw [applied.untouched hash touched] at found
    exact covered hash payment invoice found invoiced unsettled

theorem AllCovered.settle (covered : AllCovered ctx.validator node.state)
    (settled : Settled node.state state) : AllCovered ctx.validator state := by
  intro hash payment' invoice found invoiced unsettled
  rw [settled.invoices] at invoiced
  obtain ⟨payment, found, same, before⟩ := settled.records hash payment' found
  rw [same]
  exact covered hash payment invoice found invoiced (before unsettled)

theorem AllCovered.approve (covered : AllCovered ctx.validator node.state) {hash paymentState}
    (invoices : state.invoices = node.state.invoices.insert hash paymentState)
    (payments : state.payments = node.state.payments.orInsert hash .new)
    (already : (node.state.record hash).preimage = none →
      Covered ctx.validator paymentState (node.state.record hash)) :
    AllCovered ctx.validator state := by
  intro hash' payment invoice found invoiced unsettled
  rw [invoices, Map.lookup_insert_ite] at invoiced
  rw [payments, Map.orInsert, Map.lookup_insert_ite] at found
  split at invoiced
  · rename_i same
    rw [if_pos same] at found
    cases invoiced
    cases found
    exact already unsettled
  · rename_i other
    rw [if_neg other] at found
    exact covered hash' payment invoice found invoiced unsettled

theorem AllCovered.step (strict : ctx.validator.Strict) {input}
    (covered : AllCovered ctx.validator node.state) (keeps : KeepsCovered ctx node input)
    (change : PaymentChange ctx node input state) : AllCovered ctx.validator state := by
  cases change with
  | none invoices payments =>
    intro hash payment invoice found invoiced
    rw [payments] at found
    rw [invoices] at invoiced
    exact covered hash payment invoice found invoiced
  | applied shares validated applied =>
    refine covered.apply strict applied ?_
    intro hash touched invoiced unsettled
    obtain ⟨fits, again⟩ := keeps.1 _ shares hash touched invoiced unsettled
    refine ⟨fits, ?_⟩
    rcases validated with movesOn | balanced
    · exact again movesOn
    · exact balanced hash touched
  | settled settled => exact covered.settle settled
  | approved asked new invoices payments =>
    exact covered.approve invoices payments (keeps.2 _ asked new)

end step

/-- In a run that keeps payments covered, every approved payment that is not settled is covered,
    in whatever order the channels of the node take their steps. -/
theorem approved_payments_covered {ctx : NodeContext} (strict : ctx.validator.Strict)
    {velocityControl : VelocityControl} {node : Node} {history : List NodeStep}
    (run : (nodeMachine ctx).Run (.new velocityControl) history node)
    (keeps : Machine.Meets (fun _ => KeepsCovered ctx) history) {hash : PaymentHash}
    {payment : RoutedPayment} {invoice : PaymentState}
    (found : node.state.payments.lookup hash = some payment)
    (approved : node.state.invoices.lookup hash = some invoice)
    (unsettled : payment.preimage = none) :
    1000 * payment.outgoingTotal ≤ 1000 * payment.incomingTotal + invoice.amountMsat.toNat
      + ctx.validator.policy.maxRoutingFeeMsat.toNat := by
  have covered : AllCovered ctx.validator node.state := by
    refine node_run_inv (KeepsCovered ctx) (fun node => AllCovered ctx.validator node.state) run
      keeps ?_ ?_
    · intro hash payment invoice found
      cases found
    · intro node input node' covered keeps effect
      exact covered.step strict keeps (payment_change strict effect)
  exact covered hash payment invoice found approved unsettled

open Toy

def toyNode : NodeContext := nodeCtx (makeDefaultSimplePolicy .testnet)

theorem paid_invoice_covered :
    ∃ history node, (nodeMachine toyNode).Run nodeStart history node
      ∧ ∃ payment, node.state.payments.lookup (paymentHash 5) = some payment
        ∧ payment.outgoingTotal = 10000
        ∧ ∃ invoice, node.state.invoices.lookup (paymentHash 5) = some invoice
          ∧ 1000 * payment.outgoingTotal ≤ 1000 * payment.incomingTotal
            + invoice.amountMsat.toNat + toyNode.validator.policy.maxRoutingFeeMsat.toNat := by
  obtain ⟨history, node, run, keeps, payment, found, unsettled, total, invoice, approved⟩ :
      ∃ history node, (nodeMachine toyNode).Run nodeStart history node
        ∧ Machine.Meets (fun _ => KeepsCovered toyNode) history
        ∧ ∃ payment ∈ node.state.payments.lookup (paymentHash 5), payment.preimage = none
          ∧ payment.outgoingTotal = 10000
          ∧ ∃ invoice ∈ node.state.invoices.lookup (paymentHash 5), invoice.amountMsat = 10000000 :=
    Machine.exists_run [createChannel 1, openChannel 1, approve 5 10000000,
      sign 1 0 ⟨1000, 499000, 500000, [], []⟩,
      sign 1 1 ⟨1000, 489000, 500000, [], [htlc 10000 5 100]⟩] (by decide +kernel)
  exact ⟨history, node, run, payment, found, total, invoice, approved.1,
    approved_payments_covered Toy.strict run keeps found approved.1 unsettled⟩

/-- A payment that is validated on one channel, sent on another and then recorded on the first is
    paid twice. -/
theorem approved_payment_sent_twice :
    ∃ history node, (nodeMachine toyNode).Run nodeStart history node
      ∧ ∃ payment ∈ node.state.payments.lookup (paymentHash 5), payment.preimage = none
        ∧ ∃ invoice ∈ node.state.invoices.lookup (paymentHash 5),
          1000 * payment.incomingTotal + invoice.amountMsat.toNat
            + toyNode.validator.policy.maxRoutingFeeMsat.toNat < 1000 * payment.outgoingTotal :=
  Machine.exists_run [createChannel 1, createChannel 2, openChannel 1,
    openChannel 2, approve 5 10000000,
    validate 1 0 ⟨1000, 499000, 500000, [], []⟩, activateOn 1,
    validate 1 1 ⟨1000, 489000, 500000, [htlc 10000 5 100], []⟩,
    sign 2 0 ⟨1000, 499000, 500000, [], []⟩,
    sign 2 1 ⟨1000, 489000, 500000, [], [htlc 10000 5 100]⟩,
    revokeOn 1 1] (by decide +kernel)

end Vls
