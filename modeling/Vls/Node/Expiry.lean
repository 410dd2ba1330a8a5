import Vls.Node.Payments
import Vls.Node.Toy

/-! # The margin between expiries

A payment that is passed on must not expire on the way in before it can be claimed. Its record keeps
the earliest expiry on the way in and the latest on the way out. They are compared as they were
before a commitment; what the commitment adds to them is compared with nothing. -/

namespace Vls

section merge

variable {a b : Option U32} {bound : U32}

theorem mergeMin_eq_some (merged : mergeMin a b = some bound) :
    a = some bound ∨ b = some bound := by
  unfold mergeMin at merged
  split at merged
  · split at merged
    · exact .inl merged
    · exact .inr merged
  · exact .inl merged
  · exact .inr merged

theorem mergeMax_eq_some (merged : mergeMax a b = some bound) :
    a = some bound ∨ b = some bound := by
  unfold mergeMax at merged
  split at merged
  · split at merged
    · exact .inr merged
    · exact .inl merged
  · exact .inl merged
  · exact .inr merged

theorem bound_attained {merge : Option U32 → Option U32 → Option U32}
    (picks : ∀ a b bound, merge a b = some bound → a = some bound ∨ b = some bound)
    {hash : PaymentHash} {htlcs : List HTLCInfo2} {start : Option U32}
    (bounded : htlcs.foldl (fun acc h =>
      if h.paymentHash = hash then merge acc (some h.cltvExpiry) else acc) start = some bound) :
    start = some bound ∨ ∃ htlc ∈ htlcs, htlc.paymentHash = hash ∧ htlc.cltvExpiry = bound := by
  induction htlcs generalizing start with
  | nil => exact .inl bounded
  | cons first rest ih =>
    rw [List.foldl_cons] at bounded
    rcases ih bounded with here | ⟨htlc, member, found⟩
    · split at here
      · rename_i same
        rcases picks _ _ _ here with before | new
        · exact .inl before
        · exact .inr ⟨first, List.mem_cons_self, same, Option.some.inj new⟩
      · exact .inl here
    · exact .inr ⟨htlc, List.mem_cons_of_mem first member, found⟩

end merge

/-- An HTLC that goes out expires early enough before one that comes in. -/
def Margin (ctx : NodeContext) (outgoing incoming : U32) : Prop :=
  outgoing.toNat + ctx.validator.policy.cltvDelta.toNat ≤ incoming.toNat
  deriving Decidable

-- words are finite, so without this every word would be tried
instance {p : U32 → Prop} [DecidablePred p] (bound : Option U32) :
    Decidable (∀ expiry ∈ bound, p expiry) :=
  Option.decidableForallMem bound

/-- A step keeps the margins: the HTLCs of the commitment that it records keep the margin to those
    recorded before and among each other. -/
def KeepsMargin (ctx : NodeContext) (node : Node) (input : NodeInput) : Prop :=
  ∀ share ∈ input.request.share ctx input.env node,
    (∀ out ∈ share.outgoingHtlcs,
      ∀ incoming ∈ (node.state.record out.paymentHash).incomingCltvMin,
        Margin ctx out.cltvExpiry incoming)
    ∧ (∀ inc ∈ share.incomingHtlcs,
      ∀ outgoing ∈ (node.state.record inc.paymentHash).outgoingCltvMax,
        Margin ctx outgoing inc.cltvExpiry)
    ∧ ∀ out ∈ share.outgoingHtlcs, ∀ inc ∈ share.incomingHtlcs,
      out.paymentHash = inc.paymentHash → Margin ctx out.cltvExpiry inc.cltvExpiry
  deriving Decidable

def MarginKept (ctx : NodeContext) (payment : RoutedPayment) : Prop :=
  ∀ outgoing incoming, payment.outgoingCltvMax = some outgoing →
    payment.incomingCltvMin = some incoming → Margin ctx outgoing incoming

def MarginsKept (ctx : NodeContext) (state : NodeState) : Prop :=
  ∀ hash payment, state.payments.lookup hash = some payment → MarginKept ctx payment

section step

variable {ctx : NodeContext} {node : Node} {state : NodeState}

theorem marginKept_new : MarginKept ctx .new := by
  intro outgoing incoming out
  cases out

theorem MarginsKept.record (kept : MarginsKept ctx state) (hash : PaymentHash) :
    MarginKept ctx (state.record hash) := by
  unfold NodeState.record
  cases found : state.payments.lookup hash with
  | none => exact marginKept_new
  | some payment => exact kept hash payment found

theorem MarginKept.record {payment : RoutedPayment} (kept : MarginKept ctx payment)
    {share : Share} {hash : PaymentHash}
    (toRecorded : ∀ out ∈ share.outgoingHtlcs, out.paymentHash = hash →
      ∀ incoming ∈ payment.incomingCltvMin, Margin ctx out.cltvExpiry incoming)
    (fromRecorded : ∀ inc ∈ share.incomingHtlcs, inc.paymentHash = hash →
      ∀ outgoing ∈ payment.outgoingCltvMax, Margin ctx outgoing inc.cltvExpiry)
    (among : ∀ out ∈ share.outgoingHtlcs, ∀ inc ∈ share.incomingHtlcs,
      out.paymentHash = inc.paymentHash → Margin ctx out.cltvExpiry inc.cltvExpiry) :
    MarginKept ctx (share.recordedIn payment hash) := by
  intro outgoing incoming out inc
  rcases mergeMax_eq_some out with out | out <;> rcases mergeMin_eq_some inc with inc | inc
  · exact kept outgoing incoming out inc
  · rcases bound_attained (fun _ _ _ => mergeMin_eq_some) inc with none | ⟨htlc, member, same, rfl⟩
    · cases none
    · exact fromRecorded htlc member same outgoing out
  · rcases bound_attained (fun _ _ _ => mergeMax_eq_some) out with none | ⟨htlc, member, same, rfl⟩
    · cases none
    · exact toRecorded htlc member same incoming inc
  · rcases bound_attained (fun _ _ _ => mergeMax_eq_some) out with none | ⟨htlc, member, same, rfl⟩
    · cases none
    rcases bound_attained (fun _ _ _ => mergeMin_eq_some) inc with
      none | ⟨htlc', member', same', rfl⟩
    · cases none
    exact among htlc member htlc' member' (same.trans same'.symm)

theorem MarginsKept.step {input : NodeInput} (kept : MarginsKept ctx node.state)
    (keeps : KeepsMargin ctx node input) (change : PaymentChange ctx node input state) :
    MarginsKept ctx state := by
  intro hash payment found
  cases change with
  | none invoices payments =>
    rw [payments] at found
    exact kept hash payment found
  | applied shares validated applied =>
    rename_i env request share
    obtain ⟨toRecorded, fromRecorded, among⟩ := keeps share shares
    by_cases touched : hash ∈ share.hashes
    · obtain ⟨preimage, recorded, _⟩ := applied.touched hash touched
      cases recorded.symm.trans found
      have recorded : MarginKept ctx (share.recordedIn (node.state.record hash) hash) := by
        refine (kept.record hash).record ?_ ?_ among
        · rintro out member rfl
          exact toRecorded out member
        · rintro inc member rfl
          exact fromRecorded inc member
      exact recorded
    · rw [applied.untouched hash touched] at found
      exact kept hash payment found
  | settled settled =>
    obtain ⟨before, found, same, _⟩ := settled.records hash payment found
    rw [same]
    exact kept hash before found
  | approved asked new invoices payments =>
    rename_i env request approved paymentState
    rw [payments, Map.orInsert, Map.lookup_insert_ite] at found
    split at found
    · cases found
      exact kept.record approved
    · exact kept hash payment found

end step

/-- In a run that keeps the margins, the expiries recorded for a payment keep the margin. -/
theorem recorded_expiries_keep_margin {ctx : NodeContext} (strict : ctx.validator.Strict)
    {velocityControl : VelocityControl} {node : Node} {history : List NodeStep}
    (run : (nodeMachine ctx).Run (.new velocityControl) history node)
    (keeps : Machine.Meets (fun _ => KeepsMargin ctx) history) {hash : PaymentHash}
    {payment : RoutedPayment} {outgoing incoming : U32}
    (found : node.state.payments.lookup hash = some payment)
    (latest : payment.outgoingCltvMax = some outgoing)
    (earliest : payment.incomingCltvMin = some incoming) :
    outgoing.toNat + ctx.validator.policy.cltvDelta.toNat ≤ incoming.toNat := by
  have kept : MarginsKept ctx node.state := by
    refine node_run_inv (KeepsMargin ctx) (fun node => MarginsKept ctx node.state) run keeps ?_ ?_
    · intro hash payment found
      cases found
    · intro node input node' kept keeps effect
      exact kept.step keeps (payment_change strict effect)
  exact kept hash payment found outgoing incoming latest earliest

open Toy

def routingNode : NodeContext := nodeCtx (makeDefaultSimplePolicy .testnet)

def routeThrough (incoming outgoing : U32) : List NodeInput :=
  [createChannel 1, createChannel 2, openChannel 1, openChannel 2,
    sign 1 0 ⟨1000, 499000, 500000, [], []⟩,
    validate 1 0 ⟨1000, 499000, 500000, [], []⟩, activateOn 1,
    sign 1 1 ⟨1000, 499000, 490000, [Toy.htlc 10000 5 incoming], []⟩,
    validate 1 1 ⟨1000, 499000, 490000, [], [Toy.htlc 10000 5 incoming]⟩, revokeOn 1 1,
    sign 2 0 ⟨1000, 499000, 500000, [], []⟩,
    sign 2 1 ⟨1000, 489000, 500000, [], [Toy.htlc 10000 5 outgoing]⟩]

theorem routed_payment_keeps_margin :
    ∃ history node, (nodeMachine routingNode).Run nodeStart history node
      ∧ ∃ payment, node.state.payments.lookup (paymentHash 5) = some payment
        ∧ ∃ outgoing incoming, payment.outgoingCltvMax = some outgoing
          ∧ payment.incomingCltvMin = some incoming
          ∧ outgoing.toNat + routingNode.validator.policy.cltvDelta.toNat ≤ incoming.toNat := by
  obtain ⟨history, node, run, keeps, payment, found, latest, earliest⟩ :
      ∃ history node, (nodeMachine routingNode).Run nodeStart history node
        ∧ Machine.Meets (fun _ => KeepsMargin routingNode) history
        ∧ ∃ payment ∈ node.state.payments.lookup (paymentHash 5),
          payment.outgoingCltvMax = some 100 ∧ payment.incomingCltvMin = some 200 :=
    Machine.exists_run (routeThrough 200 100) (by decide +kernel)
  exact ⟨history, node, run, payment, found, 100, 200, latest, earliest,
    recorded_expiries_keep_margin Toy.strict run keeps found latest earliest⟩

/-- A payment is passed on that expires on the way out after it expired on the way in. -/
theorem routed_payment_expires_late :
    ∃ history node, (nodeMachine routingNode).Run nodeStart history node
      ∧ ∃ payment ∈ node.state.payments.lookup (paymentHash 5),
        payment.outgoingCltvMax = some 200 ∧ payment.incomingCltvMin = some 100
          ∧ 100 < 200 + routingNode.validator.policy.cltvDelta.toNat :=
  Machine.exists_run (routeThrough 100 200) (by decide +kernel)

end Vls
