import Vls.Policy.Validator

/-! # The payments a node keeps track of

One record per payment hash collects what the channels of the node have in flight for it in
either direction. A commitment is first validated against these records and later applied to
them; for the holder's commitments the two happen in different calls. -/

namespace Vls

open Result

variable {balanceDelta : BalanceDelta} {validator : Validator} {fault : Fault Status}

abbrev Duration := Nat

def Duration.fromSecs (secs : Nat) : Duration := secs * 1000000000

def Duration.asSecs (time : Duration) : Nat := time / 1000000000

structure VelocityControl where
  startSec : U64
  bucketInterval : U32
  buckets : List U64
  limit : U64

namespace VelocityControl

def newUnlimited : VelocityControl where
  startSec := 0
  bucketInterval := 300
  buckets := List.replicate 12 0
  limit := BitVec.allOnes 64

def velocity (control : VelocityControl) : U64 :=
  control.buckets.foldl BitVec.saturatingAdd 0

/-- Move the buckets on to the current second, then add to the newest one unless the limit would
    be exceeded. -/
def insert (control : VelocityControl) (currentSec velocityMsat : U64) :
    Bool × VelocityControl :=
  let interval := control.bucketInterval.zeroExtend 64
  let nshift := min control.buckets.length ((currentSec - control.startSec) / interval).toNat
  let control := { control with
    buckets := List.replicate nshift 0 ++ control.buckets.take (control.buckets.length - nshift)
    startSec := currentSec - currentSec % interval }
  if control.velocity.saturatingAdd velocityMsat > control.limit then
    (false, control)
  else
    (true, { control with buckets := control.buckets.modifyHead (·.saturatingAdd velocityMsat) })

end VelocityControl

inductive PaymentType where
  | invoice
  | keysend

/-- What is kept of an invoice the node approved or issued. -/
structure PaymentState where
  invoiceHash : BitVec 256
  amountMsat : U64
  payee : PublicKey
  durationSinceEpoch : Duration
  expiryDuration : Duration
  isFulfilled : Bool
  paymentType : PaymentType

def mergeMin (a b : Option U32) : Option U32 :=
  match a, b with
  | some a, some b => some (if a ≤ b then a else b)
  | some a, none => some a
  | none, b => b

def mergeMax (a b : Option U32) : Option U32 :=
  match a, b with
  | some a, some b => some (if a ≤ b then b else a)
  | some a, none => some a
  | none, b => b

/-- The HTLCs in flight for one payment hash. -/
structure RoutedPayment where
  incoming : Map ChannelId U64
  outgoing : Map ChannelId U64
  incomingCltvMin : Option U32
  outgoingCltvMax : Option U32
  preimage : Option PaymentPreimage

namespace RoutedPayment

def new : RoutedPayment where
  incoming := ∅
  outgoing := ∅
  incomingCltvMin := none
  outgoingCltvMax := none
  preimage := none

variable (payment : RoutedPayment)

def updatedIncomingOutgoing (channelId : ChannelId) (incomingAmountSat outgoingAmountSat : U64) :
    U64 × U64 :=
  (BitVec.sum payment.incoming.values + incomingAmountSat - payment.incoming.getD channelId 0,
    BitVec.sum payment.outgoing.values + outgoingAmountSat - payment.outgoing.getD channelId 0)

def incomingOutgoing : U64 × U64 :=
  (BitVec.sum payment.incoming.values, BitVec.sum payment.outgoing.values)

/-- Replace the share of a channel; the expiry bounds only ever tighten. -/
def apply (channelId : ChannelId) (incomingAmountSat outgoingAmountSat : U64)
    (incomingCltv outgoingCltv : Option U32) : RoutedPayment :=
  { payment with
    incoming := payment.incoming.insert channelId incomingAmountSat
    outgoing := payment.outgoing.insert channelId outgoingAmountSat
    incomingCltvMin := mergeMin payment.incomingCltvMin incomingCltv
    outgoingCltvMax := mergeMax payment.outgoingCltvMax outgoingCltv }

def getCltvBounds : Option (U32 × U32) :=
  match payment.incomingCltvMin, payment.outgoingCltvMax with
  | some inc, some out => some (inc, out)
  | _, _ => none

end RoutedPayment

structure NodeState where
  invoices : Map PaymentHash PaymentState
  issuedInvoices : Map PaymentHash PaymentState
  payments : Map PaymentHash RoutedPayment
  excessAmount : U64
  velocityControl : VelocityControl
  dbidHighWaterMark : U64

namespace NodeState

def new (velocityControl : VelocityControl) : NodeState where
  invoices := ∅
  issuedInvoices := ∅
  payments := ∅
  excessAmount := 0
  velocityControl := velocityControl
  dbidHighWaterMark := 0

variable (state : NodeState)

def hasPreimage (hash : PaymentHash) : Bool :=
  (state.payments.lookup hash).any (·.preimage.isSome)

def summaryHashes (incoming outgoing : Map PaymentHash U64) : List PaymentHash :=
  incoming.keys ++ outgoing.keys.filter (fun hash => hash ∉ incoming.keys)

def updatedTotals (channelId : ChannelId) (incoming outgoing : Map PaymentHash U64)
    (hash : PaymentHash) : U64 × U64 :=
  match state.payments.lookup hash with
  | some payment =>
    payment.updatedIncomingOutgoing channelId (incoming.getD hash 0) (outgoing.getD hash 0)
  | none => (incoming.getD hash 0, outgoing.getD hash 0)

/-- The totals of a payment do not balance. A routed payment that is already known is let off,
    since its incoming HTLC may be removed before its preimage is reported. -/
def unbalanced (validator : Validator) (channelId : ChannelId)
    (incoming outgoing : Map PaymentHash U64) (hash : PaymentHash) : Bool :=
  let (incomingSat, outgoingSat) := state.updatedTotals channelId incoming outgoing hash
  let invoicedAmount := (state.invoices.lookup hash).map (·.amountMsat)
  match validator.validatePaymentBalance (incomingSat * 1000) (outgoingSat * 1000)
      invoicedAmount with
  | .ok () => false
  | .error _ => !((state.payments.lookup hash).isSome && invoicedAmount.isNone)

/-- The expiry bounds recorded for a payment are checked, not those of the new commitment. -/
def validateRecordedCltv (validator : Validator) (hash : PaymentHash) :
    Result ValidationError Unit :=
  match (state.payments.lookup hash).bind (·.getCltvBounds) with
  | some (incomingCltv, outgoingCltv) => validator.validatePaymentCltv incomingCltv outgoingCltv
  | none => .ok ()

def preflight (validator : Validator) (channelId : ChannelId)
    (incoming outgoing : Map PaymentHash U64) :
    List PaymentHash → Result ValidationError (List PaymentHash)
  | [] => .ok []
  | hash :: rest => do
    state.validateRecordedCltv validator hash
    let unbalancedRest ← preflight validator channelId incoming outgoing rest
    if state.unbalanced validator channelId incoming outgoing hash then
      .ok (hash :: unbalancedRest)
    else
      .ok unbalancedRest

def validatePayments (channelId : ChannelId) (incoming outgoing : Map PaymentHash U64)
    (balanceDelta : BalanceDelta) (validator : Validator) : Result ValidationError Unit := do
  let unbalanced ← state.preflight validator channelId incoming outgoing
    (summaryHashes incoming outgoing)
  validator.filter.refuseIf (unbalanced ≠ []) "validate_payments"
    "policy-commitment-htlc-routing-balance"
    s!"unbalanced payments on channel {channelId}: {unbalanced}"
  if validator.enforceBalance then
    let sum ← expect "overflow" (state.excessAmount.checkedAdd balanceDelta.newBal)
    match sum.checkedSub balanceDelta.curBal with
    | some _ => .ok ()
    | none => .err (policyError "policy-routing-balanced"
        (s!"shortfall {state.excessAmount.toNat} + {balanceDelta.newBal.toNat} " ++
          s!"- {balanceDelta.curBal.toNat}"))

def incomingOutgoingHtlcs (info : CommitmentInfo2) : List HTLCInfo2 × List HTLCInfo2 :=
  if info.isCounterpartyBroadcaster then
    (info.offeredHtlcs, info.receivedHtlcs)
  else
    (info.receivedHtlcs, info.offeredHtlcs)

def minCltv (hash : PaymentHash) (htlcs : List HTLCInfo2) : Option U32 :=
  htlcs.foldl
    (fun least h => if h.paymentHash = hash then mergeMin least (some h.cltvExpiry) else least) none

def maxCltv (hash : PaymentHash) (htlcs : List HTLCInfo2) : Option U32 :=
  htlcs.foldl
    (fun most h => if h.paymentHash = hash then mergeMax most (some h.cltvExpiry) else most) none

/-- An issued invoice is paid once the updated totals leave its amount with the node. -/
def paysIssued (channelId : ChannelId) (incoming outgoing : Map PaymentHash U64)
    (hash : PaymentHash) : Bool :=
  match state.issuedInvoices.lookup hash with
  | none => false
  | some issued =>
    let (incomingSat, outgoingSat) := state.updatedTotals channelId incoming outgoing hash
    !(state.hasPreimage hash) && decide (incomingSat ≥ outgoingSat + issued.amountMsat / 1000)

/-- The excess moves by the change of the claimable balance, where balances are enforced. -/
def adjustedExcess (balanceDelta : BalanceDelta) (validator : Validator) : Result Status U64 := do
  if validator.enforceBalance then
    let sum ← expect "overflow" (state.excessAmount.checkedAdd balanceDelta.newBal)
    expect "validation didn't catch underflow" (sum.checkedSub balanceDelta.curBal)
  else
    .ok state.excessAmount

/-- The payments that a commitment touches get a record, and those that pay an issued invoice are
    marked as settled. -/
def preparedPayments (hashes fulfilled : List PaymentHash) (validator : Validator) :
    Map PaymentHash RoutedPayment :=
  let payments := hashes.foldl (fun payments hash => payments.orInsert hash .new) state.payments
  -- the dummy preimage keeps the amount out of the excess
  if validator.enforceBalance then
    fulfilled.foldl
      (fun payments hash =>
        payments.modify hash (fun payment => { payment with preimage := some ⟨0⟩ }))
      payments
  else
    payments

def appliedPayments (channelId : ChannelId) (incoming outgoing : Map PaymentHash U64)
    (fulfilled : List PaymentHash) (validator : Validator) (commitInfo : CommitmentInfo2) :
    Map PaymentHash RoutedPayment :=
  let hashes := summaryHashes incoming outgoing
  let (incomingHtlcs, outgoingHtlcs) := incomingOutgoingHtlcs commitInfo
  hashes.foldl
    (fun payments hash => payments.modify hash (fun payment =>
      payment.apply channelId (incoming.getD hash 0) (outgoing.getD hash 0)
        (minCltv hash incomingHtlcs) (maxCltv hash outgoingHtlcs)))
    (state.preparedPayments hashes fulfilled validator)

def applyPayments (channelId : ChannelId) (incoming outgoing : Map PaymentHash U64)
    (balanceDelta : BalanceDelta) (validator : Validator) (commitInfo : CommitmentInfo2) :
    Result Status NodeState := do
  let fulfilled := (summaryHashes incoming outgoing).filter
    (state.paysIssued channelId incoming outgoing)
  let issuedInvoices := fulfilled.foldl
    (fun issued hash => issued.modify hash (fun invoice => { invoice with isFulfilled := true }))
    state.issuedInvoices
  let excessAmount ← state.adjustedExcess balanceDelta validator
  .ok { state with
    issuedInvoices := issuedInvoices
    payments := state.appliedPayments channelId incoming outgoing fulfilled validator commitInfo
    excessAmount := excessAmount }

/-- Nothing is refused at this point: what does not fit panics. -/
theorem adjustedExcess_error (failed : state.adjustedExcess balanceDelta validator = .error fault) :
    ∃ message, fault = .panic message := by
  unfold adjustedExcess at failed
  split at failed
  · rcases bind_eq_error.mp failed with first | ⟨sum, _, second⟩
    · exact expect_eq_error first
    · exact expect_eq_error second
  · cases failed

theorem applyPayments_error {channelId incoming outgoing commitInfo}
    (failed : state.applyPayments channelId incoming outgoing balanceDelta validator commitInfo
      = .error fault) : ∃ message, fault = .panic message := by
  rcases bind_eq_error.mp failed with excess | ⟨_, _, done⟩
  · exact state.adjustedExcess_error excess
  · cases done

/-- A routed payment that is settled moves the excess by what came in less what went out; a payment
    of an invoice does not. -/
def settledExcess (hash : PaymentHash) (payment : RoutedPayment) (validator : Validator) :
    Result Status U64 := do
  let (incoming, outgoing) := payment.incomingOutgoing
  if (state.invoices.lookup hash).isNone ∧ validator.enforceBalance = true then
    let sum ← expect "overflow" (state.excessAmount.checkedAdd incoming)
    expect "underflow" (sum.checkedSub outgoing)
  else
    .ok state.excessAmount

def htlcFulfilled (prims : Primitives) (preimage : PaymentPreimage)
    (validator : Validator) : Result Status NodeState := do
  let hash : PaymentHash := ⟨prims.sha256 preimage.bytes⟩
  let state := { state with
    issuedInvoices := state.issuedInvoices.modify hash
      (fun invoice => { invoice with isFulfilled := true }) }
  match state.payments.lookup hash with
  | none => .ok state
  | some payment =>
    if payment.preimage.isSome then
      .ok state
    else
      let excessAmount ← state.settledExcess hash payment validator
      .ok { state with
        excessAmount := excessAmount
        payments := state.payments.insert hash { payment with preimage := some preimage } }

def htlcsFulfilled (prims : Primitives) (validator : Validator) :
    NodeState → List PaymentPreimage → Result Status NodeState
  | state, [] => .ok state
  | state, preimage :: rest => do
    let state ← state.htlcFulfilled prims preimage validator
    htlcsFulfilled prims validator state rest

structure Invoice where
  paymentHash : PaymentHash
  invoiceHash : BitVec 256
  amountMilliSatoshis : U64
  payeePubKey : PublicKey
  durationSinceEpoch : Duration
  expiryDuration : Duration

def paymentStateFromInvoice (invoice : Invoice) : PaymentState where
  invoiceHash := invoice.invoiceHash
  amountMsat := invoice.amountMilliSatoshis
  payee := invoice.payeePubKey
  durationSinceEpoch := invoice.durationSinceEpoch
  expiryDuration := invoice.expiryDuration
  isFulfilled := false
  paymentType := .invoice

def paymentStateFromKeysend (payee : PublicKey) (paymentHash : PaymentHash) (amountMsat : U64)
    (now : Duration) : PaymentState where
  invoiceHash := paymentHash.bytes
  amountMsat := amountMsat
  payee := payee
  durationSinceEpoch := now
  expiryDuration := Duration.fromSecs 60
  isFulfilled := false
  paymentType := .keysend

def maxClockSkew : Duration := Duration.fromSecs 60

def minInvoiceExpiry : Duration := Duration.fromSecs 60

def validateInvoice (validator : Validator) (invoice : Invoice) (now : Duration) :
    Result ValidationError Unit := do
  validator.filter.refuseIf (now + maxClockSkew < invoice.durationSinceEpoch)
    "validate_invoice" "policy-invoice-not-expired"
    (s!"invoice is not yet valid ({now.asSecs} + {maxClockSkew.asSecs} (skew) + 0 (tolerance) " ++
      s!"< {invoice.durationSinceEpoch.asSecs})")
  let expires := invoice.durationSinceEpoch + invoice.expiryDuration
  validator.filter.refuseIf (now + minInvoiceExpiry > expires + maxClockSkew)
    "validate_invoice" "policy-invoice-not-expired"
    (s!"invoice is expired ({now.asSecs} + {minInvoiceExpiry.asSecs} (buffer) " ++
      s!"> {expires.asSecs} + {maxClockSkew.asSecs} (skew) + 0 (tolerance))")

/-- Approve an outgoing payment, unless the velocity limit is reached. Whether the node could
    be stored is known only after the state has changed, and a failure there is a panic. -/
def approve (validator : Validator) (hash : PaymentHash) (paymentState : PaymentState)
    (duplicate : String) (now : Duration) (persisted : Bool) :
    Result Status (Bool × NodeState) := do
  if state.invoices.keys.length ≥ validator.policy.maxInvoices then
    .err (Status.failedPrecondition (s!"too many invoices ({state.invoices.keys.length} " ++
      s!">= {validator.policy.maxInvoices})"))
  match state.invoices.lookup hash with
  | some known =>
    if known.invoiceHash = paymentState.invoiceHash then
      .ok (true, state)
    else
      .err (Status.failedPrecondition duplicate)
  | none =>
    match state.velocityControl.insert (BitVec.ofNat 64 now.asSecs) paymentState.amountMsat with
    | (false, velocityControl) => .ok (false, { state with velocityControl := velocityControl })
    | (true, velocityControl) =>
      if persisted then
        .ok (true, { state with
          velocityControl := velocityControl
          invoices := state.invoices.insert hash paymentState
          payments := state.payments.orInsert hash .new })
      else
        .panic "node persistence failure"

def addInvoice (validator : Validator) (invoice : Invoice) (now : Duration) (persisted : Bool) :
    Result Status (Bool × NodeState) := do
  validateInvoice validator invoice now
  state.approve validator invoice.paymentHash (paymentStateFromInvoice invoice)
    "add_invoice: already have a different invoice for same payment_hash" now persisted

def addKeysend (validator : Validator) (payee : PublicKey) (paymentHash : PaymentHash)
    (amountMsat : U64) (now : Duration) (persisted : Bool) : Result Status (Bool × NodeState) :=
  state.approve validator paymentHash (paymentStateFromKeysend payee paymentHash amountMsat now)
    "add_keysend: already have a different keysend for same payment_hash" now persisted

/-- Track the incoming payment of an invoice the node signs, unless its amount is zero. -/
def signBolt11Invoice (validator : Validator) (invoice : Invoice) : Result Status NodeState := do
  if state.issuedInvoices.keys.length ≥ validator.policy.maxInvoices then
    .err (Status.failedPrecondition (s!"too many invoices {state.issuedInvoices.keys.length} " ++
      s!"(max {validator.policy.maxInvoices})"))
  match state.issuedInvoices.lookup invoice.paymentHash with
  | some known =>
    if known.invoiceHash = invoice.invoiceHash then
      .ok state
    else
      .err (Status.failedPrecondition
        "sign_invoice: already have a different invoice for same secret")
  | none =>
    if invoice.amountMilliSatoshis > 0 then
      .ok { state with
        issuedInvoices :=
          state.issuedInvoices.insert invoice.paymentHash (paymentStateFromInvoice invoice) }
    else
      .ok state

end NodeState

end Vls
