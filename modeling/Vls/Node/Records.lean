import Vls.NodeState

/-! # The records of payments

What is known of the record of a payment after a commitment was validated, after it was applied,
and after a preimage was reported. Amounts are compared here as numbers, while the code computes
with words. -/

namespace Vls

open Map BitVec

variable {balanceDelta : BalanceDelta} {fulfilled : List PaymentHash} {prims : Primitives}

namespace RoutedPayment

def incomingTotal (payment : RoutedPayment) : Nat := total BitVec.toNat payment.incoming

def outgoingTotal (payment : RoutedPayment) : Nat := total BitVec.toNat payment.outgoing

theorem toNat_getD {shares : Map ChannelId U64} {channelId} : (shares.getD channelId 0).toNat =
    ((shares.lookup channelId).map BitVec.toNat).getD 0 := by
  cases found : shares.lookup channelId <;> simp [getD, found]

theorem replaced_share {shares : Map ChannelId U64} (channelId : ChannelId) (share : U64) :
    (sum shares.values + share - shares.getD channelId 0).toNat
      = total BitVec.toNat (shares.insert channelId share) % 2 ^ 64 := by
  have moved := total_insert BitVec.toNat shares channelId share
  rw [← toNat_getD] at moved
  have before : (sum shares.values).toNat = total BitVec.toNat shares % 2 ^ 64 :=
    BitVec.toNat_sum _
  have small := (shares.getD channelId 0).isLt
  rw [toNat_sub, toNat_add, before]
  omega

section preview

/-- A total with the share of a channel replaced, where each step is checked for overflow. -/
def checkedUpdate (shares : Map ChannelId U64) (channelId : ChannelId) (amountSat : U64) :
    Option U64 := do
  let sum ← (checkedSum shares.values).bind (·.checkedAdd amountSat)
  sum.checkedSub (shares.getD channelId 0)

variable (payment : RoutedPayment) (channelId : ChannelId)
  (incomingAmountSat outgoingAmountSat : U64) (incomingCltv outgoingCltv : Option U32)

/-- The preview as a build with overflow checks computes it. -/
def checkedUpdatedIncomingOutgoing : Option (U64 × U64) := do
  let incomingSum ← checkedUpdate payment.incoming channelId incomingAmountSat
  let outgoingSum ← checkedUpdate payment.outgoing channelId outgoingAmountSat
  some (incomingSum, outgoingSum)

theorem checkedUpdate_iff {shares : Map ChannelId U64} {share : U64} :
    checkedUpdate shares channelId share = some (sum (values (shares.insert channelId share))) ↔
      total BitVec.toNat shares + share.toNat < 2 ^ 64 := by
  have after : (sum (values (shares.insert channelId share))).toNat = _ := toNat_sum _
  have moved := total_insert BitVec.toNat shares channelId share
  rw [← toNat_getD] at moved
  simp only [checkedUpdate, Option.bind_eq_bind, Option.bind_eq_some_iff, checkedSum_iff,
    checkedAdd_iff, checkedSub_iff]
  change _ = total BitVec.toNat (shares.insert channelId share) % _ at after
  constructor
  · rintro ⟨sum, ⟨before, summed, added⟩, -⟩
    change before.toNat = total BitVec.toNat shares at summed
    have small := sum.isLt
    omega
  · intro fits
    refine ⟨.ofNat 64 (total BitVec.toNat shares + share.toNat),
      ⟨.ofNat 64 (total BitVec.toNat shares), Nat.mod_eq_of_lt (by omega), ?_⟩, ?_⟩
    · rw [toNat_ofNat, toNat_ofNat, Nat.mod_eq_of_lt fits, Nat.mod_eq_of_lt (by omega)]
    · rw [toNat_ofNat, Nat.mod_eq_of_lt fits]
      omega

/-- The preview is what an update leads to. None of its steps overflows exactly if the total before
    and the new amount can be added. -/
theorem preview_unwrapped_iff (payment : RoutedPayment) :
    let applied := payment.apply channelId incomingAmountSat outgoingAmountSat incomingCltv
      outgoingCltv
    payment.updatedIncomingOutgoing channelId incomingAmountSat outgoingAmountSat =
        applied.incomingOutgoing ∧
      (payment.checkedUpdatedIncomingOutgoing channelId incomingAmountSat outgoingAmountSat =
          some applied.incomingOutgoing ↔
        payment.incomingTotal + incomingAmountSat.toNat < 2 ^ 64 ∧
          payment.outgoingTotal + outgoingAmountSat.toNat < 2 ^ 64) := by
  intro applied
  constructor
  · refine Prod.ext (eq_of_toNat_eq ?_) (eq_of_toNat_eq ?_)
    · exact (replaced_share channelId incomingAmountSat).trans (toNat_sum _).symm
    · exact (replaced_share channelId outgoingAmountSat).trans (toNat_sum _).symm
  · rw [incomingTotal, outgoingTotal, ← checkedUpdate_iff channelId, ← checkedUpdate_iff channelId]
    simp [checkedUpdatedIncomingOutgoing, Option.bind_eq_some_iff, incomingOutgoing, applied, apply]

end preview

/-- The share of the one channel is replaced by itself, and both add up to more than a word. -/
theorem preview_overflows :
    let payment := new.apply ⟨[]⟩ (1 <<< 63) 0 none none
    (payment.apply ⟨[]⟩ (1 <<< 63) 0 none none).incomingTotal = 2 ^ 63 ∧
      payment.incomingTotal = 2 ^ 63 ∧
      payment.checkedUpdatedIncomingOutgoing ⟨[]⟩ (1 <<< 63) 0 = none := by
  decide +kernel

end RoutedPayment

/-- What a channel records when a commitment is applied: its part of the payments in flight, and
    the commitment they are in. -/
structure Share where
  channelId : ChannelId
  incoming : Map PaymentHash U64
  outgoing : Map PaymentHash U64
  commitInfo : CommitmentInfo2

namespace Share

variable (share : Share)

def hashes : List PaymentHash := NodeState.summaryHashes share.incoming share.outgoing

def incomingHtlcs : List HTLCInfo2 := (NodeState.incomingOutgoingHtlcs share.commitInfo).1

def outgoingHtlcs : List HTLCInfo2 := (NodeState.incomingOutgoingHtlcs share.commitInfo).2

def recordedIn (payment : RoutedPayment) (hash : PaymentHash) : RoutedPayment :=
  payment.apply share.channelId (share.incoming.getD hash 0) (share.outgoing.getD hash 0)
    (NodeState.minCltv hash share.incomingHtlcs) (NodeState.maxCltv hash share.outgoingHtlcs)

end Share

namespace NodeState

variable {state state' : NodeState} {validator : Validator} {channelId : ChannelId}
  {incoming outgoing : Map PaymentHash U64} {hash : PaymentHash}

theorem summaryHashes_nodup : (summaryHashes incoming outgoing).Nodup := by
  refine List.Nodup.append incoming.nodupKeys (List.Nodup.filter _ outgoing.nodupKeys) ?_
  intro hash here there
  simpa [here] using (List.mem_filter.mp there).2

def record (state : NodeState) (hash : PaymentHash) : RoutedPayment :=
  (state.payments.lookup hash).getD .new

theorem updatedTotals_eq :
    state.updatedTotals channelId incoming outgoing hash
      = (state.record hash).updatedIncomingOutgoing channelId (incoming.getD hash 0)
        (outgoing.getD hash 0) := by
  unfold updatedTotals record
  cases state.payments.lookup hash with
  | some payment => rfl
  | none => simp [RoutedPayment.updatedIncomingOutgoing, RoutedPayment.new, values, getD, sum]

theorem preflight_balanced {hashes}
    (ok : state.preflight validator channelId incoming outgoing hashes = .ok []) :
    ∀ hash ∈ hashes, state.unbalanced validator channelId incoming outgoing hash = false := by
  induction hashes with
  | nil => simp
  | cons first rest ih =>
    simp only [preflight, Result.bind_eq_ok] at ok
    obtain ⟨_, _, unbalanced, passed, done⟩ := ok
    split at done
    · cases done
    · rename_i balanced
      cases done
      intro hash member
      rcases List.mem_cons.mp member with rfl | member
      · exact Bool.of_not_eq_true balanced
      · exact ih passed hash member

theorem validatePayments_balanced (strict : validator.Strict)
    (ok : state.validatePayments channelId incoming outgoing balanceDelta validator = .ok ()) :
    ∀ hash ∈ summaryHashes incoming outgoing,
      state.unbalanced validator channelId incoming outgoing hash = false := by
  simp only [validatePayments, Result.bind_eq_ok, PolicyFilter.refuseIf_eq_ok strict] at ok
  obtain ⟨unbalanced, preflight, _, balanced, _⟩ := ok
  obtain rfl : unbalanced = [] := not_not.mp balanced
  exact preflight_balanced preflight

/-- A payment is covered: what goes out for it is at most what comes in, the amount that was
    approved and the routing fee. -/
def Covered (validator : Validator) (invoice : PaymentState) (payment : RoutedPayment) : Prop :=
  1000 * payment.outgoingTotal
    ≤ 1000 * payment.incomingTotal + invoice.amountMsat.toNat
      + validator.policy.maxRoutingFeeMsat.toNat
  deriving Decidable

theorem validatePaymentBalance_ok (strict : validator.Strict) {incomingMsat outgoingMsat amountMsat}
    (ok : validator.validatePaymentBalance incomingMsat outgoingMsat (some amountMsat) = .ok ()) :
    outgoingMsat.toNat
      ≤ incomingMsat.toNat + amountMsat.toNat + validator.policy.maxRoutingFeeMsat.toNat := by
  have strict : validator.policy.filter.Strict := strict
  simp only [Validator.validatePaymentBalance, SimplePolicy.validatePaymentBalance,
    Result.bind_eq_ok, PolicyFilter.refuseIf_eq_ok strict] at ok
  obtain ⟨_, balanced, _⟩ := ok
  bv_omega

/-- A payment that is invoiced and balances is covered, provided that what goes out can be told in
    millisatoshi. -/
theorem covered_of_balanced (strict : validator.Strict) {invoice} {share : Share}
    (invoiced : state.invoices.lookup hash = some invoice)
    (balanced : state.unbalanced validator share.channelId share.incoming share.outgoing hash
      = false)
    (fits : 1000 * (share.recordedIn (state.record hash) hash).outgoingTotal < 2 ^ 64) :
    Covered validator invoice (share.recordedIn (state.record hash) hash) := by
  simp only [unbalanced, updatedTotals_eq, RoutedPayment.updatedIncomingOutgoing, invoiced,
    Option.map_some, Option.isNone_some, Bool.and_false, Bool.not_false] at balanced
  split at balanced
  · rename_i ok
    have atMost := validatePaymentBalance_ok strict ok
    have thousand : (1000 : U64).toNat = 1000 := rfl
    rw [toNat_mul, toNat_mul, RoutedPayment.replaced_share,
      RoutedPayment.replaced_share, thousand] at atMost
    simp only [Covered, Share.recordedIn, RoutedPayment.apply, RoutedPayment.incomingTotal,
      RoutedPayment.outgoingTotal] at fits ⊢
    omega
  · cases balanced

/-- What applying a commitment does to the records: the payments it touches get the new share of
    the channel, and may be marked as settled. -/
structure Applied (state : NodeState) (share : Share) (state' : NodeState) : Prop where
  invoices : state'.invoices = state.invoices
  untouched : ∀ hash, hash ∉ share.hashes → state'.payments.lookup hash = state.payments.lookup hash
  touched : ∀ hash, hash ∈ share.hashes → ∃ preimage,
    state'.payments.lookup hash
      = some { share.recordedIn (state.record hash) hash with preimage := preimage }
    ∧ (preimage = none → (state.record hash).preimage = none)

theorem preparedPayments_lookup (validator : Validator) {hashes} (apart : fulfilled.Nodup)
    (touched : hash ∈ hashes) :
    (state.preparedPayments hashes fulfilled validator).lookup hash = some { state.record hash with
        preimage := if validator.enforceBalance = true ∧ hash ∈ fulfilled then some ⟨0⟩
          else (state.record hash).preimage } := by
  have known := lookup_foldl_orInsert hashes .new state.payments hash
  rw [if_pos touched] at known
  unfold preparedPayments
  split
  · rename_i enforced
    rw [lookup_foldl_modify _ apart, known]
    by_cases marked : hash ∈ fulfilled
    · rw [if_pos marked, if_pos ⟨enforced, marked⟩]
      rfl
    · rw [if_neg marked, if_neg (fun both => marked both.2)]
      rfl
  · rename_i lax
    rw [if_neg (fun both => lax both.1)]
    exact known

theorem preparedPayments_untouched {hashes} (apart : fulfilled.Nodup) (touched : fulfilled ⊆ hashes)
    (untouched : hash ∉ hashes) :
    (state.preparedPayments hashes fulfilled validator).lookup hash
      = state.payments.lookup hash := by
  have known := lookup_foldl_orInsert hashes .new state.payments hash
  rw [if_neg untouched] at known
  have unmarked : hash ∉ fulfilled := fun marked => untouched (touched marked)
  unfold preparedPayments
  split
  · rw [lookup_foldl_modify _ apart, if_neg unmarked, known]
  · exact known

theorem applyPayments_lookup {share : Share}
    (ok : state.applyPayments share.channelId share.incoming share.outgoing balanceDelta validator
      share.commitInfo = .ok state')
    (touched : hash ∈ share.hashes) :
    state'.payments.lookup hash = some (share.recordedIn { state.record hash with
          preimage := if validator.enforceBalance = true
              ∧ state.paysIssued share.channelId share.incoming share.outgoing hash = true
            then some ⟨0⟩ else (state.record hash).preimage } hash) := by
  obtain ⟨excess, _, done⟩ := Result.bind_eq_ok.mp ok
  cases done
  have distinct : share.hashes.Nodup := summaryHashes_nodup
  have prepared := state.preparedPayments_lookup validator
    (distinct.filter (state.paysIssued share.channelId share.incoming share.outgoing)) touched
  refine (lookup_foldl_modify _ distinct
    (fun hash payment => share.recordedIn payment hash) _ hash).trans ?_
  rw [if_pos touched]
  refine (congrArg _ prepared).trans ?_
  simp [touched]

theorem applyPayments_applied {share : Share}
    (ok : state.applyPayments share.channelId share.incoming share.outgoing balanceDelta validator
      share.commitInfo = .ok state') : Applied state share state' := by
  have touched := fun hash (member : hash ∈ share.hashes) => applyPayments_lookup ok member
  obtain ⟨excess, _, done⟩ := Result.bind_eq_ok.mp ok
  cases done
  have distinct : share.hashes.Nodup := summaryHashes_nodup
  have apart := distinct.filter (state.paysIssued share.channelId share.incoming share.outgoing)
  refine ⟨rfl, ?_, ?_⟩
  · intro hash untouched
    refine (lookup_foldl_modify _ distinct
      (fun hash payment => share.recordedIn payment hash) _ hash).trans ?_
    rw [if_neg untouched]
    exact preparedPayments_untouched apart (List.filter_subset_self _) untouched
  · intro hash member
    refine ⟨_, touched hash member, ?_⟩
    intro unsettled
    split at unsettled
    · cases unsettled
    · exact unsettled

structure Settled (state state' : NodeState) : Prop where
  invoices : state'.invoices = state.invoices
  records : ∀ hash payment', state'.payments.lookup hash = some payment' → ∃ payment,
    state.payments.lookup hash = some payment
      ∧ payment' = { payment with preimage := payment'.preimage }
      ∧ (payment'.preimage = none → payment.preimage = none)

theorem Settled.refl : Settled state state where
  invoices := rfl
  records := by
    intro hash payment found
    exact ⟨payment, found, rfl, id⟩

theorem Settled.trans {state''} (first : Settled state state') (second : Settled state' state'') :
    Settled state state'' where
  invoices := second.invoices.trans first.invoices
  records := by
    intro hash payment'' found
    obtain ⟨payment', found, same', open'⟩ := second.records hash payment'' found
    obtain ⟨payment, found, same, unsettled⟩ := first.records hash payment' found
    refine ⟨payment, found, ?_, fun none => unsettled (open' none)⟩
    rw [same', same]

theorem htlcFulfilled_settled {preimage}
    (ok : state.htlcFulfilled prims preimage validator = .ok state') : Settled state state' := by
  simp only [htlcFulfilled] at ok
  split at ok
  · cases ok
    exact ⟨rfl, Settled.refl.records⟩
  · rename_i payment found
    split at ok
    · cases ok
      exact ⟨rfl, Settled.refl.records⟩
    · rename_i unsettled
      obtain ⟨excess, _, done⟩ := Result.bind_eq_ok.mp ok
      cases done
      refine ⟨rfl, ?_⟩
      intro hash' payment' found'
      rw [lookup_insert_ite] at found'
      split at found'
      · rename_i same
        subst same
        cases found'
        exact ⟨payment, found, rfl, fun none => by cases none⟩
      · exact ⟨payment', found', rfl, id⟩

theorem htlcsFulfilled_settled {preimages}
    (ok : htlcsFulfilled prims validator state preimages = .ok state') : Settled state state' := by
  induction preimages generalizing state with
  | nil =>
    cases ok
    exact .refl
  | cons preimage rest ih =>
    obtain ⟨next, first, later⟩ := Result.bind_eq_ok.mp ok
    exact (htlcFulfilled_settled first).trans (ih later)

end NodeState

end Vls
