import Mathlib.Algebra.Order.BigOperators.Group.List
import Mathlib.Algebra.Order.Ring.Nat
import Vls.EnforcementState

/-! # The payments in flight on a channel

The summaries that a channel reports to its node are built by folding over the HTLCs of its two
commitments. Here they are read as what they are for: the amount in flight for each payment, as a
number. -/

namespace Vls

open Map

variable {htlcs : List HTLCInfo2} {hash : PaymentHash} {side : CommitmentInfo2 → List HTLCInfo2}
  {info : Option CommitmentInfo2}

def htlcSum (htlcs : List HTLCInfo2) (hash : PaymentHash) : Nat :=
  ((htlcs.filter (·.paymentHash = hash)).map (·.valueSat.toNat)).sum

def htlcTotal (htlcs : List HTLCInfo2) : Nat := (htlcs.map (·.valueSat.toNat)).sum

def Addable (htlcs : List HTLCInfo2) : Prop := htlcTotal htlcs < 2 ^ 64

theorem htlcSum_lt (addable : Addable htlcs) (hash : PaymentHash) :
    htlcSum htlcs hash < 2 ^ 64 := by
  have part : htlcSum htlcs hash ≤ htlcTotal htlcs :=
    (List.filter_sublist.map _).sum_le_sum fun _ _ => Nat.zero_le _
  exact Nat.lt_of_le_of_lt part addable

theorem htlcSum_of_absent (absent : hash ∉ htlcs.map (·.paymentHash)) : htlcSum htlcs hash = 0 := by
  have none : htlcs.filter (·.paymentHash = hash) = [] := by
    rw [List.filter_eq_nil_iff]
    intro htlc member
    simp only [decide_eq_true_eq]
    rintro rfl
    exact absent (List.mem_map_of_mem member)
  simp [htlcSum, none]

namespace EnforcementState

def htlcsOf (side : CommitmentInfo2 → List HTLCInfo2) (info : Option CommitmentInfo2) :
    List HTLCInfo2 :=
  (info.map side).getD []

def outgoingSat (holder counterparty : Option CommitmentInfo2) (hash : PaymentHash) : Nat :=
  max (htlcSum (htlcsOf (·.offeredHtlcs) holder) hash)
    (htlcSum (htlcsOf (·.receivedHtlcs) counterparty) hash)

/-- What comes in for a payment: of the amounts on the two commitments the lower. -/
def incomingSat (holder counterparty : Option CommitmentInfo2) (hash : PaymentHash) : Nat :=
  min (htlcSum (htlcsOf (·.receivedHtlcs) holder) hash)
    (htlcSum (htlcsOf (·.offeredHtlcs) counterparty) hash)

theorem summarizePayments_getD (addable : Addable htlcs) (hash : PaymentHash) :
    ((summarizePayments htlcs).getD hash 0).toNat = htlcSum htlcs hash := by
  have sums : ∀ xs : List HTLCInfo2, BitVec.toNat ((xs.map HTLCInfo2.valueSat).sum)
      = (xs.map (fun htlc => htlc.valueSat.toNat)).sum % 2 ^ 64 := by
    intro xs
    induction xs with
    | nil => rfl
    | cons x rest ih =>
      rw [List.map_cons, List.sum_cons, BitVec.toNat_add, ih, List.map_cons, List.sum_cons]
      omega
  have small := htlcSum_lt addable hash
  unfold summarizePayments
  rw [getD_foldl_add]
  simp only [getD, AList.lookup_empty, Option.getD_none, zero_add, sums]
  exact Nat.mod_eq_of_lt small

theorem mem_summarizePayments :
    hash ∈ summarizePayments htlcs ↔ hash ∈ htlcs.map (·.paymentHash) := by
  unfold summarizePayments
  rw [mem_foldl_add]
  simp [AList.notMem_empty]

theorem addZeroEntries_eq (htlcs : Option (List HTLCInfo2)) (summary : Map PaymentHash U64) :
    addZeroEntries htlcs summary
      = ((htlcs.getD []).map (·.paymentHash)).foldl (fun m hash => m.orInsert hash 0) summary := by
  rw [addZeroEntries, List.foldl_map]

theorem addZeroEntries_getD (htlcs : Option (List HTLCInfo2)) (summary : Map PaymentHash U64)
    (hash : PaymentHash) : (addZeroEntries htlcs summary).getD hash 0 = summary.getD hash 0 := by
  rw [addZeroEntries_eq, getD_foldl_orInsert]

theorem mem_addZeroEntries {summary} :
    hash ∈ addZeroEntries (info.map side) summary ↔
      hash ∈ (htlcsOf side info).map (·.paymentHash) ∨ hash ∈ summary := by
  rw [addZeroEntries_eq, mem_foldl_orInsert]
  rfl

section merged

variable {ours theirs : Map PaymentHash U64} {hash : PaymentHash}

theorem dlookup_entries : theirs.entries.dlookup hash = theirs.lookup hash := rfl

theorem greater_getD :
    ((theirs.entries.foldl (fun summary entry =>
        summary.upsert entry.1 (fun e => if e < entry.2 then entry.2 else e) entry.2)
        ours).getD hash 0).toNat
      = max (ours.getD hash 0).toNat (theirs.getD hash 0).toNat := by
  simp only [getD]
  rw [lookup_foldl_upsert (fun v e : U64 => if e < v then v else e) _ theirs.nodupKeys,
    dlookup_entries]
  cases theirs.lookup hash with
  | none => simp
  | some v =>
    cases ours.lookup hash with
    | none => simp
    | some e =>
      simp only [Option.elim_some, Option.getD_some]
      split <;> bv_omega

theorem mem_greater :
    hash ∈ theirs.entries.foldl (fun summary entry =>
        summary.upsert entry.1 (fun e => if e < entry.2 then entry.2 else e) entry.2) ours
      ↔ hash ∈ ours ∨ hash ∈ theirs := by
  rw [mem_of_lookup, mem_of_lookup, mem_of_lookup,
    lookup_foldl_upsert (fun v e : U64 => if e < v then v else e) _ theirs.nodupKeys,
    dlookup_entries]
  cases theirs.lookup hash <;> simp

theorem lower_getD :
    ((theirs.entries.foldl (fun summary entry =>
        summary.modify entry.1 (fun e => if entry.2 < e then entry.2 else e))
        (ours.retain (fun k => decide (k ∈ theirs)))).getD hash 0).toNat
      = min (ours.getD hash 0).toNat (theirs.getD hash 0).toNat := by
  simp only [getD]
  rw [lookup_foldl_modify_entries (fun v e : U64 => if v < e then v else e) _
    theirs.nodupKeys, dlookup_entries, lookup_retain]
  simp only [mem_of_lookup]
  cases theirs.lookup hash with
  | none => simp
  | some v =>
    cases ours.lookup hash with
    | none => simp
    | some e =>
      simp only [Option.isSome_some, decide_true, if_true, Option.map_some, Option.getD_some]
      split <;> bv_omega

theorem mem_lower :
    hash ∈ theirs.entries.foldl (fun summary entry =>
        summary.modify entry.1 (fun e => if entry.2 < e then entry.2 else e))
        (ours.retain (fun k => decide (k ∈ theirs)))
      ↔ hash ∈ ours ∧ hash ∈ theirs := by
  rw [mem_of_lookup, mem_of_lookup, mem_of_lookup,
    lookup_foldl_modify_entries (fun v e : U64 => if v < e then v else e) _ theirs.nodupKeys,
    dlookup_entries, lookup_retain]
  simp only [mem_of_lookup]
  cases theirs.lookup hash <;> simp

end merged

section summaries

variable {estate : EnforcementState} {newHolder newCounterparty : Option CommitmentInfo2}
  {hash : PaymentHash}

theorem summary_getD (addable : Addable (htlcsOf side info)) :
    ((((info.map side).map summarizePayments).getD ∅).getD hash 0).toNat
      = htlcSum (htlcsOf side info) hash := by
  cases info with
  | none => rfl
  | some info => exact summarizePayments_getD addable hash

theorem mem_summary :
    hash ∈ ((info.map side).map summarizePayments).getD ∅ ↔
      hash ∈ (htlcsOf side info).map (·.paymentHash) := by
  cases info with
  | none => simp [htlcsOf, AList.notMem_empty]
  | some info => exact mem_summarizePayments

theorem paymentsSummary_getD
    (holder : Addable (htlcsOf (·.offeredHtlcs) (newHolder.or estate.currentHolderCommitInfo)))
    (counterparty : Addable (htlcsOf (·.receivedHtlcs)
      (newCounterparty.or estate.currentCounterpartyCommitInfo))) :
    ((estate.paymentsSummary newHolder newCounterparty).getD hash 0).toNat
      = outgoingSat (newHolder.or estate.currentHolderCommitInfo)
        (newCounterparty.or estate.currentCounterpartyCommitInfo) hash := by
  rw [outgoingSat, ← summary_getD holder, ← summary_getD counterparty]
  simp only [paymentsSummary, addZeroEntries_getD]
  exact greater_getD

theorem incomingPaymentsSummary_getD
    (holder : Addable (htlcsOf (·.receivedHtlcs) (newHolder.or estate.currentHolderCommitInfo)))
    (counterparty : Addable (htlcsOf (·.offeredHtlcs)
      (newCounterparty.or estate.currentCounterpartyCommitInfo))) :
    ((estate.incomingPaymentsSummary newHolder newCounterparty).getD hash 0).toNat
      = incomingSat (newHolder.or estate.currentHolderCommitInfo)
        (newCounterparty.or estate.currentCounterpartyCommitInfo) hash := by
  rw [incomingSat, ← summary_getD holder, ← summary_getD counterparty]
  simp only [incomingPaymentsSummary, addZeroEntries_getD]
  exact lower_getD

theorem outgoingSat_of_not_mem (absent : hash ∉ estate.paymentsSummary newHolder newCounterparty) :
    outgoingSat estate.currentHolderCommitInfo estate.currentCounterpartyCommitInfo hash = 0
      ∧ outgoingSat (newHolder.or estate.currentHolderCommitInfo)
        (newCounterparty.or estate.currentCounterpartyCommitInfo) hash = 0 := by
  simp only [paymentsSummary, mem_addZeroEntries, mem_greater, mem_summary, not_or] at absent
  obtain ⟨oldTheirs, oldOurs, ours, theirs⟩ := absent
  constructor
  · rw [outgoingSat, htlcSum_of_absent oldOurs, htlcSum_of_absent oldTheirs, Nat.max_self]
  · rw [outgoingSat, htlcSum_of_absent ours, htlcSum_of_absent theirs, Nat.max_self]

theorem incomingSat_of_not_mem
    (absent : hash ∉ estate.incomingPaymentsSummary newHolder newCounterparty) :
    incomingSat estate.currentHolderCommitInfo estate.currentCounterpartyCommitInfo hash = 0
      ∧ incomingSat (newHolder.or estate.currentHolderCommitInfo)
        (newCounterparty.or estate.currentCounterpartyCommitInfo) hash = 0 := by
  rw [incomingPaymentsSummary, mem_addZeroEntries, mem_addZeroEntries, mem_lower, mem_summary,
    mem_summary, not_or, not_or] at absent
  obtain ⟨oldTheirs, oldOurs, missing⟩ := absent
  constructor
  · rw [incomingSat, htlcSum_of_absent oldOurs, Nat.zero_min]
  · rcases not_and_or.mp missing with ours | theirs
    · rw [incomingSat, htlcSum_of_absent ours, Nat.zero_min]
    · rw [incomingSat, htlcSum_of_absent theirs, Nat.min_zero]

end summaries

end EnforcementState

end Vls
