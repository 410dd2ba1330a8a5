import Vls.Channel.Checked
import Vls.Channel.InFlight

/-! # Commitments that fit their funding

A commitment that passed its checks pays out no more than the value of the funding it spends. So
its HTLCs can be added up, and the holder's claim on it can be computed whichever preimages are
known. -/

namespace Vls

open Result

def CommitmentInfo2.outputTotal (info : CommitmentInfo2) : Nat :=
  info.toBroadcasterValueSat.toNat + info.toCountersignerValueSat.toNat
    + htlcTotal info.offeredHtlcs + htlcTotal info.receivedHtlcs

/-- The outputs of a commitment are worth at most a given value. -/
def CommitmentInfo2.Fits (info : CommitmentInfo2) (value : U64) : Prop :=
  info.outputTotal ≤ value.toNat

def CommitmentInfo2.Plain (info : CommitmentInfo2) : Prop :=
  info.offeredHtlcs = [] ∧ info.receivedHtlcs = []
  deriving Decidable

theorem CommitmentInfo2.Fits.addable {info : CommitmentInfo2} {value} (fits : info.Fits value) :
    Addable info.offeredHtlcs ∧ Addable info.receivedHtlcs := by
  have small := value.isLt
  unfold CommitmentInfo2.Fits CommitmentInfo2.outputTotal at fits
  unfold Addable
  omega

namespace CommitmentInfo2

def claimed (info : CommitmentInfo2) (hasPreimage : PaymentHash → Bool) : Nat :=
  info.valueToParties.1.toNat
    + htlcTotal (info.holderHtlcs.1.filter fun o => !hasPreimage o.paymentHash)
    + htlcTotal (info.holderHtlcs.2.filter fun r => hasPreimage r.paymentHash)

theorem addHtlcs_eq_some {counts htlcs balance sum} :
    addHtlcs counts htlcs balance = some sum
      ↔ sum.toNat = balance.toNat + htlcTotal (htlcs.filter counts) := by
  induction htlcs generalizing balance with
  | nil =>
    simp only [addHtlcs, Option.some.injEq, htlcTotal, List.filter_nil, List.map_nil,
      List.sum_nil, Nat.add_zero, ← BitVec.toNat_inj]
    exact eq_comm
  | cons htlc rest ih =>
    by_cases here : counts htlc
    · simp only [addHtlcs, if_pos here, Option.bind_eq_some_iff, ih, BitVec.checkedAdd_iff,
        List.filter_cons_of_pos here, htlcTotal, List.map_cons, List.sum_cons]
      constructor
      · rintro ⟨next, added, sum⟩
        omega
      · intro all
        have small := sum.isLt
        refine ⟨BitVec.ofNat 64 (balance.toNat + htlc.valueSat.toNat), ?_⟩
        rw [BitVec.toNat_ofNat, Nat.mod_eq_of_lt (by omega)]
        omega
    · rw [addHtlcs, if_neg here, ih, List.filter_cons_of_neg here]

variable {info : CommitmentInfo2} {value balance : U64} {hasPreimage : PaymentHash → Bool}
  {isOutbound : Bool}

theorem claimed_le : info.claimed hasPreimage ≤ info.outputTotal := by
  have part : ∀ (htlcs : List HTLCInfo2) counts,
      htlcTotal (htlcs.filter counts) ≤ htlcTotal htlcs :=
    fun htlcs counts => (List.filter_sublist.map _).sum_le_sum fun _ _ => Nat.zero_le _
  have offered := part info.holderHtlcs.1 fun o => !hasPreimage o.paymentHash
  have received := part info.holderHtlcs.2 fun r => hasPreimage r.paymentHash
  unfold claimed outputTotal
  cases side : info.isCounterpartyBroadcaster <;>
    simp only [holderHtlcs, valueToParties, side, Bool.false_eq_true, if_true, if_false] at * <;>
    omega

theorem totalValue_toNat : info.totalValue.toNat = info.outputTotal % 2 ^ 64 := by
  have sums : ∀ htlcs : List HTLCInfo2, (BitVec.sum (htlcs.map (·.valueSat))).toNat
      = htlcTotal htlcs % 2 ^ 64 := by
    intro htlcs
    rw [BitVec.toNat_sum, List.map_map]
    rfl
  rw [totalValue, BitVec.toNat_add, BitVec.toNat_add, BitVec.toNat_add, sums, sums, outputTotal]
  omega

/-- The claim is what can be claimed of the outputs, and the fee where the holder pays it; the fee
    is computed with a total that may have wrapped. -/
theorem claimableBalance_eq_some :
    info.claimableBalance hasPreimage isOutbound value = some balance ↔
      (isOutbound = true → info.totalValue.toNat ≤ value.toNat)
      ∧ balance.toNat = info.claimed hasPreimage
        + if isOutbound then value.toNat - info.totalValue.toNat else 0 := by
  have words : ∀ n, n ≤ balance.toNat → ∃ word : U64, word.toNat = n := by
    intro n below
    have small := balance.isLt
    exact ⟨BitVec.ofNat 64 n, by rw [BitVec.toNat_ofNat, Nat.mod_eq_of_lt (by omega)]⟩
  cases isOutbound with
  | false =>
    simp only [claimableBalance, Bool.false_eq_true, if_false, Option.bind_eq_bind,
      Option.bind_some, Option.bind_eq_some_iff, addHtlcs_eq_some, claimed, false_imp_iff,
      true_and, Nat.add_zero]
    constructor
    · rintro ⟨offered, first, second⟩
      omega
    · intro all
      obtain ⟨offered, first⟩ := words (info.valueToParties.1.toNat
        + htlcTotal (info.holderHtlcs.1.filter fun o => !hasPreimage o.paymentHash)) (by omega)
      exact ⟨offered, first, by omega⟩
  | true =>
    simp only [claimableBalance, if_true, Option.bind_eq_bind, Option.bind_eq_some_iff,
      addHtlcs_eq_some, BitVec.checkedAdd_iff, BitVec.checkedSub_iff, claimed, true_imp_iff]
    constructor
    · rintro ⟨fee, left, start, added, offered, first, second⟩
      omega
    · rintro ⟨below, all⟩
      obtain ⟨start, started⟩ := words (info.valueToParties.1.toNat
        + (value.toNat - info.totalValue.toNat)) (by omega)
      obtain ⟨offered, first⟩ := words (start.toNat
        + htlcTotal (info.holderHtlcs.1.filter fun o => !hasPreimage o.paymentHash)) (by omega)
      obtain ⟨fee, left⟩ := words (value.toNat - info.totalValue.toNat) (by omega)
      exact ⟨fee, by omega, start, by omega, offered, first, by omega⟩

theorem Fits.claimable (fits : info.Fits value) (hasPreimage : PaymentHash → Bool)
    (isOutbound : Bool) : ∃ balance,
      info.claimableBalance hasPreimage isOutbound value = some balance := by
  have total : info.outputTotal ≤ value.toNat := fits
  have small := value.isLt
  have part := @claimed_le info hasPreimage
  have exact_total := @totalValue_toNat info
  refine ⟨BitVec.ofNat 64 (info.claimed hasPreimage
    + if isOutbound then value.toNat - info.totalValue.toNat else 0),
    claimableBalance_eq_some.mpr ⟨fun _ => by omega, ?_⟩⟩
  rw [BitVec.toNat_ofNat, Nat.mod_eq_of_lt]
  split <;> omega

/-- No sum wraps, there is no claim exactly if the outputs are worth more than the channel, and
    otherwise it is what the holder can claim and the fee it pays, which the channel has. -/
structure ClaimExact (info : CommitmentInfo2) (hasPreimage : PaymentHash → Bool)
    (isOutbound : Bool) (value : U64) : Prop where
  unwrapped : isOutbound = true → info.outputTotal < 2 ^ 64
  none_iff : info.claimableBalance hasPreimage isOutbound value = none
    ↔ value.toNat < info.outputTotal
  amount : ∀ balance, info.claimableBalance hasPreimage isOutbound value = some balance →
    balance.toNat = info.claimed hasPreimage
      + (if isOutbound then value.toNat - info.outputTotal else 0)
    ∧ balance ≤ value

/-- The claim is exact where the outputs can be added up, for a channel that the holder funded. For
    another channel, where they fit, or where the claim itself does not fit into a word. -/
theorem claimableBalance_exact_iff :
    info.ClaimExact hasPreimage isOutbound value ↔ if isOutbound then info.outputTotal < 2 ^ 64
      else info.outputTotal ≤ value.toNat ∨ 2 ^ 64 ≤ info.claimed hasPreimage := by
  have part := @claimed_le info hasPreimage
  have wrapped := @totalValue_toNat info
  have small := value.isLt
  have none_iff : info.claimableBalance hasPreimage isOutbound value = none ↔
      (isOutbound = true ∧ value.toNat < info.totalValue.toNat)
      ∨ 2 ^ 64 ≤ info.claimed hasPreimage
        + if isOutbound then value.toNat - info.totalValue.toNat else 0 := by
    rw [Option.eq_none_iff_forall_ne_some]
    constructor
    · intro none
      by_contra room
      rw [not_or, not_and, not_lt, not_le] at room
      apply none (BitVec.ofNat 64 (info.claimed hasPreimage
        + if isOutbound then value.toNat - info.totalValue.toNat else 0))
      refine claimableBalance_eq_some.mpr ⟨room.1, ?_⟩
      rw [BitVec.toNat_ofNat, Nat.mod_eq_of_lt room.2]
    · intro beyond balance some
      obtain ⟨below, amount⟩ := claimableBalance_eq_some.mp some
      have := balance.isLt
      rcases beyond with ⟨outbound, above⟩ | beyond
      · exact absurd (below outbound) (Nat.not_le.mpr above)
      · omega
  constructor
  · intro claim
    have none := none_iff.symm.trans claim.none_iff
    cases isOutbound with
    | true => exact claim.unwrapped rfl
    | false =>
      simp only [Bool.false_eq_true, false_and, if_false, Nat.add_zero, false_or] at none ⊢
      omega
  · intro fits
    refine ⟨?_, none_iff.trans ?_, ?_⟩
    · rintro rfl
      exact fits
    · cases isOutbound with
      | true =>
        simp only [if_true, true_and] at fits ⊢
        omega
      | false =>
        simp only [Bool.false_eq_true, false_and, if_false, Nat.add_zero, false_or] at fits ⊢
        omega
    · intro balance some
      obtain ⟨below, amount⟩ := claimableBalance_eq_some.mp some
      have small := balance.isLt
      rw [BitVec.le_def]
      cases isOutbound with
      | true =>
        simp only [if_true, true_imp_iff] at fits below amount ⊢
        omega
      | false =>
        simp only [Bool.false_eq_true, if_false] at fits amount ⊢
        omega

/-- Of a channel that the counterparty funded, with a value of nothing, a million is claimed. -/
theorem claim_exceeds_value :
    (CommitmentInfo2.mk false 0 1000000 [] [] 0).claimableBalance (fun _ => false) false 0
        = some 1000000
      ∧ ¬ (CommitmentInfo2.mk false 0 1000000 [] [] 0).ClaimExact (fun _ => false) false 0 := by
  refine ⟨by decide, ?_⟩
  intro claim
  exact absurd (claim.none_iff.mpr (by decide)) (by decide)

end CommitmentInfo2

namespace SimplePolicy

variable {policy : SimplePolicy} {prims : Primitives} {estate : EnforcementState}
  {commitNum : U64} {setup : ChannelSetup} {cstate : ChainState} {info : CommitmentInfo2}

theorem validateHtlcs_ok {name dustLimit currentHeight htlcs start sum}
    (ok : policy.validateHtlcs name dustLimit currentHeight htlcs start = .ok sum) :
    sum.toNat = start.toNat + htlcTotal htlcs := by
  induction htlcs generalizing start with
  | nil =>
    cases ok
    simp [htlcTotal]
  | cons htlc rest ih =>
    simp only [validateHtlcs, bind_eq_ok, okOr_eq_ok] at ok
    obtain ⟨_, _, next, added, _, _, rest⟩ := ok
    rw [ih rest, BitVec.toNat_of_checkedAdd added]
    simp only [htlcTotal, List.map_cons, List.sum_cons]
    omega

theorem validateCommitmentTx_fits
    (ok : policy.validateCommitmentTx prims estate commitNum setup cstate info = .ok ()) :
    info.Fits setup.channelValueSat := by
  simp only [validateCommitmentTx, bind_eq_ok, okOr_eq_ok, validateFee, mapErr_eq_ok] at ok
  obtain ⟨_, _, _, _, _, _, offered, offered_ok, both, received_ok, _, _, parties, parties_eq, all,
    all_eq, _, ⟨fee, fee_eq, _⟩, _⟩ := ok
  have offered_sum := validateHtlcs_ok offered_ok
  have both_sum := validateHtlcs_ok received_ok
  have parties_sum := BitVec.toNat_of_checkedAdd parties_eq
  have all_sum := BitVec.toNat_of_checkedAdd all_eq
  have fee_sum := BitVec.toNat_of_checkedSub fee_eq
  have zero : (0 : U64).toNat = 0 := rfl
  unfold CommitmentInfo2.Fits CommitmentInfo2.outputTotal
  omega

theorem validateCommitmentTx_first (strict : policy.filter.Strict)
    (ok : policy.validateCommitmentTx prims estate 0 setup cstate info = .ok ()) : info.Plain := by
  simp only [validateCommitmentTx, bind_eq_ok, PolicyFilter.refuseIf_eq_ok strict, if_true] at ok
  obtain ⟨_, _, _, _, _, _, _, _, _, _, _, _, _, _, _, _, _, _, _, none, _⟩ := ok
  unfold CommitmentInfo2.Plain
  constructor <;> rw [← List.length_eq_zero_iff] <;> omega

end SimplePolicy

namespace Channel

variable {ctx : Context} {env : Env} {s : Locked}

theorem HolderChecked.commitmentTx {commitment} (checked : HolderChecked ctx env s commitment) :
    ctx.validator.policy.validateCommitmentTx ctx.prims s.chan.enforcementState
      commitment.commitmentNumber commitment.view (s.chan.getChainState env) commitment.info2
      = .ok () := by
  have validated := Validator.validateHolderCommitmentTx_policy checked.validated
  simp only [SimplePolicy.validateHolderCommitmentTx, bind_eq_ok, mapErr_eq_ok] at validated
  obtain ⟨_, ok, _⟩ := validated
  exact ok

theorem CounterpartyChecked.commitmentTx {commitment}
    (checked : CounterpartyChecked ctx env s commitment) :
    ctx.validator.policy.validateCommitmentTx ctx.prims s.chan.enforcementState
      commitment.commitmentNumber commitment.view (s.chan.getChainState env) commitment.info2
      = .ok () := by
  have validated := Validator.validateCounterpartyCommitmentTx_policy checked.validated
  simp only [SimplePolicy.validateCounterpartyCommitmentTx, bind_eq_ok, mapErr_eq_ok] at validated
  obtain ⟨_, ok, _⟩ := validated
  exact ok

theorem HolderChecked.fits {commitment} (checked : HolderChecked ctx env s commitment) :
    commitment.info2.Fits commitment.view.channelValueSat :=
  SimplePolicy.validateCommitmentTx_fits checked.commitmentTx

theorem CounterpartyChecked.fits {commitment} (checked : CounterpartyChecked ctx env s commitment) :
    commitment.info2.Fits commitment.view.channelValueSat :=
  SimplePolicy.validateCommitmentTx_fits checked.commitmentTx

end Channel

end Vls
