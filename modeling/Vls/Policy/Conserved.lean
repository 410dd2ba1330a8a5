import Vls.Channel.Fitting
import Vls.Policy.HtlcFeerate
import Vls.Policy.MutualClose

/-! # What an accepted commitment pays

The outputs of a commitment and its fee make up the value of the channel. The fee is judged by a
feerate that is computed in 64 bits and cut to 32, and the first commitment by what the fundee is
entitled to, where a push below zero is taken for a large one. -/

namespace Vls.SimplePolicy

open Result

variable {policy : SimplePolicy} {prims : Primitives} {estate : EnforcementState}
  {commitNum : U64} {setup : ChannelSetup} {cstate : ChainState} {info : CommitmentInfo2}

theorem validateCommitmentTx_ok (strict : policy.filter.Strict)
    (ok : policy.validateCommitmentTx prims estate commitNum setup cstate info = .ok ()) :
    info.offeredHtlcs.length + info.receivedHtlcs.length ≤ policy.maxHtlcs
      ∧ htlcTotal info.offeredHtlcs + htlcTotal info.receivedHtlcs ≤ policy.maxHtlcValueSat.toNat
      ∧ (∃ fee : U64, info.outputTotal + fee.toNat = setup.channelValueSat.toNat
        ∧ policy.minFeeratePerKw ≤ estimateFeeratePerKw fee (expectedCommitmentTxWeight
          setup.isAnchors (info.offeredHtlcs.length + info.receivedHtlcs.length))
        ∧ estimateFeeratePerKw fee (expectedCommitmentTxWeight setup.isAnchors
          (info.offeredHtlcs.length + info.receivedHtlcs.length)) ≤ policy.maxFeeratePerKw)
      ∧ (commitNum = 0 → setup.isOutbound = true →
        info.valueToParties.2 ≤ setup.pushValueMsat / 1000 + carriedFundeeSat estate setup) := by
  simp only [validateCommitmentTx, bind_eq_ok, okOr_eq_ok, mapErr_eq_ok,
    PolicyFilter.refuseIf_eq_ok strict] at ok
  obtain ⟨_, _, _, _, _, count, offered, offered_ok, both, received_ok, _, inFlight, parties,
    parties_eq, all, all_eq, _, paid, first⟩ := ok
  have offered_sum := validateHtlcs_ok offered_ok
  have both_sum := validateHtlcs_ok received_ok
  have parties_sum := BitVec.toNat_of_checkedAdd parties_eq
  have all_sum := BitVec.toNat_of_checkedAdd all_eq
  have zero : (0 : U64).toNat = 0 := rfl
  refine ⟨by omega, by bv_omega, ?_, ?_⟩
  · obtain ⟨fee, left, least, most⟩ := validateFee_ok strict paid
    refine ⟨fee, ?_, least, most⟩
    unfold CommitmentInfo2.outputTotal
    omega
  · intro initial outbound
    rw [if_pos initial] at first
    simp only [bind_eq_ok, outbound, if_true, PolicyFilter.refuseIf_eq_ok strict] at first
    obtain ⟨_, _, capped⟩ := first
    exact BitVec.not_lt.mp capped

def commitmentWeight (setup : ChannelSetup) (info : CommitmentInfo2) : Nat :=
  (if setup.isAnchors then 1124 else 724)
    + (info.offeredHtlcs.length + info.receivedHtlcs.length) * 172

/-- No product or sum in the check of a commitment exceeds 64 bits. -/
structure Unwrapped (prims : Primitives) (estate : EnforcementState) (commitNum : U64)
    (setup : ChannelSetup) (info : CommitmentInfo2) : Prop where
  timeout : setup.isZeroFeeHtlc = false →
    info.feeratePerKw.toNat * (prims.htlcTimeoutTxWeight setup.features).toNat < 2 ^ 64
  success : setup.isZeroFeeHtlc = false →
    info.feeratePerKw.toNat * (prims.htlcSuccessTxWeight setup.features).toNat < 2 ^ 64
  weight : commitmentWeight setup info < 2 ^ 64
  fee : (setup.channelValueSat.toNat - info.outputTotal) * 1000 + 999 < 2 ^ 64
  entitled : commitNum = 0 → setup.isOutbound = true →
    setup.pushValueMsat.toNat / 1000 + (carriedFundeeSat estate setup).toNat < 2 ^ 64

/-- A commitment conserves the value of its channel, and stays within the policy. -/
structure Conserved (policy : SimplePolicy) (prims : Primitives) (estate : EnforcementState)
    (commitNum : U64) (setup : ChannelSetup) (info : CommitmentInfo2) : Prop where
  fee : ∃ fee : Nat, info.outputTotal + fee = setup.channelValueSat.toNat
    ∧ policy.minFeeratePerKw.toNat ≤ Rate.highest 1000 (commitmentWeight setup info) fee
    ∧ Rate.highest 1000 (commitmentWeight setup info) fee ≤ policy.maxFeeratePerKw.toNat
  count : info.offeredHtlcs.length + info.receivedHtlcs.length ≤ policy.maxHtlcs
  inFlight : htlcTotal info.offeredHtlcs + htlcTotal info.receivedHtlcs
    ≤ policy.maxHtlcValueSat.toNat
  unwrapped : Unwrapped prims estate commitNum setup info

theorem expectedCommitmentTxWeight_toNat (small : commitmentWeight setup info < 2 ^ 64) :
    (expectedCommitmentTxWeight setup.isAnchors
      (info.offeredHtlcs.length + info.receivedHtlcs.length)).toNat
        = commitmentWeight setup info := by
  unfold expectedCommitmentTxWeight commitmentWeight at *
  cases anchors : setup.isAnchors <;>
    simp only [anchors, Bool.false_eq_true, if_true, if_false] at small ⊢ <;>
    bv_omega

/-- An accepted commitment conserves the value of its channel exactly if nothing wraps in its check
    and the feerate that its fee gives rise to fits into 32 bits. -/
theorem accepted_conserves_iff (strict : policy.filter.Strict)
    (accepted : policy.validateCommitmentTx prims estate commitNum setup cstate info = .ok ()) :
    Conserved policy prims estate commitNum setup info
      ↔ Unwrapped prims estate commitNum setup info
      ∧ Rate.highest 1000 (commitmentWeight setup info)
        (setup.channelValueSat.toNat - info.outputTotal) < 2 ^ 32 := by
  obtain ⟨count, inFlight, ⟨fee, whole, least, most⟩, _⟩ := validateCommitmentTx_ok strict accepted
  have paid : setup.channelValueSat.toNat - info.outputTotal = fee.toNat := by omega
  rw [paid]
  constructor
  · intro conserved
    refine ⟨conserved.unwrapped, ?_⟩
    obtain ⟨fee', whole', -, most'⟩ := conserved.fee
    obtain rfl : fee' = fee.toNat := by omega
    have := policy.maxFeeratePerKw.isLt
    omega
  · rintro ⟨unwrapped, narrow⟩
    have numerator := unwrapped.fee
    rw [paid] at numerator
    rw [BitVec.le_def, estimateFeeratePerKw_toNat numerator,
      expectedCommitmentTxWeight_toNat unwrapped.weight, Nat.mod_eq_of_lt narrow] at least most
    exact ⟨⟨fee.toNat, whole, least, most⟩, count, inFlight, unwrapped⟩

def plainInfo : CommitmentInfo2 := .mk true 999000 0 [] [] 1000

theorem plainInfo_conserved :
    Conserved (makeDefaultSimplePolicy .testnet) Toy.prims (.new 0) 1 Toy.setup plainInfo := by
  refine (accepted_conserves_iff PolicyFilter.default_strict
    (by decide +kernel : (makeDefaultSimplePolicy .testnet).validateCommitmentTx Toy.prims
      (.new 0) 1 Toy.setup ⟨1, 1, 0, 0, false⟩ plainInfo = .ok ())).mpr
      ⟨⟨?_, ?_, ?_, ?_, ?_⟩, ?_⟩ <;>
    decide +kernel

/-- Thirty-one bitcoins are left for the fee, and accepted. -/
theorem excessive_fee_accepted :
    (makeDefaultSimplePolicy .testnet).validateCommitmentTx Toy.prims (.new 0) 1
        { Toy.setup with channelValueSat := 3110559000 } ⟨1, 1, 0, 0, false⟩ plainInfo = .ok ()
      ∧ ¬ Conserved (makeDefaultSimplePolicy .testnet) Toy.prims (.new 0) 1
        { Toy.setup with channelValueSat := 3110559000 } plainInfo := by
  refine ⟨by decide +kernel, ?_⟩
  rintro ⟨⟨fee, whole, -, most⟩, -, -, -⟩
  have paid : fee = 3109560000 := by
    have total : plainInfo.outputTotal = 999000 := by decide +kernel
    rw [total] at whole
    exact Nat.add_left_cancel (whole.trans (by decide +kernel))
  rw [paid] at most
  exact absurd most (by decide +kernel)

/-- The balance that the fundee carries over from a retired funding, where what was pushed to it
    may be negative. -/
def carriedBalance (estate : EnforcementState) (setup : ChannelSetup) : Int :=
  match estate.prevFundingCommitment with
  | none => 0
  | some prev =>
    if prev.outpoint = setup.fundingOutpoint then 0
    else match prev.currentCounterpartyInfo, prev.currentHolderInfo with
      | some cpInfo, _ => cpInfo.toBroadcasterValueSat.toNat
      | none, some holderInfo => holderInfo.toCountersignerValueSat.toNat
      | none, none => prev.retiringPushValueMsat.toInt / 1000

/-- What the fundee is entitled to in the first commitment of a funding. -/
def entitlement (estate : EnforcementState) (setup : ChannelSetup) : Int :=
  setup.pushValueMsat.toInt / 1000 + carriedBalance estate setup

structure Entitled (estate : EnforcementState) (setup : ChannelSetup) (info : CommitmentInfo2) :
    Prop where
  received : info.valueToParties.2.toNat ≤ entitlement estate setup
  bound : (setup.pushValueMsat / 1000 + carriedFundeeSat estate setup).toNat
    = entitlement estate setup

/-- Nothing negative is pushed to the fundee, and the bound can be added up. -/
structure PlainPush (estate : EnforcementState) (setup : ChannelSetup) : Prop where
  push : setup.pushValueMsat.toNat < 2 ^ 63
  retired : ∀ prev ∈ estate.prevFundingCommitment, prev.outpoint ≠ setup.fundingOutpoint →
    prev.currentCounterpartyInfo = none → prev.currentHolderInfo = none →
    prev.retiringPushValueMsat.toNat < 2 ^ 63
  sum : setup.pushValueMsat.toNat / 1000 + (carriedFundeeSat estate setup).toNat < 2 ^ 64

theorem toNat_thousandth (x : U64) : (x / 1000).toNat = x.toNat / 1000 := by
  rw [BitVec.toNat_udiv]
  rfl

theorem carriedBalance_eq (estate : EnforcementState) (setup : ChannelSetup) :
    ((∀ prev ∈ estate.prevFundingCommitment, prev.outpoint ≠ setup.fundingOutpoint →
        prev.currentCounterpartyInfo = none → prev.currentHolderInfo = none →
        prev.retiringPushValueMsat.toNat < 2 ^ 63)
      ∧ carriedBalance estate setup = (carriedFundeeSat estate setup).toNat)
    ∨ ¬ (∀ prev ∈ estate.prevFundingCommitment, prev.outpoint ≠ setup.fundingOutpoint →
        prev.currentCounterpartyInfo = none → prev.currentHolderInfo = none →
        prev.retiringPushValueMsat.toNat < 2 ^ 63)
      ∧ ∃ push : Nat, 2 ^ 63 ≤ push ∧ push < 2 ^ 64
        ∧ (carriedFundeeSat estate setup).toNat = push / 1000
        ∧ carriedBalance estate setup = ((push : Int) - 2 ^ 64) / 1000 := by
  unfold carriedBalance carriedFundeeSat
  cases estate.prevFundingCommitment with
  | none => exact .inl ⟨by simp, rfl⟩
  | some prev =>
    simp only [Option.mem_some_iff, forall_eq']
    by_cases here : prev.outpoint = setup.fundingOutpoint
    · simp [here]
    · rw [if_neg here, if_neg here]
      cases prev.currentCounterpartyInfo with
      | some cpInfo => exact .inl ⟨by simp, rfl⟩
      | none =>
        cases prev.currentHolderInfo with
        | some holderInfo => exact .inl ⟨by simp, rfl⟩
        | none =>
          have small := prev.retiringPushValueMsat.isLt
          simp only [ne_eq, here, not_false_eq_true, forall_const,
            BitVec.toInt_eq_toNat_cond, toNat_thousandth]
          by_cases plain : prev.retiringPushValueMsat.toNat < 2 ^ 63
          · rw [if_pos (by omega)]
            exact .inl ⟨plain, by omega⟩
          · rw [if_neg (by omega)]
            exact .inr ⟨plain, _, by omega, small, by omega, rfl⟩

/-- The fundee of an accepted first commitment is held to what it is entitled to exactly if
    nothing negative is pushed to it. -/
theorem initial_fundee_entitled_iff (strict : policy.filter.Strict)
    (outbound : setup.isOutbound = true)
    (accepted : policy.validateCommitmentTx prims estate 0 setup cstate info = .ok ()) :
    Entitled estate setup info ↔ PlainPush estate setup := by
  obtain ⟨-, -, -, first⟩ := validateCommitmentTx_ok strict accepted
  have capped := BitVec.le_def.mp (first rfl outbound)
  have small := setup.pushValueMsat.isLt
  have carriedSmall := (carriedFundeeSat estate setup).isLt
  have bound : (setup.pushValueMsat / 1000 + carriedFundeeSat estate setup).toNat
      = (setup.pushValueMsat.toNat / 1000 + (carriedFundeeSat estate setup).toNat) % 2 ^ 64 := by
    rw [BitVec.toNat_add, toNat_thousandth]
  have push := BitVec.toInt_eq_toNat_cond setup.pushValueMsat
  constructor
  · rintro ⟨-, exact_bound⟩
    rw [bound, entitlement] at exact_bound
    rcases carriedBalance_eq estate setup with ⟨plain, carried⟩ |
      ⟨-, retiring, large, fits, carried, negative⟩
    · refine ⟨?_, plain, ?_⟩ <;> split at push <;> omega
    · split at push <;> omega
  · rintro ⟨plainPush, plain, sum⟩
    rcases carriedBalance_eq estate setup with ⟨-, carried⟩ | ⟨negative, -⟩
    · have same : ((setup.pushValueMsat / 1000 + carriedFundeeSat estate setup).toNat : Int)
          = entitlement estate setup := by
        rw [bound, entitlement, carried, push, if_pos (by omega), Nat.mod_eq_of_lt sum]
        omega
      exact ⟨by omega, same⟩
    · exact absurd plain negative

theorem unpushed_entitled : Entitled (.new 0) Toy.setup plainInfo :=
  (initial_fundee_entitled_iff PolicyFilter.default_strict rfl
    (by decide +kernel : (makeDefaultSimplePolicy .testnet).validateCommitmentTx Toy.prims
      (.new 0) 0 Toy.setup ⟨1, 1, 0, 0, false⟩ plainInfo = .ok ())).mpr
    ⟨by decide, by simp [EnforcementState.new], by decide +kernel⟩

/-- With a millisatoshi less than nothing pushed to it, the fundee gets the whole channel. -/
theorem negative_push_unbounded :
    (makeDefaultSimplePolicy .testnet).validateCommitmentTx Toy.prims (.new 0) 0
        { Toy.setup with pushValueMsat := 0xffffffffffffffff } ⟨1, 1, 0, 0, false⟩
        (.mk true 0 999000 [] [] 1000) = .ok ()
      ∧ ¬ Entitled (.new 0) { Toy.setup with pushValueMsat := 0xffffffffffffffff }
        (.mk true 0 999000 [] [] 1000) := by
  refine ⟨by decide +kernel, ?_⟩
  rintro ⟨received, -⟩
  exact absurd received (by decide +kernel)

end Vls.SimplePolicy
