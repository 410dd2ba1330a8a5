import Vls.Onchain.Checked
import Vls.Policy.HtlcFeerate
import Vls.Policy.MutualClose
import Vls.Policy.Sweep

/-! # The feerates of accepted transactions

The feerate that is compared with the limits is cut to 32 bits, and it is the highest one that a fee
can stand for. So a high fee may pass for a small one, and a fee a little below the lower limit
passes. -/

namespace Vls

open SimplePolicy Result

variable {tx : Transaction} {amountSat weight : U64} {fee : Nat} {floored : Bool} {feerate : U32}
  {htlc : HTLCOutputInCommitment} {setup : ChannelSetup} {amounts : List Nat}

inductive TxKind where
  | onchain
  | mutualClose
  | sweep
  | htlc
  deriving DecidableEq

section accepted

variable (policy : SimplePolicy) (prims : Primitives) (reader : ScriptReader) (wallet : Wallet)

inductive SweepAccepted (tx : Transaction) (amountSat : U64) : Prop where
  | delayed {setup : ChannelSetup} {cstate : ChainState} {walletPath : DerivationPath}
      (valid : policy.validateDelayedSweep prims wallet setup cstate tx amountSat walletPath
        = .ok ())
  | counterpartyHtlc {setup : ChannelSetup} {cstate : ChainState} {redeemscript : Script}
      {walletPath : DerivationPath}
      (valid : policy.validateCounterpartyHtlcSweep prims reader wallet setup cstate tx
        redeemscript amountSat walletPath = .ok ())
  | justice {cstate : ChainState} {walletPath : DerivationPath}
      (valid : policy.validateJusticeSweep prims wallet cstate tx amountSat walletPath = .ok ())

/-- A transaction of some kind is accepted that has so many inputs, pays a fee and weighs so much
    in the eyes of the validator, and whose feerate is compared with the minimum or not. -/
inductive TxAccepted : TxKind → (inputs fee weight : Nat) → (floored : Bool) → Prop where
  | onchain {tx : Transaction} {outputs : List ProposedOutput} {segwitFlags : List Bool}
      {valuesSat : List U64} {weight fee : U64}
      (valid : policy.validateOnchainTx prims false wallet tx outputs segwitFlags valuesSat weight
        = .ok fee) :
      TxAccepted .onchain tx.input.length fee.toNat weight.toNat false
  | mutualClose {setup : ChannelSetup} {estate : EnforcementState} {args : ValidateArgs} {fee : Nat}
      (valid : policy.validateMutualCloseTx prims wallet setup estate args = .ok ())
      (pays : setup.channelValueSat.toNat
        = args.toHolderValueSat.toNat + args.toCounterpartyValueSat.toNat + fee) :
      TxAccepted .mutualClose 1 fee
        (mutualCloseTxWeight prims (args.closingTransaction prims setup).built).toNat true
  | sweep {tx : Transaction} {input : Nat} {amountSat : U64} {amounts : List Nat} {fee : Nat}
      (valid : SweepAccepted policy prims reader wallet tx amountSat)
      (spends : amounts.length = tx.input.length) (swept : amounts[input]? = some amountSat.toNat)
      (pays : amounts.sum = (tx.output.map (·.value.toNat)).sum + fee) :
      TxAccepted .sweep tx.input.length fee (estimatedSweepTxWeight prims tx).toNat true
  | htlc {isCounterparty : Bool} {setup : ChannelSetup} {txkeys : TxCreationKeys}
      {tx : Transaction} {redeemscript : Script} {htlcAmountSat : U64} {decoded : DecodedHtlcTx}
      {output : TxOut} {fee : Nat}
      (recomposed : decodeAndValidateHtlcTx prims reader isCounterparty setup txkeys
        tx redeemscript htlcAmountSat = .ok decoded)
      (valid : policy.validateHtlcTx setup decoded.htlc decoded.buildFeerate = .ok ())
      (hasOutput : tx.output[0]? = some output)
      (pays : htlcAmountSat.toNat = output.value.toNat + fee) :
      TxAccepted .htlc 1 fee
        (htlcTxWeight prims decoded.htlc.offered setup.features).toNat
        (!setup.isZeroFeeHtlc)

/-- The feerate, rounded down, is within the limits of the policy. -/
structure FeerateWithin (fee weight : Nat) (floored : Bool) : Prop where
  atMost : fee * 1000 / weight ≤ policy.maxFeeratePerKw.toNat
  atLeast : floored = true → policy.minFeeratePerKw.toNat ≤ fee * 1000 / weight

/-- The signer sees the fee, its feerate fits into 32 bits, and it is not one of the fees that the
    minimum feerate exceeds only by what is lost to rounding. -/
structure FeeSeen (kind : TxKind) (inputs fee weight : Nat) (floored : Bool) : Prop where
  single : kind = .sweep → inputs = 1
  uncut : kind ≠ .htlc → (fee * 1000 + 999) / weight < 2 ^ 32
  unrounded : floored = true → ¬ (fee * 1000 < policy.minFeeratePerKw.toNat * weight
    ∧ policy.minFeeratePerKw.toNat * weight ≤ fee * 1000 + 999)

end accepted

def totalSupplySat : Nat := 21000000 * 100000000

section checked

variable {policy : SimplePolicy} {prims : Primitives} {reader : ScriptReader} {wallet : Wallet}

theorem SweepAccepted.validateFee (accepted : SweepAccepted policy prims reader wallet tx amountSat)
    (single : tx.input.length = 1) :
    policy.validateFee "policy-sweep-fee-range" amountSat
      (BitVec.sum (tx.output.map (·.value))) (estimatedSweepTxWeight prims tx) = .ok () := by
  have common : ∃ walletPath,
      policy.validateSweep prims wallet tx amountSat walletPath = .ok () := by
    cases accepted with
    | delayed valid =>
      obtain ⟨_, common, _⟩ := bind_eq_ok.mp valid
      exact ⟨_, mapErr_eq_ok.mp common⟩
    | counterpartyHtlc valid =>
      obtain ⟨_, common, _⟩ := bind_eq_ok.mp valid
      exact ⟨_, mapErr_eq_ok.mp common⟩
    | justice valid =>
      obtain ⟨_, common, _⟩ := bind_eq_ok.mp valid
      exact ⟨_, mapErr_eq_ok.mp common⟩
  obtain ⟨walletPath, valid⟩ := common
  unfold validateSweep at valid
  split at valid
  · simp at valid
  · obtain ⟨_, fee, _⟩ := bind_eq_ok.mp valid
    rw [validateSweepFee, if_pos single] at fee
    exact mapErr_eq_ok.mp fee

theorem FeerateWithin.of_highest {weight} (weighs : 1 ≤ weight)
    (atMost : fee * 1000 / weight ≤ policy.maxFeeratePerKw.toNat)
    (highest : floored = true → policy.minFeeratePerKw.toNat ≤ Rate.highest 1000 weight fee)
    (unrounded : floored = true → ¬ (fee * 1000 < policy.minFeeratePerKw.toNat * weight ∧
      policy.minFeeratePerKw.toNat * weight ≤ fee * 1000 + 999)) :
    FeerateWithin policy fee weight floored := by
  refine ⟨atMost, fun checked => ?_⟩
  have reached := (Nat.le_div_iff_mul_le weighs).mp (highest checked)
  rw [Nat.le_div_iff_mul_le weighs]
  by_contra short
  exact unrounded checked ⟨Nat.lt_of_not_le short, reached⟩

theorem FeerateWithin.of_estimate {fee} (supply : fee.toNat ≤ totalSupplySat)
    (weighs : 1 ≤ weight.toNat) (uncut : (fee.toNat * 1000 + 999) / weight.toNat < 2 ^ 32)
    (unrounded : floored = true → ¬ (fee.toNat * 1000 < policy.minFeeratePerKw.toNat * weight.toNat
      ∧ policy.minFeeratePerKw.toNat * weight.toNat ≤ fee.toNat * 1000 + 999))
    (above : floored = true → policy.minFeeratePerKw ≤ estimateFeeratePerKw fee weight)
    (below : estimateFeeratePerKw fee weight ≤ policy.maxFeeratePerKw) :
    FeerateWithin policy fee.toNat weight.toNat floored := by
  have fits : fee.toNat * 1000 + 999 < 2 ^ 64 := by
    unfold totalSupplySat at supply
    omega
  have estimate : (estimateFeeratePerKw fee weight).toNat
      = Rate.highest 1000 weight.toNat fee.toNat := by
    rw [estimateFeeratePerKw_toNat fits]
    exact Nat.mod_eq_of_lt uncut
  refine .of_highest weighs ?_ (fun checked => ?_) unrounded
  · rw [BitVec.le_def, estimate] at below
    exact (Rate.exact_le_highest fee.toNat).trans below
  · rw [← estimate]
    exact BitVec.le_def.mp (above checked)

def Primitives.CommitsToValue (prims : Primitives) : Prop :=
  ∀ (tx tx' : Transaction) (script : Script) (amount : U64) (type : EcdsaSighashType),
    prims.p2wshSignatureHash tx 0 script amount type
      = prims.p2wshSignatureHash tx' 0 script amount type →
    tx.output[0]?.map (·.value) = tx'.output[0]?.map (·.value)

theorem htlcTransaction_output {txid delay features delayed revocation}
    (built : htlcTransaction prims txid feerate delay htlc features delayed revocation = some tx) :
    htlcOutputValue prims feerate htlc features = tx.output[0]?.map (·.value) := by
  simp only [htlcTransaction, Option.bind_eq_bind, Option.bind_eq_some_iff, Option.some.injEq]
    at built
  obtain ⟨_, _, value, pays, rfl⟩ := built
  exact pays

section htlc

variable (builds : prims.BuildsHtlcTxs) (commits : prims.CommitsToValue) {isCounterparty : Bool}
  {setup : ChannelSetup} {txkeys : TxCreationKeys} {tx : Transaction} {redeemscript : Script}
  {htlcAmountSat : U64} {decoded : DecodedHtlcTx} {output : TxOut} {fee : Nat}
  (recomposed : decodeAndValidateHtlcTx prims reader isCounterparty setup txkeys tx
    redeemscript htlcAmountSat = .ok decoded)
  (hasOutput : tx.output[0]? = some output)

include builds commits recomposed hasOutput

variable (pays : htlcAmountSat.toNat = output.value.toNat + fee)
include pays

omit pays in
theorem recomposed_output :
    htlcOutputValue prims decoded.buildFeerate decoded.htlc setup.features = some output.value := by
  obtain ⟨found⟩ := decodeAndValidateHtlcTx_eq_ok.mp recomposed
  have built := found.built
  rw [builds] at built
  have same := commits _ _ _ _ _ (found.same.trans found.sighash)
  rw [htlcTransaction_output built, same, hasOutput]
  rfl

/-- The amount is not so large that its millisatoshi are cut, or the fee would be beyond the
    supply. -/
theorem recomposed_amount (supply : fee ≤ totalSupplySat) :
    (decoded.htlc.amountMsat / 1000).toNat = htlcAmountSat.toNat := by
  have value := recomposed_output builds commits recomposed hasOutput
  obtain ⟨found⟩ := decodeAndValidateHtlcTx_eq_ok.mp recomposed
  have amount : (decoded.htlc.amountMsat / 1000).toNat
      = htlcAmountSat.toNat * 1000 % 2 ^ 64 / 1000 := by
    rw [found.htlc, htlcOfTx, BitVec.toNat_udiv, BitVec.toNat_mul]
    rfl
  have most : output.value ≤ decoded.htlc.amountMsat / 1000 := by
    unfold htlcOutputValue at value
    split at value
    · rw [Option.some.inj value]
      exact BitVec.le_refl _
    · obtain ⟨affordable, left⟩ := BitVec.checkedSub_eq_some.mp value
      rw [BitVec.le_def, ← left, BitVec.toNat_sub_of_le affordable]
      exact Nat.sub_le _ _
  rw [BitVec.le_def, amount] at most
  rw [amount]
  unfold totalSupplySat at supply
  by_cases fits : htlcAmountSat.toNat * 1000 < 2 ^ 64
  · rw [Nat.mod_eq_of_lt fits, Nat.mul_div_cancel _ (by omega)]
  · have cut : htlcAmountSat.toNat * 1000 % 2 ^ 64 ≤ htlcAmountSat.toNat * 1000 - 2 ^ 64 := by
      rw [Nat.mod_eq_sub_mod (Nat.le_of_not_lt fits)]
      exact Nat.mod_le _ _
    omega

theorem recomposed_fee (supply : fee ≤ totalSupplySat) :
    fee * 1000 ≤ decoded.buildFeerate.toNat
      * (htlcTxWeight prims decoded.htlc.offered setup.features).toNat := by
  have value := recomposed_output builds commits recomposed hasOutput
  have amount := recomposed_amount builds commits recomposed hasOutput pays supply
  unfold htlcOutputValue at value
  split at value
  · have : fee = 0 := by
      rw [← Option.some.inj value] at pays
      omega
    omega
  · obtain ⟨affordable, left⟩ := BitVec.checkedSub_eq_some.mp value
    have charged : fee = (feeAt (htlcTxWeight prims decoded.htlc.offered setup.features)
        decoded.buildFeerate).toNat := by
      unfold feeAt
      rw [← left, BitVec.toNat_sub_of_le affordable, amount] at pays
      rw [BitVec.le_def, amount] at affordable
      omega
    have product := Nat.mod_le (decoded.buildFeerate.toNat
      * (htlcTxWeight prims decoded.htlc.offered setup.features).toNat) (2 ^ 64)
    rw [charged, feeAt, BitVec.toNat_udiv, BitVec.toNat_mul, BitVec.zeroExtend,
      BitVec.toNat_setWidth, Nat.mod_eq_of_lt (by omega : decoded.buildFeerate.toNat < 2 ^ 64)]
    exact (Nat.div_mul_le_self _ _).trans product

omit builds commits in
theorem recomposed_estimate (supply : fee ≤ totalSupplySat)
    (charged : setup.isZeroFeeHtlc = false) :
    decoded.buildFeerate.toNat ≤ Rate.highest 1000
      (htlcTxWeight prims decoded.htlc.offered setup.features).toNat fee := by
  obtain ⟨found⟩ := decodeAndValidateHtlcTx_eq_ok.mp recomposed
  have sameOutput : found.output = output :=
    Option.some.inj (found.hasOutput.symm.trans hasOutput)
  have total : found.totalFee.toNat = fee := by
    have := BitVec.toNat_of_checkedSub found.left
    rw [sameOutput] at this
    omega
  have fits : found.totalFee.toNat * 1000 + 999 < 2 ^ 64 := by
    unfold totalSupplySat at supply
    omega
  rw [found.feerate, htlcBuildFeerate, charged, if_neg (by decide),
    estimateFeeratePerKw_toNat fits, total]
  exact Nat.mod_le _ _

end htlc

def FeeChecked (policy : SimplePolicy) (fee : Nat) (weight : U64) : Prop :=
  ∃ paid : U64, paid.toNat = fee ∧ policy.minFeeratePerKw ≤ estimateFeeratePerKw paid weight
    ∧ estimateFeeratePerKw paid weight ≤ policy.maxFeeratePerKw

theorem validateMutualCloseTx_fee (strict : policy.filter.Strict) {estate args}
    (valid : policy.validateMutualCloseTx prims wallet setup estate args = .ok ())
    (pays : setup.channelValueSat.toNat = args.toHolderValueSat.toNat +
      args.toCounterpartyValueSat.toNat + fee) :
    FeeChecked policy fee
      (mutualCloseTxWeight prims (args.closingTransaction prims setup).built) := by
  unfold validateMutualCloseTx at valid
  simp only [bind_eq_ok, okOr_eq_ok, mapErr_eq_ok] at valid
  obtain ⟨_, _, _, _, _, _, _, _, _, _, _, _, sum, summed, _, checked, _⟩ := valid
  obtain ⟨paid, left, above, below⟩ := validateFee_ok strict checked
  have := BitVec.toNat_of_checkedAdd summed
  exact ⟨paid, by omega, above, below⟩

theorem sweep_fee (strict : policy.filter.Strict) {input : Nat}
    (valid : SweepAccepted policy prims reader wallet tx amountSat) (single : tx.input.length = 1)
    (spends : amounts.length = tx.input.length) (swept : amounts[input]? = some amountSat.toNat)
    (pays : amounts.sum = (tx.output.map (·.value.toNat)).sum + fee) :
    FeeChecked policy fee (estimatedSweepTxWeight prims tx) := by
  have all : amounts.sum = amountSat.toNat := by
    obtain ⟨amount, rfl⟩ := List.length_eq_one_iff.mp (spends.trans single)
    have only := List.mem_singleton.mp (List.mem_of_getElem? swept)
    simp [only]
  obtain ⟨paid, left, above, below⟩ :=
    validateFee_ok strict (valid.validateFee single)
  -- the sum of the outputs is not cut, as it does not exceed the amount
  have outputs : (BitVec.sum (tx.output.map (·.value))).toNat
      = (tx.output.map (·.value.toNat)).sum := by
    rw [BitVec.toNat_sum, List.map_map]
    exact Nat.mod_eq_of_lt (by have := amountSat.isLt; simp only [Function.comp_def]; omega)
  exact ⟨paid, by omega, above, below⟩

theorem validateHtlcTx_ok (strict : policy.filter.Strict)
    (valid : policy.validateHtlcTx setup htlc feerate = .ok ()) :
    (setup.isZeroFeeHtlc = false → policy.minFeeratePerKw ≤ feerate)
      ∧ feerate ≤ policy.maxFeeratePerKw := by
  simp only [validateHtlcTx, bind_eq_ok, PolicyFilter.refuseIf_eq_ok strict,
    not_and, gt_iff_lt, BitVec.not_lt] at valid
  obtain ⟨_, _, _, above, below⟩ := valid
  exact ⟨above, below⟩

end checked

/-- An accepted transaction whose fee the signer sees, and whose feerate is neither cut nor rounded
    up to the minimum, is within the limits; and only such a one is, unless the maximum is next to
    the largest feerate there is. -/
theorem accepted_feerate_within {policy : SimplePolicy} {prims : Primitives} {reader : ScriptReader}
    {wallet : Wallet} (strict : policy.filter.Strict) (builds : prims.BuildsHtlcTxs)
    (commits : prims.CommitsToValue) {kind : TxKind} {inputs fee weight : Nat} {floored : Bool}
    (weighs : 1 ≤ weight) (supply : fee ≤ totalSupplySat)
    (accepted : TxAccepted policy prims reader wallet kind inputs fee weight floored) :
    (FeeSeen policy kind inputs fee weight floored → FeerateWithin policy fee weight floored) ∧
      (policy.maxFeeratePerKw.toNat + 1000 ≤ 2 ^ 32 → (kind = .sweep → inputs = 1) →
        FeerateWithin policy fee weight floored →
          FeeSeen policy kind inputs fee weight floored) := by
  constructor
  · intro seen
    cases accepted with
    | onchain valid =>
      obtain ⟨_, _, _, _, _, beneficial⟩ := validateOnchainTx_ok valid
      have below := (validateBeneficialValue_ok strict beneficial).2
      exact .of_estimate supply weighs (seen.uncut (by decide)) seen.unrounded
        (fun never => absurd never (by decide)) below
    | mutualClose valid pays =>
      obtain ⟨fee, rfl, above, below⟩ := validateMutualCloseTx_fee strict valid pays
      exact .of_estimate supply weighs (seen.uncut (by decide)) seen.unrounded
        (fun _ => above) below
    | sweep valid spends swept pays =>
      obtain ⟨fee, rfl, above, below⟩ := sweep_fee strict valid (seen.single rfl) spends swept pays
      exact .of_estimate supply weighs (seen.uncut (by decide)) seen.unrounded
        (fun _ => above) below
    | htlc recomposed valid hasOutput pays =>
      obtain ⟨above, below⟩ := validateHtlcTx_ok strict valid
      have paid := recomposed_fee builds commits recomposed hasOutput pays supply
      refine .of_highest weighs ?_ (fun checked => ?_) seen.unrounded
      · exact ((Nat.div_le_div_right paid).trans_eq (Nat.mul_div_cancel _ weighs)).trans
          (BitVec.le_def.mp below)
      · have charged := (Bool.not_eq_true' _).mp checked
        exact (BitVec.le_def.mp (above charged)).trans
          (recomposed_estimate recomposed hasOutput pays supply charged)
  · intro sane single within
    refine ⟨single, fun _ => ?_, fun checked gap => ?_⟩
    · exact (Rate.highest_lt (by omega) weighs within.atMost).trans_le sane
    · have reached := (Nat.le_div_iff_mul_le weighs).mp (within.atLeast checked)
      omega

namespace Toy

def ownWallet : Wallet where
  canSpend _ _ := .ok true
  allowlistContains _ _ := false

theorem builder_commits : builder.CommitsToValue := by
  intro tx tx' script amount type same
  simp only [builder] at same
  generalize tx.output[0]? = first at same
  generalize tx'.output[0]? = first' at same
  cases first with
  | none =>
    cases first' with
    | none => rfl
    | some output' =>
      have := congrArg BitVec.toNat same
      bv_omega
  | some output =>
    cases first' with
    | none =>
      have := congrArg BitVec.toNat same
      bv_omega
    | some output' =>
      have : output.value = output'.value := by bv_omega
      simp [this]

def justiceSweep (inputs : Nat) : Transaction :=
  ⟨2, 0, List.replicate inputs ⟨⟨9, 0⟩, [], 0, []⟩, [⟨1000, []⟩]⟩

def sweepAccepted (amounts : List Nat) : Prop :=
  TxAccepted (makeDefaultSimplePolicy .testnet) builder reader ownWallet .sweep amounts.length
    (amounts.sum - 1000) 720 true

theorem justiceSweep_accepted (amountSat : U64) (enough : 1000 ≤ amounts.sum)
    (first : amounts[0]? = some amountSat.toNat)
    (valid : (makeDefaultSimplePolicy .testnet).validateJusticeSweep builder ownWallet
      ⟨100, 0, 0, 0, false⟩ (justiceSweep amounts.length) amountSat [] = .ok ()) :
    sweepAccepted amounts := by
  have spends : amounts.length = (justiceSweep amounts.length).input.length := by
    simp [justiceSweep]
  have pays : amounts.sum
      = ((justiceSweep amounts.length).output.map (·.value.toNat)).sum + (amounts.sum - 1000) := by
    simp only [justiceSweep, List.map_cons, List.map_nil, List.sum_cons, List.sum_nil]
    exact (Nat.add_sub_cancel' enough).symm
  have accepted : TxAccepted (makeDefaultSimplePolicy .testnet) builder reader ownWallet .sweep
      (justiceSweep amounts.length).input.length (amounts.sum - 1000) 720 true :=
    .sweep (.justice valid) spends first pays
  rwa [← spends] at accepted

end Toy

open Toy in
/-- A fee of a thousand satoshi. -/
theorem thousand_satoshi_within : sweepAccepted [2000]
    ∧ FeerateWithin (makeDefaultSimplePolicy .testnet) 1000 720 true := by
  have accepted : sweepAccepted [2000] :=
    justiceSweep_accepted 2000 (by decide) rfl (by decide)
  have seen : FeeSeen (makeDefaultSimplePolicy .testnet) .sweep 1 1000 720 true :=
    ⟨fun _ => rfl, fun _ => by decide, fun _ => by decide⟩
  exact ⟨accepted, (accepted_feerate_within PolicyFilter.default_strict builder_builds
    builder_commits (by decide) (by decide) accepted).1 seen⟩

open Toy in
/-- The rate of a fee of 31 bitcoin is cut to a thousand, the fee of a sweep of two outputs is not
    looked at, and 182 satoshi are rounded up to the minimum feerate. -/
theorem feerate_out_of_range :
    (sweepAccepted [3092378173] ∧
      ¬ FeerateWithin (makeDefaultSimplePolicy .testnet) 3092377173 720 true) ∧
    (sweepAccepted [2000, 100000000] ∧
      ¬ FeerateWithin (makeDefaultSimplePolicy .testnet) 100001000 720 true) ∧
    (sweepAccepted [1182] ∧ ¬ FeerateWithin (makeDefaultSimplePolicy .testnet) 182 720 true) := by
  refine ⟨⟨justiceSweep_accepted 3092378173 (by decide) rfl (by decide), ?_⟩,
    ⟨justiceSweep_accepted 2000 (by decide) rfl (by decide), ?_⟩,
    ⟨justiceSweep_accepted 1182 (by decide) rfl (by decide), ?_⟩⟩
  · exact fun within => absurd within.atMost (by decide)
  · exact fun within => absurd within.atMost (by decide)
  · exact fun within => absurd (within.atLeast rfl) (by decide)

end Vls
