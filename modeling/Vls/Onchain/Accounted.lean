import Vls.Onchain.Approval

/-! # What the limits on fees see

An accepted transaction pays to known destinations only, and what its inputs have above that is
returned as it is. Two limits look at this amount next, each through a product by a thousand: the
feerate is a quotient cut to 32 bits, and the velocity of fees is counted in millisatoshi. -/

namespace Vls

variable {prims : Primitives} {wallet : Wallet} {outputs : List ProposedOutput}
  {valuesSat : List U64} {weight fee : U64}

/-- An output of the wallet at its path, one that is allowlisted, or the funding of its channel. -/
def ProposedOutput.Destined (prims : Primitives) (wallet : Wallet) (proposed : ProposedOutput) :
    Prop :=
  proposed.opath ≠ [] ∧ wallet.canSpend proposed.opath proposed.output.scriptPubkey = .ok true
  ∨ wallet.allowlistContains proposed.output.scriptPubkey proposed.opath = true
  ∨ ∃ chan, proposed.channel = some chan ∧ FundsChannel prims proposed.output chan

theorem ProposedOutput.destined_of_conforms {proposed : ProposedOutput}
    (conforms : proposed.Conforms prims wallet) (known : ¬ proposed.Unknown wallet) :
    proposed.Destined prims wallet := by
  unfold Conforms at conforms
  split at conforms
  · rename_i path
    rcases conforms with spendable | ⟨-, listed⟩
    · exact .inl ⟨path, spendable⟩
    · exact .inr (.inl listed)
  · rename_i path
    have path := not_not.mp path
    rcases conforms with listed | funds
    · exact .inr (.inl (path ▸ listed))
    · cases funded : proposed.channel with
      | some chan => exact .inr (.inr ⟨chan, funded, funds chan funded⟩)
      | none =>
        refine .inr (.inl ?_)
        rw [path]
        by_contra unlisted
        exact known ⟨path, by simpa using unlisted, funded⟩

def leftOver (outputs : List ProposedOutput) (valuesSat : List U64) : Nat :=
  (valuesSat.map BitVec.toNat).sum - (outputs.map (·.output.value.toNat)).sum

/-- The amount that is returned is what is left of the inputs, and neither the feerate that is
    compared with the maximum nor the charge to the control of fees stands for less. -/
structure Accounted (prims : Primitives) (wallet : Wallet) (outputs : List ProposedOutput)
    (valuesSat : List U64) (weight fee : U64) : Prop where
  destined : ∀ proposed ∈ outputs, proposed.Destined prims wallet
  balance : fee.toNat + (outputs.map (·.output.value.toNat)).sum = (valuesSat.map BitVec.toNat).sum
  compared : (estimateFeeratePerKw fee weight).toNat = Rate.highest 1000 weight.toNat fee.toNat
  charged : (fee * 1000).toNat = fee.toNat * 1000

/-- An amount that the products by a thousand and the 32 bits of a feerate have room for. -/
def Countable (weight : U64) (left : Nat) : Prop :=
  left * 1000 + 999 < 2 ^ 64 ∧ Rate.highest 1000 weight.toNat left < 2 ^ 32

theorem numerator_toNat : (fee * 1000 + 999).toNat = (fee.toNat * 1000 + 999) % 2 ^ 64 := by
  simp [BitVec.toNat_add, BitVec.toNat_mul]

theorem estimateFeeratePerKw_wrapped (weighs : 0 < weight.toNat)
    (wraps : ¬ fee.toNat * 1000 + 999 < 2 ^ 64) :
    (estimateFeeratePerKw fee weight).toNat < Rate.highest 1000 weight.toNat fee.toNat := by
  have room : (fee.toNat * 1000 + 999) % 2 ^ 64 + weight.toNat ≤ fee.toNat * 1000 + 999 := by
    have := weight.isLt
    omega
  rw [estimateFeeratePerKw, BitVec.truncate_eq_setWidth, BitVec.toNat_setWidth, BitVec.toNat_udiv,
    numerator_toNat]
  calc (fee.toNat * 1000 + 999) % 2 ^ 64 / weight.toNat % 2 ^ 32
    _ ≤ (fee.toNat * 1000 + 999) % 2 ^ 64 / weight.toNat := Nat.mod_le _ _
    _ < ((fee.toNat * 1000 + 999) % 2 ^ 64 + weight.toNat) / weight.toNat := by
        rw [Nat.add_div_right _ weighs]
        exact Nat.lt_succ_self _
    _ ≤ Rate.highest 1000 weight.toNat fee.toNat := Nat.div_le_div_right room

theorem countable_iff (weighs : 0 < weight.toNat) :
    (estimateFeeratePerKw fee weight).toNat = Rate.highest 1000 weight.toNat fee.toNat
      ↔ Countable weight fee.toNat := by
  constructor
  · intro compared
    refine ⟨?_, compared ▸ (estimateFeeratePerKw fee weight).isLt⟩
    by_contra wraps
    exact (estimateFeeratePerKw_wrapped weighs wraps).ne compared
  · rintro ⟨numerator, quotient⟩
    rw [estimateFeeratePerKw_toNat numerator, Nat.mod_eq_of_lt quotient]

/-- The limits on fees see what an accepted transaction spends, exactly where it is countable. -/
theorem SimplePolicy.accounted_iff {policy : SimplePolicy} (strict : policy.filter.Strict)
    (weighs : 0 < weight.toNat) {tx : Transaction} {segwitFlags : List Bool}
    (valid : policy.validateOnchainTx prims false wallet tx outputs segwitFlags valuesSat weight
      = .ok fee) :
    Accounted prims wallet outputs valuesSat weight fee
      ↔ Countable weight (leftOver outputs valuesSat) := by
  obtain ⟨found, sum, looked, none, summed, beneficial⟩ := validateOnchainTx_ok valid
  obtain ⟨-, seen⟩ := validateOutputs_ok strict looked
  have known := seen.unknowns.mp none
  have all := List.filter_eq_self.mpr fun proposed mem => decide_eq_true (known proposed mem)
  have balance := (validateBeneficialValue_ok strict beneficial).1
  rw [seen.beneficial, sumInputs_ok summed, ProposedOutput.total, all] at balance
  have left : leftOver outputs valuesSat = fee.toNat := by
    unfold leftOver
    omega
  rw [left]
  constructor
  · intro accounted
    exact (countable_iff weighs).mp accounted.compared
  · intro countable
    refine ⟨fun _ mem => ProposedOutput.destined_of_conforms (seen.conform _ mem) (known _ mem),
      balance, (countable_iff weighs).mpr countable, ?_⟩
    have := countable.1
    simp only [BitVec.toNat_mul, BitVec.ofNat_eq_ofNat, BitVec.toNat_ofNat]
    omega

open Toy

def Toy.change (value : U64) : List ProposedOutput := [⟨coin 7 value, [7], none⟩]

theorem change_accounted : Accounted walletCtx.prims walletEnv.wallet (change 1999000) [2000000]
    600 1000 :=
  (SimplePolicy.accounted_iff walletCtx_strict.filter (by decide)
    (show walletCtx.validator.policy.validateOnchainTx walletCtx.prims false walletEnv.wallet
      payWallet.psbt.unsignedTx (change 1999000) [true] [2000000] 600 = .ok 1000 by
        decide +kernel)).mpr (by unfold Countable; decide +kernel)

/-- A fee of thirty-one bitcoin passes for a low feerate. -/
theorem fee_unaccounted :
    walletCtx.Strict ∧ walletCtx.validator.policy.validateOnchainTx walletCtx.prims false
      walletEnv.wallet payWallet.psbt.unsignedTx (change 1000) [true] [3109561000] 724
        = .ok 3109560000
      ∧ ¬ Accounted walletCtx.prims walletEnv.wallet (change 1000) [3109561000] 724 3109560000 := by
  refine ⟨walletCtx_strict, by decide +kernel, fun accounted => ?_⟩
  exact absurd accounted.compared (by decide +kernel)

end Vls
