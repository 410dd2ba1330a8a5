import Vls.Onchain.Psbt

/-! # Change outputs

What is left of the inputs goes to a change output, if it is worth one once the fee is paid. Fees
are computed in signed words, where a product that is too large passes for another one. The least
value of an output is told by the Bitcoin library. -/

namespace Vls

open Result BitVec

def maxValueMsat : U64 := 2100000000000000000

/-- A fee from weight times feerate, both sums and products of signed words. Since these wrap, so
    does the product, and it is rounded towards zero. -/
def wordFee (product : Nat) : Int := ((product : Int).bmod (2 ^ 64)).tdiv 1000

def addOutput (inputValue outputValue : U64) (output : TxOut) : Result Unit U64 := do
  let outputValue ← expect "called unwrap on a None value" (outputValue.checkedAdd output.value)
  if outputValue ≥ inputValue then err () else .ok outputValue

/-- What the outputs leave of the inputs. -/
def valueDifference (tx : Transaction) (inputValue : U64) : Result Unit U64 := do
  if inputValue > maxValueMsat / 1000 then err ()
  let outputValue ← tx.output.foldlM (addOutput inputValue) 0
  okOr () (inputValue.checkedSub outputValue)

variable (minimalNonDust : Script → Nat) (tx : Transaction) (inputValue witnessMaxWeight : U64)
  (feerate : U32) (changeScript : Script)

def changeWeight : Nat :=
  TxOut.size ⟨0, changeScript⟩ * 4
    + (varIntSize (tx.output.length + 1) - varIntSize tx.output.length) * 4

def withChange (changeValue : U64) : Transaction :=
  { tx with output := tx.output ++ [⟨changeValue, changeScript⟩] }

def maybeAddChangeOutput : Result Unit Transaction := do
  let difference ← valueDifference tx inputValue
  let weight := tx.weight + 2 + witnessMaxWeight.toNat
  let changeValue :=
    difference.toNat - wordFee (feerate.toNat * (weight + changeWeight tx changeScript))
  if minimalNonDust changeScript ≤ changeValue then
    .ok (withChange tx changeScript (.ofInt 64 changeValue))
  else if difference.toNat - wordFee (feerate.toNat * weight) < 0 then err () else .ok tx

def outputTotal (tx : Transaction) : Nat := (tx.output.map fun output => output.value.toNat).sum

/-- The fee that a transaction has to pay, in thousandths. -/
def owed (tx : Transaction) : Nat := feerate.toNat * (tx.weight + 2 + witnessMaxWeight.toNat)

/-- The fee is paid, what is left goes to a change output exactly if it is worth one, and the fee is
    not exceeded by more than the least value and the cost of a change output. -/
structure ChangeRule (tx' : Transaction) : Prop where
  paid : outputTotal tx' + owed witnessMaxWeight feerate tx' / 1000 ≤ inputValue.toNat
  added : (∃ value, tx' = withChange tx changeScript value) ↔ outputTotal tx
    + owed witnessMaxWeight feerate (withChange tx changeScript 0) / 1000
    + minimalNonDust changeScript ≤ inputValue.toNat
  onlyChange : tx' = tx ∨ ∃ value, tx' = withChange tx changeScript value
  tight : inputValue.toNat ≤ outputTotal tx' + owed witnessMaxWeight feerate tx' / 1000
    + minimalNonDust changeScript + feerate.toNat * changeWeight tx changeScript / 1000

/-- A product that does not fit into a signed word does not pass for a fee that can be paid. -/
def NotPassedOff (left : U64) : Prop :=
  let fee := owed witnessMaxWeight feerate tx
  let product := fee + feerate.toNat * changeWeight tx changeScript
  product < 2 ^ 63 ∨ left.toNat < minimalNonDust changeScript + wordFee product ∧
    (fee < 2 ^ 63 ∨ left.toNat < wordFee fee)

variable {minimalNonDust tx inputValue witnessMaxWeight feerate changeScript}
variable {value left : U64} {product : Nat}

theorem varIntSize_mono (n : Nat) : varIntSize n ≤ varIntSize (n + 1) := by
  unfold varIntSize
  split_ifs <;> omega

theorem owed_withChange : owed witnessMaxWeight feerate (withChange tx changeScript value)
    = owed witnessMaxWeight feerate tx + feerate.toNat * changeWeight tx changeScript := by
  have grows := varIntSize_mono tx.output.length
  have segwit : (withChange tx changeScript value).usesSegwitSerialization
      = tx.usesSegwitSerialization := rfl
  rw [owed, owed, ← Nat.mul_add]
  congr 1
  simp only [Transaction.weight, Transaction.totalSize, segwit]
  simp only [Transaction.baseSize, withChange, changeWeight, TxOut.size, List.map_append,
    List.sum_append, List.length_append, List.map_singleton, List.sum_singleton,
    List.length_singleton]
  omega

theorem outputTotal_withChange :
    outputTotal (withChange tx changeScript value) = outputTotal tx + value.toNat := by
  simp [outputTotal, withChange]

theorem withChange_ne : tx ≠ withChange tx changeScript value := by
  intro same
  simpa [withChange] using congrArg (fun tx => tx.output.length) same

theorem toNat_foldlM_addOutput {outputs start sum}
    (ok : List.foldlM (addOutput inputValue) start outputs = .ok sum) :
    sum.toNat = start.toNat + (outputs.map fun output => output.value.toNat).sum := by
  induction outputs generalizing start with
  | nil =>
    cases ok
    rfl
  | cons output rest ih =>
    simp only [List.foldlM_cons, bind_eq_ok, addOutput, expect_eq_ok, checkedAdd_iff,
      ite_err_eq_ok, Except.ok.injEq] at ok
    obtain ⟨_, ⟨mid, added, -, rfl⟩, ok⟩ := ok
    rw [ih ok, added, List.map_cons, List.sum_cons, Nat.add_assoc]

theorem valueDifference_ok (ok : valueDifference tx inputValue = .ok left) :
    left.toNat + outputTotal tx = inputValue.toNat ∧ inputValue.toNat ≤ 2100000000000000 := by
  simp only [valueDifference, err_bind, ite_err_eq_ok, bind_eq_ok, okOr_eq_ok, checkedSub_iff] at ok
  obtain ⟨small, outputValue, summed, rest⟩ := ok
  have total : outputValue.toNat = outputTotal tx :=
    (toNat_foldlM_addOutput summed).trans (Nat.zero_add _)
  exact ⟨total ▸ rest, Nat.le_of_not_lt small⟩

theorem wordFee_eq (fits : product < 2 ^ 63) : wordFee product = (product / 1000 : Nat) := by
  have same : (product : Int).bmod (2 ^ 64) = product :=
    Int.bmod_eq_of_le_mul_two (by omega) (by omega)
  unfold wordFee
  rw [same]
  exact (Int.ofNat_tdiv product 1000).symm

theorem wordFee_bounds (product : Nat) :
    -2 ^ 63 ≤ 1000 * wordFee product ∧ 1000 * wordFee product < 2 ^ 63 := by
  have sign : (1000 : Int).sign = 1 := rfl
  have least : _ ≤ (product : Int).bmod (2 ^ 64) := Int.le_bmod (Nat.two_pow_pos 64)
  have most : (product : Int).bmod (2 ^ 64) < _ := Int.bmod_lt (Nat.two_pow_pos 64)
  unfold wordFee
  rw [Int.tdiv_eq_ediv, sign]
  generalize (product : Int).bmod (2 ^ 64) = word at least most
  split <;> omega

theorem toNat_ofInt_left (small : left.toNat ≤ 2100000000000000)
    (least : wordFee product ≤ left.toNat) :
    ((BitVec.ofInt 64 (left.toNat - wordFee product)).toNat : Int)
      = left.toNat - wordFee product := by
  have bounds := wordFee_bounds product
  rw [toNat_ofInt, Int.toNat_of_nonneg (by omega), Int.emod_eq_of_lt (by omega) (by omega)]

variable {fee cost : Nat} (owes : owed witnessMaxWeight feerate tx = fee)
  (costs : feerate.toNat * changeWeight tx changeScript = cost)
include owes costs

theorem maybeAddChangeOutput_eq (ok : valueDifference tx inputValue = .ok left) :
    maybeAddChangeOutput minimalNonDust tx inputValue witnessMaxWeight feerate changeScript
      = if minimalNonDust changeScript ≤ left.toNat - wordFee (fee + cost)
        then .ok (withChange tx changeScript (.ofInt 64 (left.toNat - wordFee (fee + cost))))
        else if left.toNat - wordFee fee < 0 then err () else .ok tx := by
  simp only [maybeAddChangeOutput, ok, bind, Except.bind, ← owes, ← costs, owed, Nat.mul_add]

theorem ChangeRule.of_unchanged (left : Nat) (rest : left + outputTotal tx = inputValue.toNat)
    (pays : fee / 1000 ≤ left)
    (stays : left < minimalNonDust changeScript + (fee + cost) / 1000) :
    ChangeRule minimalNonDust tx inputValue witnessMaxWeight feerate changeScript tx := by
  refine ⟨?_, ⟨fun ⟨value, same⟩ => absurd same withChange_ne, fun worth => ?_⟩, .inl rfl, ?_⟩
  · rw [owes]
    omega
  · rw [owed_withChange, owes, costs] at worth
    omega
  · rw [owes, costs]
    omega

theorem ChangeRule.of_change (left : Nat) (rest : left + outputTotal tx = inputValue.toNat)
    (change : value.toNat + (fee + cost) / 1000 = left)
    (worth : minimalNonDust changeScript ≤ value.toNat) :
    ChangeRule minimalNonDust tx inputValue witnessMaxWeight feerate changeScript
      (withChange tx changeScript value) := by
  refine ⟨?_, ⟨fun _ => ?_, fun _ => ⟨value, rfl⟩⟩, .inr ⟨value, rfl⟩, ?_⟩
  · rw [outputTotal_withChange, owed_withChange, owes, costs]
    omega
  · rw [owed_withChange, owes, costs]
    omega
  · rw [outputTotal_withChange, owed_withChange, owes, costs]
    omega

omit owes costs

/-- The rule is kept exactly if no product that does not fit passes for a fee that can be paid. -/
theorem change_ruled_iff (minimalNonDust : Script → Nat) (tx : Transaction)
    (inputValue witnessMaxWeight : U64) (feerate : U32) (changeScript : Script) :
    (∀ tx', maybeAddChangeOutput minimalNonDust tx inputValue witnessMaxWeight feerate changeScript
        = .ok tx' →
      ChangeRule minimalNonDust tx inputValue witnessMaxWeight feerate changeScript tx') ↔
    ∀ left, valueDifference tx inputValue = .ok left →
      NotPassedOff minimalNonDust tx witnessMaxWeight feerate changeScript left := by
  simp only [NotPassedOff]
  generalize owes : owed witnessMaxWeight feerate tx = fee
  generalize costs : feerate.toNat * changeWeight tx changeScript = cost
  have bounds := wordFee_bounds (fee + cost)
  constructor
  · intro ruled left ok
    obtain ⟨rest, small⟩ := valueDifference_ok ok
    rw [maybeAddChangeOutput_eq owes costs ok] at ruled
    by_contra passed
    by_cases adds : minimalNonDust changeScript ≤ left.toNat - wordFee (fee + cost)
    · have paid := (ruled _ (if_pos adds)).paid
      have change := @toNat_ofInt_left left (fee + cost) (by omega) (by omega)
      rw [outputTotal_withChange, owed_withChange, owes, costs] at paid
      omega
    · have paid := (ruled tx ((if_neg adds).trans (if_neg (by omega)))).paid
      rw [owes] at paid
      omega
  · intro condition tx' ok
    obtain ⟨left, made, -⟩ := bind_eq_ok.mp ok
    obtain ⟨rest, small⟩ := valueDifference_ok made
    have condition := condition left made
    have exact := @wordFee_eq fee
    have exactWith := @wordFee_eq (fee + cost)
    rw [maybeAddChangeOutput_eq owes costs made] at ok
    split at ok
    · cases ok
      have change := @toNat_ofInt_left left (fee + cost) (by omega) (by omega)
      exact .of_change owes costs left.toNat rest (by omega) (by omega)
    · split at ok
      · cases ok
      · cases ok
        exact .of_unchanged owes costs left.toNat rest (by omega) (by omega)

/-- A witness weight that is negative as a signed word makes for a change of 1920 out of 1000. -/
theorem change_exceeds_inputs :
    (maybeAddChangeOutput (fun _ => 471) ⟨2, 0, [], []⟩ 1000 (-1000) 1000 []).toOption.map
      outputTotal = some 1920 := by
  decide +kernel

end Vls
