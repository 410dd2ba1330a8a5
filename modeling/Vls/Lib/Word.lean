import Mathlib.Data.BitVec

/-! # Machine words

Unsigned machine integers are bit vectors. Their plain operators wrap around, as an optimised
build does; the partial operators below are the ones a program calls when it wants to see the
overflow instead. -/

abbrev U8 := BitVec 8
abbrev U16 := BitVec 16
abbrev U32 := BitVec 32
abbrev U64 := BitVec 64

namespace BitVec

variable {w : Nat}

variable {x y z : BitVec w}

def checkedAdd (x y : BitVec w) : Option (BitVec w) :=
  if x.toNat + y.toNat < 2 ^ w then some (x + y) else none

def checkedSub (x y : BitVec w) : Option (BitVec w) :=
  if y ≤ x then some (x - y) else none

def saturatingAdd (x y : BitVec w) : BitVec w :=
  if x.toNat + y.toNat < 2 ^ w then x + y else BitVec.allOnes w

def saturatingSub (x y : BitVec w) : BitVec w :=
  if y ≤ x then x - y else 0

/-- The fold of the wrapping addition, which is what summing an iterator of words computes. -/
def sum (xs : List (BitVec w)) : BitVec w :=
  xs.foldl (· + ·) 0

def checkedSum (xs : List (BitVec w)) : Option (BitVec w) := xs.foldlM checkedAdd 0

theorem checkedAdd_eq_some : x.checkedAdd y = some z ↔ x.toNat + y.toNat < 2 ^ w ∧ x + y = z := by
  simp [checkedAdd]

theorem checkedSub_eq_some : x.checkedSub y = some z ↔ y ≤ x ∧ x - y = z := by simp [checkedSub]

theorem toNat_of_checkedAdd (h : x.checkedAdd y = some z) : z.toNat = x.toNat + y.toNat := by
  obtain ⟨fits, rfl⟩ := checkedAdd_eq_some.mp h
  rw [BitVec.toNat_add, Nat.mod_eq_of_lt fits]

theorem checkedAdd_iff : x.checkedAdd y = some z ↔ z.toNat = x.toNat + y.toNat := by
  refine ⟨toNat_of_checkedAdd, fun sum => checkedAdd_eq_some.mpr ?_⟩
  have small := z.isLt
  refine ⟨by omega, BitVec.eq_of_toNat_eq ?_⟩
  rw [BitVec.toNat_add, ← sum, Nat.mod_eq_of_lt small]

theorem toNat_sum (xs : List (BitVec w)) : (sum xs).toNat = (xs.map BitVec.toNat).sum % 2 ^ w := by
  have fold : ∀ start : BitVec w, (xs.foldl (· + ·) start).toNat
      = (start.toNat + (xs.map BitVec.toNat).sum) % 2 ^ w := by
    induction xs with
    | nil =>
      intro start
      simp [Nat.mod_eq_of_lt start.isLt]
    | cons x rest ih =>
      intro start
      rw [List.foldl_cons, ih, BitVec.toNat_add, Nat.mod_add_mod, List.map_cons, List.sum_cons,
        Nat.add_assoc]
  simpa [sum] using fold 0

theorem checkedSum_iff {xs : List (BitVec w)} :
    checkedSum xs = some z ↔ z.toNat = (xs.map BitVec.toNat).sum := by
  have fold : ∀ start : BitVec w, xs.foldlM checkedAdd start = some z ↔
      z.toNat = start.toNat + (xs.map BitVec.toNat).sum := by
    induction xs with
    | nil =>
      intro start
      simp [← BitVec.toNat_inj, eq_comm]
    | cons x rest ih =>
      intro start
      simp only [List.foldlM_cons, Option.bind_eq_bind, Option.bind_eq_some_iff, checkedAdd_iff, ih,
        List.map_cons, List.sum_cons]
      constructor
      · rintro ⟨y, sum, total⟩
        omega
      · intro total
        have small := z.isLt
        exact ⟨start + x, by rw [BitVec.toNat_add, Nat.mod_eq_of_lt (by omega)],
          by rw [BitVec.toNat_add, Nat.mod_eq_of_lt (by omega)]; omega⟩
  simpa [checkedSum] using fold 0

theorem toNat_of_checkedSub (h : x.checkedSub y = some z) : z.toNat + y.toNat = x.toNat := by
  obtain ⟨le, rfl⟩ := checkedSub_eq_some.mp h
  rw [BitVec.toNat_sub_of_le le]
  have := BitVec.le_def.mp le
  omega

theorem checkedSub_iff : x.checkedSub y = some z ↔ z.toNat + y.toNat = x.toNat := by
  refine ⟨toNat_of_checkedSub, fun sum => checkedSub_eq_some.mpr ?_⟩
  have le : y ≤ x := BitVec.le_def.mpr (by omega)
  refine ⟨le, BitVec.eq_of_toNat_eq ?_⟩
  rw [BitVec.toNat_sub_of_le le]
  omega

theorem toNat_saturatingSub (x y : BitVec w) : (x.saturatingSub y).toNat = x.toNat - y.toNat := by
  unfold saturatingSub
  split
  · rename_i le
    rw [BitVec.toNat_sub_of_le le]
  · rename_i gt
    have := BitVec.le_def.not.mp gt
    simp only [BitVec.ofNat_eq_ofNat, BitVec.toNat_ofNat, Nat.zero_mod]
    omega

end BitVec
