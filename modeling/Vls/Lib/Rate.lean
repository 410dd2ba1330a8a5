import Mathlib.Order.GaloisConnection.Basic

/-! # Fees and rates

A rate is paid per unit of weight, rounded down. Several rates come to one fee, and the highest of
them is found by a division the other way. The two roundings form a Galois connection, from which
the rest follows. -/

namespace Rate

def fee (unit weight rate : Nat) : Nat := rate * weight / unit

def highest (unit weight fee : Nat) : Nat := (fee * unit + (unit - 1)) / weight

variable {unit weight : Nat}

theorem galoisConnection (units : 0 < unit) (weighs : 0 < weight) :
    GaloisConnection (fee unit weight) (highest unit weight) := by
  intro rate paid
  have unitwise : rate * weight / unit ≤ paid ↔ rate * weight ≤ paid * unit + (unit - 1) := by
    rw [← Nat.lt_succ_iff, Nat.div_lt_iff_lt_mul units, Nat.succ_mul]
    omega
  unfold fee highest
  rw [unitwise, Nat.le_div_iff_mul_le weighs]

theorem fee_highest_fee (units : 0 < unit) (weighs : 0 < weight) (rate : Nat) :
    fee unit weight (highest unit weight (fee unit weight rate)) = fee unit weight rate :=
  (galoisConnection units weighs).l_u_l_eq_l rate

theorem exact_le_highest (paid : Nat) : paid * unit / weight ≤ highest unit weight paid :=
  Nat.div_le_div_right (by omega)

theorem highest_lt (units : 0 < unit) (weighs : 0 < weight) {paid bound}
    (exact : paid * unit / weight ≤ bound) : highest unit weight paid < bound + unit := by
  have paidLess : paid * unit < (bound + 1) * weight :=
    (Nat.div_lt_iff_lt_mul weighs).mp (Nat.lt_succ_of_le exact)
  have rounding := Nat.le_mul_of_pos_right (unit - 1) weighs
  have sum : (bound + unit) * weight = (bound + 1) * weight + (unit - 1) * weight := by
    rw [← Nat.add_mul]
    congr 1
    omega
  rw [highest, Nat.div_lt_iff_lt_mul weighs, sum]
  omega

end Rate
