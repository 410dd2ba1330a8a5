import Mathlib.Algebra.Order.BigOperators.Group.List
import Mathlib.Algebra.Order.Ring.Nat

/-! # A sliding window of buckets

Amounts are added to the first of some buckets, and from time to time all buckets move back, the
last ones dropping off. What was added since a bucket was the first one is then in it or before
it. -/

namespace Window

open List

section shift

variable {α : Type} [Zero α] {buckets : List α}

def shift (n : Nat) (buckets : List α) : List α := (replicate n 0 ++ buckets).take buckets.length

theorem length_shift (n : Nat) : (shift n buckets).length = buckets.length := by simp [shift]

theorem shift_eq (n : Nat) : shift n buckets = replicate (min buckets.length n) 0
    ++ buckets.take (buckets.length - min buckets.length n) := by
  rw [shift, take_append, take_replicate, length_replicate]
  congr 2
  omega

theorem map_shift {β : Type} [Zero β] {f : α → β} (zero : f 0 = 0) (n : Nat) :
    (shift n buckets).map f = shift n (buckets.map f) := by
  simp [shift, zero]

theorem shift_shift (m n : Nat) : shift m (shift n buckets) = shift (n + m) buckets := by
  have inner : ∀ l : List α, take buckets.length (replicate m 0 ++ l.take buckets.length)
      = take buckets.length (replicate m 0 ++ l) := by
    intro l
    rw [take_append, take_append, take_take, Nat.min_eq_left (Nat.sub_le _ _)]
  rw [shift, length_shift, shift, shift, inner, Nat.add_comm, replicate_add, append_assoc]

end shift

variable {entries : List (Nat × Nat)} {current : Nat} {buckets : List Nat}

theorem sum_take_shift {n j} (within : j ≤ buckets.length) :
    ((shift n buckets).take j).sum = (buckets.take (j - n)).sum := by
  rw [shift, take_take, Nat.min_eq_left within, take_append]
  simp

theorem sum_modifyHead (nonempty : buckets ≠ []) (amount : Nat) :
    (buckets.modifyHead (· + amount)).sum = buckets.sum + amount := by
  obtain ⟨first, rest, rfl⟩ := exists_cons_of_ne_nil nonempty
  simp only [modifyHead_cons, sum_cons]
  omega

def since (entries : List (Nat × Nat)) (bucket : Nat) : Nat :=
  ((entries.filter (bucket ≤ ·.1)).map (·.2)).sum

/-- The buckets have at least what was entered, each from its own number on. -/
structure Covers (entries : List (Nat × Nat)) (current : Nat) (buckets : List Nat) : Prop where
  past : ∀ entry ∈ entries, entry.1 ≤ current
  kept : ∀ j ≤ buckets.length, since entries (current + 1 - j) ≤ (buckets.take j).sum

theorem Covers.shift (covers : Covers entries current buckets) (n : Nat) :
    Covers entries (current + n) (shift n buckets) := by
  constructor
  · intro entry mem
    exact Nat.le_trans (covers.past entry mem) (Nat.le_add_right _ _)
  · intro j within
    rw [length_shift] at within
    rw [sum_take_shift within]
    by_cases dropped : j ≤ n
    · -- nothing was entered after the former first bucket
      have none : entries.filter (current + n + 1 - j ≤ ·.1) = [] := by
        refine filter_eq_nil_iff.mpr fun entry mem late => ?_
        have := covers.past entry mem
        have := of_decide_eq_true late
        omega
      rw [since, none]
      exact Nat.zero_le _
    · rw [show current + n + 1 - j = current + 1 - (j - n) by omega]
      exact covers.kept (j - n) (by omega)

theorem Covers.all (covers : Covers entries current buckets) :
    since entries (current + 1 - buckets.length) ≤ buckets.sum := by
  simpa using covers.kept buckets.length (Nat.le_refl _)

theorem Covers.add (covers : Covers entries current buckets) (amount : Nat)
    (nonempty : buckets ≠ []) :
    Covers (entries ++ [(current, amount)]) current (buckets.modifyHead (· + amount)) := by
  obtain ⟨first, rest, rfl⟩ := exists_cons_of_ne_nil nonempty
  constructor
  · intro entry mem
    rcases mem_append.mp mem with old | new
    · exact covers.past entry old
    · obtain rfl := mem_singleton.mp new
      exact Nat.le_refl _
  · intro j within
    cases j with
    | zero =>
      have none := covers.kept 0 (Nat.zero_le _)
      simpa [since] using none
    | succ j =>
      have kept := covers.kept (j + 1) (by simpa using within)
      simp only [since, filter_append, map_append, sum_append, modifyHead_cons,
        take_succ_cons, sum_cons] at kept ⊢
      have new : ([(current, amount)].filter (current + 1 - (j + 1) ≤ ·.1))
          = [(current, amount)] := by
        simp
      rw [new]
      simp only [map_cons, map_nil, sum_cons, sum_nil]
      omega

end Window
