import Mathlib.Data.Nat.Bitwise
import Mathlib.Tactic.Ring

/-! # Secrets derived along a binary tree

A secret of the node at position `p` yields those of the `2 ^ p` indices below it: for each set bit
of the index below `p`, from the top, step to a child. If secrets are handed over in descending
order, it is enough to keep for every position its latest node. -/

namespace SecretTree

variable {j k p i b w q idx : Nat}

def clear (p i : Nat) : Nat :=
  (i >>> p) <<< p

theorem clear_eq (p i : Nat) : clear p i = i / 2 ^ p * 2 ^ p := by
  rw [clear, Nat.shiftRight_eq_div_pow, Nat.shiftLeft_eq]

theorem clear_le (p i : Nat) : clear p i ≤ i := by
  rw [clear_eq]
  exact Nat.div_mul_le_self i (2 ^ p)

theorem lt_clear_add (p i : Nat) : i < clear p i + 2 ^ p := by
  have := Nat.div_add_mod' i (2 ^ p)
  have := Nat.mod_lt i (Nat.two_pow_pos p)
  rw [clear_eq]
  omega

theorem dvd_clear (p i : Nat) : 2 ^ p ∣ clear p i := by
  rw [clear_eq]
  exact Nat.dvd_mul_left _ _

theorem eq_of_dvd_of_near {d} (dvdJ : d ∣ j) (dvdK : d ∣ k) (jk : j < k + d) (kj : k < j + d) :
    j = k := by
  obtain ⟨a, rfl⟩ := dvdJ
  obtain ⟨b, rfl⟩ := dvdK
  have ab : a < b + 1 := Nat.lt_of_mul_lt_mul_left (a := d) (by rwa [Nat.mul_add, Nat.mul_one])
  have ba : b < a + 1 := Nat.lt_of_mul_lt_mul_left (a := d) (by rwa [Nat.mul_add, Nat.mul_one])
  rw [show a = b by omega]

theorem clear_eq_of_near (dvd : 2 ^ p ∣ j) (le : j ≤ i) (lt : i < j + 2 ^ p) : clear p i = j :=
  eq_of_dvd_of_near (dvd_clear p i) dvd (by have := clear_le p i; omega)
    (by have := lt_clear_add p i; omega)

theorem le_clear (dvd : 2 ^ p ∣ j) (le : j ≤ i) : j ≤ clear p i := by
  by_contra below
  have := lt_clear_add p i
  have := eq_of_dvd_of_near (dvd_clear p i) dvd (by omega) (by omega)
  omega

theorem testBit_clear (above : p ≤ b) (i : Nat) : (clear p i).testBit b = i.testBit b := by
  rw [clear, Nat.testBit_shiftLeft, Nat.testBit_shiftRight]
  simp [above]

/-- The lowest of the `w` bits that is set in the index, if any, is that at position `p`. -/
def Placed (w p j : Nat) : Prop :=
  p ≤ w ∧ 2 ^ p ∣ j ∧ (p < w → ¬ 2 ^ (p + 1) ∣ j)

theorem Placed.unique (atP : Placed w p j) (atQ : Placed w q j) : p = q := by
  obtain ⟨pw, dvdP, notP⟩ := atP
  obtain ⟨qw, dvdQ, notQ⟩ := atQ
  rcases Nat.lt_trichotomy p q with lt | eq | gt
  · exact absurd ((Nat.pow_dvd_pow 2 lt).trans dvdQ) (notP (by omega))
  · exact eq
  · exact absurd ((Nat.pow_dvd_pow 2 gt).trans dvdP) (notQ (by omega))

theorem Placed.eq_of_near (atJ : Placed w p j) (atK : Placed w p k) (jw : j < 2 ^ w)
    (kw : k < 2 ^ w) (jk : j < k + 2 ^ (p + 1)) (kj : k < j + 2 ^ (p + 1)) : j = k := by
  obtain ⟨pw, dvdJ, notJ⟩ := atJ
  obtain ⟨-, dvdK, notK⟩ := atK
  obtain rfl | below := Nat.eq_or_lt_of_le pw
  · exact eq_of_dvd_of_near dvdJ dvdK (by omega) (by omega)
  · obtain ⟨a, rfl⟩ := dvdJ
    obtain ⟨b, rfl⟩ := dvdK
    have oddA := notJ below
    have oddB := notK below
    rw [Nat.pow_succ, Nat.mul_dvd_mul_iff_left (Nat.two_pow_pos p)] at oddA oddB
    have ab : a < b + 2 :=
      Nat.lt_of_mul_lt_mul_left (a := 2 ^ p) (by rwa [Nat.mul_add, ← Nat.pow_succ])
    have ba : b < a + 2 :=
      Nat.lt_of_mul_lt_mul_left (a := 2 ^ p) (by rwa [Nat.mul_add, ← Nat.pow_succ])
    rw [show a = b by omega]

variable {σ : Type} {child : Nat → σ → σ}

/-- The secret of index `i` from that of the node at position `p` above it. -/
def derive (child : Nat → σ → σ) : Nat → Nat → σ → σ
  | 0, _, secret => secret
  | p + 1, i, secret =>
    if i.testBit p then derive child p i (child p secret) else derive child p i secret

theorem testBit_of_dvd (dvd : 2 ^ p ∣ j) (below : b < p) : j.testBit b = false := by
  obtain ⟨a, rfl⟩ := dvd
  rw [Nat.testBit_two_pow_mul]
  simp
  omega

theorem derive_of_dvd (dvd : 2 ^ p ∣ j) (secret : σ) : derive child p j secret = secret := by
  induction p with
  | zero => rfl
  | succ p ih =>
    rw [derive, testBit_of_dvd dvd (Nat.lt_succ_self p)]
    exact ih ((Nat.pow_dvd_pow 2 p.le_succ).trans dvd)

theorem derive_trans (le : q ≤ p) (i : Nat) (secret : σ) :
    derive child p i secret = derive child q i (derive child p (clear q i) secret) := by
  induction p generalizing secret with
  | zero =>
    obtain rfl := Nat.le_zero.mp le
    rfl
  | succ p ih =>
    obtain rfl | below := Nat.eq_or_lt_of_le le
    · rw [derive_of_dvd (dvd_clear _ i)]
    · have le : q ≤ p := by omega
      simp only [derive, testBit_clear le]
      split
      · exact ih le _
      · exact ih le _

/-- The entries kept after the secrets of all indices from `m` on have been handed over. -/
structure Kept (child : Nat → σ → σ) (w m : Nat) (secret : Nat → σ) (entries : List (σ × Nat)) :
    Prop where
  placed : ∀ p s j, entries[p]? = some (s, j) →
    m ≤ j ∧ j < 2 ^ w ∧ Placed w p j ∧ j < m + 2 ^ (p + 1)
  derives : ∀ p s j, entries[p]? = some (s, j) → ∀ i, clear p i = j → derive child p i s = secret i
  room : ∀ p j, m ≤ j → j < 2 ^ w → Placed w p j → p < entries.length

namespace Kept

variable {w m : Nat} {secret : Nat → σ} {entries : List (σ × Nat)}

variable {new : σ}

theorem nil (child : Nat → σ → σ) (w : Nat) (secret : Nat → σ) :
    Kept child w (2 ^ w) secret [] where
  placed := by simp
  derives := by simp
  room := by
    intro p j le lt
    omega

theorem length_le (kept : Kept child w m secret entries) : entries.length ≤ w + 1 := by
  by_contra more
  have some : entries[w + 1]? = some entries[w + 1] := List.getElem?_eq_getElem (by omega)
  have := (kept.placed _ _ _ some).2.2.1.1
  omega

theorem lookup (kept : Kept child w m secret entries) (le : m ≤ j) (lt : j < 2 ^ w)
    (placed : Placed w p j) (near : j < m + 2 ^ (p + 1)) : ∃ s, entries[p]? = some (s, j) := by
  have bound := kept.room p j le lt placed
  have some : entries[p]? = some (entries[p].1, entries[p].2) := List.getElem?_eq_getElem bound
  obtain ⟨le', lt', placed', near'⟩ := kept.placed _ _ _ some
  have : entries[p].2 = j := placed'.eq_of_near placed lt' lt (by omega) (by omega)
  exact ⟨entries[p].1, this ▸ some⟩

/-- Every index handed over is below a node that is kept: the highest one that was handed over. -/
theorem covered (kept : Kept child w m secret entries) (le : m ≤ i) (lt : i < 2 ^ w) :
    ∃ p s, entries[p]? = some (s, clear p i) := by
  let p := Nat.findGreatest (fun p => m ≤ clear p i) w
  have handed : m ≤ clear p i :=
    Nat.findGreatest_spec (P := fun p => m ≤ clear p i) (Nat.zero_le w) le
  have highest : p < w → clear (p + 1) i < m := fun below =>
    not_le.mp
      (Nat.findGreatest_is_greatest (P := fun p => m ≤ clear p i) (Nat.lt_succ_self p) below)
  have pw : p ≤ w := Nat.findGreatest_le w
  have small := clear_le p i
  refine ⟨p, kept.lookup handed (by omega) ⟨pw, dvd_clear p i, fun below dvd => ?_⟩ ?_⟩
  · have same : clear (p + 1) i = clear p i := by
      refine clear_eq_of_near dvd small ?_
      have := lt_clear_add p i
      rw [Nat.pow_succ]
      omega
    have := highest below
    omega
  · obtain top | below := Nat.eq_or_lt_of_le pw
    · have : 2 ^ (p + 1) = 2 ^ w * 2 := by rw [top, Nat.pow_succ]
      omega
    · have := highest below
      have := lt_clear_add (p + 1) i
      omega

/-- The entry written for the next index down: over the one of its position, or after the last. -/
def write (entries : List (σ × Nat)) (p : Nat) (entry : σ × Nat) : List (σ × Nat) :=
  if p < entries.length then entries.set p entry else entries ++ [entry]

theorem getElem?_write (bound : p ≤ entries.length) (entry : σ × Nat) (q : Nat) :
    (write entries p entry)[q]? = if q = p then some entry else entries[q]? := by
  unfold write
  split
  · rename_i inside
    rw [List.getElem?_set]
    grind
  · have : p = entries.length := by omega
    subst this
    rw [List.getElem?_append]
    grind

theorem length_write (bound : p ≤ entries.length) (entry : σ × Nat) :
    p < (write entries p entry).length ∧ entries.length ≤ (write entries p entry).length := by
  unfold write
  split
  · simpa
  · simp
    omega

/-- A secret from which the entries of all lower positions derive yields every secret of its
    node. -/
theorem derives_next (kept : Kept child w (idx + 1) secret entries) (small : idx < 2 ^ w)
    (placed : Placed w p idx)
    (agrees : ∀ q s j, q < p → entries[q]? = some (s, j) → derive child p j new = s)
    (after : idx < i) (below : clear p i = idx) : derive child p i new = secret i := by
  obtain ⟨pw, dvd, -⟩ := placed
  have lt : i < idx + 2 ^ p := below ▸ lt_clear_add p i
  -- the highest bit in which the two indices differ
  let q := Nat.log2 (i - idx)
  have least : 2 ^ q ≤ i - idx := Nat.log2_self_le (by omega)
  have most : i - idx < 2 ^ (q + 1) := Nat.lt_log2_self
  have qp : q < p := (Nat.pow_lt_pow_iff_right (a := 2) (by omega)).mp (by omega)
  have dvdNext : 2 ^ (q + 1) ∣ idx := (Nat.pow_dvd_pow 2 qp).trans dvd
  have dvdNode : 2 ^ q ∣ idx + 2 ^ q :=
    Nat.dvd_add ((Nat.pow_dvd_pow 2 q.le_succ).trans dvdNext) (Nat.dvd_refl _)
  have double : 2 ^ (q + 1) = 2 ^ q * 2 := Nat.pow_succ 2 q
  have node : clear q i = idx + 2 ^ q := clear_eq_of_near dvdNode (by omega) (by omega)
  have inside : i < 2 ^ w := by
    by_contra outside
    have := eq_of_dvd_of_near dvd (Nat.pow_dvd_pow 2 pw) (by omega) (by omega)
    omega
  have placedNode : Placed w q (idx + 2 ^ q) := by
    refine ⟨by omega, dvdNode, fun _ dvd => ?_⟩
    have := Nat.le_of_dvd (Nat.two_pow_pos q) ((Nat.dvd_add_right dvdNext).mp dvd)
    have := Nat.two_pow_pos q
    omega
  obtain ⟨s, some⟩ := kept.lookup (by have := Nat.two_pow_pos q; omega) (by omega) placedNode
    (by omega)
  calc derive child p i new
      = derive child q i (derive child p (clear q i) new) := derive_trans qp.le i new
    _ = derive child q i s := by rw [node, agrees q s _ qp some]
    _ = secret i := kept.derives _ _ _ some i node

/-- The secret of the next index down is written over the entry of its position. -/
theorem next (kept : Kept child w (idx + 1) secret entries) (small : idx < 2 ^ w)
    (placed : Placed w p idx) (bound : p ≤ entries.length)
    (agrees : ∀ q s j, q < p → entries[q]? = some (s, j) → derive child p j new = s) :
    Kept child w idx (Function.update secret idx new) (write entries p (new, idx)) where
  placed := by
    intro q s j here
    rw [getElem?_write bound] at here
    split at here
    · rename_i same
      cases here
      subst same
      have := Nat.two_pow_pos (q + 1)
      exact ⟨le_rfl, small, placed, by omega⟩
    · rename_i other
      obtain ⟨le, lt, placed', near⟩ := kept.placed _ _ _ here
      refine ⟨by omega, lt, placed', ?_⟩
      by_contra far
      -- the entry would be at the distance of its position, so the index would have that position
      have edge : j = idx + 2 ^ (q + 1) := by omega
      have top : q < w := by
        by_contra top
        have : 2 ^ (q + 1) = 2 ^ w * 2 := by
          rw [show q = w from le_antisymm placed'.1 (by omega), Nat.pow_succ]
        omega
      have placedIdx : Placed w q idx := by
        subst edge
        refine ⟨placed'.1, ?_, fun below dvd =>
          placed'.2.2 below (Nat.dvd_add dvd (Nat.dvd_refl _))⟩
        exact (Nat.dvd_add_left (Nat.pow_dvd_pow 2 q.le_succ)).mp placed'.2.1
      exact other (placedIdx.unique placed)
  derives := by
    intro q s j here i below
    rw [getElem?_write bound] at here
    split at here
    · rename_i same
      cases here
      subst same
      obtain rfl | after := Nat.eq_or_lt_of_le (below ▸ clear_le q i : idx ≤ i)
      · rw [Function.update_self, derive_of_dvd placed.2.1]
      · rw [Function.update_of_ne (by omega)]
        exact kept.derives_next small placed agrees after below
    · have := (kept.placed _ _ _ here).1
      have := clear_le q i
      rw [Function.update_of_ne (by omega)]
      exact kept.derives _ _ _ here i below
  room := by
    intro q j le lt placed'
    obtain ⟨written, longer⟩ := length_write bound (new, idx)
    obtain rfl | after := Nat.eq_or_lt_of_le le
    · rwa [placed'.unique placed]
    · have := kept.room q j (by omega) lt placed'
      omega

end Kept

end SecretTree
