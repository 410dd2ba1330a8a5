import Mathlib.Data.List.Basic
import Mathlib.Tactic.Common

/-! # Taking changes back in the order in which they were made

Changes are taken back in reverse as a rule, since a later one may build on an earlier one. Taken
back in the order in which they were made, they cancel if each of them can be taken back at the
start and no change hinders taking back one made before it. -/

namespace Undo

variable {σ χ : Type} (apply undo : χ → σ → σ)

def all (f : χ → σ → σ) (changes : List χ) (s : σ) : σ :=
  changes.foldl (fun s c => f c s) s

@[simp]
theorem all_nil (f : χ → σ → σ) (s : σ) : all f [] s = s := rfl

@[simp]
theorem all_cons (f : χ → σ → σ) (c : χ) (changes : List χ) (s : σ) :
    all f (c :: changes) s = all f changes (f c s) := rfl

@[simp]
theorem all_append (f : χ → σ → σ) (changes more : List χ) (s : σ) :
    all f (changes ++ more) s = all f more (all f changes s) := by
  simp [all, List.foldl_append]

theorem all_inv {f} {changes : List χ} {s : σ} (Inv : σ → Prop) (initially : Inv s)
    (kept : ∀ c ∈ changes, ∀ s, Inv s → Inv (f c s)) : Inv (all f changes s) := by
  induction changes generalizing s with
  | nil => exact initially
  | cons c rest ih =>
    have here := kept c List.mem_cons_self s initially
    exact ih here fun c' member => kept c' (List.mem_cons_of_mem c member)

/-- Taking back `c` is not hindered by `d`. -/
def Independent (c d : χ) : Prop :=
  ∀ s, undo c (apply d s) = apply d (undo c s)

variable {apply undo}

theorem undo_all {c changes s} (independent : ∀ d ∈ changes, Independent apply undo c d) :
    undo c (all apply changes s) = all apply changes (undo c s) := by
  induction changes generalizing s with
  | nil => rfl
  | cons d rest ih =>
    rw [all_cons, all_cons, ih fun d' member => independent d' (List.mem_cons_of_mem d member),
      independent d List.mem_cons_self]

/-- With some of the changes taken back, the others stay as if they had been made alone. -/
theorem all_undo_append {done rest s} (cancels : ∀ c ∈ done, undo c (apply c s) = s)
    (independent : (done ++ rest).Pairwise (Independent apply undo)) :
    all undo done (all apply (done ++ rest) s) = all apply rest s := by
  induction done with
  | nil => rfl
  | cons c done ih =>
    rw [List.cons_append] at independent ⊢
    obtain ⟨here, later⟩ := List.pairwise_cons.mp independent
    rw [all_cons, all_cons, undo_all here, cancels c List.mem_cons_self]
    exact ih (fun c' member => cancels c' (List.mem_cons_of_mem c member)) later

end Undo
