import Mathlib.Data.List.Basic
import Mathlib.Tactic.Common

/-! # Lists of marked keys

A list of keys, each with a mark that can be set and taken back. A key is looked up by its first
entry, and an operation on a key that is not there changes nothing. -/

structure Marked (κ : Type) where
  key : κ
  mark : Bool
  deriving DecidableEq

namespace Marked

open List

variable {κ : Type}

def unmarked (keys : List κ) : List (Marked κ) :=
  keys.map (⟨·, false⟩)

def Has (entries : List (Marked κ)) (k : κ) : Prop :=
  k ∈ entries.map key

def allMarked (entries : List (Marked κ)) : Bool :=
  entries.all mark

theorem has_append {entries more} {k : κ} :
    Has (entries ++ more) k ↔ Has entries k ∨ Has more k := by
  simp [Has]

theorem has_unmarked {keys} {k : κ} : Has (unmarked keys) k ↔ k ∈ keys := by simp [Has, unmarked]

variable [DecidableEq κ]

instance (entries : List (Marked κ)) (k : κ) : Decidable (Has entries k) :=
  inferInstanceAs (Decidable (k ∈ entries.map key))

def setMark (k : κ) (mark : Bool) : List (Marked κ) → List (Marked κ)
  | [] => []
  | entry :: rest => if entry.key = k then ⟨k, mark⟩ :: rest else entry :: setMark k mark rest

def remove (k : κ) (entries : List (Marked κ)) : List (Marked κ) :=
  entries.filter (·.key ≠ k)

def markOf (k : κ) (entries : List (Marked κ)) : Option Bool :=
  (entries.find? (·.key = k)).map mark

variable {k k' : κ} {mark mark' : Bool} {entries : List (Marked κ)}

@[simp]
theorem keys_setMark : (setMark k mark entries).map key = entries.map key := by
  induction entries with
  | nil => rfl
  | cons entry rest ih =>
    by_cases same : entry.key = k
    · simp [setMark, same]
    · simp [setMark, same, ih]

@[simp]
theorem has_setMark : Has (setMark k mark entries) k' ↔ Has entries k' := by
  rw [Has, keys_setMark, Has]

theorem has_remove : Has (remove k entries) k' ↔ Has entries k' ∧ k' ≠ k := by
  simp only [Has, remove, mem_map, mem_filter, decide_eq_true_eq]
  constructor
  · rintro ⟨entry, ⟨member, other⟩, rfl⟩
    exact ⟨⟨entry, member, rfl⟩, other⟩
  · rintro ⟨⟨entry, member, rfl⟩, other⟩
    exact ⟨entry, ⟨member, other⟩, rfl⟩

theorem has_of_markOf (found : markOf k entries = some mark) : Has entries k := by
  obtain ⟨entry, here, -⟩ := Option.map_eq_some_iff.mp found
  have same : entry.key = k := by simpa using find?_some here
  exact same ▸ mem_map_of_mem (mem_of_find?_eq_some here)

theorem markOf_setMark_self (has : Has entries k) :
    markOf k (setMark k mark entries) = some mark := by
  induction entries with
  | nil => cases has
  | cons entry rest ih =>
    by_cases same : entry.key = k
    · simp [setMark, same, markOf]
    · have later : Has rest k := by
        obtain here | later := mem_cons.mp has
        · exact absurd here.symm same
        · exact later
      simpa [setMark, same, markOf] using ih later

theorem markOf_setMark_ne (apart : k ≠ k') :
    markOf k' (setMark k mark entries) = markOf k' entries := by
  induction entries with
  | nil => rfl
  | cons entry rest ih =>
    by_cases same : entry.key = k
    · simp [setMark, same, markOf, apart]
    · by_cases here : entry.key = k'
      · simp [setMark, markOf, here, apart.symm]
      · simpa [setMark, same, markOf, here] using ih

theorem markOf_append {more} :
    markOf k (entries ++ more) = (markOf k entries).or (markOf k more) := by
  simp only [markOf, find?_append]
  cases entries.find? (·.key = k) <;> rfl

theorem markOf_remove_self : markOf k (remove k entries) = none := by simp [markOf, remove]

theorem markOf_remove_ne (apart : k ≠ k') : markOf k' (remove k entries) = markOf k' entries := by
  induction entries with
  | nil => rfl
  | cons entry rest ih =>
    by_cases same : entry.key = k
    · simpa [remove, same, markOf, apart] using ih
    · by_cases here : entry.key = k'
      · simp [remove, markOf, here, apart.symm]
      · simpa [remove, same, markOf, here] using ih

theorem markOf_of_allMarked (all : allMarked entries) (has : Has entries k) :
    markOf k entries = some true := by
  obtain ⟨entry, member, same⟩ := mem_map.mp has
  obtain ⟨first, found⟩ := Option.isSome_iff_exists.mp
    (find?_isSome (p := fun entry : Marked κ => entry.key = k).mpr ⟨entry, member, by simpa⟩)
  have marked := all_eq_true.mp all first (mem_of_find?_eq_some found)
  simp [markOf, found, marked]

theorem setMark_comm (apart : k ≠ k') :
    setMark k mark (setMark k' mark' entries) = setMark k' mark' (setMark k mark entries) := by
  induction entries with
  | nil => rfl
  | cons entry rest ih =>
    by_cases first : entry.key = k
    · simp [setMark, first, apart]
    · by_cases second : entry.key = k'
      · simp [setMark, second, apart.symm]
      · simp [setMark, first, second, ih]

theorem setMark_undo (absent : markOf k entries = some false) :
    setMark k false (setMark k true entries) = entries := by
  induction entries with
  | nil => cases absent
  | cons entry rest ih =>
    by_cases same : entry.key = k
    · have mark : entry.mark = false := by simpa [markOf, same] using absent
      obtain ⟨key, mark⟩ := entry
      subst same mark
      simp [setMark]
    · have later : markOf k rest = some false := by simpa [markOf, same] using absent
      simp [setMark, same, ih later]

theorem setMark_append (apart : k ≠ k') :
    setMark k mark (entries ++ [⟨k', mark'⟩]) = setMark k mark entries ++ [⟨k', mark'⟩] := by
  induction entries with
  | nil => simp [setMark, apart.symm]
  | cons entry rest ih =>
    by_cases same : entry.key = k
    · simp [setMark, same]
    · simp [setMark, same, ih]

theorem remove_append (apart : k ≠ k') :
    remove k (entries ++ [⟨k', mark'⟩]) = remove k entries ++ [⟨k', mark'⟩] := by
  simp [remove, filter_append, apart.symm]

theorem remove_undo (absent : ¬ Has entries k) : remove k (entries ++ [⟨k, mark⟩]) = entries := by
  have others : entries.filter (·.key ≠ k) = entries := by
    rw [filter_eq_self]
    intro entry member
    have other : entry.key ≠ k := fun same => absent (same ▸ mem_map_of_mem member)
    simpa using other
  simpa [remove, filter_append] using others

theorem remove_setMark (apart : k ≠ k') :
    remove k (setMark k' mark entries) = setMark k' mark (remove k entries) := by
  induction entries with
  | nil => rfl
  | cons entry rest ih =>
    by_cases here : entry.key = k'
    · have other : entry.key ≠ k := here ▸ apart.symm
      simp [setMark, here, remove, apart.symm]
    · by_cases dropped : entry.key = k
      · have rest' : remove k (entry :: rest) = remove k rest := by simp [remove, dropped]
        have skipped : remove k (entry :: setMark k' mark rest)
            = remove k (setMark k' mark rest) := by simp [remove, dropped]
        rw [setMark, if_neg here, skipped, rest', ih]
      · have rest' : remove k (entry :: rest) = entry :: remove k rest := by simp [remove, dropped]
        have kept : remove k (entry :: setMark k' mark rest)
            = entry :: remove k (setMark k' mark rest) := by simp [remove, dropped]
        rw [setMark, if_neg here, kept, rest', ih, setMark, if_neg here]

theorem allMarked_of_unmarked (absent : markOf k entries = some false) :
    allMarked entries = false := by
  obtain ⟨entry, here, mark⟩ := Option.map_eq_some_iff.mp absent
  rw [allMarked, all_eq_false]
  exact ⟨entry, mem_of_find?_eq_some here, by simp [mark]⟩

end Marked
