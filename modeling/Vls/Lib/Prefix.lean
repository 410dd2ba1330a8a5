import Mathlib.Data.List.Sort
import Mathlib.Data.List.Lex
import Mathlib.Order.Lex

/-! # Reading a table by prefix

The words that start with a given prefix stand together in the order of words, and the prefix is
the least of them. So a scan that starts at the prefix and stops at the first word without it
finds them all. A listing by key is determined by what it lists. -/

namespace Prefix

open List

section words

variable {α : Type} [LinearOrder α]

variable {a b front : List α}

theorem append_lt_append_iff (front : List α) : front ++ a < front ++ b ↔ a < b := by
  induction front with
  | nil => rfl
  | cons letter front ih => simp [ih]

theorem cons_le_iff {x y} : x :: a ≤ y :: b ↔ x < y ∨ x = y ∧ a ≤ b := by
  rw [← not_lt, cons_lt_cons_iff, not_or, not_lt, not_and, not_lt, le_iff_lt_or_eq]
  constructor
  · rintro ⟨less | rfl, rest⟩
    · exact .inl less
    · exact .inr ⟨rfl, rest rfl⟩
  · rintro (less | ⟨rfl, rest⟩)
    · exact ⟨.inl less, fun equal => absurd less (by rw [equal]; exact lt_irrefl _)⟩
    · exact ⟨.inr rfl, fun _ => rest⟩

theorem le_of_isPrefix {word} (starts : front <+: word) : front ≤ word := by
  obtain ⟨back, rfl⟩ := starts
  induction front with
  | nil => exact not_lt.mp (not_lt_nil _)
  | cons letter front ih => exact cons_le_iff.mpr (.inr ⟨rfl, ih⟩)

theorem isPrefix_between (above : front ≤ a) (below : a ≤ b) (starts : front <+: b) :
    front <+: a := by
  induction front generalizing a b with
  | nil => exact nil_prefix
  | cons letter front ih =>
    obtain ⟨back, rfl⟩ := starts
    cases a with
    | nil => exact absurd (nil_lt_cons letter front) (not_lt.mpr above)
    | cons first a =>
      rw [cons_append] at below
      obtain less | ⟨rfl, above'⟩ := cons_le_iff.mp above
      · obtain more | ⟨rfl, -⟩ := cons_le_iff.mp below
        · exact absurd (less.trans more) (lt_irrefl _)
        · exact absurd less (lt_irrefl _)
      · obtain more | ⟨-, below'⟩ := cons_le_iff.mp below
        · exact absurd more (lt_irrefl _)
        · exact (prefix_cons_inj _).mpr (ih above' below' (prefix_append front back))

end words

section listings

variable {K V : Type}

variable {le : K → K → Prop} {entries : List (K × V)}

def sortByKey (le : K → K → Prop) [DecidableRel le] (entries : List (K × V)) : List (K × V) :=
  entries.insertionSort fun a b => le a.1 b.1

theorem mem_sortByKey [DecidableRel le] {entry} :
    entry ∈ sortByKey le entries ↔ entry ∈ entries :=
  (perm_insertionSort _ entries).mem_iff

theorem sortByKey_congr {le' : K → K → Prop} [DecidableRel le] [DecidableRel le']
    (same : ∀ a b, le a b ↔ le' a b) (entries : List (K × V)) :
    sortByKey le entries = sortByKey le' entries := by
  unfold sortByKey
  congr
  funext a b
  exact propext (same a.1 b.1)

variable [LinearOrder K]

theorem pairwise_sortByKey (apart : (entries.map Prod.fst).Nodup) :
    (sortByKey (· ≤ ·) entries).Pairwise fun a b => a.1 < b.1 := by
  have sorted : (sortByKey (· ≤ ·) entries).Pairwise fun a b => a.1 ≤ b.1 :=
    haveI : Std.Total fun a b : K × V => a.1 ≤ b.1 := ⟨fun a b => le_total a.1 b.1⟩
    haveI : IsTrans (K × V) fun a b => a.1 ≤ b.1 := ⟨fun _ _ _ => le_trans⟩
    pairwise_insertionSort _ entries
  have distinct : (sortByKey (· ≤ ·) entries).Pairwise fun a b => a.1 ≠ b.1 := by
    rw [← pairwise_map]
    exact ((perm_insertionSort _ entries).map Prod.fst).nodup_iff.mpr apart
  exact (sorted.and distinct).imp fun both => lt_of_le_of_ne both.1 both.2

theorem listing_unique {listing listing' : List (K × V)}
    (sorted : listing.Pairwise fun a b => a.1 < b.1)
    (sorted' : listing'.Pairwise fun a b => a.1 < b.1)
    (same : ∀ entry, entry ∈ listing ↔ entry ∈ listing') : listing = listing' := by
  have distinct (l : List (K × V)) (strict : l.Pairwise fun a b => a.1 < b.1) : l.Nodup :=
    strict.imp fun less equal => (equal ▸ less).ne rfl
  have perm := (perm_ext_iff_of_nodup (distinct _ sorted) (distinct _ sorted')).mpr same
  exact perm.eq_of_pairwise (fun a b _ _ less more => absurd (less.trans more) (lt_irrefl _))
    sorted sorted'

end listings

/-- In a sorted listing of keys from the prefix on, the scan stops where the prefix ends. -/
theorem takeWhile_eq_filter {α V : Type} [LinearOrder α] {front} {listing : List (List α × V)}
    (sorted : listing.Pairwise fun a b => a.1 < b.1) (above : ∀ entry ∈ listing, front ≤ entry.1) :
    listing.takeWhile (fun entry => front.isPrefixOf entry.1)
      = listing.filter fun entry => front.isPrefixOf entry.1 := by
  induction listing with
  | nil => rfl
  | cons first rest ih =>
    obtain ⟨least, sorted⟩ := pairwise_cons.mp sorted
    by_cases starts : front.isPrefixOf first.1
    · simp [starts, ih sorted fun entry mem => above entry (.tail _ mem)]
    · simp only [takeWhile_cons, filter_cons, starts, Bool.false_eq_true, if_false]
      rw [eq_comm, filter_eq_nil_iff]
      intro entry mem later
      have between := isPrefix_between (above first (.head _)) (least entry mem).le
        (List.isPrefixOf_iff_prefix.mp later)
      exact starts (List.isPrefixOf_iff_prefix.mpr between)

end Prefix
