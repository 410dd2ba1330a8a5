import Mathlib.Data.List.Nodup
import Mathlib.Data.List.Perm.Basic

/-! # Grouping a list

A list is split by a key of its items, one group after the other. If no key is used twice and
every item has one of the keys, the groups together are the list again, in another order. -/

namespace Group

variable {α κ : Type} [DecidableEq κ] (key : α → κ)

def having (items : List α) (k : κ) : List α := items.filter (key · = k)

variable {key} {items : List α}

theorem perm_filter {keys : List κ} (once : keys.Nodup) :
    (keys.flatMap (having key items)).Perm (items.filter (key · ∈ keys)) := by
  induction keys with
  | nil => simp
  | cons k rest ih =>
    obtain ⟨fresh, once⟩ := List.nodup_cons.mp once
    have here : having key items k = (items.filter (key · ∈ k :: rest)).filter (key · = k) := by
      rw [having, List.filter_filter]
      congr 1
      funext item
      by_cases same : key item = k <;> simp [same]
    have there : items.filter (key · ∈ rest)
        = (items.filter (key · ∈ k :: rest)).filter (fun item => !(key item = k)) := by
      rw [List.filter_filter]
      congr 1
      funext item
      by_cases same : key item = k <;> simp [same, fresh]
    rw [List.flatMap_cons, here]
    refine ((ih once).append_left _).trans ?_
    rw [there]
    exact List.filter_append_perm _ _

theorem perm {keys : List κ} (once : keys.Nodup) (all : ∀ item ∈ items, key item ∈ keys) :
    (keys.flatMap (having key items)).Perm items := by
  have whole : items.filter (key · ∈ keys) = items := by
    rw [List.filter_eq_self]
    simpa using all
  have groups := @perm_filter α κ _ key items keys once
  rwa [whole] at groups

end Group
