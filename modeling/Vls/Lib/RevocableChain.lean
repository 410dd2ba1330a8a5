import Mathlib.Data.Set.BooleanAlgebra
import Mathlib.Logic.Relation
import Mathlib.Order.CompletePartialOrder

/-! # Chains of revocable states

A party goes through numbered states, each of which makes its predecessor obsolete. It gives up an
old state by revealing its secret, and leaves the chain by publishing the latest. No state must ever
be both published and revealed, in whichever order. -/

/-- A chain: the number of the next state, and what the party published and revealed. -/
structure RevocableChain where
  next : ℕ
  published : Set ℕ
  revealed : Set ℕ

namespace RevocableChain

def init : RevocableChain where
  next := 0
  published := ∅
  revealed := ∅

/-- The moves that keep the chain safe: a state that was published is not left behind. -/
inductive Move : RevocableChain → RevocableChain → Prop where
  | advance {chain : RevocableChain} (unpublished : ∀ n ∈ chain.published, n + 1 ≠ chain.next) :
      Move chain { chain with next := chain.next + 1 }
  | reveal {chain : RevocableChain} (n : ℕ) (obsolete : n + 2 ≤ chain.next) :
      Move chain { chain with revealed := insert n chain.revealed }
  | publish {chain : RevocableChain} (n : ℕ) (latest : n = chain.next ∨ n + 1 = chain.next) :
      Move chain { chain with published := insert n chain.published }

/-- What is published is as late as anything, and what is revealed is obsolete. -/
structure Safe (chain : RevocableChain) : Prop where
  published : ∀ n ∈ chain.published, chain.next ≤ n + 1
  revealed : ∀ n ∈ chain.revealed, n + 2 ≤ chain.next

theorem safe_init : Safe init where
  published := by
    intro n member
    cases member
  revealed := by
    intro n member
    cases member

theorem Safe.move {chain chain'} (safe : Safe chain) (move : Move chain chain') : Safe chain' := by
  cases move with
  | advance unpublished =>
    constructor
    · intro n member
      have := safe.published n member
      have := unpublished n member
      show chain.next + 1 ≤ n + 1
      omega
    · intro n member
      have := safe.revealed n member
      show n + 2 ≤ chain.next + 1
      omega
  | reveal n obsolete =>
    refine ⟨safe.published, ?_⟩
    rintro k (rfl | member)
    · exact obsolete
    · exact safe.revealed k member
  | publish n latest =>
    refine ⟨?_, safe.revealed⟩
    rintro k (rfl | member)
    · show chain.next ≤ k + 1
      omega
    · exact safe.published k member

theorem Safe.disjoint {chain} (safe : Safe chain) : Disjoint chain.published chain.revealed := by
  rw [Set.disjoint_left]
  intro n published revealed
  have := safe.published n published
  have := safe.revealed n revealed
  omega

theorem disjoint_of_moves {chain} (moves : Relation.ReflTransGen Move init chain) :
    Disjoint chain.published chain.revealed := by
  have safe : Safe chain := by
    induction moves with
    | refl => exact safe_init
    | tail _ move ih => exact ih.move move
  exact safe.disjoint

end RevocableChain

/-! ## The other party's chain

A party signs the states of the other one, and gets their secrets in turn. It lets the other
party be at most two states ahead of what that party has given up. -/

/-- How many states were signed for the other party, and how many of them it has given up. -/
structure RevocationWindow where
  signed : ℕ
  revoked : ℕ

namespace RevocationWindow

inductive Move : RevocationWindow → RevocationWindow → Prop where
  | sign {window : RevocationWindow} (room : window.signed ≤ window.revoked + 1) :
      Move window { window with signed := window.signed + 1 }
  | revoke {window : RevocationWindow} (ahead : window.revoked + 2 ≤ window.signed) :
      Move window { window with revoked := window.revoked + 1 }

/-- Nothing happened yet, or the latest state and at most its predecessor are in force. -/
def Narrow (window : RevocationWindow) : Prop :=
  window.signed = 0 ∧ window.revoked = 0
    ∨ window.revoked + 1 ≤ window.signed ∧ window.signed ≤ window.revoked + 2

theorem Narrow.move {window window'} (narrow : Narrow window) (move : Move window window') :
    Narrow window' := by
  unfold Narrow at narrow ⊢
  cases move with
  | sign room =>
    simp only
    omega
  | revoke ahead =>
    simp only
    omega

/-- Neither count goes back, and neither skips a state. -/
theorem Move.progress {window window'} (move : Move window window') :
    window.signed ≤ window'.signed ∧ window'.signed ≤ window.signed + 1
      ∧ window.revoked ≤ window'.revoked ∧ window'.revoked ≤ window.revoked + 1 := by
  cases move with
  | sign room =>
    simp only
    omega
  | revoke ahead =>
    simp only
    omega

end RevocationWindow
