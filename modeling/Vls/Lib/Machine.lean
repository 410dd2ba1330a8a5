import Mathlib.Logic.Relation
import Mathlib.Tactic.Common

/-! # Machines and their runs

A machine takes one input at a time and either answers it and moves on, or stops for good. A run
keeps its history, so that a property of a run can speak of what happened in it and not only of
the state it ends in. Histories list the latest step first. -/

structure Machine (σ ι ο : Type) where
  step : σ → ι → Option (ο × σ)

namespace Machine

variable {σ ι ο : Type}

variable {m : Machine σ ι ο} {s s' start : σ} {inputs : List ι}

/-- One step of a run: the state it was taken in, the input, and the answer to it. -/
structure Step (σ ι ο : Type) where
  before : σ
  input : ι
  output : ο

inductive Run (m : Machine σ ι ο) (start : σ) : List (Step σ ι ο) → σ → Prop where
  | init : Run m start [] start
  | step {history s input output s'} :
      Run m start history s → m.step s input = some (output, s') →
      Run m start (⟨s, input, output⟩ :: history) s'

/-- Every step of a history met a condition on what happened before it, the state it was taken in
    and its input. -/
def Meets (condition : List (Step σ ι ο) → σ → ι → Prop) : List (Step σ ι ο) → Prop
  | [] => True
  | step :: history => condition history step.before step.input ∧ Meets condition history

instance instDecidableMeets {condition : List (Step σ ι ο) → σ → ι → Prop}
    [decided : ∀ history s input, Decidable (condition history s input)] :
    (history : List (Step σ ι ο)) → Decidable (Meets condition history)
  | [] => .isTrue trivial
  | step :: history =>
    match decided history step.before step.input, instDecidableMeets history with
    | .isTrue here, .isTrue earlier => .isTrue ⟨here, earlier⟩
    | .isFalse here, _ => .isFalse fun meets => here meets.1
    | _, .isFalse earlier => .isFalse fun meets => earlier meets.2

section rules

variable {m : Machine σ ι ο} {start : σ} {history : List (Step σ ι ο)} {s : σ}

variable {condition : List (Step σ ι ο) → σ → ι → Prop}

/-- What holds initially and is kept by every step that meets the condition holds after every run
    whose steps all meet it. -/
theorem Run.inv (Inv : List (Step σ ι ο) → σ → Prop) (run : Run m start history s)
    (meets : Meets condition history) (initially : Inv [] start)
    (kept : ∀ history s input output s', Inv history s → condition history s input →
      m.step s input = some (output, s') → Inv (⟨s, input, output⟩ :: history) s') :
    Inv history s := by
  induction run with
  | init => exact initially
  | step _ stepped ih =>
    obtain ⟨here, earlier⟩ := meets
    exact kept _ _ _ _ _ (ih earlier) here stepped

theorem Run.always (Inv : List (Step σ ι ο) → σ → Prop) (run : Run m start history s)
    (initially : Inv [] start)
    (kept : ∀ history s input output s', Inv history s → m.step s input = some (output, s') →
      Inv (⟨s, input, output⟩ :: history) s') :
    Inv history s := by
  induction run with
  | init => exact initially
  | step _ stepped ih => exact kept _ _ _ _ _ ih stepped

/-- A run follows an abstract system if every step that meets the condition, taken where the
    invariant holds, is matched by steps of that system. -/
theorem Run.simulates {A : Type} {Next : A → A → Prop} (abstraction : List (Step σ ι ο) → σ → A)
    (Inv : List (Step σ ι ο) → σ → Prop) (run : Run m start history s)
    (meets : Meets condition history) (initially : Inv [] start)
    (kept : ∀ history s input output s', Inv history s → condition history s input →
      m.step s input = some (output, s') → Inv (⟨s, input, output⟩ :: history) s')
    (matched : ∀ history s input output s', Inv history s → condition history s input →
      m.step s input = some (output, s') →
      Relation.ReflTransGen Next (abstraction history s)
      (abstraction (⟨s, input, output⟩ :: history) s')) :
    Relation.ReflTransGen Next (abstraction [] start) (abstraction history s) := by
  induction run with
  | init => exact .refl
  | step earlier stepped ih =>
    obtain ⟨here, before⟩ := meets
    have inv := earlier.inv Inv before initially kept
    exact (ih before).trans (matched _ _ _ _ _ inv here stepped)

end rules

def exec (m : Machine σ ι ο) (history : List (Step σ ι ο)) (s : σ) :
    List ι → Option (List (Step σ ι ο) × σ)
  | [] => some (history, s)
  | input :: rest =>
    match m.step s input with
    | some (output, s') => exec m (⟨s, input, output⟩ :: history) s' rest
    | none => none

theorem exec_cons {history input output} (stepped : m.step s input = some (output, s'))
    (rest : List ι) :
    m.exec history s (input :: rest) = m.exec (⟨s, input, output⟩ :: history) s' rest := by
  simp only [exec, stepped]

theorem run_of_exec {history history'} (run : Run m start history s)
    (executed : m.exec history s inputs = some (history', s')) : Run m start history' s' := by
  induction inputs generalizing history s with
  | nil =>
    simp only [exec, Option.some.injEq, Prod.mk.injEq] at executed
    obtain ⟨rfl, rfl⟩ := executed
    exact run
  | cons input rest ih =>
    simp only [exec] at executed
    split at executed
    · rename_i output s₁ stepped
      exact ih (.step run stepped) executed
    · cases executed

/-- Inputs that can be fed to a machine give a run, of which a check of their outcome holds. -/
theorem exists_run (inputs : List ι) {check : List (Step σ ι ο) → σ → Prop}
    [∀ history s, Decidable (check history s)]
    (passed : (m.exec [] start inputs).any (fun outcome => decide (check outcome.1 outcome.2))) :
    ∃ history s, Run m start history s ∧ check history s := by
  obtain ⟨⟨history, s⟩, executed, checked⟩ := (Option.any_eq_true _ _).mp passed
  exact ⟨history, s, run_of_exec .init executed, of_decide_eq_true checked⟩

/-- Every input of a list meets a condition on the state in which it is taken, for as long as the
    machine goes on. -/
def Along (m : Machine σ ι ο) (condition : σ → ι → Prop) : σ → List ι → Prop
  | _, [] => True
  | s, input :: rest => condition s input ∧ match m.step s input with
    | some (_, s') => Along m condition s' rest
    | none => True

instance instDecidableAlong {m : Machine σ ι ο} {condition : σ → ι → Prop}
    [decided : ∀ s input, Decidable (condition s input)] :
    (s : σ) → (inputs : List ι) → Decidable (m.Along condition s inputs)
  | _, [] => .isTrue trivial
  | s, input :: rest => by
    unfold Along
    cases m.step s input with
    | none => exact @instDecidableAnd _ _ (decided s input) instDecidableTrue
    | some next => exact @instDecidableAnd _ _ (decided s input) (instDecidableAlong next.2 rest)

theorem Along.mono {condition condition' : σ → ι → Prop} (along : m.Along condition s inputs)
    (weaker : ∀ s input, condition s input → condition' s input) : m.Along condition' s inputs := by
  induction inputs generalizing s with
  | nil => trivial
  | cons input rest ih =>
    obtain ⟨here, later⟩ := along
    refine ⟨weaker s input here, ?_⟩
    split
    · rename_i stepped
      rw [stepped] at later
      exact ih later
    · trivial

end Machine
