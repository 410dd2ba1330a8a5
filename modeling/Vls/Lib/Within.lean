import Vls.Lib.Call
import Vls.Lib.Machine

/-! # Computations that accept less

A computation stays within another if the other returns whatever it returns, and leaves the same
state. It may fail where the other does not, and that is how a check that is added, or one that
is taken more seriously, shows. -/

namespace Result

variable {ε ε' α β : Type}

variable {x y : Result ε α} {f : α → Result ε β}

def Within (x y : Result ε α) : Prop := ∀ a, x = .ok a → y = .ok a

theorem Within.refl (x : Result ε α) : Within x x := fun _ returned => returned

theorem Within.of_eq (same : x = y) : Within x y := same ▸ .refl x

@[simp]
theorem within_err {error} : Within (err error) y := by
  intro a returned
  exact absurd returned err_ne_ok

theorem Within.bind {g} (first : Within x y) (rest : ∀ a, x = .ok a → Within (f a) (g a)) :
    Within (x >>= f) (y >>= g) := by
  intro b returned
  obtain ⟨a, began, ended⟩ := bind_eq_ok.mp returned
  exact bind_eq_ok.mpr ⟨a, first a began, rest a began b ended⟩

theorem Within.skip {y} (rest : ∀ a, x = .ok a → Within (f a) y) : Within (x >>= f) y := by
  intro b returned
  obtain ⟨a, began, ended⟩ := bind_eq_ok.mp returned
  exact rest a began b ended

theorem Within.mapErr {f : ε → ε'} (within : Within x y) : Within (x.mapErr f) (y.mapErr f) := by
  intro a returned
  exact mapErr_eq_ok.mpr (within a (mapErr_eq_ok.mp returned))

theorem Within.ite {c : Prop} [Decidable c] {x' y'} (holds : c → Within x y)
    (fails : ¬ c → Within x' y') : Within (if c then x else x') (if c then y else y') := by
  by_cases h : c
  · simpa [h] using holds h
  · simpa [h] using fails h

end Result

namespace Call

variable {ε σ α β : Type} {s : σ}

variable {call call' : Call ε σ α} {next next' : β → Call ε σ α}

def Within (call call' : Call ε σ α) (s : σ) : Prop :=
  ∀ a s', call s = .ok a s' → call' s = .ok a s'

theorem Within.refl (call : Call ε σ α) (s : σ) : Within call call s :=
  fun _ _ returned => returned

theorem Within.of_eq (same : call = call') : Within call call' s :=
  same ▸ .refl call s

@[simp]
theorem within_throw {fault} : Within (throw fault) call s := by
  intro a s' returned
  exact absurd returned throw_ok

theorem Within.bind {call call'} (first : Within call call' s)
    (rest : ∀ b s₁, call s = .ok b s₁ → Within (next b) (next' b) s₁) :
    Within (call >>= next) (call' >>= next') s := by
  intro a s' returned
  obtain ⟨b, s₁, began, ended⟩ := bind_ok.mp returned
  exact bind_ok.mpr ⟨b, s₁, first b s₁ began, rest b s₁ began a s' ended⟩

theorem Within.after {call} (rest : ∀ b s₁, call s = .ok b s₁ → Within (next b) (next' b) s₁) :
    Within (call >>= next) (call >>= next') s :=
  .bind (.refl call s) rest

theorem Within.lift {x y : Result ε α} (within : x.Within y) :
    Within (liftM x : Call ε σ α) (liftM y) s := by
  intro a s' returned
  obtain ⟨value, here⟩ := lift_ok.mp returned
  exact lift_ok.mpr ⟨within a value, here⟩

theorem Within.ite {c : Prop} [Decidable c] {other other'} (holds : c → Within call other s)
    (fails : ¬ c → Within call' other' s) :
    Within (if c then call else call') (if c then other else other') s := by
  by_cases h : c
  · simpa [h] using holds h
  · simpa [h] using fails h

end Call

namespace Machine

variable {σ ι ο : Type} {m m' : Machine σ ι ο} {start s : σ} {history : List (Step σ ι ο)}

/-- A run is a run of another machine too, if the other takes every step of it. -/
theorem Run.transfer (run : Run m start history s)
    (taken : ∀ step ∈ history, ∀ s', m.step step.before step.input = some (step.output, s') →
      m'.step step.before step.input = some (step.output, s')) : Run m' start history s := by
  induction run with
  | init => exact .init
  | step _ stepped ih =>
    apply Run.step
    · apply ih
      intro step earlier
      exact taken step (List.mem_cons_of_mem _ earlier)
    · exact taken _ List.mem_cons_self _ stepped

end Machine
