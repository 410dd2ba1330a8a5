import Vls.Lib.Machine

/-! # Runs and what a specification allows

A specification says which answers to an input it allows and which state it is in after each. A
machine refines it if every run of it, seen through a view of its states, is a trace of the
specification. -/

namespace Machine

variable {σ ι ο A : Type}

variable {history : List (Step σ ι ο)} {Answers : A → ι → ο → A → Prop}

/-- The inputs and answers a specification allows, the latest first, and where they lead. -/
inductive Trace (Answers : A → ι → ο → A → Prop) (start : A) : List (ι × ο) → A → Prop where
  | init : Trace Answers start [] start
  | step {trace a input output a'} :
      Trace Answers start trace a → Answers a input output a' →
      Trace Answers start ((input, output) :: trace) a'

def exchanges (history : List (Step σ ι ο)) : List (ι × ο) :=
  history.map fun step => (step.input, step.output)

/-- A machine whose steps are answers of the specification refines it. -/
theorem Run.refines {m start s} (view : σ → A) {condition : σ → ι → Prop} (Inv : σ → Prop)
    (run : Run m start history s) (meets : Meets (fun _ => condition) history)
    (initially : Inv start)
    (matched : ∀ s input output s', Inv s → condition s input →
      m.step s input = some (output, s') → Inv s' ∧ Answers (view s) input output (view s')) :
    Inv s ∧ Trace Answers (view start) (exchanges history) (view s) := by
  induction run with
  | init => exact ⟨initially, .init⟩
  | step _ stepped ih =>
    obtain ⟨here, earlier⟩ := meets
    obtain ⟨inv, trace⟩ := ih earlier
    obtain ⟨inv', answered⟩ := matched _ _ _ _ inv here stepped
    exact ⟨inv', .step trace answered⟩

/-- A machine that answers each step of a run alike, from states in a relation, follows it. -/
theorem Run.simulated {τ} {m : Machine σ ι ο} {m' : Machine τ ι ο} {start s start'}
    {condition : σ → ι → Prop} (R : σ → τ → Prop) (run : Run m start history s)
    (meets : Meets (fun _ => condition) history) (initially : R start start')
    (matched : ∀ s t input output s', R s t → condition s input → m.step s input = some (output,
      s') → ∃ t', m'.step t input = some (output, t') ∧ R s' t') :
    ∃ history' t, Run m' start' history' t ∧ exchanges history' = exchanges history ∧ R s t := by
  induction run with
  | init => exact ⟨[], start', .init, rfl, initially⟩
  | step _ stepped ih =>
    obtain ⟨history', t, run', same, related⟩ := ih meets.2
    obtain ⟨t', stepped', related'⟩ := matched _ _ _ _ _ related meets.1 stepped
    exact ⟨_, t', run'.step stepped', by simpa [exchanges] using same, related'⟩

theorem Meets.mono {condition condition' : List (Step σ ι ο) → σ → ι → Prop}
    (meets : Meets condition history)
    (weaker : ∀ history s input, condition history s input → condition' history s input) :
    Meets condition' history := by
  induction history with
  | nil => trivial
  | cons step history ih => exact ⟨weaker _ _ _ meets.1, ih meets.2⟩

/-- Where the specification leaves no choice, the inputs decide the answers. -/
theorem Trace.deterministic {start a a' trace trace'}
    (decided : ∀ {a input output output' a₁ a₂}, Answers a input output a₁ →
      Answers a input output' a₂ → output = output' ∧ a₁ = a₂)
    (one : Trace Answers start trace a) (other : Trace Answers start trace' a')
    (same : trace.map Prod.fst = trace'.map Prod.fst) : trace = trace' ∧ a = a' := by
  induction one generalizing trace' a' with
  | init =>
    cases other with
    | init => exact ⟨rfl, rfl⟩
    | step => cases same
  | step _ answered ih =>
    cases other with
    | init => cases same
    | step earlier answered' =>
      obtain ⟨rfl, same'⟩ := List.cons.inj same
      obtain ⟨rfl, rfl⟩ := ih earlier same'
      obtain ⟨rfl, rfl⟩ := decided answered answered'
      exact ⟨rfl, rfl⟩

end Machine
