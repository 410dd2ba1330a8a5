import Mathlib.Data.Set.Basic
import Vls.Lib.Call

/-! # Panics that are not reached

Which of some panics a computation can reach is decided by its parts: it reaches none of them if no
part does that is entered. The other way round, it fails only by a panic if its parts do. -/

namespace Result

variable {ε ε' α β : Type} {panics : Set String}

variable {a : α} {error : ε} {message : String} {x y : Result ε α} {f : α → Result ε β} {c : Prop}
  {items : List α}

def Avoids (panics : Set String) (x : Result ε α) : Prop :=
  ∀ message ∈ panics, x ≠ .error (.panic message)

abbrev NeverPanics (x : Result ε α) : Prop := x.Avoids .univ

@[simp]
theorem avoids_ok : Avoids panics (.ok a : Result ε α) := by
  intro message _ reached
  cases reached

@[simp]
theorem avoids_pure : Avoids panics (pure a : Result ε α) := avoids_ok

@[simp]
theorem avoids_err : Avoids panics (err error : Result ε α) := by
  intro message _ reached
  cases reached

@[simp]
theorem avoids_panic : Avoids panics (panic message : Result ε α) ↔ message ∉ panics := by
  constructor
  · intro avoids member
    exact avoids message member rfl
  · intro absent other member reached
    cases reached
    exact absent member

@[simp]
theorem avoids_bind :
    Avoids panics (x >>= f) ↔ Avoids panics x ∧ ∀ a, x = .ok a → Avoids panics (f a) := by
  cases x with
  | ok a => simp [bind, Except.bind]
  | error fault => simp [Avoids, bind, Except.bind]

@[simp]
theorem avoids_expect {x} :
    Avoids panics (expect message x : Result ε α) ↔ (message ∈ panics → x.isSome) := by
  cases x with
  | some a => simp [expect]
  | none => simp [expect]

@[simp]
theorem avoids_okOr {x : Option α} : Avoids panics (okOr error x) := by
  cases x <;> simp [okOr]

@[simp]
theorem avoids_mapErr {f : ε → ε'} : Avoids panics (x.mapErr f) ↔ Avoids panics x := by
  cases x with
  | ok a => simp [mapErr]
  | error fault => cases fault <;> simp [mapErr, Fault.mapErr, Avoids]

@[simp]
theorem avoids_ite [Decidable c] :
    Avoids panics (if c then x else y) ↔ (c → Avoids panics x) ∧ (¬ c → Avoids panics y) := by
  by_cases h : c <;> simp [h]

theorem Avoids.mapM (each : ∀ item ∈ items, Avoids panics (f item)) :
    Avoids panics (items.mapM f) := by
  induction items with
  | nil => simp
  | cons item rest ih =>
    have first := each item List.mem_cons_self
    have later := ih fun other member => each other (List.mem_cons_of_mem item member)
    rw [List.mapM_cons, avoids_bind]
    refine ⟨first, ?_⟩
    intro b _
    rw [avoids_bind]
    exact ⟨later, fun _ _ => avoids_pure⟩

def OnlyPanics (x : Result ε α) : Prop := ∀ error, x ≠ .error (.err error)

@[simp]
theorem onlyPanics_ok : OnlyPanics (.ok a : Result ε α) := by
  intro error failed
  cases failed

@[simp]
theorem onlyPanics_panic : OnlyPanics (panic message : Result ε α) := by
  intro error failed
  cases failed

@[simp]
theorem onlyPanics_expect {x} : OnlyPanics (expect message x : Result ε α) := by
  cases x <;> simp [expect]

@[simp]
theorem onlyPanics_bind :
    OnlyPanics (x >>= f) ↔ OnlyPanics x ∧ ∀ a, x = .ok a → OnlyPanics (f a) := by
  cases x with
  | ok a => simp [bind, Except.bind]
  | error fault => simp [OnlyPanics, bind, Except.bind]

@[simp]
theorem onlyPanics_ite [Decidable c] :
    OnlyPanics (if c then x else y) ↔ (c → OnlyPanics x) ∧ (¬ c → OnlyPanics y) := by
  by_cases h : c <;> simp [h]

@[simp]
theorem onlyPanics_mapErr {f : Empty → ε} {x : Result Empty α} : OnlyPanics (x.mapErr f) := by
  intro error failed
  cases x with
  | ok a => cases failed
  | error fault =>
    cases fault with
    | err impossible => exact impossible.elim
    | panic message => cases failed

theorem OnlyPanics.foldlM {f : β → α → Result ε β} {b} (each : ∀ b item, OnlyPanics (f b item)) :
    OnlyPanics (items.foldlM f b) := by
  induction items generalizing b with
  | nil => exact onlyPanics_ok
  | cons item rest ih =>
    rw [List.foldlM_cons, onlyPanics_bind]
    exact ⟨each b item, fun _ _ => ih⟩

end Result

namespace Call

variable {ε σ α β : Type} {panics : Set String} {s : σ}

variable {error : ε} {message : String} {next : β → Call ε σ α} {f : σ → σ} {call : Call ε σ β}

def Avoids (panics : Set String) (call : Call ε σ α) (s : σ) : Prop :=
  Ends call s (fun _ _ => True) (fun fault _ => ∀ message ∈ panics, fault ≠ .panic message)

abbrev NeverPanics (call : Call ε σ α) (s : σ) : Prop := call.Avoids .univ s

@[simp]
theorem avoids_pure {a} : Avoids panics (pure a : Call ε σ α) s := trivial

@[simp]
theorem avoids_throw_err : Avoids panics (throw (.err error) : Call ε σ α) s := by
  intro message _ reached
  cases reached

@[simp]
theorem avoids_throw_panic :
    Avoids panics (throw (.panic message) : Call ε σ α) s ↔ message ∉ panics := by
  constructor
  · intro avoids member
    exact avoids message member rfl
  · intro absent other member reached
    cases reached
    exact absent member

@[simp]
theorem avoids_throw_err_bind : Avoids panics (throw (.err error) >>= next) s := by
  intro message _ reached
  cases reached

@[simp]
theorem avoids_map {f : β → α} : Avoids panics (f <$> call) s ↔ Avoids panics call s := by
  simp only [Avoids, Ends, Functor.map, EStateM.map]
  cases call s <;> rfl

@[simp]
theorem avoids_modify : Avoids panics (modify f : Call ε σ Unit) s := trivial

@[simp]
theorem avoids_get_bind {next : σ → Call ε σ α} :
    Avoids panics (get >>= next) s ↔ Avoids panics (next s) s := Iff.rfl

@[simp]
theorem avoids_modify_bind {next : Unit → Call ε σ α} :
    Avoids panics (modify f >>= next) s ↔ Avoids panics (next ()) (f s) := Iff.rfl

@[simp]
theorem avoids_lift {x : Result ε α} :
    Avoids panics (liftM x : Call ε σ α) s ↔ x.Avoids panics := by
  cases x with
  | ok a => simp [Avoids, ends_lift]
  | error fault => simp [Avoids, ends_lift, Result.Avoids]

@[simp]
theorem avoids_lift_bind {x : Result ε β} :
    Avoids panics (liftM x >>= next) s ↔
      x.Avoids panics ∧ ∀ b, x = .ok b → Avoids panics (next b) s := by
  cases x with
  | ok b => simp [Avoids, ends_lift]
  | error fault => simp [Avoids, ends_lift, Result.Avoids]

@[simp]
theorem avoids_ite {c : Prop} [Decidable c] {x y : Call ε σ α} :
    Avoids panics (if c then x else y) s ↔ (c → Avoids panics x s) ∧ (¬ c → Avoids panics y s) := by
  by_cases h : c <;> simp [h]

theorem avoids_bind :
    Avoids panics (call >>= next) s ↔
      Avoids panics call s ∧ ∀ b s', call s = .ok b s' → Avoids panics (next b) s' := by
  simp only [Avoids, ends_bind]
  unfold Ends
  cases call s with
  | ok b s' => simp
  | error fault s' => simp

theorem Avoids.ne_panic {call : Call ε σ α} (avoids : Avoids panics call s)
    (member : message ∈ panics) {s' : σ} : call s ≠ .error (.panic message) s' := by
  intro reached
  exact Ends.error avoids reached message member rfl

def panicked (call : Call ε σ α) (s : σ) : Option String :=
  match call s with
  | .error (.panic message) _ => some message
  | _ => none

theorem exists_of_panicked {call : Call ε σ α} (reached : call.panicked s = some message) :
    ∃ s', call s = .error (.panic message) s' := by
  unfold panicked at reached
  split at reached
  · rename_i here
    cases reached
    exact ⟨_, here⟩
  · cases reached

end Call
