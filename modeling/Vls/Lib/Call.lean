import Mathlib.Tactic.Common

/-! # Calls that fail, panic and mutate

A call works on a state it may have changed by the time it fails: an error returned after a
mutation leaves the mutation behind. A panic is kept apart from an error, since the caller of a
function that panicked gets no answer at all. -/

/-- How a call ends when it does not return a value. -/
inductive Fault (ε : Type) where
  | err (error : ε)
  | panic (message : String)
  deriving DecidableEq

namespace Fault

def mapErr {ε ε' : Type} (f : ε → ε') : Fault ε → Fault ε'
  | err error => err (f error)
  | panic message => panic message

end Fault

/-- A computation that reads no state. -/
abbrev Result (ε α : Type) := Except (Fault ε) α

abbrev Call (ε σ α : Type) := EStateM (Fault ε) σ α

namespace Result

variable {ε ε' α β : Type}

variable {x : Result ε α} {f : α → Result ε β} {b : β} {fault : Fault ε} {a : α} {message : String}
  {error : ε} {items : List α}

def err (error : ε) : Result ε α := .error (.err error)

def panic (message : String) : Result ε α := .error (.panic message)

def mapErr (f : ε → ε') : Result ε α → Result ε' α
  | .ok a => .ok a
  | .error fault => .error (fault.mapErr f)

def expect (message : String) : Option α → Result ε α
  | some a => .ok a
  | none => panic message

def okOr (error : ε) : Option α → Result ε α
  | some a => .ok a
  | none => err error

def expectOk (message : String) : Result ε α → Result ε' α
  | .ok a => .ok a
  | .error (.err _) => panic message
  | .error (.panic earlier) => panic earlier

theorem bind_eq_ok : (x >>= f) = .ok b ↔ ∃ a, x = .ok a ∧ f a = .ok b := by
  cases x with
  | ok a => simp [bind, Except.bind]
  | error fault => simp [bind, Except.bind]

theorem bind_eq_error :
    (x >>= f) = .error fault ↔ x = .error fault ∨ ∃ a, x = .ok a ∧ f a = .error fault := by
  cases x with
  | ok a => simp [bind, Except.bind]
  | error fault => simp [bind, Except.bind]

@[simp]
theorem mapErr_eq_ok {f : ε → ε'} : x.mapErr f = .ok a ↔ x = .ok a := by
  cases x <;> simp [mapErr]

@[simp]
theorem expect_eq_ok {x} : (expect message x : Result ε α) = .ok a ↔ x = some a := by
  cases x <;> simp [expect, panic]

theorem expect_eq_error {x : Option α} (failed : expect message x = .error fault) :
    ∃ message, fault = .panic message := by
  cases x with
  | some a => cases failed
  | none => exact ⟨message, (Except.error.inj failed).symm⟩

@[simp]
theorem okOr_eq_ok {x} : okOr error x = .ok a ↔ x = some a := by
  cases x <;> simp [okOr, err]

@[simp]
theorem err_ne_ok : (err error : Result ε α) ≠ .ok a := by simp [err]

@[simp]
theorem err_bind : (err error >>= f) = err error := rfl

theorem ite_err_eq_ok {c : Prop} [Decidable c] :
    (if c then err error else x) = .ok a ↔ ¬ c ∧ x = .ok a := by
  by_cases h : c <;> simp [h]

@[simp]
theorem panic_ne_ok : (panic message : Result ε α) ≠ .ok a := by simp [panic]

/-- A loop that can take every step returns, and keeps a relation between the items it has been
    through and the value it has reached. -/
theorem foldlM_exists {f : β → α → Result ε β} (R : List α → β → Prop) (initially : R [] b)
    (step : ∀ done item rest b, items = done ++ item :: rest → R done b → ∃ b', f b item = .ok b'
      ∧ R (done ++ [item]) b') :
    ∃ b', items.foldlM f b = .ok b' ∧ R items b' := by
  suffices loop : ∀ rest done b, items = done ++ rest → R done b →
      ∃ b', rest.foldlM f b = .ok b' ∧ R items b' from loop items [] b rfl initially
  intro rest
  induction rest with
  | nil =>
    intro done b split here
    exact ⟨b, rfl, by simpa [split] using here⟩
  | cons item rest ih =>
    intro done b split here
    obtain ⟨b₁, stepped, next⟩ := step done item rest b split here
    obtain ⟨b', looped, last⟩ := ih (done ++ [item]) b₁ (by simp [split]) next
    refine ⟨b', ?_, last⟩
    rw [List.foldlM_cons, stepped]
    exact looped

theorem foldlM_inv {f : β → α → Result ε β} (R : List α → β → Prop) {b'} (initially : R [] b)
    (step : ∀ done item rest b b', items = done ++ item :: rest → R done b → f b item = .ok b' →
      R (done ++ [item]) b')
    (returned : items.foldlM f b = .ok b') : R items b' := by
  suffices loop : ∀ rest done b, items = done ++ rest → R done b → rest.foldlM f b = .ok b' →
      R items b' from loop items [] b rfl initially returned
  intro rest
  induction rest with
  | nil =>
    intro done b split here returned
    cases returned
    simpa [split] using here
  | cons item rest ih =>
    intro done b split here returned
    rw [List.foldlM_cons] at returned
    obtain ⟨b₁, stepped, returned⟩ := bind_eq_ok.mp returned
    exact ih (done ++ [item]) b₁ (by simp [split]) (step done item rest b b₁ split here stepped)
      returned

theorem foldlM_eq_ok {f : β → α → Result ε β} (g : List α → β)
    (step : ∀ done item rest, items = done ++ item :: rest →
      f (g done) item = .ok (g (done ++ [item]))) :
    items.foldlM f (g []) = .ok (g items) := by
  obtain ⟨_, returned, rfl⟩ := foldlM_exists (fun done b => b = g done) rfl
    fun done item rest _ split here => ⟨_, here ▸ step done item rest split, rfl⟩
  exact returned

/-- A loop whose every step is another step seen through `g` is the other loop seen through `g`. -/
theorem foldlM_map {γ : Type} {f} {f' : β → α → Result ε β} (g : β → γ)
    (step : ∀ b item, f (g b) item = (f' b item).map g) (items : List α) (b : β) :
    items.foldlM f (g b) = (items.foldlM f' b).map g := by
  induction items generalizing b with
  | nil => rfl
  | cons item rest ih =>
    rw [List.foldlM_cons, List.foldlM_cons, step]
    cases f' b item with
    | error fault => rfl
    | ok b' => exact ih b'

theorem mapM_forall₂ {results} (h : items.mapM f = .ok results) :
    List.Forall₂ (fun item result => f item = .ok result) items results := by
  induction items generalizing results with
  | nil =>
    cases h
    exact .nil
  | cons item items ih =>
    rw [List.mapM_cons] at h
    obtain ⟨first, one, h⟩ := bind_eq_ok.mp h
    obtain ⟨others, rest, h⟩ := bind_eq_ok.mp h
    cases h
    exact .cons one (ih rest)

def Raises (allowed : ε → Prop) (x : Result ε α) : Prop :=
  ∀ error, x = err error → allowed error

section raises

variable {allowed : ε → Prop}

@[simp]
theorem raises_ok : Raises allowed (.ok a : Result ε α) := nofun

@[simp]
theorem raises_panic : Raises allowed (panic message : Result ε α) := nofun

@[simp]
theorem raises_err : Raises allowed (err error : Result ε α) ↔ allowed error := by
  constructor
  · intro h
    exact h error rfl
  · rintro h _ ⟨⟩
    exact h

theorem Raises.bind (first : Raises allowed x) (next : ∀ a, Raises allowed (f a)) :
    Raises allowed (x >>= f) := by
  intro error failed
  obtain failed | ⟨a, -, failed⟩ := bind_eq_error.mp failed
  · exact first error failed
  · exact next a error failed

theorem raises_okOr (h : allowed error) {x : Option α} : Raises allowed (okOr error x) := by
  cases x with
  | none => exact raises_err.mpr h
  | some a => exact raises_ok

theorem Raises.mapErr {allowed' : ε' → Prop} {f} (h : Raises allowed x)
    (mapped : ∀ error, allowed error → allowed' (f error)) : Raises allowed' (x.mapErr f) := by
  intro error failed
  cases x with
  | ok a => cases failed
  | error fault =>
    cases fault with
    | err error' =>
      cases failed
      exact mapped error' (h error' rfl)
    | panic message => cases failed

theorem Raises.foldlM {f} (step : ∀ b item, Raises allowed (f b item)) (items : List α) (b : β) :
    Raises allowed (items.foldlM f b) := by
  induction items generalizing b with
  | nil => exact raises_ok
  | cons item rest ih =>
    rw [List.foldlM_cons]
    exact (step b item).bind ih

end raises

theorem toOption_eq_some : x.toOption = some a ↔ x = .ok a := by
  cases x <;> simp [Except.toOption]

end Result

instance {ε σ : Type} : MonadLift (Except (Fault ε)) (EStateM (Fault ε) σ) where
  monadLift x state :=
    match x with
    | .ok a => .ok a state
    | .error fault => .error fault state

namespace Call

variable {ε σ α β : Type}

variable {a : α} {fault : Fault ε} {call : Call ε σ α} {next : β → Call ε σ α} {f : σ → σ}
  {result : Result ε α} {s' r : σ} {u : PUnit}

/-- Every way the call can end from `s` is as described: `good` of the value returned and the
    state it leaves, `bad` of the fault and the state it leaves. -/
def Ends (call : Call ε σ α) (s : σ) (good : α → σ → Prop) (bad : Fault ε → σ → Prop) : Prop :=
  match call s with
  | .ok a s' => good a s'
  | .error fault s' => bad fault s'

instance {call : Call ε σ α} {s : σ} {good : α → σ → Prop} {bad : Fault ε → σ → Prop}
    [∀ a s', Decidable (good a s')] [∀ fault s', Decidable (bad fault s')] :
    Decidable (Ends call s good bad) := by
  unfold Ends
  split <;> infer_instance

section rules

variable {good : α → σ → Prop} {bad : Fault ε → σ → Prop} {s : σ}

@[simp]
theorem ends_pure : Ends (pure a) s good bad ↔ good a s := Iff.rfl

@[simp]
theorem ends_throw : Ends (throw fault) s good bad ↔ bad fault s := Iff.rfl

@[simp]
theorem ends_bind {call} :
    Ends (call >>= next) s good bad ↔ Ends call s (fun b s' => Ends (next b) s' good bad) bad := by
  simp only [Ends, bind, EStateM.bind]
  cases call s <;> rfl

@[simp]
theorem ends_get {good : σ → σ → Prop} : Ends get s good bad ↔ good s s := Iff.rfl

@[simp]
theorem ends_modify {good : PUnit → σ → Prop} :
    Ends (modify f) s good bad ↔ good () (f s) := Iff.rfl

theorem ends_lift :
    Ends (liftM result : Call ε σ α) s good bad ↔
      (∀ a, result = .ok a → good a s) ∧ (∀ fault, result = .error fault → bad fault s) := by
  cases result with
  | ok a => simp [Ends, liftM, monadLift, MonadLift.monadLift]
  | error fault => simp [Ends, liftM, monadLift, MonadLift.monadLift]

theorem ends_ite {c : Prop} [Decidable c] {x y} :
    Ends (if c then x else y) s good bad ↔ (c → Ends x s good bad) ∧ (¬ c → Ends y s good bad) := by
  by_cases h : c <;> simp [h]

/-- To follow a call past a step that reads no state, follow it past the value of that step. -/
theorem Ends.lift {result : Result ε β} (onFault : ∀ fault, result = .error fault → bad fault s)
    (onOk : ∀ b, result = .ok b → Ends (next b) s good bad) :
    Ends (liftM result >>= next) s good bad := by
  rw [ends_bind, ends_lift]
  exact ⟨onOk, onFault⟩

theorem Ends.mono {good' : α → σ → Prop} {bad' : Fault ε → σ → Prop} (h : Ends call s good bad)
    (onOk : ∀ a s', good a s' → good' a s') (onFault : ∀ fault s', bad fault s' → bad' fault s') :
    Ends call s good' bad' := by
  unfold Ends at h ⊢
  split
  · rename_i a s' eq
    rw [eq] at h
    exact onOk a s' h
  · rename_i fault s' eq
    rw [eq] at h
    exact onFault fault s' h

theorem Ends.ok (h : Ends call s good bad) (eq : call s = .ok a s') : good a s' := by
  unfold Ends at h
  rwa [eq] at h

theorem Ends.error (h : Ends call s good bad) (eq : call s = .error fault s') : bad fault s' := by
  unfold Ends at h
  rwa [eq] at h

theorem Ends.returns (h : Ends call s good fun _ _ => False) :
    ∃ a s', call s = .ok a s' ∧ good a s' := by
  unfold Ends at h
  split at h
  · rename_i a s' eq
    exact ⟨a, s', eq, h⟩
  · exact h.elim

/-- The state that a call leaves, however it ends. -/
def final (call : Call ε σ α) (s : σ) : σ :=
  match call s with
  | .ok _ s' | .error _ s' => s'

/-- A call is evaluated without its answer and the state it leaves being written out. -/
theorem Ends.eq_ok (h : Ends call s (fun a' _ => a' = a) fun _ _ => False) :
    call s = .ok a (final call s) := by
  obtain ⟨_, s', eq, rfl⟩ := h.returns
  simp only [final, eq]

theorem Ends.eq_error (h : Ends call s (fun _ _ => False) fun fault' _ => fault' = fault) :
    call s = .error fault (final call s) := by
  unfold Ends at h
  split at h
  · exact h.elim
  · rename_i fault' s' eq
    simp only [final, eq, h]

end rules

section ended

variable {call : Call ε σ β} {next : β → Call ε σ α} {a a' : α} {s s' : σ} {fault fault' : Fault ε}

theorem bind_ok : (call >>= next) s = .ok a s'
    ↔ ∃ b s₁, call s = .ok b s₁ ∧ next b s₁ = .ok a s' := by
  simp only [bind, EStateM.bind]
  cases call s <;> simp

theorem bind_error : (call >>= next) s = .error fault s'
    ↔ call s = .error fault s' ∨ ∃ b s₁, call s = .ok b s₁ ∧ next b s₁ = .error fault s' := by
  simp only [bind, EStateM.bind]
  cases call s <;> simp

theorem pure_ok : (pure a : Call ε σ α) s = .ok a' s' ↔ a = a' ∧ s = s' := by
  simp [pure, EStateM.pure]

theorem pure_error : ¬ (pure a : Call ε σ α) s = .error fault s' := by simp [pure, EStateM.pure]

theorem throw_ok : ¬ (throw fault : Call ε σ α) s = .ok a s' := by
  intro returned
  cases returned

theorem throw_error : (throw fault : Call ε σ α) s = .error fault' s' ↔ fault = fault' ∧ s = s' :=
  .of_eq (EStateM.Result.error.injEq ..)

theorem get_ok : (get : Call ε σ σ) s = .ok r s' ↔ s = r ∧ s = s' :=
  .of_eq (EStateM.Result.ok.injEq ..)

theorem get_error : ¬ (get : Call ε σ σ) s = .error fault s' := by
  intro failed
  cases failed

theorem get_bind {next : σ → Call ε σ α} : (get >>= next) s = next s s := rfl

theorem set_ok : (set r : Call ε σ PUnit) s = .ok u s' ↔ r = s' := by
  change EStateM.Result.ok _ r = _ ↔ _
  simp

theorem set_error : ¬ (set r : Call ε σ PUnit) s = .error fault s' := by
  intro failed
  cases failed

theorem modify_ok : (modify f : Call ε σ PUnit) s = .ok u s' ↔ f s = s' := by
  change EStateM.Result.ok _ (f s) = _ ↔ _
  simp

theorem modify_error : ¬ (modify f : Call ε σ PUnit) s = .error fault s' := by
  intro failed
  cases failed

theorem lift_ok : (liftM result : Call ε σ α) s = .ok a s' ↔ result = .ok a ∧ s = s' := by
  cases result <;> simp [liftM, monadLift, MonadLift.monadLift]

theorem lift_error :
    (liftM result : Call ε σ α) s = .error fault s' ↔ result = .error fault ∧ s = s' := by
  cases result <;> simp [liftM, monadLift, MonadLift.monadLift]

end ended

def answer (call : Call ε σ α) (s : σ) : Option α :=
  match call s with
  | .ok a _ => some a
  | .error .. => none

theorem answer_eq_some {s} : call.answer s = some a ↔ ∃ s', call s = .ok a s' := by
  unfold answer
  split <;> simp_all

end Call
