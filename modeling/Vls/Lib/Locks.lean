import Mathlib.Data.Fintype.Basic
import Mathlib.Data.Finset.Max
import Mathlib.Logic.Function.Basic
import Vls.Lib.Machine

/-! # Threads that share locks

What a thread does with mutexes, and nothing else: a routine holds a lock for the length of a body,
takes branches and returns early. Guards are released in the reverse order. A thread that asks for a
lock that is held can take no turn.

The rule at the end is the classical one: if every waiting thread asks for a lock that comes, in
some order that may depend on the state, after all those it holds, then some thread can go on. -/

namespace Locking

/-- The lock uses of a routine. -/
inductive Routine (L : Type) where
  | skip
  /-- A guard of the lock, dropped at the end of the body. -/
  | hold (lock : L) (body : Routine L)
  | seq (first next : Routine L)
  | either (left right : Routine L)

namespace Routine

variable {L : Type}

def touch (lock : L) : Routine L := hold lock skip

def optional (routine : Routine L) : Routine L := either routine skip

def inTurn : List (Routine L) → Routine L
  | [] => skip
  | routine :: rest => seq routine (inTurn rest)

/-- Every request for a lock, with the locks held at that moment, latest first, is of a certain
    kind. -/
def Obeys (kind : List L → L → Prop) : List L → Routine L → Prop
  | _, skip => True
  | held, hold lock body => kind held lock ∧ Obeys kind (lock :: held) body
  | held, seq first next => Obeys kind held first ∧ Obeys kind held next
  | held, either left right => Obeys kind held left ∧ Obeys kind held right

variable {kind : List L → L → Prop} {held : List L}

@[simp] theorem obeys_skip : Obeys kind held skip := trivial

@[simp] theorem obeys_hold {lock body} :
    Obeys kind held (hold lock body) ↔ kind held lock ∧ Obeys kind (lock :: held) body := Iff.rfl

@[simp] theorem obeys_touch {lock} : Obeys kind held (touch lock) ↔ kind held lock := by
  simp [touch]

@[simp] theorem obeys_seq {first next} :
    Obeys kind held (seq first next) ↔ Obeys kind held first ∧ Obeys kind held next := Iff.rfl

@[simp] theorem obeys_either {left right} :
    Obeys kind held (either left right) ↔ Obeys kind held left ∧ Obeys kind held right := Iff.rfl

@[simp] theorem obeys_optional {routine} :
    Obeys kind held (optional routine) ↔ Obeys kind held routine := by
  simp [optional]

@[simp] theorem obeys_inTurn {routines} :
    Obeys kind held (inTurn routines) ↔ ∀ routine ∈ routines, Obeys kind held routine := by
  induction routines with
  | nil => simp [inTurn]
  | cons routine rest ih => simp [inTurn, ih]

end Routine

inductive Work (L : Type) where
  | run (routine : Routine L)
  | release (lock : L)

/-- A thread: the operation it last started, the locks it holds and what is left of the operation.
    With nothing left it is idle. -/
structure Thread (Op L : Type) where
  op : Option Op
  held : List L
  todo : List (Work L)

namespace Thread

variable {Op L : Type}

def idle : Thread Op L := ⟨none, [], []⟩

def Busy (t : Thread Op L) : Prop := t.todo ≠ []

instance (t : Thread Op L) : Decidable t.Busy :=
  match todo : t.todo with
  | [] => .isFalse fun busy => busy todo
  | _ :: _ => .isTrue fun idle => by simp [todo] at idle

def doing (t : Thread Op L) : Option Op := if t.Busy then t.op else none

def awaited (t : Thread Op L) : Option L :=
  match t.todo with
  | .run (.hold lock _) :: _ => some lock
  | _ => none

end Thread

inductive Turn (Op : Type) where
  | start (op : Op)
  | go
  /-- Take the second branch. -/
  | right
  /-- Return early: drop the guards, and do nothing else. -/
  | leave

section threads

variable {ι Op L : Type} [Fintype ι] [DecidableEq ι] [DecidableEq L]

def Held (s : ι → Thread Op L) (lock : L) : Prop := ∃ i, lock ∈ (s i).held

instance (s : ι → Thread Op L) (lock : L) : Decidable (Held s lock) :=
  inferInstanceAs (Decidable (∃ i, lock ∈ (s i).held))

def isRelease : Work L → Bool
  | .run _ => false
  | .release _ => true

def advance (routine : Op → Routine L) (s : ι → Thread Op L) (t : Thread Op L) :
    Turn Op → Option (Thread Op L)
  | .start op => match t.todo with
    | [] => some ⟨some op, t.held, [.run (routine op)]⟩
    | _ :: _ => none
  | .leave => some { t with todo := t.todo.filter isRelease }
  | .go => match t.todo with
    | [] => none
    | .release lock :: rest => some { t with held := t.held.erase lock, todo := rest }
    | .run .skip :: rest => some { t with todo := rest }
    | .run (.hold lock body) :: rest =>
      if Held s lock then none
      else some { t with held := lock :: t.held, todo := .run body :: .release lock :: rest }
    | .run (.seq first next) :: rest => some { t with todo := .run first :: .run next :: rest }
    | .run (.either left _) :: rest => some { t with todo := .run left :: rest }
  | .right => match t.todo with
    | .run (.either _ right) :: rest => some { t with todo := .run right :: rest }
    | _ => none

def machine (routine : Op → Routine L) : Machine (ι → Thread Op L) (ι × Turn Op) Unit where
  step s input :=
    (advance routine s (s input.1) input.2).map fun t => ((), Function.update s input.1 t)

/-- An operation is only started beside operations that go with it. -/
def StartsWith (fits : Op → Op → Prop) (s : ι → Thread Op L) (input : ι × Turn Op) : Prop :=
  match input.2 with
  | .start op => ∀ j, j ≠ input.1 → ∀ op' ∈ (s j).doing, fits op op' ∧ fits op' op
  | _ => True

instance {fits : Op → Op → Prop} [DecidableRel fits] (s : ι → Thread Op L) (input : ι × Turn Op) :
    Decidable (StartsWith fits s input) :=
  match input with
  | (i, .start op) =>
    inferInstanceAs (Decidable (∀ j, j ≠ i → ∀ op' ∈ (s j).doing, fits op op' ∧ fits op' op))
  | (_, .go) | (_, .right) | (_, .leave) => .isTrue trivial

/-- A thread asks for a lock that a thread holds. Mutexes are not re-entrant, so that one may be
    the thread itself. -/
def Waits (s : ι → Thread Op L) (i j : ι) : Prop := ∃ lock ∈ (s i).awaited, lock ∈ (s j).held

instance (s : ι → Thread Op L) (i j : ι) : Decidable (Waits s i j) :=
  inferInstanceAs (Decidable (∃ lock ∈ (s i).awaited, lock ∈ (s j).held))

/-- There are busy threads, and all of them wait. -/
def Deadlocked (s : ι → Thread Op L) : Prop :=
  (∃ i, (s i).Busy) ∧ ∀ i, (s i).Busy → ∃ j, Waits s i j

instance (s : ι → Thread Op L) : Decidable (Deadlocked s) :=
  inferInstanceAs (Decidable ((∃ i, (s i).Busy) ∧ ∀ i, (s i).Busy → ∃ j, Waits s i j))

end threads

section rules

variable {Op L : Type}

/-- The requests still to come are of a certain kind, and the guards to be dropped are those of
    the locks held. -/
def Obeys (kind : List L → L → Prop) : List L → List (Work L) → Prop
  | held, [] => held = []
  | held, .run routine :: rest => routine.Obeys kind held ∧ Obeys kind held rest
  | [], .release _ :: _ => False
  | lock' :: held, .release lock :: rest => lock' = lock ∧ Obeys kind held rest

theorem Obeys.leave {kind : List L → L → Prop} {held todo} (obeys : Obeys kind held todo) :
    Obeys kind held (todo.filter isRelease) := by
  induction todo generalizing held with
  | nil => exact obeys
  | cons work rest ih =>
    cases work with
    | run routine => exact ih obeys.2
    | release lock =>
      cases held with
      | nil => exact obeys.elim
      | cons lock' held => exact ⟨obeys.1, ih obeys.2⟩

/-- An idle thread holds nothing, and what is left of a busy thread's operation obeys the rules
    for that operation. -/
def Orderly (kind : Op → List L → L → Prop) (t : Thread Op L) : Prop :=
  (t.held = [] ∧ t.todo = []) ∨ ∃ op, t.op = some op ∧ Obeys (kind op) t.held t.todo

variable {kind : Op → List L → L → Prop} {t t' : Thread Op L}

theorem Orderly.held_nil (orderly : Orderly kind t) (idle : ¬ t.Busy) : t.held = [] := by
  have todo : t.todo = [] := not_not.mp idle
  obtain ⟨held, -⟩ | ⟨op, -, obeys⟩ := orderly
  · exact held
  · rw [todo] at obeys
    exact obeys

theorem Orderly.busy (orderly : Orderly kind t) {lock} (holds : lock ∈ t.held) : t.Busy := by
  by_contra idle
  simp [orderly.held_nil idle] at holds

theorem Orderly.awaited (orderly : Orderly kind t) {lock} (awaits : lock ∈ t.awaited) :
    ∃ op ∈ t.doing, kind op t.held lock := by
  unfold Thread.awaited at awaits
  split at awaits
  · rename_i todo
    cases awaits
    have busy : t.Busy := by simp [Thread.Busy, todo]
    obtain ⟨-, empty⟩ | ⟨op, started, obeys⟩ := orderly
    · exact (busy empty).elim
    · rw [todo] at obeys
      exact ⟨op, by simp [Thread.doing, busy, started], obeys.1.1⟩
  · cases awaits

variable {ι : Type} [Fintype ι] [DecidableEq L] {routine : Op → Routine L}
  {s : ι → Thread Op L} {turn : Turn Op}

theorem op_of_go (advanced : advance routine s t .go = some t') : t'.op = t.op := by
  simp only [advance] at advanced
  split at advanced
  · cases advanced
  · cases advanced
    rfl
  · cases advanced
    rfl
  · split at advanced <;> cases advanced
    rfl
  · cases advanced
    rfl
  · cases advanced
    rfl

theorem op_of_right (advanced : advance routine s t .right = some t') : t'.op = t.op := by
  simp only [advance] at advanced
  split at advanced <;> cases advanced
  rfl

theorem doing_of_advance (advanced : advance routine s t turn = some t') {op}
    (doing : op ∈ t'.doing) : turn = .start op ∨ op ∈ t.doing := by
  have busy : t'.Busy := by
    by_contra idle
    simp [Thread.doing, idle] at doing
  have same : t'.op = some op := by simpa [Thread.doing, busy] using doing
  have goesOn (kept : t'.op = t.op) (busy : t.Busy) : op ∈ t.doing := by
    simp [Thread.doing, busy, ← kept, same]
  cases turn with
  | start op' =>
    simp only [advance] at advanced
    split at advanced <;> cases advanced
    exact .inl (congrArg _ (Option.some.inj same))
  | leave =>
    cases advanced
    refine .inr (goesOn rfl fun empty => busy ?_)
    simp [empty]
  | go =>
    have before : t.Busy := fun empty => by simp [advance, empty] at advanced
    exact .inr (goesOn (op_of_go advanced) before)
  | right =>
    have before : t.Busy := fun empty => by simp [advance, empty] at advanced
    exact .inr (goesOn (op_of_right advanced) before)

theorem Obeys.go {kind : List L → L → Prop} (obeys : Obeys kind t.held t.todo)
    (advanced : advance routine s t .go = some t') : Obeys kind t'.held t'.todo := by
  obtain ⟨op, held, todo⟩ := t
  cases todo with
  | nil => cases advanced
  | cons work rest =>
    cases work with
    | release lock =>
      cases advanced
      cases held with
      | nil => exact obeys.elim
      | cons lock' held =>
        obtain ⟨rfl, later⟩ := obeys
        simpa using later
    | run routine =>
      obtain ⟨here, later⟩ := obeys
      cases routine with
      | skip =>
        cases advanced
        exact later
      | hold lock body =>
        simp only [advance] at advanced
        split at advanced
        · cases advanced
        · cases advanced
          exact ⟨here.2, rfl, later⟩
      | seq first next =>
        cases advanced
        exact ⟨here.1, here.2, later⟩
      | either left right =>
        cases advanced
        exact ⟨here.1, later⟩

theorem Obeys.right {kind : List L → L → Prop} (obeys : Obeys kind t.held t.todo)
    (advanced : advance routine s t .right = some t') : Obeys kind t'.held t'.todo := by
  simp only [advance] at advanced
  split at advanced
  · rename_i todo
    cases advanced
    rw [todo] at obeys
    exact ⟨obeys.1.2, obeys.2⟩
  · cases advanced

theorem Orderly.advance (rules : ∀ op, (routine op).Obeys (kind op) []) (orderly : Orderly kind t)
    (advanced : advance routine s t turn = some t') : Orderly kind t' := by
  cases turn with
  | start op =>
    simp only [Locking.advance] at advanced
    split at advanced
    · rename_i todo
      cases advanced
      have held := orderly.held_nil (not_not.mpr todo)
      exact .inr ⟨op, rfl, by simp [held, Obeys, rules op]⟩
    · cases advanced
  | leave =>
    cases advanced
    obtain ⟨held, todo⟩ | ⟨op, started, obeys⟩ := orderly
    · exact .inl ⟨held, by simp [todo]⟩
    · exact .inr ⟨op, started, obeys.leave⟩
  | go =>
    obtain ⟨-, todo⟩ | ⟨op, started, obeys⟩ := orderly
    · simp [Locking.advance, todo] at advanced
    · exact .inr ⟨op, (op_of_go advanced).trans started, obeys.go advanced⟩
  | right =>
    obtain ⟨-, todo⟩ | ⟨op, started, obeys⟩ := orderly
    · simp [Locking.advance, todo] at advanced
    · exact .inr ⟨op, (op_of_right advanced).trans started, obeys.right advanced⟩

theorem held_of_advance (advanced : advance routine s t turn = some t') {lock}
    (holds : lock ∈ t'.held) : lock ∈ t.held ∨ ¬ Held s lock := by
  unfold advance at advanced
  split at advanced
  · split at advanced <;> cases advanced
    exact .inl holds
  · cases advanced
    exact .inl holds
  · split at advanced
    · cases advanced
    · cases advanced
      exact .inl (List.mem_of_mem_erase holds)
    · cases advanced
      exact .inl holds
    · split at advanced
      · cases advanced
      · rename_i free
        cases advanced
        obtain rfl | held := List.mem_cons.mp holds
        · exact .inr free
        · exact .inl held
    · cases advanced
      exact .inl holds
    · cases advanced
      exact .inl holds
  · split at advanced <;> cases advanced
    exact .inl holds

end rules

section runs

variable {ι Op L : Type} [Fintype ι] [DecidableEq ι] [DecidableEq L] {routine : Op → Routine L}
  {kind : Op → List L → L → Prop} {start s s' : ι → Thread Op L}
  {history : List (Machine.Step (ι → Thread Op L) (ι × Turn Op) Unit)}

theorem machine_step {i turn output}
    (stepped : (machine routine).step s (i, turn) = some (output, s')) :
    ∃ t, advance routine s (s i) turn = some t ∧ s' = Function.update s i t := by
  obtain ⟨t, advanced, same⟩ := Option.map_eq_some_iff.mp stepped
  cases same
  exact ⟨t, advanced, rfl⟩

def Exclusive (s : ι → Thread Op L) : Prop :=
  ∀ lock i j, lock ∈ (s i).held → lock ∈ (s j).held → i = j

theorem exclusive_of_run (run : (machine routine).Run start history s)
    (idle : ∀ i, start i = .idle) : Exclusive s := by
  refine run.always (fun _ s => Exclusive s) ?_ ?_
  · intro lock i j holds
    simp [idle, Thread.idle] at holds
  · rintro - s ⟨i, turn⟩ output s' exclusive stepped lock j k
    obtain ⟨t, advanced, rfl⟩ := machine_step stepped
    have kept := @held_of_advance _ _ _ _ _ _ _ _ _ _ advanced lock
    by_cases first : j = i <;> by_cases second : k = i
    · exact fun _ _ => first.trans second.symm
    · subst first
      simp only [Function.update_self, Function.update_of_ne second]
      intro holds held
      obtain before | free := kept holds
      · exact exclusive lock j k before held
      · exact (free ⟨k, held⟩).elim
    · subst second
      simp only [Function.update_self, Function.update_of_ne first]
      intro held holds
      obtain before | free := kept holds
      · exact exclusive lock j k held before
      · exact (free ⟨j, held⟩).elim
    · simp only [Function.update_of_ne first, Function.update_of_ne second]
      exact exclusive lock j k

theorem orderly_of_run (rules : ∀ op, (routine op).Obeys (kind op) [])
    (run : (machine routine).Run start history s) (idle : ∀ i, start i = .idle) :
    ∀ i, Orderly kind (s i) := by
  refine run.always (fun _ s => ∀ i, Orderly kind (s i)) ?_ ?_
  · exact fun i => by simp [idle, Thread.idle, Orderly]
  · rintro - s ⟨i, turn⟩ output s' orderly stepped j
    obtain ⟨t, advanced, rfl⟩ := machine_step stepped
    by_cases same : j = i
    · subst same
      simpa using (orderly j).advance rules advanced
    · simpa [Function.update_of_ne same] using orderly j

/-- Operations of different threads that are under way at the same time go together. -/
def Compatible (fits : Op → Op → Prop) (s : ι → Thread Op L) : Prop :=
  ∀ i j, i ≠ j → ∀ op ∈ (s i).doing, ∀ op' ∈ (s j).doing, fits op op'

theorem compatible_of_run {fits : Op → Op → Prop} (run : (machine routine).Run start history s)
    (idle : ∀ i, start i = .idle)
    (meets : Machine.Meets (fun _ s input => StartsWith fits s input) history) :
    Compatible fits s := by
  refine run.inv (fun _ s => Compatible fits s) meets ?_ ?_
  · intro i j _ op doing
    simp [idle, Thread.idle, Thread.doing] at doing
  · rintro - s ⟨i, turn⟩ output s' compatible starts stepped j k apart op doing op' doing'
    obtain ⟨t, advanced, rfl⟩ := machine_step stepped
    by_cases first : j = i
    · subst first
      rw [Function.update_self] at doing
      rw [Function.update_of_ne apart.symm] at doing'
      obtain rfl | before := doing_of_advance advanced doing
      · exact (starts k apart.symm op' doing').1
      · exact compatible j k apart op before op' doing'
    · rw [Function.update_of_ne first] at doing
      by_cases second : k = i
      · subst second
        rw [Function.update_self] at doing'
        obtain rfl | before := doing_of_advance advanced doing'
        · exact (starts j apart op doing).2
        · exact compatible j k apart op doing op' before
      · rw [Function.update_of_ne second] at doing'
        exact compatible j k apart op doing op' doing'

end runs

section deadlock

variable {ι Op L : Type} [Fintype ι] {kind : Op → List L → L → Prop} {s : ι → Thread Op L}

/-- Where every waiting thread asks for a lock above all those it holds, the thread that asks for
    the highest lock would wait for one that asks for a higher one still. -/
theorem not_deadlocked (orderly : ∀ i, Orderly kind (s i)) (rank : L → Nat)
    (climbs : ∀ i, ∀ lock ∈ (s i).awaited, ∀ held ∈ (s i).held, rank held < rank lock) :
    ¬ Deadlocked s := by
  rintro ⟨⟨i₀, busy₀⟩, waits⟩
  let height (i : ι) : Nat := ((s i).awaited.map rank).getD 0
  obtain ⟨i, busy, highest⟩ :=
    (Finset.univ.filter fun i => (s i).Busy).exists_max_image height ⟨i₀, by simpa using busy₀⟩
  obtain ⟨j, lock, awaits, holds⟩ := waits i (by simpa using busy)
  have busyToo := (orderly j).busy holds
  obtain ⟨k, lock', awaits', -⟩ := waits j busyToo
  have higher := climbs j lock' awaits' lock holds
  have lower := highest j (by simpa using busyToo)
  simp only [height, Option.mem_def.mp awaits, Option.mem_def.mp awaits', Option.map_some,
    Option.getD_some] at lower
  omega

end deadlock

end Locking
