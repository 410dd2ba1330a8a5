import Vls.Persist.Cloud

/-! # Transactions of the cloud store

Writes are compared with the local store and read back through the log. Each call comes down to
writes of single entries: a batch writes its entries one by one, up to the first that is refused,
and a deletion puts the empty value. -/

namespace Vls.Cloud

open VersionedStore

/-- A write of an entry; `put` and `delete` leave the version to the store. -/
structure Write where
  key : Key
  version : Option Nat
  value : Value

def doGet (localStore log : Store) (key : Key) : Option (Nat × Value) :=
  (log.lookup key).or (localStore.lookup key)

namespace Write

variable (localStore : Store)

def entryVersion (write : Write) : Nat :=
  write.version.getD (Cloud.nextVersion localStore write.key)

def machine : Machine Store Write Bool where
  step log write :=
    match putWithVersion localStore log write.key (write.entryVersion localStore) write.value with
    | some log' => some (true, log')
    | none => some (false, log)

/-- The log has no later version of the key, the key is not that of the record of writers, and a
    version that is left to the store is not past the last one. -/
def Rises (log : Store) (write : Write) : Prop :=
  (∀ entry ∈ log.lookup write.key, entry.1 ≤ write.entryVersion localStore) ∧
    write.key ≠ lastWriterKey ∧ (write.version = none → Unexhausted localStore write.key)
  deriving Decidable

/-- The entries are written one by one, up to the first that is refused. -/
def putBatch (log : Store) : List (Key × Nat × Value) → Bool × Store
  | [] => (true, log)
  | (key, version, value) :: rest =>
    match putWithVersion localStore log key version value with
    | some log' => putBatch log' rest
    | none => (false, log)

abbrev History := List (Machine.Step Store Write Bool)

/-- The key was written, last with the value, and its version was left to the store each time. -/
def LastPut (history : History) (key : Key) (value : Value) : Prop :=
  (history.find? (·.input.key = key)).map (·.input.value) = some value ∧
    ∀ step ∈ history, step.input.key = key → step.input.version = none

/-- What a transaction has done after its last write. -/
structure Transacted (step : Machine.Step Store Write Bool) (history : History) (log : Store) :
    Prop where
  reads : step.output = true →
    doGet localStore log step.input.key
      = some (step.input.entryVersion localStore, step.input.value)
  rises : ∀ key, ∀ entry ∈ doGet localStore step.before key,
    ∃ entry' ∈ doGet localStore log key, entry.1 ≤ entry'.1
  prepared : ∀ key value, LastPut (step :: history) key value →
    (key, localStore.nextVersion key, value) ∈ (prepare log).1
  accepted : (∀ earlier ∈ step :: history, earlier.input.version = none) →
    (localStore.putNext (prepare log).1).isSome

/-- What is kept in the log: later versions than the local store has, the record of the writer,
    and the values that were put. -/
structure Logged (signerId : Value) (history : History) (log : Store) : Prop where
  above : ∀ key, ∀ entry ∈ log.lookup key, ∀ known ∈ localStore.lookup key, known.1 < entry.1
  writer : log.lookup lastWriterKey = some (localStore.nextVersion lastWriterKey, signerId)
  spared : ∀ step ∈ history, step.input.key ≠ lastWriterKey
  puts : ∀ key ≠ lastWriterKey,
    (∀ step ∈ history, step.input.key = key → step.input.version = none) →
    log.lookup key = ((history.find? (·.input.key = key)).map (·.input.value)).map
      fun value => (localStore.nextVersion key, value)

variable {localStore} {signerId : Value} {history : History} {log log' : Store} {write : Write}
  {ok : Bool}

/-- A batch goes on with the run, and when it is taken each of its entries is. -/
theorem run_putBatch {start} (run : (machine localStore).Run start history log)
    (entries : List (Key × Nat × Value)) :
    ∃ batch, (machine localStore).Run start (batch ++ history) (putBatch localStore log entries).2 ∧
      ((putBatch localStore log entries).1 = true → ∀ step ∈ batch, step.output = true) := by
  induction entries generalizing history log with
  | nil => exact ⟨[], run, by simp⟩
  | cons entry rest ih =>
    obtain ⟨key, version, value⟩ := entry
    unfold putBatch
    split
    · rename_i log' written
      have next : (machine localStore).step log ⟨key, some version, value⟩ = some (true, log') := by
        simp [machine, entryVersion, written]
      obtain ⟨batch, run, taken⟩ := ih (run.step next)
      refine ⟨batch ++ [⟨log, ⟨key, some version, value⟩, true⟩], ?_, fun ok => ?_⟩
      · simpa using run
      · simpa [or_imp, forall_and] using taken ok
    · exact ⟨[], run, by simp⟩

theorem machine_step (rises : write.Rises localStore log)
    (stepped : (machine localStore).step log write = some (ok, log')) :
    (log' = log.insert write.key (write.entryVersion localStore, write.value) ∧
      ∀ known ∈ localStore.lookup write.key, known.1 < write.entryVersion localStore) ∨
    log' = log ∧ write.version ≠ none ∧ (ok = true →
      localStore.lookup write.key = some (write.entryVersion localStore, write.value)) := by
  simp only [machine] at stepped
  split at stepped
  · rename_i written
    cases stepped
    unfold putWithVersion at written
    split at written
    · rename_i known kept here
      split at written
      · cases written
      · split at written
        · rename_i same
          split at written
          · rename_i value
            cases written
            refine .inr ⟨rfl, fun put => ?_, fun _ => by rw [here, same, value]⟩
            simp [entryVersion, put, (rises.2.2 put).nextVersion_eq, VersionedStore.nextVersion,
              here] at same
          · cases written
        · cases written
          refine .inl ⟨rfl, fun known' old => ?_⟩
          cases here.symm.trans old
          show known < _
          omega
    · rename_i here
      cases written
      exact .inl ⟨rfl, by simp [here]⟩
  · rename_i refused
    cases stepped
    refine .inr ⟨rfl, fun put => ?_, by simp⟩
    have accepted := put_eq (rises.2.2 put) log write.value
    simp only [put, entryVersion, Option.getD_none] at refused
    exact absurd (refused.symm.trans accepted) (by simp)

theorem lookup_other (rises : write.Rises localStore log)
    (stepped : (machine localStore).step log write = some (ok, log')) {key}
    (other : write.key ≠ key) : log'.lookup key = log.lookup key := by
  obtain ⟨rfl, -⟩ | ⟨rfl, -⟩ := machine_step rises stepped
  · rw [Map.lookup_insert_ite, if_neg (Ne.symm other)]
  · rfl

theorem logged_enter (room : Unexhausted localStore lastWriterKey) :
    Logged localStore signerId [] (enter signerId localStore) where
  above := by
    intro key entry here known old
    rw [lookup_enter, room.nextVersion_eq] at here
    split at here
    · cases here
      subst key
      simp [VersionedStore.nextVersion, Option.mem_def.mp old]
    · cases here
  writer := by simp [lookup_enter, room.nextVersion_eq]
  spared := nofun
  puts := by
    intro key notWriter _
    simp [lookup_enter, notWriter]

section

variable (logged : Logged localStore signerId history log)
include logged

theorem Logged.step (rises : write.Rises localStore log)
    (stepped : (machine localStore).step log write = some (ok, log')) :
    Logged localStore signerId (⟨log, write, ok⟩ :: history) log' where
  above := by
    intro key entry here known old
    by_cases same : write.key = key
    · subst same
      obtain ⟨rfl, later⟩ | ⟨rfl, -⟩ := machine_step rises stepped
      · rw [AList.lookup_insert] at here
        cases here
        exact later known old
      · exact logged.above _ entry here known old
    · exact logged.above key entry (lookup_other rises stepped same ▸ here) known old
  writer := (lookup_other rises stepped rises.2.1).trans logged.writer
  spared := List.forall_mem_cons.mpr ⟨rises.2.1, logged.spared⟩
  puts := by
    intro key notWriter only
    rw [List.forall_mem_cons] at only
    by_cases same : write.key = key
    · subst same
      have put : write.version = none := only.1 rfl
      obtain ⟨rfl, -⟩ | ⟨-, given, -⟩ := machine_step rises stepped
      · simp [entryVersion, put, (rises.2.2 put).nextVersion_eq]
      · exact absurd put given
    · rw [lookup_other rises stepped same, logged.puts key notWriter only.2, List.find?_cons_of_neg]
      simpa using same

theorem Logged.listed {key entry} (here : log.lookup key = some entry)
    (other : key ≠ lastWriterKey) : (key, entry) ∈ (prepare log).1 := by
  have mem : (key, entry) ∈ Cloud.listed log := mem_listing.mpr here
  unfold prepare
  split
  · rename_i single
    obtain ⟨only, all⟩ := List.length_eq_one_iff.mp single
    have writer : (lastWriterKey, _) ∈ Cloud.listed log := mem_listing.mpr logged.writer
    rw [all, List.mem_singleton] at mem writer
    exact absurd (congrArg Prod.fst (mem.trans writer.symm)) other
  · exact mem

theorem Logged.next (puts : ∀ step ∈ history, step.input.version = none) :
    ∀ entry ∈ (prepare log).1, entry.2.1 = localStore.nextVersion entry.1 := by
  intro entry mem
  have here : log.lookup entry.1 = some entry.2 := by
    unfold prepare at mem
    split at mem
    · cases mem
    · exact mem_listing.mp mem
  by_cases writer : entry.1 = lastWriterKey
  · rw [writer, logged.writer] at here
    rw [writer, ← Option.some.inj here]
  · rw [logged.puts _ writer fun step among _ => puts step among, Option.map_eq_some_iff] at here
    obtain ⟨_, _, same⟩ := here
    rw [← same]

end

/-- A transaction in which no write falls behind the log reads back what it writes, and is accepted
    by a server that takes next versions only. -/
theorem transacted_of_rises {last : Machine.Step Store Write Bool}
    (room : Unexhausted localStore lastWriterKey)
    (run : (machine localStore).Run (enter signerId localStore) (last :: history) log)
    (meets : Machine.Meets (fun _ log write => write.Rises localStore log) (last :: history)) :
    Transacted localStore last history log := by
  have logged : ∀ {history log}, (machine localStore).Run (enter signerId localStore) history log →
      Machine.Meets (fun _ log write => write.Rises localStore log) history →
      Logged localStore signerId history log := by
    intro history log run meets
    exact run.inv (Logged localStore signerId) meets (logged_enter room)
      fun _ _ _ _ _ logged rises stepped => logged.step rises stepped
  have after := logged run meets
  cases run with
  | step earlier stepped =>
    rename_i before write ok
    have before := logged earlier meets.2
    have rises := meets.1
    constructor
    · rintro rfl
      obtain ⟨rfl, -⟩ | ⟨rfl, -, same⟩ := machine_step rises stepped
      · simp [doGet]
      · have absent : log.lookup write.key = none := by
          by_contra some
          obtain ⟨entry, here⟩ := Option.ne_none_iff_exists'.mp some
          have later := before.above _ entry here _ (same rfl)
          exact absurd (rises.1 entry here) (not_le.mpr later)
        simp [doGet, absent, same rfl]
    · intro key entry here
      by_cases other : write.key = key
      · subst other
        obtain ⟨rfl, later⟩ | ⟨rfl, -⟩ := machine_step rises stepped
        · refine ⟨(write.entryVersion localStore, write.value), by simp [doGet], ?_⟩
          obtain logged | ⟨-, old⟩ := Option.or_eq_some_iff.mp here
          · exact rises.1 entry logged
          · exact (later entry old).le
        · exact ⟨entry, here, le_rfl⟩
      · exact ⟨entry, by rwa [doGet, lookup_other rises stepped other], le_rfl⟩
    · rintro key value ⟨latest, only⟩
      have notWriter : key ≠ lastWriterKey := by
        obtain ⟨step, found, -⟩ := Option.map_eq_some_iff.mp latest
        have same := List.find?_some found
        exact of_decide_eq_true same ▸ after.spared step (List.mem_of_find?_eq_some found)
      exact after.listed (by rw [after.puts key notWriter only, latest]; rfl) notWriter
    · intro puts
      simp [putNext_eq (after.next puts)]

end Write

end Vls.Cloud

namespace Vls.Cloud.Toy

def heldStore : Store := (∅ : Store).insert [7] (1, [1])

/-- Two puts of a key, each a next version of what is held. -/
theorem puts_transacted :
    ∃ last history log, Write.Transacted heldStore last history log ∧
      (prepare log).1 = [([7], 2, [3]), (lastWriterKey, 0, [9])] := by
  have ran : ∃ history log, (Write.machine heldStore).Run (enter [9] heldStore) history log ∧
      Machine.Meets (fun _ log write => write.Rises heldStore log) history ∧ history ≠ [] ∧
        (prepare log).1 = [([7], 2, [3]), (lastWriterKey, 0, [9])] :=
    Machine.exists_run [⟨[7], none, [2]⟩, ⟨[7], none, [3]⟩] (by decide +kernel)
  obtain ⟨history, log, run, meets, some, prepared⟩ := ran
  obtain ⟨last, history, rfl⟩ := List.exists_cons_of_ne_nil some
  exact ⟨last, history, log, Write.transacted_of_rises (by decide +kernel) run meets, prepared⟩

/-- The held version is written again after a put, and a put follows a later version. -/
theorem write_hidden_and_undone :
    (∃ history log, (Write.machine heldStore).Run (enter [9] heldStore) history log ∧
      (history.head?.map fun last => (last.input.version, last.input.value, last.output)) =
        some (some 1, [1], true) ∧
      doGet heldStore log [7] = some (2, [2])) ∧
    ∃ history log, (Write.machine heldStore).Run (enter [9] heldStore) history log ∧
      (history.head?.bind fun last => doGet heldStore last.before [7]) = some (5, [2]) ∧
      doGet heldStore log [7] = some (2, [3]) :=
  ⟨Machine.exists_run [⟨[7], none, [2]⟩, ⟨[7], some 1, [1]⟩] (by decide +kernel),
    Machine.exists_run [⟨[7], some 5, [2]⟩, ⟨[7], none, [3]⟩] (by decide +kernel)⟩

end Vls.Cloud.Toy
