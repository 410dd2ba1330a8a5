import Mathlib.Data.Char
import Vls.Lib.Prefix
import Vls.Lib.Trace
import Vls.Lib.VersionedStore
import Vls.Lib.Word

/-! # Local stores

The store in memory is a map. The store on disk has the versions in a cache beside its table, and
checks against the cache what is written. -/

namespace Vls.Kvv

open VersionedStore Option

abbrev Key := List Char

abbrev Value := List U8

abbrev Store := VersionedStore Key Value

abbrev Entry := VersionedEntry Key Value

/-- A put with or without a version. One without takes the next version; a delete is such a put of
    the empty value. -/
inductive Call where
  | put (key : Key) (version : Option Nat) (value : Value)
  | putBatch (kvvs : List Entry)
  | get (key : Key)
  | getVersion (key : Key)
  | getPrefix (keyPrefix : Key)

inductive LocalCall where
  | call (call : Call)
  | clearDatabase
  | resetVersions
  | reopen

inductive Answer where
  | done
  | versionMismatch
  | found (entry : Option (Nat × Value))
  | version (version : Option Nat)
  | listed (kvvs : List Entry)
  deriving DecidableEq

/-- Whether an entry is written over what there is, unless it is refused. -/
def accept (existing : Option (Nat × Value)) (entry : Nat × Value) : Option Bool :=
  match existing with
  | none => some true
  | some kept =>
    if entry.1 < kept.1 then none
    else if entry.1 = kept.1 then if kept.2 = entry.2 then some false else none
    else some true

def nextVersion (known : Option Nat) : Nat := known.elim 0 fun version => (version + 1) % 2 ^ 64

def answer {σ : Type} (s : σ) : Option σ → Answer × σ
  | some s' => (.done, s')
  | none => (.versionMismatch, s)

/-- What one store answers the other answers, and the states stay in a relation. -/
def Follows {σ τ : Type} (R : σ → τ → Prop) (other : Option (Answer × τ)) (one : Answer × σ) :
    Prop :=
  ∃ t, other = some (one.1, t) ∧ R one.2 t

namespace Memory

def putWithVersion (data : Store) (kvv : Entry) : Option Store :=
  (accept (data.lookup kvv.1) kvv.2).map fun write =>
    if write then data.insert kvv.1 kvv.2 else data

def admits (data : Store) (kvv : Entry) : Bool :=
  (accept (data.lookup kvv.1) kvv.2).isSome

def putBatch (data : Store) (kvvs : List Entry) : Option Store :=
  if kvvs.all (admits data) then some (data.insertAll kvvs) else none

def getPrefix (data : Store) (keyPrefix : Key) : List Entry :=
  ((data.listing (· ≤ ·)).filter fun kvv => keyPrefix ≤ kvv.1).takeWhile
    fun kvv => keyPrefix.isPrefixOf kvv.1

def run (data : Store) : Call → Answer × Store
  | .put key version value =>
    answer data (putWithVersion data
      (key, version.getD (nextVersion ((data.lookup key).map Prod.fst)), value))
  | .putBatch kvvs => answer data (putBatch data kvvs)
  | .get key => (.found (data.lookup key), data)
  | .getVersion key => (.version ((data.lookup key).map Prod.fst), data)
  | .getPrefix keyPrefix => (.listed (getPrefix data keyPrefix), data)

def runLocal (data : Store) : LocalCall → Answer × Store
  | .call call => run data call
  | .clearDatabase => (.done, ∅)
  | .resetVersions => (.done, data.mapValues fun entry => (0, entry.2))
  | .reopen => (.done, data)

def machine : Machine Store LocalCall Answer where
  step data call := some (runLocal data call)

end Memory

structure Redb where
  table : Store
  versions : Map Key Nat

namespace Redb

def insert (db : Redb) (kvv : Entry) : Redb :=
  ⟨db.table.insert kvv.1 kvv.2, db.versions.insert kvv.1 kvv.2.1⟩

/-- The row of a cached version is taken to be there, without it the call panics. -/
def putWithVersion (db : Redb) (kvv : Entry) : Option (Answer × Redb) :=
  match db.versions.lookup kvv.1 with
  | none => some (.done, db.insert kvv)
  | some known =>
    if kvv.2.1 < known then some (.versionMismatch, db)
    else if kvv.2.1 = known then do
      let existing ← db.table.lookup kvv.1
      some (if existing = kvv.2 then .done else .versionMismatch, db)
    else some (.done, db.insert kvv)

/-- Entries are checked against the cache as it was, and the row that is there by then. -/
def stage (versions : Map Key Nat) (staged : Redb × Bool) (kvv : Entry) : Option (Redb × Bool) :=
  match versions.lookup kvv.1 with
  | none => some (staged.1.insert kvv, staged.2)
  | some known =>
    if kvv.2.1 < known then some (staged.1.insert kvv, true)
    else if kvv.2.1 = known then do
      let existing ← staged.1.table.lookup kvv.1
      some (staged.1, staged.2 || existing ≠ kvv.2)
    else some (staged.1.insert kvv, staged.2)

def putBatch (db : Redb) (kvvs : List Entry) : Option (Answer × Redb) := do
  let staged ← kvvs.foldlM (stage db.versions) (db, false)
  some (if staged.2 then (.versionMismatch, db) else (.done, staged.1))

def resetVersions (db : Redb) : Option (Answer × Redb) :=
  if ∀ key ∈ db.versions.keys, (db.table.lookup key).isSome then
    some (.done,
      ⟨db.versions.keys.foldl (fun table key => table.modify key fun entry => (0, entry.2))
        db.table, db.versions.mapValues fun _ => 0⟩)
  else none

def run (db : Redb) : Call → Option (Answer × Redb)
  | .put key version value =>
    db.putWithVersion (key, version.getD (nextVersion (db.versions.lookup key)), value)
  | .putBatch kvvs => db.putBatch kvvs
  | .get key => some (.found (db.table.lookup key), db)
  | .getVersion key => some (.version (db.versions.lookup key), db)
  | .getPrefix keyPrefix => some (.listed (Memory.getPrefix db.table keyPrefix), db)

/-- The cache is loaded when the file is opened, and is not cleared with the table. -/
def runLocal (db : Redb) : LocalCall → Option (Answer × Redb)
  | .call call => db.run call
  | .clearDatabase => some (.done, { db with table := ∅ })
  | .resetVersions => db.resetVersions
  | .reopen => some (.done, { db with versions := db.table.mapValues Prod.fst })

def machine : Machine Redb LocalCall Answer where
  step := runLocal

end Redb

variable {data data' : Store} {keyPrefix : Key} {kvv : Entry} {kvvs : List Entry}

theorem pairwise_listing (data : Store) : (data.listing (· ≤ ·)).Pairwise fun a b => a.1 < b.1 :=
  Prefix.pairwise_sortByKey (by rw [List.map_map]; exact data.nodupKeys)

theorem pairwise_getPrefix : (Memory.getPrefix data keyPrefix).Pairwise fun a b => a.1 < b.1 :=
  ((pairwise_listing data).filter _).sublist (List.takeWhile_sublist _)

theorem mem_getPrefix : kvv ∈ Memory.getPrefix data keyPrefix ↔
    data.lookup kvv.1 = some kvv.2 ∧ keyPrefix <+: kvv.1 := by
  rw [Memory.getPrefix, Prefix.takeWhile_eq_filter ((pairwise_listing data).filter _) (by simp)]
  simp only [List.mem_filter, mem_listing, decide_eq_true_eq, List.isPrefixOf_iff_prefix, and_assoc]
  exact and_congr_right fun _ => and_iff_right_of_imp Prefix.le_of_isPrefix

theorem getPrefix_congr (same : ∀ key, data.lookup key = data'.lookup key) :
    Memory.getPrefix data keyPrefix = Memory.getPrefix data' keyPrefix :=
  Prefix.listing_unique pairwise_getPrefix pairwise_getPrefix fun kvv => by
    rw [mem_getPrefix, mem_getPrefix, same]

/-- An entry of a batch that repeats what is stored does not follow another one for its key. -/
def InOrder (data : Store) (earlier later : Entry) : Prop :=
  earlier.1 = later.1 → data.lookup later.1 = some later.2 → earlier.2 = later.2
  deriving Decidable

/-- A row that is not as it was before has another version. -/
def Replaced (before data : Store) : Prop :=
  ∀ key, ∀ kept ∈ before.lookup key, ∃ row ∈ data.lookup key, row = kept ∨ row.1 ≠ kept.1

theorem Replaced.insert {before} (replaced : Replaced before data) (kvv : Entry)
    (differ : ∀ kept ∈ before.lookup kvv.1, kvv.2.1 ≠ kept.1) :
    Replaced before (data.insert kvv.1 kvv.2) := by
  intro key kept here
  rw [Map.lookup_insert_ite]
  split
  · rename_i same
    exact ⟨kvv.2, rfl, .inr (differ kept (same ▸ here))⟩
  · exact replaced key kept here

/-- The table has what the store in memory has, and the cache has the versions of the table. -/
structure Mirrors (data : Store) (db : Redb) : Prop where
  same : ∀ key, db.table.lookup key = data.lookup key
  cached : ∀ key, db.versions.lookup key = (db.table.lookup key).map Prod.fst

namespace Mirrors

variable {db : Redb}

theorem congr (mirrors : Mirrors data db) (same : ∀ key, data.lookup key = data'.lookup key) :
    Mirrors data' db :=
  ⟨fun key => (mirrors.same key).trans (same key), mirrors.cached⟩

theorem insert (mirrors : Mirrors data db) (kvv : Entry) :
    Mirrors (data.insert kvv.1 kvv.2) (db.insert kvv) := by
  constructor <;> intro key <;> simp only [Redb.insert, Map.lookup_insert_ite]
  · rw [mirrors.same]
  · split
    · rfl
    · exact mirrors.cached key

theorem versions (mirrors : Mirrors data db) (key : Key) :
    db.versions.lookup key = (data.lookup key).map Prod.fst := by
  rw [mirrors.cached, mirrors.same]

theorem eq_iff_of_version {entry kept : Nat × Value} (equal : entry.1 = kept.1) :
    kept = entry ↔ kept.2 = entry.2 :=
  Prod.ext_iff.trans (and_iff_right equal.symm)

theorem putWithVersion (mirrors : Mirrors data db) (kvv : Entry) :
    Follows Mirrors (db.putWithVersion kvv) (answer data (Memory.putWithVersion data kvv)) := by
  have inserted := mirrors.insert kvv
  unfold Redb.putWithVersion Memory.putWithVersion accept
  rw [mirrors.versions, mirrors.same]
  cases data.lookup kvv.1 with
  | none => exact ⟨_, rfl, inserted⟩
  | some kept =>
    simp only [map_some]
    split
    · exact ⟨db, rfl, mirrors⟩
    · split
      · rename_i equal
        simp only [bind_eq_bind, bind_some, eq_iff_of_version equal]
        split <;> exact ⟨db, rfl, mirrors⟩
      · exact ⟨_, rfl, inserted⟩

variable {before : Store} {versions : Map Key Nat} {bad : Bool}

theorem stage (cached : ∀ key, versions.lookup key = (before.lookup key).map Prod.fst)
    (repeats : before.lookup kvv.1 = some kvv.2 → data.lookup kvv.1 = some kvv.2)
    (replaced : Replaced before data) (mirrors : Mirrors data db) :
    ∃ db' data', Redb.stage versions (db, bad) kvv = some (db', bad || !Memory.admits before kvv) ∧
      Mirrors data' db' ∧ Replaced before data' ∧
      (∀ key ≠ kvv.1, data'.lookup key = data.lookup key) ∧
      (Memory.admits before kvv → data'.lookup kvv.1 = some kvv.2) := by
  have others : ∀ key ≠ kvv.1, (data.insert kvv.1 kvv.2).lookup key = data.lookup key :=
    fun key other => by rw [Map.lookup_insert_ite, if_neg other]
  have inserted := mirrors.insert kvv
  have replaced' := replaced.insert kvv
  unfold Redb.stage Memory.admits accept
  rw [cached]
  cases here : before.lookup kvv.1 with
  | none => exact ⟨_, _, by simp, inserted, replaced' (by simp [here]), others, by simp⟩
  | some kept =>
    simp only [map_some]
    split
    · rename_i less
      exact ⟨_, _, by simp, inserted, replaced' (by simp [here, less.ne]), others, nofun⟩
    · split
      · rename_i equal
        obtain ⟨row, there, since⟩ := replaced kvv.1 kept here
        rw [mem_def] at there
        by_cases same : kept = kvv.2
        · have again := repeats (here.trans (congrArg some same))
          exact ⟨db, data, by simp [mirrors.same, again, same], mirrors, replaced, fun _ _ => rfl,
            fun _ => again⟩
        · have differ := mt (eq_iff_of_version equal).mpr same
          have other : row ≠ kvv.2 := by
            rintro rfl
            exact since.elim (same ∘ Eq.symm) (absurd equal)
          exact ⟨db, data, by simp [mirrors.same, there, other, differ], mirrors, replaced,
            fun _ _ => rfl, by simp [differ]⟩
      · rename_i differ
        exact ⟨_, _, by simp, inserted, replaced' (by simp [here, differ]), others, by simp⟩

/-- The row that an entry is compared with is the one from before the batch, or newer. -/
theorem stageAll (inOrder : kvvs.Pairwise (InOrder before))
    (cached : ∀ key, versions.lookup key = (before.lookup key).map Prod.fst)
    (repeats : ∀ kvv ∈ kvvs, before.lookup kvv.1 = some kvv.2 → data.lookup kvv.1 = some kvv.2)
    (replaced : Replaced before data) (mirrors : Mirrors data db) :
    ∃ db', kvvs.foldlM (Redb.stage versions) (db, bad) =
        some (db', bad || !kvvs.all (Memory.admits before)) ∧
      (kvvs.all (Memory.admits before) → Mirrors (data.insertAll kvvs) db') := by
  induction kvvs generalizing data db bad with
  | nil => exact ⟨db, by simp, fun _ => mirrors⟩
  | cons kvv rest ih =>
    obtain ⟨first, inOrder⟩ := List.pairwise_cons.mp inOrder
    obtain ⟨here, repeats⟩ := List.forall_mem_cons.mp repeats
    obtain ⟨db₁, data₁, staged, mirrors₁, replaced₁, others, written⟩ :=
      mirrors.stage cached here replaced
    have repeats₁ : ∀ kvv' ∈ rest, before.lookup kvv'.1 = some kvv'.2 →
        data₁.lookup kvv'.1 = some kvv'.2 := by
      intro kvv' mem stored
      by_cases same : kvv.1 = kvv'.1
      · have equal := first kvv' mem same stored
        rw [← same, ← equal] at stored ⊢
        exact written (by simp [Memory.admits, accept, stored])
      · rw [others _ (Ne.symm same)]
        exact repeats kvv' mem stored
    obtain ⟨db', all, mirrors'⟩ := ih inOrder repeats₁ replaced₁ mirrors₁
    refine ⟨db', ?_, fun admitted => ?_⟩
    · rw [List.foldlM_cons, staged, List.all_cons, Bool.not_and, ← Bool.or_assoc]
      exact all
    · rw [List.all_cons, Bool.and_eq_true] at admitted
      refine (mirrors' admitted.2).congr (lookup_insertAll_congr fun key => ?_)
      rw [Map.lookup_insert_ite]
      split
      · rename_i same
        rw [same, written admitted.1]
      · rename_i same
        exact others key same

theorem putBatch (mirrors : Mirrors data db) (inOrder : kvvs.Pairwise (InOrder data)) :
    Follows Mirrors (db.putBatch kvvs) (answer data (Memory.putBatch data kvvs)) := by
  obtain ⟨db', staged, mirrors'⟩ := mirrors.stageAll inOrder mirrors.versions
    (fun _ _ stored => stored) fun _ kept here => ⟨kept, here, .inl rfl⟩
  unfold Redb.putBatch Memory.putBatch
  rw [staged]
  split
  · rename_i admitted
    exact ⟨db', by simp [admitted, answer], mirrors' admitted⟩
  · rename_i refused
    exact ⟨db, by simp [refused, answer], mirrors⟩

theorem resetVersions (mirrors : Mirrors data db) :
    Follows Mirrors db.resetVersions (.done, data.mapValues fun entry => (0, entry.2)) := by
  have known : ∀ key, key ∈ db.versions.keys ↔ (db.table.lookup key).isSome := by
    intro key
    rw [← AList.mem_keys, Map.mem_of_lookup, mirrors.cached, isSome_map]
  have reset : ∀ key, (db.versions.keys.foldl
      (fun table key => table.modify key fun entry => (0, entry.2)) db.table).lookup key
        = (db.table.lookup key).map fun entry => (0, entry.2) := by
    intro key
    rw [Map.lookup_foldl_modify _ db.versions.keys_nodup fun _ entry => (0, entry.2)]
    split
    · rfl
    · rename_i unknown
      rw [known, not_isSome_iff_eq_none] at unknown
      rw [unknown, map_none]
  refine ⟨_, if_pos fun key mem => (known key).mp mem, fun key => ?_, fun key => ?_⟩
  · rw [reset, Map.lookup_mapValues, mirrors.same]
  · rw [reset, Map.lookup_mapValues, mirrors.cached]
    simp [Function.comp_def]

theorem run (mirrors : Mirrors data db) {call}
    (plain : ∀ kvvs, call = .putBatch kvvs → kvvs.Pairwise (InOrder data)) :
    Follows Mirrors (db.run call) (Memory.run data call) := by
  cases call with
  | put key version value =>
    rw [Redb.run, mirrors.versions]
    exact mirrors.putWithVersion _
  | putBatch kvvs => exact mirrors.putBatch (plain kvvs rfl)
  | get key => exact ⟨db, by rw [Redb.run, mirrors.same]; rfl, mirrors⟩
  | getVersion key => exact ⟨db, by rw [Redb.run, mirrors.versions]; rfl, mirrors⟩
  | getPrefix keyPrefix => exact ⟨db, by rw [Redb.run, getPrefix_congr mirrors.same]; rfl, mirrors⟩

end Mirrors

/-- The entries of a batch are in order, and the database is cleared only when there is nothing in
    it. -/
def Plain (data : Store) : LocalCall → Prop
  | .call (.putBatch kvvs) => kvvs.Pairwise (InOrder data)
  | .clearDatabase => data.keys = []
  | _ => True

instance (data : Store) (call : LocalCall) : Decidable (Plain data call) := by
  unfold Plain
  split <;> infer_instance

theorem lookup_of_keys_nil (empty : data.keys = []) (key : Key) : data.lookup key = none := by
  rw [AList.lookup_eq_none, AList.mem_keys, empty]
  exact List.not_mem_nil

/-- The store on disk goes through the calls of the store in memory with the same answers. -/
theorem redb_as_memory {history} (run : Memory.machine.Run ∅ history data)
    (plain : Machine.Meets (fun _ => Plain) history) :
    ∃ history' db, Redb.machine.Run ⟨∅, ∅⟩ history' db ∧
      Machine.exchanges history' = Machine.exchanges history ∧ Mirrors data db := by
  refine run.simulated Mirrors plain ⟨fun _ => rfl, fun _ => rfl⟩ ?_
  intro data db call answer data' mirrors plain stepped
  obtain ⟨rfl, rfl⟩ := Prod.ext_iff.mp (some.inj stepped)
  cases call with
  | call call => exact mirrors.run fun kvvs same => by subst same; exact plain
  | clearDatabase =>
    refine ⟨_, rfl, fun key => rfl, fun key => ?_⟩
    exact (mirrors.versions key).trans (by rw [lookup_of_keys_nil plain]; rfl)
  | resetVersions => exact mirrors.resetVersions
  | reopen => exact ⟨_, rfl, mirrors.same, fun key => Map.lookup_mapValues ..⟩

end Vls.Kvv

namespace Vls.Kvv.Toy

theorem puts_alike :
    ∃ history data history' db, Memory.machine.Run ∅ history data ∧ history.length = 5 ∧
      Redb.machine.Run ⟨∅, ∅⟩ history' db ∧
      Machine.exchanges history' = Machine.exchanges history ∧ Mirrors data db := by
  have ran : ∃ history data, Memory.machine.Run ∅ history data ∧
      Machine.Meets (fun _ => Plain) history ∧ history.length = 5 :=
    Machine.exists_run [.clearDatabase, .call (.put ['k'] none [1]),
      .call (.putBatch [(['k'], 1, [2]), (['l'], 0, [])]), .resetVersions, .reopen]
      (by decide +kernel)
  obtain ⟨history, data, run, plain, long⟩ := ran
  obtain ⟨history', db, run', same, mirrors⟩ := redb_as_memory run plain
  exact ⟨history, data, history', db, run, long, run', same, mirrors⟩

def answers {σ ι : Type} (m : Machine σ ι Answer) (start : σ) (calls : List ι) :
    Option (List Answer) :=
  (m.exec [] start calls).map fun outcome => outcome.1.map Machine.Step.output

def staleCache : List LocalCall :=
  [.call (.put ['k'] none [1]), .clearDatabase, .call (.put ['k'] (some 0) [1])]

def keyTwice : List LocalCall :=
  [.call (.put ['k'] none [1]), .call (.putBatch [(['k'], 1, [2]), (['k'], 0, [1])])]

/-- The cache outlives a clear, so that a put panics; and the second entry of a batch for one key
    is compared with the first. -/
theorem stores_differ :
    answers Memory.machine ∅ staleCache = some [.done, .done, .done] ∧
      answers Redb.machine ⟨∅, ∅⟩ staleCache = none ∧
      answers Memory.machine ∅ keyTwice = some [.done, .done] ∧
      answers Redb.machine ⟨∅, ∅⟩ keyTwice = some [.versionMismatch, .done] := by
  decide +kernel

end Vls.Kvv.Toy
