import Vls.Storage.FullKey

/-! # The redb back end

One table under full keys. A put compares every version under one write transaction and then
inserts all the values; a read scans the table from the prefix on. -/

namespace Vls.Storage

abbrev RedbDatabase := Map Key Value

namespace RedbDatabase

/-- The version a put has to give, as the code computes it, and the value stored now. -/
def nextVersion (db : RedbDatabase) (key : Key) : I64 × Option Value :=
  match db.lookup key with
  | some existing => (existing.version + 1, some existing)
  | none => (0, none)

def conflicts (db : RedbDatabase) (clientId : ClientId) (kvs : List (Key × Value)) :
    List (Key × Option Value) :=
  kvs.filterMap fun kv =>
    let next := db.nextVersion (fullKey clientId kv.1)
    if kv.2.version ≠ next.1 then some (kv.1, next.2) else none

def insertAll (db : RedbDatabase) (clientId : ClientId) (kvs : List (Key × Value)) :
    RedbDatabase :=
  kvs.foldl (fun db kv => db.insert (fullKey clientId kv.1) kv.2) db

def doPut (db : RedbDatabase) (clientId : ClientId) (kvs : List (Key × Value)) :
    List (Key × Option Value) × RedbDatabase :=
  if db.conflicts clientId kvs ≠ [] then (db.conflicts clientId kvs, db)
  else ([], db.insertAll clientId kvs)

def put (db : RedbDatabase) (clientId : ClientId) (kvs : List (Key × Value)) :
    Response × RedbDatabase :=
  let result := db.doPut clientId kvs
  if result.1 ≠ [] then (.conflict result.1, result.2) else (.ok, result.2)

/-- The scan of the table from a full prefix on, up to the first key without it. -/
def doGet (db : RedbDatabase) (clientId : ClientId) (fullPrefix : Key) : List (Key × Value) :=
  let range := (Prefix.sortByKey (· ≤ ·) (rows db)).filter fun row => fullPrefix ≤ row.1
  (range.takeWhile fun row => fullPrefix.isPrefixOf row.1).map
    fun row => (keySuffix clientId row.1, row.2)

def getWithPrefix (db : RedbDatabase) (clientId : ClientId) (keyPrefix : Key) : Response :=
  .values (db.doGet clientId (fullKey clientId keyPrefix))

def serve (db : RedbDatabase) : Request → Response × RedbDatabase
  | .put clientId kvs => db.put clientId kvs
  | .getWithPrefix clientId keyPrefix => (db.getWithPrefix clientId keyPrefix, db)

/-- No counter is at the end of its type, past which the next version wraps around. -/
def Countable (db : RedbDatabase) : Prop :=
  ∀ key value, db.lookup key = some value → value.version ≠ lastVersion

variable {db : RedbDatabase} {clientId : ClientId} {kvs : List (Key × Value)}

theorem version_eq_next_iff (countable : db.Countable) (kv : Key × Value) :
    kv.2.version = (db.nextVersion (fullKey clientId kv.1)).1 ↔
      (viewOf id db).InOrder clientId kv := by
  simp only [nextVersion, Store.InOrder, Store.nextVersion, viewOf, Option.map_id, id]
  cases found : db.lookup (fullKey clientId kv.1) with
  | none => exact BitVec.toInt_inj.symm
  | some existing =>
    simp only
    rw [← toInt_add_one (countable _ _ found)]
    exact BitVec.toInt_inj.symm

theorem nextVersion_existing (key : Key) :
    (db.nextVersion (fullKey clientId key)).2 = viewOf id db clientId key := by
  simp only [nextVersion, viewOf, Option.map_id, id]
  cases db.lookup (fullKey clientId key) <;> rfl

theorem conflicts_eq_faults (countable : db.Countable) :
    db.conflicts clientId kvs = (viewOf id db).faults clientId kvs := by
  unfold conflicts Store.faults
  congr
  funext kv
  simp [version_eq_next_iff countable, nextVersion_existing]

theorem viewOf_insertAll :
    viewOf id (db.insertAll clientId kvs) = (viewOf id db).writeAll clientId kvs := by
  induction kvs generalizing db with
  | nil => rfl
  | cons kv rest ih =>
    calc viewOf id (insertAll (db.insert (fullKey clientId kv.1) kv.2) clientId rest)
        = (viewOf id (db.insert (fullKey clientId kv.1) kv.2)).writeAll clientId rest := ih
      _ = ((viewOf id db).write clientId kv).writeAll clientId rest := by
            rw [viewOf_insert]
            rfl

theorem Countable.insertAll (countable : db.Countable)
    (counted : ∀ kv ∈ kvs, kv.2.version ≠ lastVersion) : (db.insertAll clientId kvs).Countable := by
  induction kvs generalizing db with
  | nil => exact countable
  | cons kv rest ih =>
    refine ih ?_ fun kv mem => counted kv (.tail _ mem)
    intro key value found
    rw [Map.lookup_insert_ite] at found
    split at found
    · cases found
      exact counted kv (.head _)
    · exact countable key value found

/-- The scan stops where the prefix ends, and the prefix is the least key that has it. -/
theorem doGet_eq (keyPrefix : Key) :
    db.doGet clientId (fullKey clientId keyPrefix) = prefixRows id db clientId keyPrefix := by
  have sorted := Prefix.pairwise_sortByKey (nodup_rows db)
  unfold doGet prefixRows
  simp only
  rw [Prefix.takeWhile_eq_filter (sorted.filter _)
    fun entry mem => of_decide_eq_true (List.mem_filter.mp mem).2, List.filter_filter]
  congr 2
  funext row
  by_cases starts : (fullKey clientId keyPrefix).isPrefixOf row.1
  · have above := Prefix.le_of_isPrefix (List.isPrefixOf_iff_prefix.mp starts)
    simp [starts, above]
  · simp [starts]

/-- What a put has to respect: the last version has no successor. -/
def Fits : Request → Prop
  | .put _ kvs => ∀ kv ∈ kvs, kv.2.version ≠ lastVersion
  | .getWithPrefix _ _ => True

theorem serve_answers (countable : db.Countable) {request} (fits : Fits request) :
    (db.serve request).2.Countable ∧
      (viewOf id db).Answers request (db.serve request).1 (viewOf id (db.serve request).2) := by
  cases request with
  | put clientId kvs =>
    have same : db.conflicts clientId kvs = (viewOf id db).faults clientId kvs :=
      conflicts_eq_faults countable
    simp only [serve, put, doPut]
    by_cases clear : (viewOf id db).faults clientId kvs = []
    · simp only [same, clear, ne_eq, not_true_eq_false, if_false]
      rw [viewOf_insertAll]
      exact ⟨countable.insertAll fits, .accepted (Store.faults_eq_nil_iff.mp clear)⟩
    · simp only [same, clear, ne_eq, not_false_eq_true, if_true]
      exact ⟨countable, .refused fun inOrder => clear (Store.faults_eq_nil_iff.mpr inOrder)⟩
  | getWithPrefix clientId keyPrefix =>
    refine ⟨countable, ?_⟩
    simp only [serve, getWithPrefix, doGet_eq]
    exact .read (isReading_prefixRows id db clientId keyPrefix)

end RedbDatabase

end Vls.Storage
