import Vls.Storage.FullKey

/-! # The postgres back end

A put runs one statement for each value under one transaction, an `INSERT` for version 0 and an
`UPDATE` of the version before it otherwise, and takes the values whose statement changed no row for
conflicts. A read selects the keys that are `LIKE` the prefix followed by a percent sign. What the
server does with a statement (`execute`) and with a pattern (`like`) is assumed. -/

namespace Vls.Storage

open List

variable {keyPrefix key : Key} {kv : Key × Value} {kvs : List (Key × Value)}

abbrev PostgresDatabase := Map (ClientId × Key) Value

inductive LikePart where
  | anyText
  | anyLetter
  | letter (c : Char)
deriving DecidableEq

/-- A percent sign stands for any text, an underscore for any character, and a backslash takes the
    next character as it is. (A pattern that ends in a lone backslash is an error there.) -/
def likeParts : List Char → List LikePart
  | [] => []
  | c :: pattern =>
    if c = '%' then .anyText :: likeParts pattern
    else if c = '_' then .anyLetter :: likeParts pattern
    else if c = '\\' then
      match pattern with
      | escaped :: pattern => .letter escaped :: likeParts pattern
      | [] => []
    else .letter c :: likeParts pattern

def likeMatches : List LikePart → List Char → Bool
  | [], text => text.isEmpty
  | .anyText :: parts, text => text.tails.any fun rest => likeMatches parts rest
  | .anyLetter :: _, [] => false
  | .anyLetter :: parts, _ :: rest => likeMatches parts rest
  | .letter _ :: _, [] => false
  | .letter c :: parts, first :: rest => c == first && likeMatches parts rest

def like (pattern text : List Char) : Bool :=
  likeMatches (likeParts pattern) text

/-- The characters that `LIKE` does not take as they are. -/
def wildcards : List Char := ['%', '_', '\\']

theorem likeParts_letter {c} (plain : c ∉ wildcards) (pattern : List Char) :
    likeParts (c :: pattern) = .letter c :: likeParts pattern := by
  simp only [wildcards, mem_cons, not_mem_nil, or_false, not_or] at plain
  rw [likeParts.eq_def]
  simp only [if_neg plain.1, if_neg plain.2.1, if_neg plain.2.2]

theorem like_prefix (plain : ∀ c ∈ keyPrefix, c ∉ wildcards) (text : List Char) :
    like (keyPrefix ++ ['%']) text = keyPrefix.isPrefixOf text := by
  unfold like
  induction keyPrefix generalizing text with
  | nil =>
    have : likeParts ['%'] = [.anyText] := by decide
    simp only [nil_append, this, likeMatches, isPrefixOf, any_eq_true, mem_tails]
    exact ⟨[], nil_suffix, rfl⟩
  | cons c keyPrefix ih =>
    rw [cons_append, likeParts_letter (plain c (.head _))]
    cases text with
    | nil => rfl
    | cons first rest => simp only [likeMatches, isPrefixOf, ih fun c mem => plain c (.tail _ mem)]

namespace PostgresDatabase

/-- Text with a zero character cannot be sent to the database. -/
def ValidText (text : List Char) : Prop := '\x00' ∉ text
  deriving Decidable

/-- One statement of a put: whether it has changed a row, or nothing if it has failed. The
    subtraction in the `UPDATE` is checked. -/
def execute (db : PostgresDatabase) (clientId : ClientId) (kv : Key × Value) :
    Option (Bool × PostgresDatabase) :=
  if ¬ ValidText kv.1 then none
  else if kv.2.version = 0 then
    match db.lookup (clientId, kv.1) with
    | none => some (true, db.insert (clientId, kv.1) ⟨0, kv.2.value⟩)
    | some _ => some (false, db)
  else if kv.2.version = BitVec.intMin 64 then none
  else
    match db.lookup (clientId, kv.1) with
    | some existing =>
      if existing.version = kv.2.version - 1 then
        some (true, db.insert (clientId, kv.1) ⟨kv.2.version, kv.2.value⟩)
      else some (false, db)
    | none => some (false, db)

def executeAll (clientId : ClientId) :
    PostgresDatabase → List (Key × Value) → Option (List Bool × PostgresDatabase)
  | db, [] => some ([], db)
  | db, kv :: rest => do
    let (changed, db) ← db.execute clientId kv
    let (results, db) ← executeAll clientId db rest
    return (changed :: results, db)

/-- The rows of the statements that changed nothing, as the transaction sees them at its end. -/
def conflicts (db : PostgresDatabase) (clientId : ClientId) (results : List Bool)
    (kvs : List (Key × Value)) : List (Key × Option Value) :=
  (results.zip kvs).filterMap fun result =>
    if result.1 then none else some (result.2.1, db.lookup (clientId, result.2.1))

def put (db : PostgresDatabase) (clientId : ClientId) (kvs : List (Key × Value)) :
    Response × PostgresDatabase :=
  match executeAll clientId db kvs with
  | none => (.databaseError, db)
  | some (results, changed) =>
    let conflicts := changed.conflicts clientId results kvs
    if conflicts ≠ [] then (.conflict conflicts, db) else (.ok, changed)

def getWithPrefix (collate : Key → Key → Bool) (db : PostgresDatabase) (clientId : ClientId)
    (keyPrefix : Key) : Response :=
  if ¬ ValidText keyPrefix then .databaseError
  else
    let selected := (rows db).filter fun row =>
      row.1.1 = clientId && like (keyPrefix ++ ['%']) row.1.2
    .values (Prefix.sortByKey (fun a b => collate a b) (selected.map fun row => (row.1.2, row.2)))

def serve (collate : Key → Key → Bool) (db : PostgresDatabase) :
    Request → Response × PostgresDatabase
  | .put clientId kvs => db.put clientId kvs
  | .getWithPrefix clientId keyPrefix => (db.getWithPrefix collate clientId keyPrefix, db)

def view (db : PostgresDatabase) : Store := fun clientId key => db.lookup (clientId, key)

variable {db : PostgresDatabase} {clientId : ClientId}

theorem view_insert (key : Key) (value : Value) :
    view (db.insert (clientId, key) value) = db.view.write clientId (key, value) := by
  funext clientId' key'
  simp [view, Store.write, Map.lookup_insert_ite]

def Executable (kv : Key × Value) : Prop :=
  ValidText kv.1 ∧ kv.2.version ≠ BitVec.intMin 64

theorem toInt_sub_one {v} (more : v ≠ BitVec.intMin 64) : (v - 1).toInt = v.toInt - 1 := by
  have more : v.toNat ≠ 2 ^ 63 := fun same =>
    more (BitVec.eq_of_toNat_eq (same.trans (by decide)))
  have bound := v.isLt
  simp only [BitVec.toInt_eq_toNat_cond, BitVec.toNat_sub, show (1 : I64).toNat = 1 from rfl]
  split <;> split <;> omega

theorem execute_eq (counted : db.view.Counted) (executable : Executable kv) :
    db.execute clientId kv =
      if db.view.InOrder clientId kv then some (true, db.insert (clientId, kv.1) kv.2)
      else some (false, db) := by
  obtain ⟨valid, inRange⟩ := executable
  rw [execute, if_neg (not_not.mpr valid)]
  cases found : db.lookup (clientId, kv.1) with
  | none =>
    have inOrder_iff : db.view.InOrder clientId kv ↔ kv.2.version = 0 :=
      Store.inOrder_of_none found
    by_cases new : kv.2.version = 0
    · rw [if_pos new, if_pos (inOrder_iff.mpr new), ← new]
    · rw [if_neg new, if_neg inRange, if_neg (mt inOrder_iff.mp new)]
  | some existing =>
    have inOrder_iff : db.view.InOrder clientId kv ↔
        kv.2.version.toInt = existing.version.toInt + 1 := Store.inOrder_of_some found
    have least := counted clientId kv.1 existing found
    by_cases new : kv.2.version = 0
    · have fault : ¬ db.view.InOrder clientId kv := by
        rw [inOrder_iff, new, show (0 : I64).toInt = 0 from rfl]
        omega
      rw [if_pos new, if_neg fault]
    · have same_iff : existing.version = kv.2.version - 1 ↔ db.view.InOrder clientId kv := by
        rw [inOrder_iff, ← BitVec.toInt_inj, toInt_sub_one inRange]
        omega
      rw [if_neg new, if_neg inRange]
      simp only [same_iff]

def after (db : PostgresDatabase) (clientId : ClientId) (kv : Key × Value) : PostgresDatabase :=
  if db.view.InOrder clientId kv then db.insert (clientId, kv.1) kv.2 else db

theorem view_after_of_ne (other : key ≠ kv.1) :
    (db.after clientId kv).view clientId key = db.view clientId key := by
  unfold after
  split
  · rw [view_insert]
    exact if_neg fun both => other both.2
  · rfl

theorem view_after_of_inOrder (inOrder : db.view.InOrder clientId kv) :
    (db.after clientId kv).view = db.view.write clientId kv := by
  rw [after, if_pos inOrder, view_insert]

theorem counted_after (counted : db.view.Counted) (clientId : ClientId) (kv : Key × Value) :
    (db.after clientId kv).view.Counted := by
  by_cases inOrder : db.view.InOrder clientId kv
  · rw [view_after_of_inOrder inOrder]
    refine counted.write ?_
    rw [inOrder]
    exact counted.nextVersion_nonneg kv.1
  · rwa [after, if_neg inOrder]

/-- With no key twice, each statement finds its row as the transaction has found it, and a row
    whose statement changed nothing is still as it was at the end. -/
theorem executeAll_eq (counted : db.view.Counted) (apart : (kvs.map Prod.fst).Nodup)
    (executable : ∀ kv ∈ kvs, Executable kv) :
    executeAll clientId db kvs =
      some (kvs.map fun kv => decide (db.view.InOrder clientId kv),
        kvs.foldl (fun db kv => db.after clientId kv) db) := by
  induction kvs generalizing db with
  | nil => rfl
  | cons kv rest ih =>
    obtain ⟨absent, apart⟩ := nodup_cons.mp apart
    have first : db.execute clientId kv
        = some (decide (db.view.InOrder clientId kv), db.after clientId kv) := by
      rw [execute_eq counted (executable kv (.head _)), after]
      split <;> simp [*]
    have later :=
      ih (counted_after counted clientId kv) apart fun kv mem => executable kv (.tail _ mem)
    have same : (rest.map fun kv' => decide ((db.after clientId kv).view.InOrder clientId kv'))
        = rest.map fun kv' => decide (db.view.InOrder clientId kv') := by
      refine map_congr_left fun kv' mem => decide_eq_decide.mpr (Store.inOrder_congr ?_)
      exact view_after_of_ne fun same => absent (same ▸ mem_map_of_mem mem)
    simp only [executeAll, first, Option.bind_eq_bind, Option.bind_some, later, same,
      map_cons, foldl_cons]
    rfl

theorem view_foldl_after_of_notMem (absent : key ∉ kvs.map Prod.fst) :
    view (kvs.foldl (fun db kv => db.after clientId kv) db) clientId key
      = db.view clientId key := by
  induction kvs generalizing db with
  | nil => rfl
  | cons kv rest ih =>
    rw [map_cons, mem_cons, not_or] at absent
    exact (ih absent.2).trans (view_after_of_ne absent.1)

theorem view_foldl_after_of_fault (apart : (kvs.map Prod.fst).Nodup) (mem : kv ∈ kvs)
    (fault : ¬ db.view.InOrder clientId kv) :
    view (kvs.foldl (fun db kv => db.after clientId kv) db) clientId kv.1
      = db.view clientId kv.1 := by
  induction kvs generalizing db with
  | nil => cases mem
  | cons first rest ih =>
    obtain ⟨absent, apart⟩ := nodup_cons.mp apart
    rw [foldl_cons]
    obtain rfl | mem := mem_cons.mp mem
    · rw [view_foldl_after_of_notMem absent, after, if_neg fault]
    · have other : kv.1 ≠ first.1 := fun same => absent (same ▸ mem_map_of_mem mem)
      have same : (db.after clientId first).view clientId kv.1 = db.view clientId kv.1 :=
        view_after_of_ne other
      exact (ih apart mem (mt (Store.inOrder_congr same).mp fault)).trans same

theorem view_foldl_after_of_inOrder (apart : (kvs.map Prod.fst).Nodup)
    (inOrder : ∀ kv ∈ kvs, db.view.InOrder clientId kv) :
    view (kvs.foldl (fun db kv => db.after clientId kv) db) = db.view.writeAll clientId kvs := by
  induction kvs generalizing db with
  | nil => rfl
  | cons first rest ih =>
    obtain ⟨absent, apart⟩ := nodup_cons.mp apart
    have rest_inOrder : ∀ kv ∈ rest, (db.after clientId first).view.InOrder clientId kv := by
      intro kv mem
      refine (Store.inOrder_congr (view_after_of_ne ?_)).mpr (inOrder kv (.tail _ mem))
      exact fun same => absent (same ▸ mem_map_of_mem mem)
    rw [foldl_cons, ih apart rest_inOrder, view_after_of_inOrder (inOrder first (.head _))]
    rfl

theorem conflicts_eq_faults {changed : PostgresDatabase}
    (kept : ∀ kv ∈ kvs, ¬ db.view.InOrder clientId kv →
      changed.view clientId kv.1 = db.view clientId kv.1) :
    changed.conflicts clientId (kvs.map fun kv => decide (db.view.InOrder clientId kv)) kvs
      = db.view.faults clientId kvs := by
  induction kvs with
  | nil => rfl
  | cons kv rest ih =>
    have later := ih fun kv mem => kept kv (.tail _ mem)
    simp only [conflicts, Store.faults] at later ⊢
    rw [map_cons, zip_cons_cons, filterMap_cons, filterMap_cons, later]
    by_cases inOrder : db.view.InOrder clientId kv
    · simp [inOrder]
    · have here : changed.lookup (clientId, kv.1) = db.view clientId kv.1 :=
        kept kv (.head _) inOrder
      simp [inOrder, here]

/-- What a request has to respect: a put names no key twice and its statements can be executed; a
    prefix can be sent and has no wildcards in it, and the collation is the order of code points. -/
def Fits (collate : Key → Key → Bool) : Request → Prop
  | .put _ kvs => (kvs.map Prod.fst).Nodup ∧ ∀ kv ∈ kvs, Executable kv
  | .getWithPrefix _ keyPrefix => ValidText keyPrefix ∧ (∀ c ∈ keyPrefix, c ∉ wildcards) ∧
      ∀ a b, collate a b = true ↔ a ≤ b

theorem isReading_selected (plain : ∀ c ∈ keyPrefix, c ∉ wildcards) :
    db.view.IsReading clientId keyPrefix
      (Prefix.sortByKey (· ≤ ·) (((rows db).filter fun row =>
        row.1.1 = clientId && like (keyPrefix ++ ['%']) row.1.2).map
          fun row => (row.1.2, row.2))) where
  sorted := by
    apply Prefix.pairwise_sortByKey
    have distinct : ((rows db).filter fun row =>
        row.1.1 = clientId && like (keyPrefix ++ ['%']) row.1.2).Pairwise
          fun a b => a.1.2 ≠ b.1.2 := by
      rw [pairwise_filter]
      refine (pairwise_map.mp (nodup_rows db)).imp fun other mine mine' same => other ?_
      simp only [Bool.and_eq_true, decide_eq_true_eq] at mine mine'
      exact Prod.ext (mine.1.trans mine'.1.symm) same
    rw [map_map]
    exact pairwise_map.mpr distinct
  mem_iff entry := by
    simp only [Prefix.mem_sortByKey, mem_map, mem_filter, mem_rows, Bool.and_eq_true,
      decide_eq_true_eq, like_prefix plain, isPrefixOf_iff_prefix]
    constructor
    · rintro ⟨⟨⟨clientId', key⟩, value⟩, ⟨found, rfl, starts⟩, rfl⟩
      exact ⟨found, starts⟩
    · rintro ⟨found, starts⟩
      exact ⟨((clientId, entry.1), entry.2), ⟨found, rfl, starts⟩, rfl⟩

theorem serve_answers {collate} (counted : db.view.Counted) {request : Request}
    (fits : Fits collate request) :
    db.view.Answers request (db.serve collate request).1 (db.serve collate request).2.view := by
  cases request with
  | put clientId kvs =>
    obtain ⟨apart, executable⟩ := fits
    have kept : ∀ kv ∈ kvs, ¬ db.view.InOrder clientId kv →
        view (kvs.foldl (fun db kv => db.after clientId kv) db) clientId kv.1
          = db.view clientId kv.1 :=
      fun kv mem fault => view_foldl_after_of_fault apart mem fault
    have same := conflicts_eq_faults kept
    simp only [serve, put, executeAll_eq counted apart executable, same]
    by_cases clear : db.view.faults clientId kvs = []
    · have inOrder := Store.faults_eq_nil_iff.mp clear
      simp only [clear, ne_eq, not_true_eq_false, if_false]
      rw [view_foldl_after_of_inOrder apart inOrder]
      exact .accepted inOrder
    · simp only [clear, ne_eq, not_false_eq_true, if_true]
      exact .refused fun inOrder => clear (Store.faults_eq_nil_iff.mpr inOrder)
  | getWithPrefix clientId keyPrefix =>
    obtain ⟨valid, plain, ordered⟩ := fits
    simp only [serve, getWithPrefix, if_neg (not_not.mpr valid)]
    rw [Prefix.sortByKey_congr ordered]
    exact .read (isReading_selected plain)

end PostgresDatabase

end Vls.Storage
