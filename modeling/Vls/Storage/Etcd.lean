import Vls.Storage.FullKey

/-! # The etcd back end

The store itself counts the versions of a key, from 1 on, and so the versions the clients see are
one less. A put is one transaction: comparisons that must all hold, the puts if they do, and reads
of the same keys if they do not. What the store does with it (`EtcdStore.txn`) is assumed. -/

namespace Vls.Storage

open List

variable {kv : Key × Value} {kvs : List (Key × Value)}

structure EtcdKeyValue where
  version : I64
  value : List U8

abbrev EtcdStore := Map Key EtcdKeyValue

/-- A comparison of a transaction. A key has no create revision if and only if it is absent. -/
inductive Compare where
  | createRevisionZero (key : Key)
  | version (key : Key) (version : I64)

inductive TxnResponse where
  | succeeded
  | failed (gets : List (Option EtcdKeyValue))

namespace EtcdStore

def holds (store : EtcdStore) : Compare → Bool
  | .createRevisionZero key => (store.lookup key).isNone
  | .version key version => ((store.lookup key).map EtcdKeyValue.version).getD 0 = version

def putKey (store : EtcdStore) (entry : Key × List U8) : EtcdStore :=
  let version := ((store.lookup entry.1).map EtcdKeyValue.version).getD 0
  store.insert entry.1 ⟨version + 1, entry.2⟩

/-- A transaction of the store, which refuses one that is too long or puts a key twice. -/
def txn (maxTxnOps : Nat) (store : EtcdStore) (compares : List Compare)
    (puts : List (Key × List U8)) (gets : List Key) : Option (TxnResponse × EtcdStore) :=
  if maxTxnOps < max compares.length (max puts.length gets.length) then none
  else if ¬ (puts.map Prod.fst).Nodup then none
  else if compares.all store.holds then some (.succeeded, puts.foldl putKey store)
  else some (.failed (gets.map fun key => store.lookup key), store)

end EtcdStore

namespace EtcdDatabase

def versionsValid (clientId : ClientId) (kvs : List (Key × Value)) : List Compare :=
  ((kvs.filter fun kv => kv.2.version = 0).map fun kv =>
      .createRevisionZero (fullKey clientId kv.1))
    ++ (kvs.filter fun kv => kv.2.version ≠ 0).map fun kv =>
      .version (fullKey clientId kv.1) kv.2.version

def toValue (kv : EtcdKeyValue) : Value := ⟨kv.version - 1, kv.value⟩

def invalidKvResult (fetchedKv : Option EtcdKeyValue) (providedKv : Key × Value) :
    Option (Key × Option Value) :=
  match fetchedKv with
  | some kv =>
    if kv.version ≠ providedKv.2.version then some (providedKv.1, some (toValue kv)) else none
  | none => if providedKv.2.version ≠ 0 then some (providedKv.1, none) else none

def createPutTransaction (clientId : ClientId) (kvs : List (Key × Value)) :
    List (Key × List U8) :=
  kvs.map fun kv => (fullKey clientId kv.1, kv.2.value)

def createGetTransaction (clientId : ClientId) (kvs : List (Key × Value)) : List Key :=
  kvs.map fun kv => fullKey clientId kv.1

def put (maxTxnOps : Nat) (store : EtcdStore) (clientId : ClientId) (kvs : List (Key × Value)) :
    Response × EtcdStore :=
  let nonPositiveVersions := kvs.filter fun kv => kv.2.version.toInt < 0
  if nonPositiveVersions ≠ [] then (.invalidVersions nonPositiveVersions, store)
  else
    match store.txn maxTxnOps (versionsValid clientId kvs) (createPutTransaction clientId kvs)
        (createGetTransaction clientId kvs) with
    | none => (.databaseError, store)
    | some (.succeeded, store) => (.ok, store)
    | some (.failed gets, store) =>
      (.conflict ((gets.zip kvs).filterMap fun got => invalidKvResult got.1 got.2), store)

/-- A range of the store comes in the order of its keys. -/
def getWithPrefix (store : EtcdStore) (clientId : ClientId) (keyPrefix : Key) : Response :=
  let kvs := (Prefix.sortByKey (· ≤ ·) (rows store)).filter
    fun row => (fullKey clientId keyPrefix).isPrefixOf row.1
  .values (kvs.map fun row => (keySuffix clientId row.1, toValue row.2))

def serve (maxTxnOps : Nat) (store : EtcdStore) : Request → Response × EtcdStore
  | .put clientId kvs => put maxTxnOps store clientId kvs
  | .getWithPrefix clientId keyPrefix => (getWithPrefix store clientId keyPrefix, store)

/-- The store's count of a key starts at 1 and has not come to the end of its type. -/
def Countable (store : EtcdStore) : Prop :=
  ∀ key kv, store.lookup key = some kv → 1 ≤ kv.version.toInt

/-- What a put has to respect: no key twice, not more keys than a transaction takes, and versions
    that are not negative and not the last. -/
def Fits (maxTxnOps : Nat) : Request → Prop
  | .put _ kvs => (kvs.map Prod.fst).Nodup ∧ kvs.length ≤ maxTxnOps ∧
      ∀ kv ∈ kvs, 0 ≤ kv.2.version.toInt ∧ kv.2.version ≠ lastVersion
  | .getWithPrefix _ _ => True

variable {store : EtcdStore} {clientId : ClientId}

theorem toInt_toValue {kv} (positive : 1 ≤ kv.version.toInt) :
    (toValue kv).version.toInt + 1 = kv.version.toInt := by
  have more : kv.version - 1 ≠ lastVersion := by
    intro last
    have : kv.version = lastVersion + 1 := by rw [← last, BitVec.sub_add_cancel]
    rw [this] at positive
    exact absurd positive (by decide)
  rw [toValue, ← toInt_add_one more, BitVec.sub_add_cancel]

section

variable (countable : Countable store)
include countable

theorem invalidKvResult_eq (clientId : ClientId) (kv : Key × Value) :
    invalidKvResult (store.lookup (fullKey clientId kv.1)) kv =
      if (viewOf toValue store).InOrder clientId kv then none
      else some (kv.1, viewOf toValue store clientId kv.1) := by
  cases found : store.lookup (fullKey clientId kv.1) with
  | none =>
    have absent : viewOf toValue store clientId kv.1 = none := by
      rw [viewOf, found]
      rfl
    simp only [invalidKvResult, Store.inOrder_of_none absent, absent, ite_not]
  | some existing =>
    have present : viewOf toValue store clientId kv.1 = some (toValue existing) := by
      rw [viewOf, found]
      rfl
    have same_iff : existing.version = kv.2.version ↔
        (viewOf toValue store).InOrder clientId kv := by
      rw [Store.inOrder_of_some present, toInt_toValue (countable _ _ found), BitVec.toInt_inj,
        eq_comm]
    simp only [invalidKvResult, ne_eq, same_iff, present, ite_not]

theorem version_of_inOrder (inOrder : (viewOf toValue store).InOrder clientId kv) :
    ((store.lookup (fullKey clientId kv.1)).map EtcdKeyValue.version).getD 0 = kv.2.version := by
  have none_invalid := invalidKvResult_eq countable clientId kv
  rw [if_pos inOrder] at none_invalid
  cases found : store.lookup (fullKey clientId kv.1) with
  | none =>
    simp only [found, invalidKvResult] at none_invalid
    exact (by simpa using none_invalid : kv.2.version = 0).symm
  | some existing =>
    simp only [found, invalidKvResult] at none_invalid
    simpa using none_invalid

theorem inOrder_of_holds
    (new : kv.2.version = 0 → store.holds (.createRevisionZero (fullKey clientId kv.1)))
    (next : kv.2.version ≠ 0 → store.holds (.version (fullKey clientId kv.1) kv.2.version)) :
    (viewOf toValue store).InOrder clientId kv := by
  by_contra fault
  have invalid := invalidKvResult_eq countable clientId kv
  rw [if_neg fault] at invalid
  cases found : store.lookup (fullKey clientId kv.1) with
  | none =>
    simp only [found, invalidKvResult, EtcdStore.holds] at invalid next
    split at invalid
    · rename_i nonzero
      exact nonzero (of_decide_eq_true (next nonzero)).symm
    · cases invalid
  | some existing =>
    simp only [found, invalidKvResult, EtcdStore.holds] at invalid new next
    split at invalid
    · rename_i different
      by_cases zero : kv.2.version = 0
      · simpa using new zero
      · exact different (by simpa using next zero)
    · cases invalid

theorem holds_of_inOrder (inOrder : (viewOf toValue store).InOrder clientId kv) :
    (kv.2.version = 0 → store.holds (.createRevisionZero (fullKey clientId kv.1))) ∧
      store.holds (.version (fullKey clientId kv.1) kv.2.version) := by
  have version := version_of_inOrder countable inOrder
  refine ⟨fun zero => ?_, by simpa only [EtcdStore.holds, decide_eq_true_eq] using version⟩
  cases found : store.lookup (fullKey clientId kv.1) with
  | none => simp [EtcdStore.holds, found]
  | some existing =>
    have positive := countable _ _ found
    simp only [found, Option.map_some, Option.getD_some] at version
    rw [version, zero] at positive
    exact absurd positive (by decide)

theorem versionsValid_hold_iff :
    (versionsValid clientId kvs).all store.holds ↔
      ∀ kv ∈ kvs, (viewOf toValue store).InOrder clientId kv := by
  simp only [versionsValid, all_append, all_map, Bool.and_eq_true, all_eq_true,
    mem_filter, decide_eq_true_eq, Function.comp_apply, and_imp]
  constructor
  · intro ⟨new, next⟩ kv mem
    exact inOrder_of_holds countable (new kv mem) (next kv mem)
  · intro inOrder
    exact ⟨fun kv mem => (holds_of_inOrder countable (inOrder kv mem)).1,
      fun kv mem _ => (holds_of_inOrder countable (inOrder kv mem)).2⟩

theorem putAll_view (apart : (kvs.map Prod.fst).Nodup)
    (ranged : ∀ kv ∈ kvs, 0 ≤ kv.2.version.toInt ∧ kv.2.version ≠ lastVersion)
    (inOrder : ∀ kv ∈ kvs, (viewOf toValue store).InOrder clientId kv) :
    Countable ((createPutTransaction clientId kvs).foldl EtcdStore.putKey store) ∧
      viewOf toValue ((createPutTransaction clientId kvs).foldl EtcdStore.putKey store)
        = (viewOf toValue store).writeAll clientId kvs := by
  induction kvs generalizing store with
  | nil => exact ⟨countable, rfl⟩
  | cons kv rest ih =>
    obtain ⟨absent, apart⟩ := nodup_cons.mp apart
    obtain ⟨least, more⟩ := ranged kv (.head _)
    have put : store.putKey (fullKey clientId kv.1, kv.2.value)
        = store.insert (fullKey clientId kv.1) ⟨kv.2.version + 1, kv.2.value⟩ := by
      rw [EtcdStore.putKey, version_of_inOrder countable (inOrder kv (.head _))]
    have seen : toValue ⟨kv.2.version + 1, kv.2.value⟩ = kv.2 := by
      rw [toValue, BitVec.add_sub_cancel]
    have view : viewOf toValue (store.putKey (fullKey clientId kv.1, kv.2.value))
        = (viewOf toValue store).write clientId kv := by
      rw [put, viewOf_insert, seen]
    have counted : Countable (store.putKey (fullKey clientId kv.1, kv.2.value)) := by
      intro key found lookup
      rw [put, Map.lookup_insert_ite] at lookup
      split at lookup
      · cases lookup
        rw [toInt_add_one more]
        omega
      · exact countable key found lookup
    have later := ih counted apart (fun kv mem => ranged kv (.tail _ mem)) fun kv' mem => ?_
    · rw [view] at later
      exact later
    · rw [view]
      refine (Store.inOrder_congr (if_neg fun both => ?_)).mpr (inOrder kv' (.tail _ mem))
      exact absent (both.2 ▸ mem_map_of_mem mem)

theorem conflicts_eq_faults (kvs : List (Key × Value)) :
    (((createGetTransaction clientId kvs).map fun key => store.lookup key).zip kvs).filterMap
        (fun got => invalidKvResult got.1 got.2)
      = (viewOf toValue store).faults clientId kvs := by
  unfold createGetTransaction Store.faults
  induction kvs with
  | nil => rfl
  | cons kv rest ih =>
    simp only [map_cons, zip_cons_cons, filterMap_cons, invalidKvResult_eq countable, ih]

theorem serve_answers {maxTxnOps} {request} (fits : Fits maxTxnOps request) :
    Countable (serve maxTxnOps store request).2 ∧
      (viewOf toValue store).Answers request (serve maxTxnOps store request).1
        (viewOf toValue (serve maxTxnOps store request).2) := by
  cases request with
  | put clientId kvs =>
    obtain ⟨apart, short, ranged⟩ := fits
    have positive : (kvs.filter fun kv => kv.2.version.toInt < 0) = [] := by
      rw [filter_eq_nil_iff]
      intro kv mem
      have := (ranged kv mem).1
      simp only [decide_eq_true_eq]
      omega
    have fullApart : ((createPutTransaction clientId kvs).map Prod.fst).Nodup := by
      rw [createPutTransaction, map_map]
      refine pairwise_map.mpr ((pairwise_map.mp apart).imp fun other same => other ?_)
      exact (fullKey_inj.mp same).2
    have shortCompares : (versionsValid clientId kvs).length = kvs.length := by
      simp only [versionsValid, length_append, length_map]
      rw [← countP_eq_length_filter, ← countP_eq_length_filter]
      simpa using (length_eq_countP_add_countP
        (fun kv : Key × Value => decide (kv.2.version = 0)) (l := kvs)).symm
    have shortTxn : ¬ maxTxnOps < max (versionsValid clientId kvs).length
        (max (createPutTransaction clientId kvs).length
          (createGetTransaction clientId kvs).length) := by
      rw [shortCompares, createPutTransaction, createGetTransaction, length_map, length_map]
      omega
    simp only [serve, put, positive, ne_eq, not_true_eq_false, if_false, EtcdStore.txn,
      if_neg shortTxn, fullApart]
    by_cases inOrder : ∀ kv ∈ kvs, (viewOf toValue store).InOrder clientId kv
    · rw [if_pos ((versionsValid_hold_iff countable).mpr inOrder)]
      obtain ⟨counted, view⟩ := putAll_view countable apart ranged inOrder
      refine ⟨counted, ?_⟩
      simp only [view]
      exact .accepted inOrder
    · rw [if_neg (mt (versionsValid_hold_iff countable).mp inOrder)]
      refine ⟨countable, ?_⟩
      simp only [conflicts_eq_faults countable]
      exact .refused inOrder
  | getWithPrefix clientId keyPrefix =>
    exact ⟨countable, .read (isReading_prefixRows toValue store clientId keyPrefix)⟩

end

end EtcdDatabase

end Vls.Storage
