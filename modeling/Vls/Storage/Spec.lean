import Mathlib.Data.Char
import Vls.Lib.Word
import Vls.Lib.Prefix
import Vls.Lib.Trace

/-! # The storage server's contract

A put is accepted as a whole if it gives every key at the version that follows the stored one, and
refused as a whole otherwise; a read lists the values under a prefix of keys. The contract is one
map from clients and keys to values. -/

namespace Vls.Storage

abbrev I64 := BitVec 64

abbrev ClientId := List U8

/-- A key, as its characters. Strings are ordered by their bytes, which is the order of their
    code points. -/
abbrev Key := List Char

def lastVersion : I64 := BitVec.intMax 64

theorem toInt_add_one {v} (more : v ≠ lastVersion) : (v + 1).toInt = v.toInt + 1 := by
  have more : v.toNat ≠ 2 ^ 63 - 1 := fun same =>
    more (BitVec.eq_of_toNat_eq (same.trans (by decide)))
  have bound := v.isLt
  simp only [BitVec.toInt_eq_toNat_cond, BitVec.toNat_add, show (1 : I64).toNat = 1 from rfl]
  split <;> split <;> omega

structure Value where
  version : I64
  value : List U8
deriving DecidableEq

inductive Request where
  | put (clientId : ClientId) (kvs : List (Key × Value))
  | getWithPrefix (clientId : ClientId) (keyPrefix : Key)
deriving DecidableEq

inductive Response where
  | ok
  | conflict (conflicts : List (Key × Option Value))
  | invalidVersions (kvs : List (Key × Value))
  | databaseError
  | values (kvs : List (Key × Value))
deriving DecidableEq

/-- The store as its clients think of it. -/
abbrev Store := ClientId → Key → Option Value

namespace Store

variable {kv : Key × Value} {store' : Store} {request : Request} {response : Response}

def empty : Store := fun _ _ => none

variable (store : Store) (clientId : ClientId)

def nextVersion (key : Key) : Int :=
  match store clientId key with
  | some existing => existing.version.toInt + 1
  | none => 0

def InOrder (kv : Key × Value) : Prop :=
  kv.2.version.toInt = store.nextVersion clientId kv.1
  deriving Decidable

/-- The keys of a put that are at fault, with what is stored under them. -/
def faults (kvs : List (Key × Value)) : List (Key × Option Value) :=
  kvs.filterMap fun kv =>
    if store.InOrder clientId kv then none else some (kv.1, store clientId kv.1)

def write (kv : Key × Value) : Store := fun clientId' key =>
  if clientId' = clientId ∧ key = kv.1 then some kv.2 else store clientId' key

def writeAll (kvs : List (Key × Value)) : Store :=
  kvs.foldl (fun store kv => store.write clientId kv) store

/-- A listing of a client's values under the keys that start with a prefix, in the order of the
    keys. -/
structure IsReading (keyPrefix : Key) (listing : List (Key × Value)) : Prop where
  sorted : listing.Pairwise fun a b => a.1 < b.1
  mem_iff : ∀ entry, entry ∈ listing ↔ store clientId entry.1 = some entry.2 ∧ keyPrefix <+: entry.1

/-- The contract of one request. -/
inductive Answers (store : Store) : Request → Response → Store → Prop where
  | accepted {clientId kvs} : (∀ kv ∈ kvs, store.InOrder clientId kv) →
      Answers store (.put clientId kvs) .ok (store.writeAll clientId kvs)
  | refused {clientId kvs} : ¬ (∀ kv ∈ kvs, store.InOrder clientId kv) →
      Answers store (.put clientId kvs) (.conflict (store.faults clientId kvs)) store
  | read {clientId keyPrefix listing} : store.IsReading clientId keyPrefix listing →
      Answers store (.getWithPrefix clientId keyPrefix) (.values listing) store

variable {store} {clientId}

theorem inOrder_of_none (absent : store clientId kv.1 = none) :
    store.InOrder clientId kv ↔ kv.2.version = 0 := by
  simp only [InOrder, nextVersion, absent]
  exact @BitVec.toInt_inj 64 kv.2.version 0

theorem inOrder_of_some {existing} (found : store clientId kv.1 = some existing) :
    store.InOrder clientId kv ↔ kv.2.version.toInt = existing.version.toInt + 1 := by
  simp only [InOrder, nextVersion, found]

theorem inOrder_congr (same : store clientId kv.1 = store' clientId kv.1) :
    store.InOrder clientId kv ↔ store'.InOrder clientId kv := by
  simp only [InOrder, nextVersion, same]

def Counted (store : Store) : Prop :=
  ∀ clientId key value, store clientId key = some value → 0 ≤ value.version.toInt

theorem Counted.nextVersion_nonneg (counted : store.Counted) (key : Key) :
    0 ≤ store.nextVersion clientId key := by
  unfold nextVersion
  cases found : store clientId key with
  | none => exact le_rfl
  | some existing =>
    have := counted clientId key existing found
    simp only
    omega

theorem Counted.write (counted : store.Counted) (positive : 0 ≤ kv.2.version.toInt) :
    (store.write clientId kv).Counted := by
  intro clientId' key value found
  simp only [Store.write] at found
  split at found
  · cases found
    exact positive
  · exact counted clientId' key value found

theorem Counted.writeAll (counted : store.Counted) {kvs}
    (positive : ∀ kv ∈ kvs, 0 ≤ kv.2.version.toInt) : (store.writeAll clientId kvs).Counted := by
  induction kvs generalizing store with
  | nil => exact counted
  | cons kv rest ih =>
    exact ih (counted.write (positive kv (.head _))) fun kv mem => positive kv (.tail _ mem)

theorem faults_eq_nil_iff {kvs} :
    store.faults clientId kvs = [] ↔ ∀ kv ∈ kvs, store.InOrder clientId kv := by
  simp [faults]

theorem IsReading.unique {keyPrefix listing listing'}
    (one : store.IsReading clientId keyPrefix listing)
    (other : store.IsReading clientId keyPrefix listing') : listing = listing' :=
  Prefix.listing_unique one.sorted other.sorted fun entry =>
    (one.mem_iff entry).trans (other.mem_iff entry).symm

theorem Answers.deterministic {response' store₁ store₂}
    (one : Answers store request response store₁) (other : Answers store request response' store₂) :
    response = response' ∧ store₁ = store₂ := by
  cases one with
  | accepted inOrder =>
    cases other with
    | accepted _ => exact ⟨rfl, rfl⟩
    | refused fault => exact absurd inOrder fault
  | refused fault =>
    cases other with
    | accepted inOrder => exact absurd inOrder fault
    | refused _ => exact ⟨rfl, rfl⟩
  | read listed =>
    cases other with
    | read listed' => exact ⟨congrArg Response.values (listed.unique listed'), rfl⟩

theorem Answers.counted (answered : Answers store request response store')
    (counted : store.Counted) : store'.Counted := by
  cases answered with
  | accepted inOrder =>
    refine counted.writeAll fun kv mem => ?_
    rw [inOrder kv mem]
    exact counted.nextVersion_nonneg kv.1
  | refused _ => exact counted
  | read _ => exact counted

end Store

end Vls.Storage
