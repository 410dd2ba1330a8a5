import Mathlib.Data.List.Sort
import Vls.Lib.Map

/-! # Stores of versioned values

A store keeps for each key its latest version and the value of it. One store is below another if
the other has what it has, or later versions of it. Two ways to write a batch are all-or-nothing:
one refuses to go back in version, the other insists on the next version of each key. -/

/-- A key with a version and a value. -/
abbrev VersionedEntry (K V : Type) := K × Nat × V

abbrev VersionedStore (K V : Type) := Map K (Nat × V)

namespace VersionedStore

open List

variable {K V : Type} [DecidableEq K]

variable {store store' store'' table above : VersionedStore K V} {entry : VersionedEntry K V}
  {entries : List (VersionedEntry K V)}

def Has (store : VersionedStore K V) (entry : VersionedEntry K V) : Prop :=
  ∃ version value, store.lookup entry.1 = some (version, value) ∧ entry.2.1 ≤ version ∧
    (entry.2.1 = version → entry.2.2 = value)

def Below (store store' : VersionedStore K V) : Prop :=
  ∀ key version value, store.lookup key = some (version, value) → store'.Has (key, version, value)

theorem has_of_lookup (here : store.lookup entry.1 = some entry.2) : store.Has entry :=
  ⟨entry.2.1, entry.2.2, here, le_rfl, fun _ => rfl⟩

theorem Has.mono (has : store.Has entry) (below : store.Below store') : store'.Has entry := by
  obtain ⟨version, value, here, least, same⟩ := has
  obtain ⟨version', value', there, least', same'⟩ := below _ _ _ here
  refine ⟨version', value', there, least.trans least', fun equal => ?_⟩
  have : version = version' := le_antisymm least' (equal ▸ least)
  exact (same (equal.trans this.symm)).trans (same' this)

theorem Below.refl (store : VersionedStore K V) : store.Below store :=
  fun _ _ _ here => has_of_lookup here

theorem Below.trans (first : store.Below store') (second : store'.Below store'') :
    store.Below store'' :=
  fun _ _ _ here => (first _ _ _ here).mono second

theorem Below.congr (below : store.Below store')
    (same : ∀ key, store''.lookup key = store'.lookup key) : store.Below store'' := by
  intro key version value here
  obtain ⟨version', value', there, later⟩ := below key version value here
  exact ⟨version', value', (same key).trans there, later⟩

def nextVersion (store : VersionedStore K V) (key : K) : Nat :=
  match store.lookup key with
  | some (version, _) => version + 1
  | none => 0

def insertAll (store : VersionedStore K V) (entries : List (VersionedEntry K V)) :
    VersionedStore K V :=
  entries.foldl (fun table entry => table.insert entry.1 entry.2) store

/-- Write a batch of next versions, and no other. -/
def putNext (store : VersionedStore K V) (entries : List (VersionedEntry K V)) :
    Option (VersionedStore K V) :=
  if ∀ entry ∈ entries, entry.2.1 = store.nextVersion entry.1 then some (store.insertAll entries)
  else none

theorem lookup_insertAll_of_notMem {key} (absent : key ∉ entries.map Prod.fst) :
    (store.insertAll entries).lookup key = store.lookup key := by
  induction entries generalizing store with
  | nil => rfl
  | cons first rest ih =>
    rw [map_cons, mem_cons, not_or] at absent
    calc (insertAll (store.insert first.1 first.2) rest).lookup key
        = (store.insert first.1 first.2).lookup key := ih absent.2
      _ = store.lookup key := by rw [Map.lookup_insert_ite, if_neg absent.1]

theorem lookup_insertAll (apart : (entries.map Prod.fst).Nodup) (mem : entry ∈ entries) :
    (store.insertAll entries).lookup entry.1 = some entry.2 := by
  induction entries generalizing store with
  | nil => cases mem
  | cons first rest ih =>
    rw [map_cons, nodup_cons] at apart
    obtain rfl | later := mem_cons.mp mem
    · calc (insertAll (store.insert entry.1 entry.2) rest).lookup entry.1
          = (store.insert entry.1 entry.2).lookup entry.1 := lookup_insertAll_of_notMem apart.1
        _ = some entry.2 := by simp
    · exact ih apart.2 later

theorem lookup_insertAll_or (kept : K → Option (Nat × V)) (apart : (entries.map Prod.fst).Nodup)
    (members : ∀ entry, entry ∈ entries ↔ kept entry.1 = some entry.2) (key : K) :
    (store.insertAll entries).lookup key = (kept key).or (store.lookup key) := by
  cases here : kept key with
  | some value => exact lookup_insertAll apart ((members (key, value)).mpr here)
  | none =>
    refine lookup_insertAll_of_notMem fun mem => ?_
    obtain ⟨entry, among, rfl⟩ := mem_map.mp mem
    cases here.symm.trans ((members entry).mp among)

theorem putNext_eq (next : ∀ entry ∈ entries, entry.2.1 = store.nextVersion entry.1) :
    store.putNext entries = some (store.insertAll entries) :=
  if_pos next

theorem lookup_insertAll_congr (same : ∀ key, store.lookup key = store'.lookup key) :
    ∀ key, (store.insertAll entries).lookup key = (store'.insertAll entries).lookup key := by
  induction entries generalizing store store' with
  | nil => exact same
  | cons first rest ih =>
    refine ih fun key => ?_
    rw [Map.lookup_insert_ite, Map.lookup_insert_ite, same]

theorem putNext_raises (apart : (entries.map Prod.fst).Nodup)
    (put : store.putNext entries = some store') :
    store.Below store' ∧ ∀ entry ∈ entries, store'.Has entry := by
  unfold putNext at put
  split at put
  · rename_i next
    cases put
    refine ⟨fun key version value here => ?_,
      fun entry mem => has_of_lookup (lookup_insertAll apart mem)⟩
    by_cases mem : key ∈ entries.map Prod.fst
    · obtain ⟨entry, among, rfl⟩ := mem_map.mp mem
      have later := next entry among
      simp only [nextVersion, here] at later
      refine ⟨entry.2.1, entry.2.2, lookup_insertAll apart among, ?_, fun equal => ?_⟩
      · show version ≤ entry.2.1
        omega
      · have : version = entry.2.1 := equal
        omega
    · exact has_of_lookup ((lookup_insertAll_of_notMem mem).trans here)
  · cases put

section batches

variable [DecidableEq V]

def putEntry (store table : VersionedStore K V) (entry : VersionedEntry K V) :
    Option (VersionedStore K V) :=
  match store.lookup entry.1 with
  | none => some (table.insert entry.1 entry.2)
  | some (version, _) =>
    if entry.2.1 < version then none
    else if entry.2.1 = version then
      if table.lookup entry.1 = some entry.2 then some table else none
    else some (table.insert entry.1 entry.2)

/-- Write a batch, unless some version would go back or some value change without its version. -/
def putBatch (store : VersionedStore K V) (entries : List (VersionedEntry K V)) :
    Option (VersionedStore K V) :=
  entries.foldlM (putEntry store) store

theorem putEntry_cases {table'} (put : putEntry store table entry = some table') :
    table' = table ∨ table' = table.insert entry.1 entry.2 := by
  unfold putEntry at put
  grind

theorem lookup_putBatch (put : store.putBatch entries = some store') (entry : VersionedEntry K V)
    (here : store'.lookup entry.1 = some entry.2) :
    store.lookup entry.1 = some entry.2 ∨ entry ∈ entries := by
  suffices loop : ∀ (entries : List (VersionedEntry K V)) (table : VersionedStore K V),
      entries.foldlM (putEntry store) table = some store' →
      table.lookup entry.1 = some entry.2 ∨ entry ∈ entries from loop entries store put
  intro entries
  induction entries with
  | nil =>
    intro table put
    cases put
    exact .inl here
  | cons first rest ih =>
    intro table put
    rw [foldlM_cons, Option.bind_eq_bind, Option.bind_eq_some_iff] at put
    obtain ⟨next, stepped, put⟩ := put
    obtain there | mem := ih next put
    · obtain rfl | rfl := putEntry_cases stepped
      · exact .inl there
      · rw [Map.lookup_insert_ite] at there
        split at there
        · rename_i same
          have : entry = first := Prod.ext same (Option.some.inj there).symm
          exact .inr (by simp [this])
        · exact .inl there
    · exact .inr (mem_cons_of_mem _ mem)

theorem below_putBatch (put : store.putBatch entries = some store') (below : store.Below above)
    (has : ∀ entry ∈ entries, above.Has entry) : store'.Below above := by
  intro key version value here
  obtain before | mem := lookup_putBatch put (key, version, value) here
  · exact below _ _ _ before
  · exact has _ mem

/-- An entry that does not go back behind what the store has of its key. -/
def Advances (store : VersionedStore K V) (entry : VersionedEntry K V) : Prop :=
  ∀ version value, store.lookup entry.1 = some (version, value) →
    version ≤ entry.2.1 ∧ (version = entry.2.1 → value = entry.2.2)

theorem putEntry_of_advances (advances : store.Advances entry)
    (untouched : table.lookup entry.1 = store.lookup entry.1) :
    ∃ table', putEntry store table entry = some table' ∧
      ∀ key, table'.lookup key = if key = entry.1 then some entry.2 else table.lookup key := by
  have inserted : ∀ key, (table.insert entry.1 entry.2).lookup key =
      if key = entry.1 then some entry.2 else table.lookup key := fun key =>
    Map.lookup_insert_ite ..
  unfold putEntry
  split
  · exact ⟨_, rfl, inserted⟩
  · rename_i version value here
    obtain ⟨least, same⟩ := advances version value here
    rw [if_neg (by omega)]
    split
    · rename_i equal
      have there : table.lookup entry.1 = some entry.2 := by
        rw [untouched, here, same equal.symm, ← equal]
      refine ⟨table, if_pos there, fun key => ?_⟩
      split
      · rename_i atKey
        rw [atKey, there]
      · rfl
    · exact ⟨_, rfl, inserted⟩

theorem putBatch_of_advances (apart : (entries.map Prod.fst).Nodup)
    (advances : ∀ entry ∈ entries, store.Advances entry) :
    ∃ store', store.putBatch entries = some store' ∧
      (∀ entry ∈ entries, store'.lookup entry.1 = some entry.2) ∧
      ∀ key, key ∉ entries.map Prod.fst → store'.lookup key = store.lookup key := by
  suffices loop : ∀ (entries : List (VersionedEntry K V)) (table : VersionedStore K V),
      (entries.map Prod.fst).Nodup → (∀ entry ∈ entries, store.Advances entry) →
      (∀ entry ∈ entries, table.lookup entry.1 = store.lookup entry.1) →
      ∃ table', entries.foldlM (putEntry store) table = some table' ∧
        (∀ entry ∈ entries, table'.lookup entry.1 = some entry.2) ∧
        ∀ key, key ∉ entries.map Prod.fst → table'.lookup key = table.lookup key from
    loop entries store apart advances fun _ _ => rfl
  intro entries
  induction entries with
  | nil =>
    intro table _ _ _
    exact ⟨table, rfl, by simp, fun _ _ => rfl⟩
  | cons first rest ih =>
    intro table apart advances untouched
    rw [map_cons, nodup_cons] at apart
    rw [forall_mem_cons] at advances untouched
    obtain ⟨next, stepped, after⟩ := putEntry_of_advances advances.1 untouched.1
    have apartFirst : ∀ entry ∈ rest, entry.1 ≠ first.1 := fun entry mem same =>
      apart.1 (same ▸ mem_map_of_mem mem)
    obtain ⟨table', put, written, kept⟩ := ih next apart.2 advances.2 fun entry mem => by
      rw [after, if_neg (apartFirst entry mem), untouched.2 entry mem]
    refine ⟨table', by rw [foldlM_cons, stepped]; exact put, ?_, fun key absent => ?_⟩
    · rw [forall_mem_cons]
      exact ⟨by rw [kept _ apart.1, after, if_pos rfl], written⟩
    · rw [map_cons, mem_cons, not_or] at absent
      rw [kept _ absent.2, after, if_neg absent.1]

theorem putBatch_next (apart : (entries.map Prod.fst).Nodup)
    (next : ∀ entry ∈ entries, entry.2.1 = store.nextVersion entry.1) :
    ∃ store', store.putBatch entries = some store' ∧
      ∀ key, store'.lookup key = (store.insertAll entries).lookup key := by
  have advances : ∀ entry ∈ entries, store.Advances entry := by
    intro entry mem version value here
    have later := next entry mem
    simp only [nextVersion, here] at later
    omega
  obtain ⟨store', put, written, kept⟩ := putBatch_of_advances apart advances
  refine ⟨store', put, fun key => ?_⟩
  by_cases mem : key ∈ entries.map Prod.fst
  · obtain ⟨entry, among, rfl⟩ := mem_map.mp mem
    rw [written entry among, lookup_insertAll apart among]
  · rw [kept key mem, lookup_insertAll_of_notMem mem]

end batches

def listing (le : K → K → Prop) [DecidableRel le] (store : VersionedStore K V) :
    List (VersionedEntry K V) :=
  (store.entries.map fun entry => (entry.1, entry.2)).insertionSort fun a b => le a.1 b.1

section listing

variable {le : K → K → Prop} [DecidableRel le] {store : VersionedStore K V}

theorem mem_listing : entry ∈ store.listing le ↔ store.lookup entry.1 = some entry.2 := by
  rw [listing, mem_insertionSort, mem_map]
  constructor
  · rintro ⟨⟨key, version⟩, mem, rfl⟩
    exact AList.mem_lookup_iff.mpr mem
  · intro here
    exact ⟨⟨entry.1, entry.2⟩, AList.mem_lookup_iff.mp here, rfl⟩

omit [DecidableEq K] in
theorem listing_nodup : ((store.listing le).map Prod.fst).Nodup := by
  have perm : ((store.listing le).map Prod.fst).Perm store.keys := by
    have := (perm_insertionSort (fun a b : VersionedEntry K V => le a.1 b.1)
      (store.entries.map fun entry => (entry.1, entry.2))).map Prod.fst
    rwa [map_map] at this
  exact perm.nodup_iff.mpr store.keys_nodup

theorem lookup_insertAll_listing (key : K) :
    (insertAll ∅ (store.listing le)).lookup key = store.lookup key := by
  rw [lookup_insertAll_or (store.lookup ·) listing_nodup fun _ => mem_listing]
  exact Option.or_none

/-- A store brought up to date from the listing of a store above it equals that store. -/
theorem putBatch_listing [DecidableEq V] (below : store.Below above) :
    ∃ store', store.putBatch (above.listing le) = some store' ∧
      ∀ key, store'.lookup key = above.lookup key := by
  have advances : ∀ entry ∈ above.listing le, store.Advances entry := by
    intro entry mem version value here
    obtain ⟨version', value', there, least, same⟩ := below _ _ _ here
    rw [Option.some.inj ((mem_listing.mp mem).symm.trans there)]
    exact ⟨least, same⟩
  obtain ⟨store', put, written, kept⟩ := putBatch_of_advances listing_nodup advances
  refine ⟨store', put, fun key => ?_⟩
  cases here : above.lookup key with
  | some value => exact written (key, value) (mem_listing.mpr here)
  | none =>
    have unlisted : key ∉ (above.listing le).map Prod.fst := by
      intro mem
      obtain ⟨entry, listed, rfl⟩ := mem_map.mp mem
      cases here.symm.trans (mem_listing.mp listed)
    rw [kept key unlisted]
    cases there : store.lookup key with
    | none => rfl
    | some value =>
      obtain ⟨_, _, above, _⟩ := below _ _ _ there
      cases here.symm.trans above

end listing

end VersionedStore
