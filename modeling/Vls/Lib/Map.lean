import Mathlib.Data.List.AList
import Mathlib.Algebra.BigOperators.Group.List.Basic

/-! # Finite maps

Finite maps are association lists without duplicate keys. The updates below are those of the
entry interface of a hash map; all of them go through `insert`, so what they do to a lookup
follows from what `insert` does. -/

abbrev Map (K V : Type) := AList fun _ : K => V

namespace Map

open List AList

variable {K V : Type} [DecidableEq K]

def getD (m : Map K V) (k : K) (default : V) : V :=
  (m.lookup k).getD default

def modify (m : Map K V) (k : K) (f : V → V) : Map K V :=
  match m.lookup k with
  | some v => m.insert k (f v)
  | none => m

def orInsert (m : Map K V) (k : K) (v : V) : Map K V :=
  m.insert k (m.getD k v)

def upsert (m : Map K V) (k : K) (f : V → V) (v : V) : Map K V :=
  m.insert k ((m.lookup k).elim v f)

def retain (m : Map K V) (p : K → Bool) : Map K V where
  entries := m.entries.filter (fun entry => p entry.1)
  nodupKeys := m.nodupKeys.sublist filter_sublist

def traverseEntries {ε : Type} (f : V → Except ε V) :
    List (Sigma fun _ : K => V) → Except ε (List (Sigma fun _ : K => V))
  | [] => .ok []
  | ⟨k, v⟩ :: rest => do
    let v ← f v
    let rest ← traverseEntries f rest
    .ok (⟨k, v⟩ :: rest)

def traverse {ε : Type} (m : Map K V) (f : V → Except ε V) : Except ε (Map K V) := do
  let entries ← traverseEntries f m.entries
  .ok entries.toAList

def values (m : Map K V) : List V :=
  m.entries.map Sigma.snd

def mapValues {W : Type} (m : Map K V) (f : V → W) : Map K W where
  entries := m.entries.map (.map id fun _ => f)
  nodupKeys := .map₂ _ _ m.nodupKeys

theorem lookup_mapValues {W : Type} (m : Map K V) (f : V → W) (k : K) :
    (m.mapValues f).lookup k = (m.lookup k).map f :=
  dlookup_map₂ k

theorem lookup_insert_ite (m : Map K V) (k k' : K) (v : V) :
    (insert k v m).lookup k' = if k' = k then some v else m.lookup k' := by
  by_cases same : k' = k
  · subst same
    simp
  · simp [same]

theorem lookup_modify (m : Map K V) (k k' : K) (f : V → V) :
    (m.modify k f).lookup k' = if k' = k then (m.lookup k).map f else m.lookup k' := by
  unfold modify
  split
  · rename_i v found
    rw [lookup_insert_ite, found]
    rfl
  · rename_i absent
    by_cases same : k' = k
    · subst same
      simp [absent]
    · simp [same]

theorem lookup_foldl_insert (keys : List K) (v : V) (m : Map K V) (k : K) :
    (keys.foldl (fun m key => insert key v m) m).lookup k
      = if k ∈ keys then some v else m.lookup k := by
  induction keys generalizing m with
  | nil => simp
  | cons key rest ih =>
    rw [foldl_cons, ih, lookup_insert_ite]
    by_cases here : k = key
    · subst here
      simp
    · simp [here]

theorem lookup_foldl_orInsert (keys : List K) (v : V) (m : Map K V) (k : K) :
    (keys.foldl (fun m key => m.orInsert key v) m).lookup k
      = if k ∈ keys then some ((m.lookup k).getD v) else m.lookup k := by
  induction keys generalizing m with
  | nil => simp
  | cons key rest ih =>
    rw [foldl_cons, ih, orInsert, lookup_insert_ite]
    by_cases here : k = key
    · subst here
      simp [getD]
    · simp [here]

theorem lookup_foldl_modify (keys : List K) (apart : keys.Nodup) (f : K → V → V) (m : Map K V)
    (k : K) :
    (keys.foldl (fun m key => m.modify key (f key)) m).lookup k
      = if k ∈ keys then (m.lookup k).map (f k) else m.lookup k := by
  induction keys generalizing m with
  | nil => simp
  | cons key rest ih =>
    obtain ⟨absent, apart⟩ := nodup_cons.mp apart
    rw [foldl_cons, ih apart, lookup_modify]
    by_cases here : k = key
    · subst here
      simp [absent]
    · simp [here]

theorem getD_insert (m : Map K V) (k k' : K) (v default : V) :
    getD (insert k v m) k' default = if k' = k then v else m.getD k' default := by
  unfold getD
  rw [lookup_insert_ite]
  split <;> rfl

theorem mem_of_lookup {m : Map K V} {k} : k ∈ m ↔ (m.lookup k).isSome := by rw [lookup_isSome]

/-- Adding entries under absent keys makes no difference to one who reads them as defaults. -/
theorem getD_foldl_orInsert (keys : List K) (v : V) (m : Map K V) (k : K) :
    (keys.foldl (fun m key => m.orInsert key v) m).getD k v = m.getD k v := by
  unfold getD
  rw [lookup_foldl_orInsert]
  split <;> rfl

theorem mem_foldl_orInsert (keys : List K) (v : V) (m : Map K V) (k : K) :
    k ∈ keys.foldl (fun m key => m.orInsert key v) m ↔ k ∈ keys ∨ k ∈ m := by
  rw [mem_of_lookup, mem_of_lookup, lookup_foldl_orInsert]
  by_cases here : k ∈ keys <;> simp [here]

theorem lookup_retain (m : Map K V) (p : K → Bool) (k : K) :
    (m.retain p).lookup k = if p k then m.lookup k else none := by
  change dlookup k (m.entries.filter fun entry => p entry.1)
    = if p k then dlookup k m.entries else none
  induction m.entries with
  | nil => simp
  | cons entry rest ih =>
    obtain ⟨k', v⟩ := entry
    by_cases same : k = k'
    · subst same
      by_cases kept : p k <;> simp [kept] at ih ⊢
      exact ih
    · by_cases kept : p k' <;> simp [kept, same, ih, dlookup_cons_ne]

theorem mem_values {m : Map K V} {v} : v ∈ m.values ↔ ∃ k, m.lookup k = some v := by
  simp only [values, mem_map]
  constructor
  · rintro ⟨entry, member, rfl⟩
    exact ⟨entry.1, mem_dlookup m.nodupKeys member⟩
  · rintro ⟨k, found⟩
    exact ⟨⟨k, v⟩, of_mem_dlookup found, rfl⟩

theorem exists_lookup {m : Map K V} (inhabited : m ≠ ∅) : ∃ k v, m.lookup k = some v := by
  obtain ⟨entries, apart⟩ := m
  cases entries with
  | nil => exact absurd rfl inhabited
  | cons entry rest => exact ⟨entry.1, entry.2, dlookup_cons_eq rest entry.1 entry.2⟩

section traverse

variable {ε : Type} {f : V → Except ε V} {m m' : Map K V} {k : K}
  {before after : List (Sigma fun _ : K => V)}

variable {g : V → Except ε V}

omit [DecidableEq K] in
theorem traverseEntries_cons {v rest} :
    traverseEntries f (⟨k, v⟩ :: rest) = .ok after
      ↔ ∃ v' rest', f v = .ok v' ∧ traverseEntries f rest = .ok rest'
        ∧ after = ⟨k, v'⟩ :: rest' := by
  simp only [traverseEntries, bind, Except.bind]
  cases f v with
  | error fault => simp
  | ok v' => cases traverseEntries f rest <;> simp [eq_comm]

theorem dlookup_traverseEntries (returned : traverseEntries f before = .ok after) :
    (∀ v, before.dlookup k = some v → ∃ v', f v = .ok v' ∧ after.dlookup k = some v')
      ∧ (before.dlookup k = none → after.dlookup k = none) := by
  induction before generalizing after with
  | nil =>
    cases returned
    refine ⟨?_, fun absent => absent⟩
    intro v found
    cases found
  | cons entry rest ih =>
    obtain ⟨key, value⟩ := entry
    obtain ⟨value', rest', changed, more, rfl⟩ := traverseEntries_cons.mp returned
    by_cases here : k = key
    · subst here
      simp [changed]
    · rw [dlookup_cons_ne rest ⟨key, value⟩ here, dlookup_cons_ne rest' ⟨key, value'⟩ here]
      exact ih more

omit [DecidableEq K] in
theorem traverseEntries_ok (able : ∀ entry ∈ before, ∃ v', f entry.2 = .ok v') :
    ∃ after, traverseEntries f before = .ok after := by
  induction before with
  | nil => exact ⟨[], rfl⟩
  | cons entry rest ih =>
    obtain ⟨value', changed⟩ := able entry mem_cons_self
    obtain ⟨after, more⟩ := ih fun entry member => able entry (mem_cons_of_mem _ member)
    exact ⟨⟨entry.1, value'⟩ :: after, by simp [traverseEntries, changed, more, bind, Except.bind]⟩

theorem lookup_traverse (returned : m.traverse f = .ok m') :
    (∀ v, m.lookup k = some v → ∃ v', f v = .ok v' ∧ m'.lookup k = some v')
      ∧ (m.lookup k = none → m'.lookup k = none) := by
  simp only [traverse, bind, Except.bind] at returned
  split at returned
  · cases returned
  · rename_i after mapped
    cases returned
    simp only [lookup_to_alist]
    exact dlookup_traverseEntries mapped

theorem exists_of_lookup_traverse {v'} (returned : m.traverse f = .ok m')
    (found : m'.lookup k = some v') : ∃ v, m.lookup k = some v ∧ f v = .ok v' := by
  cases before : m.lookup k with
  | none =>
    rw [(lookup_traverse returned).2 before] at found
    cases found
  | some v =>
    obtain ⟨v'', changed, there⟩ := (lookup_traverse returned).1 v before
    cases there.symm.trans found
    exact ⟨v, rfl, changed⟩

theorem traverse_ok (able : ∀ k v, m.lookup k = some v → ∃ v', f v = .ok v') :
    ∃ m', m.traverse f = .ok m' := by
  obtain ⟨after, mapped⟩ := traverseEntries_ok fun entry member =>
    able entry.1 entry.2 (mem_dlookup m.nodupKeys member)
  exact ⟨after.toAList, by simp [traverse, mapped, bind, Except.bind]⟩

theorem dedupKeys_of_nodupKeys (apart : before.NodupKeys) : before.dedupKeys = before := by
  induction before with
  | nil => rfl
  | cons entry rest ih =>
    obtain ⟨absent, apart⟩ := nodupKeys_cons.mp apart
    rw [dedupKeys_cons, ih apart, kinsert_def, kerase_of_notMem_keys absent]

omit [DecidableEq K] in
theorem keys_traverseEntries (returned : traverseEntries f before = .ok after) :
    after.keys = before.keys := by
  induction before generalizing after with
  | nil =>
    cases returned
    rfl
  | cons entry rest ih =>
    obtain ⟨value', rest', -, more, rfl⟩ := traverseEntries_cons.mp returned
    simp [ih more]

theorem traverse_iff : m.traverse f = .ok m' ↔ traverseEntries f m.entries = .ok m'.entries := by
  have unchanged {after} (mapped : traverseEntries f m.entries = .ok after) :
      after.dedupKeys = after := by
    apply dedupKeys_of_nodupKeys
    rw [List.NodupKeys, keys_traverseEntries mapped]
    exact m.nodupKeys
  cases mapped : traverseEntries f m.entries with
  | error fault => simp [traverse, mapped, bind, Except.bind]
  | ok after =>
    simp only [traverse, mapped, bind, Except.bind, Except.ok.injEq, AList.ext_iff,
      AList.entries_toAList, unchanged mapped]

omit [DecidableEq K] in
theorem traverseEntries_comp :
    traverseEntries (fun v => f v >>= g) before = .ok after
      ↔ ∃ middle, traverseEntries f before = .ok middle ∧ traverseEntries g middle = .ok after := by
  have bound {v v'' : V} : (f v >>= g) = .ok v'' ↔ ∃ v', f v = .ok v' ∧ g v' = .ok v'' := by
    cases f v <;> simp [bind, Except.bind]
  induction before generalizing after with
  | nil => simp [traverseEntries]
  | cons entry rest ih =>
    obtain ⟨key, value⟩ := entry
    simp only [traverseEntries_cons, ih]
    constructor
    · rintro ⟨v'', rest'', changed, ⟨rest', more, more'⟩, rfl⟩
      obtain ⟨v', first, second⟩ := bound.mp changed
      exact ⟨_, ⟨v', rest', first, more, rfl⟩,
        traverseEntries_cons.mpr ⟨v'', rest'', second, more', rfl⟩⟩
    · rintro ⟨_, ⟨v', rest', first, more, rfl⟩, returned⟩
      obtain ⟨v'', rest'', second, more', rfl⟩ := traverseEntries_cons.mp returned
      exact ⟨v'', rest'', bound.mpr ⟨v', first, second⟩, ⟨rest', more, more'⟩, rfl⟩

theorem traverse_comp {m''} :
    m.traverse (fun v => f v >>= g) = .ok m''
      ↔ ∃ m', m.traverse f = .ok m' ∧ m'.traverse g = .ok m'' := by
  simp only [traverse_iff, traverseEntries_comp]
  constructor
  · rintro ⟨middle, first, second⟩
    have apart : middle.NodupKeys := by
      rw [List.NodupKeys, keys_traverseEntries first]
      exact m.nodupKeys
    exact ⟨⟨middle, apart⟩, first, second⟩
  · rintro ⟨m', first, second⟩
    exact ⟨m'.entries, first, second⟩

theorem traverse_pure : m.traverse (ε := ε) .ok = .ok m := by
  rw [traverse_iff]
  induction m.entries with
  | nil => rfl
  | cons entry rest ih => exact traverseEntries_cons.mpr ⟨entry.2, rest, rfl, ih, rfl⟩

omit [DecidableEq K] in
theorem traverseEntries_congr (same : ∀ entry ∈ before, f entry.2 = g entry.2) :
    traverseEntries f before = traverseEntries g before := by
  induction before with
  | nil => rfl
  | cons entry rest ih =>
    obtain ⟨here, later⟩ := forall_mem_cons.mp same
    simp only [traverseEntries, here, ih later]

theorem traverse_congr (same : ∀ k v, m.lookup k = some v → f v = g v) :
    m.traverse f = m.traverse g := by
  have entries : traverseEntries f m.entries = traverseEntries g m.entries := by
    apply traverseEntries_congr
    intro entry member
    exact same entry.1 entry.2 (mem_dlookup m.nodupKeys member)
  simp only [traverse, entries]

theorem map_values_traverse {W : Type} {g : V → W} (kept : ∀ v v', f v = .ok v' → g v' = g v)
    (returned : m.traverse f = .ok m') : m'.values.map g = m.values.map g := by
  have entries : ∀ {before after : List (Sigma fun _ : K => V)},
      traverseEntries f before = .ok after →
        after.map (fun entry => g entry.2) = before.map fun entry => g entry.2 := by
    intro before
    induction before with
    | nil =>
      intro after returned
      cases returned
      rfl
    | cons entry rest ih =>
      intro after returned
      obtain ⟨v', rest', changed, more, rfl⟩ := traverseEntries_cons.mp returned
      simp [kept _ _ changed, ih more]
  simpa [values, Function.comp_def] using entries (traverse_iff.mp returned)

end traverse

section entries

variable (f : V → V → V)

theorem lookup_foldl_upsert (entries : List (Sigma fun _ : K => V)) (apart : entries.NodupKeys)
    (m : Map K V) (k : K) :
    (entries.foldl (fun m entry => m.upsert entry.1 (f entry.2) entry.2) m).lookup k
      = match entries.dlookup k with
        | some v => some ((m.lookup k).elim v (f v))
        | none => m.lookup k := by
  induction entries generalizing m with
  | nil => rfl
  | cons entry rest ih =>
    obtain ⟨k', v⟩ := entry
    obtain ⟨absent, apart⟩ := nodupKeys_cons.mp apart
    rw [foldl_cons, ih apart, upsert, lookup_insert_ite]
    by_cases same : k = k'
    · subst same
      rw [dlookup_eq_none.mpr absent]
      simp
    · simp [same]

theorem lookup_foldl_modify_entries (entries : List (Sigma fun _ : K => V))
    (apart : entries.NodupKeys) (m : Map K V) (k : K) :
    (entries.foldl (fun m entry => m.modify entry.1 (f entry.2)) m).lookup k
      = match entries.dlookup k with
        | some v => (m.lookup k).map (f v)
        | none => m.lookup k := by
  induction entries generalizing m with
  | nil => rfl
  | cons entry rest ih =>
    obtain ⟨k', v⟩ := entry
    obtain ⟨absent, apart⟩ := nodupKeys_cons.mp apart
    rw [foldl_cons, ih apart, lookup_modify]
    by_cases same : k = k'
    · subst same
      rw [dlookup_eq_none.mpr absent]
      simp
    · simp [same]

end entries

section sums

variable {A M : Type} [AddMonoid M] (key : A → K) (value : A → M)

theorem getD_foldl_add (xs : List A) (m : Map K M) (k : K) :
    (xs.foldl (fun m x => m.upsert (key x) (· + value x) (value x)) m).getD k 0
      = m.getD k 0 + ((xs.filter (key · = k)).map value).sum := by
  induction xs generalizing m with
  | nil => simp
  | cons x rest ih =>
    rw [foldl_cons, ih, upsert, getD_insert]
    by_cases here : k = key x
    · subst here
      cases found : m.lookup (key x) <;> simp [getD, found, add_assoc]
    · have elsewhere : key x ≠ k := fun same => here same.symm
      simp [here, elsewhere]

theorem mem_foldl_add (xs : List A) (m : Map K M) (k : K) :
    k ∈ xs.foldl (fun m x => m.upsert (key x) (· + value x) (value x)) m
      ↔ k ∈ m ∨ k ∈ xs.map key := by
  induction xs generalizing m with
  | nil => simp
  | cons x rest ih =>
    rw [foldl_cons, ih, upsert, mem_insert]
    simp [or_assoc, or_left_comm]

end sums

section total

variable {M : Type} [AddCommMonoid M] (weight : V → M)

def total (m : Map K V) : M :=
  (m.values.map weight).sum

theorem kerase_total (k : K) (entries : List (Sigma fun _ : K => V)) :
    ((entries.kerase k).map (fun entry => weight entry.2)).sum
        + ((entries.dlookup k).map weight).getD 0 =
      (entries.map (fun entry => weight entry.2)).sum := by
  induction entries with
  | nil => simp
  | cons entry rest ih =>
    obtain ⟨k', v⟩ := entry
    by_cases same : k = k'
    · subst same
      simp [add_comm]
    · have apart : k ≠ (⟨k', v⟩ : Sigma fun _ : K => V).1 := same
      simp only [kerase_cons_ne apart, dlookup_cons_ne rest _ apart, map_cons, sum_cons]
      rw [add_assoc, ih]

theorem total_insert (m : Map K V) (k : K) (v : V) :
    total weight (insert k v m) + ((m.lookup k).map weight).getD 0 =
      total weight m + weight v := by
  have erased := kerase_total weight k m.entries
  simp only [total, values, map_map, entries_insert, map_cons, sum_cons, Function.comp_def]
  rw [add_assoc]
  unfold AList.lookup
  rw [erased, add_comm]

end total

end Map
