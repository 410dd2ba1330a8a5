import Vls.Persist.Local

/-! # Transactions over a local store

Between `enter` and `commit` what is written is collected in a log, and reads look there first. -/

namespace Vls.Kvv

open VersionedStore Memory

structure Transactional where
  inner : Store
  log : Store

namespace Transactional

def get (t : Transactional) (key : Key) : Option (Nat × Value) :=
  (t.log.lookup key).or (t.inner.lookup key)

def putWithVersion (t : Transactional) (kvv : Entry) : Option Transactional :=
  (accept (t.get kvv.1) kvv.2).map fun write =>
    if write then { t with log := t.log.insert kvv.1 kvv.2 } else t

/-- What comes before the first entry that is refused stays in the log. -/
def putBatch (t : Transactional) : List Entry → Answer × Transactional
  | [] => (.done, t)
  | kvv :: rest =>
    match t.putWithVersion kvv with
    | some t' => t'.putBatch rest
    | none => (.versionMismatch, t)

def prefixRows (t : Transactional) (keyPrefix : Key) : Store :=
  insertAll (insertAll ∅ (getPrefix t.inner keyPrefix))
    ((t.log.listing (· ≤ ·)).filter fun kvv => keyPrefix.isPrefixOf kvv.1)

def run (t : Transactional) : Call → Answer × Transactional
  | .put key version value =>
    answer t (t.putWithVersion
      (key, version.getD (nextVersion ((t.get key).map Prod.fst)), value))
  | .putBatch kvvs => t.putBatch kvvs
  | .get key => (.found (t.get key), t)
  | .getVersion key => (.version ((t.get key).map Prod.fst), t)
  | .getPrefix keyPrefix => (.listed ((t.prefixRows keyPrefix).listing (· ≤ ·)), t)

def commit (t : Transactional) : Option Store :=
  if t.log.keys = [] then some t.inner
  else Memory.putBatch t.inner (t.log.listing (· ≤ ·))

def machine : Machine Transactional Call Answer where
  step t call := some (t.run call)

end Transactional

def Memory.plainMachine : Machine Store Call Answer where
  step data call := some (Memory.run data call)

/-- The entries of a batch for one key rise, or repeat each other. -/
def Rising (earlier later : Entry) : Prop :=
  earlier.1 = later.1 → earlier.2.1 < later.2.1 ∨ earlier.2 = later.2
  deriving Decidable

def stored (data : Store) (kvv : Entry) : Bool := data.lookup kvv.1 = some kvv.2

/-- A batch rises and is taken as a whole, or it is refused before it changes anything. -/
def Whole (data : Store) : Call → Prop
  | .putBatch kvvs => (kvvs.Pairwise Rising ∧ kvvs.all (admits data)) ∨
      ∃ kvv ∈ (kvvs.dropWhile (stored data)).head?, ¬ admits data kvv
  | _ => True

instance (data : Store) (call : Call) : Decidable (Whole data call) := by
  unfold Whole
  split <;> infer_instance

theorem accept_true {existing entry} (accepted : accept existing entry = some true) :
    ∀ known ∈ existing, known.1 < entry.1 := by
  unfold accept at accepted
  grind

theorem accept_rising {existing entry : Nat × Value}
    (rises : existing.1 < entry.1 ∨ existing = entry) : (accept (some existing) entry).isSome := by
  obtain less | rfl := rises
  · simp [accept, less.ne', less.not_gt]
  · simp [accept]

theorem putWithVersion_of_admits {data kvv} (admitted : admits data kvv) :
    ∃ data', Memory.putWithVersion data kvv = some data' ∧
      ∀ key, data'.lookup key = (data.insert kvv.1 kvv.2).lookup key := by
  unfold admits at admitted
  unfold Memory.putWithVersion
  cases accepted : accept (data.lookup kvv.1) kvv.2 with
  | none => simp [accepted] at admitted
  | some write =>
    cases write with
    | true => exact ⟨_, rfl, fun _ => rfl⟩
    | false =>
      refine ⟨data, rfl, fun key => ?_⟩
      have here : data.lookup kvv.1 = some kvv.2 := by
        unfold accept at accepted
        grind
      rw [Map.lookup_insert_ite]
      split
      · rename_i same
        rw [same, here]
      · rfl

theorem run_refused {data call} (refused : (Memory.run data call).1 = .versionMismatch) :
    (Memory.run data call).2 = data := by
  have kept : ∀ made : Option Store, (answer data made).1 = .versionMismatch →
      (answer data made).2 = data := by
    rintro (_ | data') <;> simp [answer]
  cases call <;> first | exact kept _ refused | cases refused

/-- What is read in the transaction is what the plain store has, and the log is ahead of what it
    covers. -/
structure Overlays (inner data : Store) (t : Transactional) : Prop where
  untouched : t.inner = inner
  same : ∀ key, t.get key = data.lookup key
  above : ∀ key, ∀ entry ∈ t.log.lookup key, ∀ known ∈ inner.lookup key, known.1 < entry.1

theorem keys_nodup {kvvs : List Entry} (sorted : kvvs.Pairwise fun a b => a.1 < b.1) :
    (kvvs.map Prod.fst).Nodup :=
  List.pairwise_map.mpr (sorted.imp fun less => less.ne)

namespace Overlays

variable {inner data data' : Store} {t : Transactional} {kvvs : List Entry}

section

variable (overlays : Overlays inner data t)
include overlays

theorem congr (same : ∀ key, data.lookup key = data'.lookup key) :
    Overlays inner data' t :=
  ⟨overlays.untouched, fun key => (overlays.same key).trans (same key), overlays.above⟩

theorem insert {kvv : Entry} (later : ∀ known ∈ data.lookup kvv.1, known.1 < kvv.2.1) :
    Overlays inner (data.insert kvv.1 kvv.2) { t with log := t.log.insert kvv.1 kvv.2 } := by
  refine ⟨overlays.untouched, fun key => ?_, fun key entry here known old => ?_⟩
  · simp only [Transactional.get, Map.lookup_insert_ite]
    split
    · rfl
    · exact overlays.same key
  · rw [Map.lookup_insert_ite] at here
    split at here
    · rename_i same
      cases here
      subst same
      rw [← overlays.same, Transactional.get, overlays.untouched] at later
      cases logged : t.log.lookup kvv.1 with
      | none => exact later known (by simpa [logged] using old)
      | some entry =>
        have ahead := overlays.above _ entry logged known old
        exact ahead.trans (later entry (by simp [logged]))
    · exact overlays.above key entry here known old

theorem putWithVersion (kvv : Entry) :
    Follows (Overlays inner) (some (answer t (t.putWithVersion kvv)))
      (answer data (Memory.putWithVersion data kvv)) := by
  unfold Transactional.putWithVersion Memory.putWithVersion
  rw [overlays.same]
  cases accepted : accept (data.lookup kvv.1) kvv.2 with
  | none => exact ⟨t, rfl, overlays⟩
  | some write =>
    cases write with
    | false => exact ⟨t, rfl, overlays⟩
    | true => exact ⟨_, rfl, overlays.insert (accept_true accepted)⟩

theorem putBatch (rising : kvvs.Pairwise Rising) (admitted : kvvs.all (admits data)) :
    ∃ t', t.putBatch kvvs = (.done, t') ∧ Overlays inner (data.insertAll kvvs) t' := by
  induction kvvs generalizing data t with
  | nil => exact ⟨t, rfl, overlays⟩
  | cons kvv rest ih =>
    obtain ⟨first, rising⟩ := List.pairwise_cons.mp rising
    rw [List.all_cons, Bool.and_eq_true] at admitted
    obtain ⟨data₁, put, lookups⟩ := putWithVersion_of_admits admitted.1
    obtain ⟨t₁, written, overlays₁⟩ := overlays.putWithVersion kvv
    rw [put] at written overlays₁
    cases logged : t.putWithVersion kvv with
    | none => simp [logged, answer] at written
    | some t₁ =>
      rw [logged] at written
      cases written
      have overlays₁ : Overlays inner data₁ t₁ := overlays₁
      have later : rest.all (admits data₁) := List.all_eq_true.mpr fun kvv' mem => by
        rw [admits, lookups, Map.lookup_insert_ite]
        split
        · rename_i same
          exact accept_rising (first kvv' mem same.symm)
        · exact List.all_eq_true.mp admitted.2 kvv' mem
      obtain ⟨t', all, overlays'⟩ := ih overlays₁ rising later
      refine ⟨t', by rw [Transactional.putBatch, logged]; exact all, ?_⟩
      exact overlays'.congr (lookup_insertAll_congr lookups)

theorem putBatch_refused {kvv} (head : kvv ∈ (kvvs.dropWhile (stored data)).head?)
    (refused : ¬ admits data kvv) :
    t.putBatch kvvs = (.versionMismatch, t) ∧ ¬ kvvs.all (admits data) := by
  induction kvvs with
  | nil => cases head
  | cons first rest ih =>
    rw [Transactional.putBatch, Transactional.putWithVersion, overlays.same, List.all_cons]
    by_cases same : stored data first
    · rw [List.dropWhile_cons_of_pos same] at head
      have kept : data.lookup first.1 = some first.2 := of_decide_eq_true same
      obtain ⟨ended, notAll⟩ := ih head
      refine ⟨by simpa [kept, accept] using ended, ?_⟩
      rw [Bool.and_eq_true]
      exact fun both => notAll both.2
    · rw [List.dropWhile_cons_of_neg same] at head
      cases head
      have none : accept (data.lookup kvv.1) kvv.2 = none := by simpa [admits] using refused
      simp [none, refused]

theorem lookup_prefixRows (keyPrefix key : Key) :
    (t.prefixRows keyPrefix).lookup key =
      if keyPrefix <+: key then data.lookup key else none := by
  let rows (store : Store) (key : Key) := if keyPrefix <+: key then store.lookup key else none
  have logged : ∀ kvv,
      kvv ∈ (t.log.listing (· ≤ ·)).filter (fun kvv => keyPrefix.isPrefixOf kvv.1) ↔
      rows t.log kvv.1 = some kvv.2 := by
    intro kvv
    simp only [rows, List.mem_filter, mem_listing, List.isPrefixOf_iff_prefix]
    split <;> simp [*]
  have read : ∀ kvv, kvv ∈ getPrefix t.inner keyPrefix ↔ rows t.inner kvv.1 = some kvv.2 := by
    intro kvv
    simp only [rows, mem_getPrefix]
    split <;> simp [*]
  rw [← overlays.same, Transactional.get, Transactional.prefixRows,
    lookup_insertAll_or (rows t.log) (keys_nodup ((pairwise_listing t.log).filter _)) logged,
    lookup_insertAll_or (rows t.inner) (keys_nodup pairwise_getPrefix) read]
  simp only [rows]
  split
  · rw [AList.lookup_empty, Option.or_none]
  · rfl

theorem commit :
    ∃ inner', t.commit = some inner' ∧ ∀ key, inner'.lookup key = data.lookup key := by
  have admitted : (t.log.listing (· ≤ ·)).all (admits t.inner) := by
    refine List.all_eq_true.mpr fun kvv mem => ?_
    have above := overlays.above kvv.1 kvv.2 (mem_listing.mp mem)
    rw [← overlays.untouched] at above
    cases here : t.inner.lookup kvv.1 with
    | none => simp [admits, accept, here]
    | some known =>
      have later := above known here
      simp [admits, accept, here, later.ne', later.not_gt]
  unfold Transactional.commit Memory.putBatch
  split
  · rename_i empty
    refine ⟨_, rfl, fun key => ?_⟩
    have absent : t.log.lookup key = none := by
      rw [AList.lookup_eq_none, AList.mem_keys, empty]
      exact List.not_mem_nil
    rw [← overlays.same, Transactional.get, absent, Option.none_or]
  · refine ⟨_, rfl, fun key => ?_⟩
    rw [lookup_insertAll_or (t.log.lookup ·) listing_nodup fun _ => mem_listing, ← overlays.same]
    rfl

theorem run {call} (whole : Whole data call) :
    Follows (Overlays inner) (some (t.run call)) (Memory.run data call) := by
  cases call with
  | put key version value =>
    rw [Transactional.run, overlays.same]
    exact overlays.putWithVersion _
  | get key => exact ⟨t, by rw [Transactional.run, overlays.same]; rfl, overlays⟩
  | getVersion key => exact ⟨t, by rw [Transactional.run, overlays.same]; rfl, overlays⟩
  | getPrefix keyPrefix =>
    refine ⟨t, congrArg (fun kvvs => some (Answer.listed kvvs, t)) ?_, overlays⟩
    refine Prefix.listing_unique (pairwise_listing _) pairwise_getPrefix fun kvv => ?_
    rw [mem_listing, mem_getPrefix, overlays.lookup_prefixRows]
    split <;> simp [*]
  | putBatch kvvs =>
    obtain ⟨rising, admitted⟩ | ⟨kvv, head, refused⟩ := whole
    · obtain ⟨t', all, overlays'⟩ := overlays.putBatch rising admitted
      refine ⟨t', ?_, ?_⟩
      · simp [Transactional.run, Memory.run, all, Memory.putBatch, admitted, answer]
      · simpa [Memory.run, Memory.putBatch, admitted, answer] using overlays'
    · obtain ⟨ended, notAll⟩ := overlays.putBatch_refused head refused
      refine ⟨t, ?_, ?_⟩
      · simp [Transactional.run, ended, Memory.run, Memory.putBatch, notAll, answer]
      · simpa [Memory.run, Memory.putBatch, notAll, answer] using overlays

end

end Overlays

/-- A transaction answers as the plain store does, does not touch the inner store before the
    commit, and leaves it as the plain store. -/
theorem transaction_as_plain {inner history data} (run : Memory.plainMachine.Run inner history data)
    (whole : Machine.Meets (fun _ => Whole) history) :
    ∃ history' t, Transactional.machine.Run ⟨inner, ∅⟩ history' t ∧
      Machine.exchanges history' = Machine.exchanges history ∧ t.inner = inner ∧
      (∀ key, t.get key = data.lookup key) ∧
      (∃ inner', t.commit = some inner' ∧ ∀ key, inner'.lookup key = data.lookup key) ∧
      ∀ call, Whole data call → (t.run call).1 = .versionMismatch →
        ∀ key, (t.run call).2.get key = t.get key := by
  have simulated : ∃ history' t, Transactional.machine.Run ⟨inner, ∅⟩ history' t ∧
      Machine.exchanges history' = Machine.exchanges history ∧ Overlays inner data t := by
    refine run.simulated (Overlays inner) whole ⟨rfl, fun _ => rfl, nofun⟩ ?_
    intro data t call answer data' overlays whole stepped
    obtain ⟨rfl, rfl⟩ := Prod.ext_iff.mp (Option.some.inj stepped)
    exact overlays.run whole
  obtain ⟨history', t, run', same, overlays⟩ := simulated
  refine ⟨history', t, run', same, overlays.untouched, overlays.same, overlays.commit, ?_⟩
  intro call whole refused key
  obtain ⟨t', ran, overlays'⟩ := overlays.run whole
  rw [Option.some.inj ran] at refused ⊢
  rw [overlays'.same, run_refused refused, overlays.same]

end Vls.Kvv

namespace Vls.Kvv.Toy

def held : Store := (∅ : Store).insert ['k'] (0, [1])

theorem puts_committed :
    ∃ history data history' t, Memory.plainMachine.Run held history data ∧ history.length = 3 ∧
      Transactional.machine.Run ⟨held, ∅⟩ history' t ∧
      Machine.exchanges history' = Machine.exchanges history ∧
      ∃ inner', t.commit = some inner' ∧ ∀ key, inner'.lookup key = data.lookup key := by
  have ran : ∃ history data, Memory.plainMachine.Run held history data ∧
      Machine.Meets (fun _ => Whole) history ∧ history.length = 3 :=
    Machine.exists_run [.put ['k'] none [2], .putBatch [(['k'], 2, [3]), (['l'], 0, [])],
      .putBatch [(['k'], 1, [2])]] (by decide +kernel)
  obtain ⟨history, data, run, whole, long⟩ := ran
  obtain ⟨history', t, run', same, -, -, committed, -⟩ := transaction_as_plain run whole
  exact ⟨history, data, history', t, run, long, run', same, committed⟩

/-- A batch that is refused at its second entry leaves the first, and a batch for one key is refused
    that the plain store takes. -/
theorem batch_left_behind :
    (let batch : Call := .putBatch [(['l'], 0, []), (['k'], 0, [2])]
    answers Memory.plainMachine held [batch, .get ['l']] = some [.found none, .versionMismatch] ∧
      answers Transactional.machine ⟨held, ∅⟩ [batch, .get ['l']] =
        some [.found (some (0, [])), .versionMismatch]) ∧
    let batch : Call := .putBatch [(['k'], 2, [2]), (['k'], 1, [3])]
    answers Memory.plainMachine held [batch] = some [.done] ∧
      answers Transactional.machine ⟨held, ∅⟩ [batch] = some [.versionMismatch] := by
  decide +kernel

end Vls.Kvv.Toy
