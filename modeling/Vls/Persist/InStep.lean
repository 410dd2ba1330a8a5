import Vls.Persist.Durable

/-! # Local store and cloud store in step

With one signer and a server that answers every put, each request takes both stores to the same next
state, whether it is granted, refused or changes nothing. The exit for a bad peer id does not: it
commits the record of the writer to the local store alone, and the loop panics. -/

namespace Vls.Cloud

open VersionedStore

variable {localStore log : Store} {puts : List (Key × Value)} {muts : Mutations} {purpose : Purpose}

namespace World

def finish (world : World) (log : Store) (muts : Mutations) (purpose : Purpose)
    (proof : Option Hmac) : Output × World :=
  match world.localStore.putBatch (listed log) with
  | none => world.panicked
  | some localStore => respond { world with localStore } muts proof purpose

/-- What a server that answers makes of a transaction. A conflict is an error of the client, over
    which the loop panics. -/
def settle (outcome : Output × World) : Output × World :=
  match outcome.2.phase with
  | .storing log muts purpose =>
    match outcome.2.cloudStore.putNext muts with
    | none => outcome.2.panicked
    | some _ => (outcome.2.serve muts).finish log muts purpose (some (Statement.stored muts).hmac)
  | .stored log muts purpose proof => outcome.2.finish log muts purpose proof
  | _ => outcome

def handleRequest (signerId : Value) (world : World) (request : Request) : Output × World :=
  settle (world.handle signerId request)

end World

def loop (signerId : Value) : Machine World Request Output where
  step world request :=
    match world.phase with
    | .ready => some (world.handleRequest signerId request)
    | _ => none

/-- The peer's id is one, and a temporary failure has changed nothing. -/
def Request.Orderly (request : Request) : Prop :=
  ¬ (request.parses ∧ request.BadPeer) ∧ (request.ending = .temporaryError → request.puts = [])
  deriving Decidable

/-- The next versions of the keys that a request writes can be counted. -/
def Room (localStore : Store) (puts : List (Key × Value)) : Prop :=
  Unexhausted localStore lastWriterKey ∧ ∀ entry ∈ puts, Unexhausted localStore entry.1
  deriving Decidable

theorem logged_next {signerId} (room : Room localStore puts)
    (made : logged signerId localStore puts = some log) :
    ∀ entry ∈ listed log, entry.2.1 = localStore.nextVersion entry.1 := by
  suffices loop : ∀ log',
      (∀ key value, log'.lookup key = some value → value.1 = localStore.nextVersion key) →
      puts.foldlM (fun log entry => put localStore log entry.1 entry.2) log' = some log →
      ∀ key value, log.lookup key = some value → value.1 = localStore.nextVersion key by
    intro entry mem
    refine loop _ ?_ made entry.1 entry.2 (mem_listing.mp mem)
    intro key value here
    rw [lookup_enter, room.1.nextVersion_eq] at here
    split at here
    · rename_i same
      rw [← Option.some.inj here, same]
    · cases here
  clear made
  obtain ⟨-, room⟩ := room
  induction puts with
  | nil =>
    intro log' next made
    cases made
    exact next
  | cons first rest ih =>
    rw [List.forall_mem_cons] at room
    intro log' next made
    rw [List.foldlM_cons, put_eq room.1] at made
    refine ih room.2 _ ?_ made
    intro key value here
    rw [Map.lookup_insert_ite] at here
    split at here
    · rename_i same
      rw [← Option.some.inj here, same]
    · exact next key value here

theorem prepare_next (next : ∀ entry ∈ listed log, entry.2.1 = localStore.nextVersion entry.1) :
    ∀ entry ∈ listed (prepare log).2, entry.2.1 = localStore.nextVersion entry.1 := by
  unfold prepare
  split
  · intro entry mem
    cases mem_listing.mp mem
  · exact next

namespace World

variable {world : World} {signerId : Value}

def Equal (world : World) : Prop :=
  ∀ key, world.localStore.lookup key = world.cloudStore.lookup key

structure InStep (world : World) : Prop where
  ready : world.phase = .ready
  equal : world.Equal

def Through (outcome : Output × World) : Prop :=
  outcome.1 ≠ .panicked ∧ outcome.2.InStep

theorem through_respond (equal : world.Equal) (muts : Mutations) (proof : Option Hmac)
    (purpose : Purpose) : Through (world.respond muts proof purpose) := by
  match purpose with
  | none | some .reply | some .error | some .temporaryError => exact ⟨nofun, rfl, equal⟩

theorem through_finish {proof}
    (next : ∀ entry ∈ listed log, entry.2.1 = world.localStore.nextVersion entry.1)
    (ahead : ∀ key, world.cloudStore.lookup key
      = (world.localStore.insertAll (listed log)).lookup key) :
    Through (world.finish log muts purpose proof) := by
  obtain ⟨localStore, put, same⟩ := putBatch_next listing_nodup next
  unfold World.finish
  rw [put]
  exact through_respond (fun key => (same key).trans (ahead key).symm) _ _ _

theorem nextVersion_of_equal (equal : world.Equal) (key : Key) :
    world.localStore.nextVersion key = world.cloudStore.nextVersion key := by
  simp only [VersionedStore.nextVersion, equal key]

theorem through_storeWithClient (equal : world.Equal) (same : listed log = muts)
    (next : ∀ entry ∈ listed log, entry.2.1 = world.localStore.nextVersion entry.1)
    (purpose : Purpose) (output : Output) :
    Through (settle (output, world.storeWithClient log muts purpose)) := by
  subst same
  unfold World.storeWithClient
  split
  · rename_i empty
    refine through_finish next fun key => ?_
    rw [empty]
    exact (equal key).symm
  · have accepted :=
      putNext_eq fun entry mem => (next entry mem).trans (nextVersion_of_equal equal _)
    simp only [settle, accepted, World.serve]
    exact through_finish next (lookup_insertAll_congr fun key => (equal key).symm)

theorem through_transact (equal : world.Equal) (room : Room world.localStore puts)
    (unchanged : purpose = some .temporaryError → puts = []) :
    Through (settle (world.transact signerId puts purpose)) := by
  obtain ⟨log, made⟩ := logged_isSome signerId room.2
  unfold World.transact
  rw [made]
  dsimp only
  rw [if_neg]
  · exact through_storeWithClient equal (listed_prepare log) (prepare_next (logged_next room made))
      _ _
  · rintro ⟨temporary, changed⟩
    rw [unchanged temporary] at made
    cases made
    exact changed (by simp [prepare, enter, listing])

theorem through_handleRequest (inStep : world.InStep) {request} (orderly : request.Orderly)
    (room : Room world.localStore request.puts) :
    Through (world.handleRequest signerId request) := by
  unfold World.handleRequest World.handle
  split
  · unfold settle
    rw [inStep.ready]
    exact ⟨nofun, inStep⟩
  · rename_i parses
    rw [if_neg fun bad => orderly.1 ⟨by simpa using parses, bad⟩]
    refine through_transact inStep.equal room fun temporary => orderly.2 ?_
    simpa using temporary

end World

def emptyLoop : World :=
  { World.init with phase := .ready }

theorem emptyLoop_inStep : emptyLoop.InStep :=
  ⟨rfl, fun _ => rfl⟩

end Vls.Cloud
