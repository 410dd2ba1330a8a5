import Vls.Lib.Machine
import Vls.Lib.VersionedStore
import Vls.Lib.Word

/-! # The signer with its store in the cloud

The signer keeps a local copy of a store that a server holds. What a request changes is logged,
sent to the server, written to the local copy once the server has answered, and then the request is
answered. The network between the two carries what it likes; all it lacks is the secret that signer
and server share. -/

namespace Vls.Cloud

abbrev Key := List U8

abbrev Value := List U8

abbrev Store := VersionedStore Key Value

abbrev Mutations := List (VersionedEntry Key Value)

/-- The entries of a store in the order of their keys, as both sides list them. -/
abbrev listed (store : Store) : Mutations :=
  store.listing (· ≤ ·)

def versionBytes (version : Nat) : List U8 :=
  (List.range 8).map fun i => BitVec.ofNat 8 (version >>> (8 * (7 - i)))

/-- Key, version and value follow each other with nothing in between. -/
def addToHmac (entry : VersionedEntry Key Value) : List U8 :=
  entry.1 ++ versionBytes entry.2.1 ++ entry.2.2

inductive Hmac where
  /-- Computed with the shared secret, over the given bytes. -/
  | shared (input : List U8)
  | other (bytes : List U8)
  deriving DecidableEq

def computeSharedHmac (nonce : List U8) (kvs : Mutations) : Hmac :=
  .shared (nonce ++ kvs.flatMap addToHmac)

/-- What an authenticator was made for. -/
inductive Statement where
  /-- The signer asks for mutations to be stored. -/
  | put (muts : Mutations)
  /-- The server has stored mutations. -/
  | stored (muts : Mutations)
  /-- The server's whole state, to whoever sent the nonce. -/
  | state (nonce : List U8) (kvs : Mutations)
  deriving DecidableEq

namespace Statement

def nonce : Statement → List U8
  | put _ => [0x01]
  | stored _ => [0x02]
  | state nonce _ => nonce

def kvs : Statement → Mutations
  | put muts => muts
  | stored muts => muts
  | state _ kvs => kvs

def hmac (statement : Statement) : Hmac :=
  computeSharedHmac statement.nonce statement.kvs

end Statement

def lastWriterKey : Key := [95, 87, 82, 73, 84, 69, 82]

/-- The version to put a key with, in 64 bits. -/
def nextVersion (localStore : Store) (key : Key) : Nat :=
  ((localStore.lookup key).map Prod.fst).elim 0 fun version => (version + 1) % 2 ^ 64

/-- The version of the key is not the last one. -/
def Unexhausted (localStore : Store) (key : Key) : Prop :=
  ∀ entry ∈ localStore.lookup key, entry.1 + 1 < 2 ^ 64
  deriving Decidable

theorem Unexhausted.nextVersion_eq {localStore key} (room : Unexhausted localStore key) :
    nextVersion localStore key = localStore.nextVersion key := by
  unfold nextVersion VersionedStore.nextVersion
  cases here : localStore.lookup key with
  | none => rfl
  | some entry => exact Nat.mod_eq_of_lt (room entry here)

def enter (signerId : Value) (localStore : Store) : Store :=
  (∅ : Store).insert lastWriterKey (nextVersion localStore lastWriterKey, signerId)

theorem lookup_enter (signerId : Value) (localStore : Store) (key : Key) :
    (enter signerId localStore).lookup key =
      if key = lastWriterKey then some (nextVersion localStore lastWriterKey, signerId) else none :=
  Map.lookup_insert_ite _ _ _ _

def putWithVersion (localStore log : Store) (key : Key) (version : Nat) (value : Value) :
    Option Store :=
  match localStore.lookup key with
  | some (existing, kept) =>
    if version < existing then none
    else if version = existing then if kept = value then some log else none
    else some (log.insert key (version, value))
  | none => some (log.insert key (version, value))

def put (localStore log : Store) (key : Key) (value : Value) : Option Store :=
  putWithVersion localStore log key (nextVersion localStore key) value

theorem put_eq {localStore key} (room : Unexhausted localStore key) (log : Store) (value : Value) :
    put localStore log key value = some (log.insert key (localStore.nextVersion key, value)) := by
  rw [put, room.nextVersion_eq]
  unfold putWithVersion VersionedStore.nextVersion
  cases localStore.lookup key with
  | none => rfl
  | some entry =>
    obtain ⟨version, kept⟩ := entry
    simp

def logged (signerId : Value) (localStore : Store) (puts : List (Key × Value)) : Option Store :=
  puts.foldlM (fun log entry => put localStore log entry.1 entry.2) (enter signerId localStore)

/-- The mutations to be stored and the log left for the commit. A log of the writer record only
    is dropped. -/
def prepare (log : Store) : Mutations × Store :=
  if (listed log).length = 1 then ([], ∅) else (listed log, log)

inductive Ending where
  | reply
  | error
  | temporaryError
  deriving DecidableEq

/-- A request, with what the handler makes of its message: what it puts, and how it ends. -/
structure Request where
  /-- The message can be read. -/
  parses : Bool
  /-- The channel's database id and the peer's id, if the request has them. -/
  context : Option (U64 × List U8)
  puts : List (Key × Value)
  ending : Ending

/-- The peer's id does not have the length of a public key. -/
def Request.BadPeer (request : Request) : Prop :=
  match request.context with
  | some (dbid, peerId) => 0 < dbid ∧ peerId.length ≠ 33
  | none => False

instance : (request : Request) → Decidable request.BadPeer
  | ⟨_, none, _, _⟩ => .isFalse id
  | ⟨_, some context, _, _⟩ => inferInstanceAs (Decidable (0 < context.1 ∧ context.2.length ≠ 33))

/-- A transaction belongs to the start of the signer or to a request that ended in some way. -/
abbrev Purpose := Option Ending

inductive Phase where
  | down
  /-- The server was asked for its state, with a nonce. -/
  | syncing (nonce : List U8)
  | ready
  /-- The mutations were sent to the server. -/
  | storing (log : Store) (muts : Mutations) (purpose : Purpose)
  /-- The client has returned; the authenticator is what the answer carried. -/
  | stored (log : Store) (muts : Mutations) (purpose : Purpose) (proof : Option Hmac)
  | committed (muts : Mutations) (purpose : Purpose) (proof : Option Hmac)
  deriving DecidableEq

structure Reply where
  muts : Mutations
  proof : Option Hmac
  deriving DecidableEq

/-- The signer's disk and process, the server's store, and a record of the authenticators made so
    far and of the requests answered with success. -/
structure World where
  localStore : Store
  cloudStore : Store
  phase : Phase
  emitted : List Statement
  answered : List Reply

inductive Input where
  | connect (nonce : List U8)
  /-- Someone asks the server for its state. -/
  | query (nonce : List U8)
  /-- An answer to the signer's question for the state, and the puts of the handler's start. -/
  | synced (kvs : Mutations) (received : Hmac) (puts : List (Key × Value))
  | request (request : Request)
  /-- A request to store mutations reaches the server. -/
  | deliver (muts : Mutations)
  /-- An answer to the signer's request to store, or an error of the client. -/
  | answer (received : Option Hmac)
  | commit
  | reply
  | crash

inductive Output where
  | done
  | panicked
  | replied
  | refused
  deriving DecidableEq

namespace World

def init : World where
  localStore := ∅
  cloudStore := ∅
  phase := .down
  emitted := []
  answered := []

/-- Unforgeability: whoever lacks the secret has no authenticator but those made before. -/
def Knows (world : World) : Hmac → Prop
  | .other _ => True
  | .shared input => ∃ statement ∈ world.emitted, statement.hmac = .shared input

instance (world : World) : (received : Hmac) → Decidable (world.Knows received)
  | .other _ => .isTrue trivial
  | .shared input =>
    inferInstanceAs (Decidable (∃ statement ∈ world.emitted, statement.hmac = .shared input))

def Fresh (world : World) (nonce : List U8) : Prop :=
  nonce.length = 32 ∧ ∀ statement ∈ world.emitted, statement.nonce ≠ nonce
  deriving Decidable

def panicked (world : World) : Output × World :=
  (.panicked, { world with phase := .down })

def storeWithClient (world : World) (log : Store) (muts : Mutations) (purpose : Purpose) : World :=
  if muts = [] then { world with phase := .stored log muts purpose none }
  else { world with phase := .storing log muts purpose, emitted := .put muts :: world.emitted }

def transact (signerId : Value) (world : World) (puts : List (Key × Value)) (purpose : Purpose) :
    Output × World :=
  match logged signerId world.localStore puts with
  | none => world.panicked
  | some log =>
    if purpose = some .temporaryError ∧ (prepare log).1 ≠ [] then world.panicked
    else (.done, world.storeWithClient (prepare log).2 (prepare log).1 purpose)

/-- With a bad peer id the transaction that was just entered is committed as it is, and the loop
    then goes on to commit it once more. -/
def rejectPeer (signerId : Value) (world : World) : Output × World :=
  match world.localStore.putBatch (listed (enter signerId world.localStore)) with
  | none => world.panicked
  | some localStore => panicked { world with localStore }

def handle (signerId : Value) (world : World) (request : Request) : Output × World :=
  if request.parses = false then (.refused, world)
  else if request.BadPeer then world.rejectPeer signerId
  else world.transact signerId request.puts (some request.ending)

def synchronise (signerId : Value) (world : World) (kvs : Mutations)
    (puts : List (Key × Value)) : Output × World :=
  match world.localStore.putBatch (listed (VersionedStore.insertAll ∅ kvs)) with
  | none => world.panicked
  | some localStore => transact signerId { world with localStore } puts none

/-- The server stores mutations that have the next versions of their keys. -/
def serve (world : World) (muts : Mutations) : World :=
  match world.cloudStore.putNext muts with
  | none => world
  | some cloudStore => { world with cloudStore, emitted := .stored muts :: world.emitted }

def commitLog (world : World) (log : Store) (muts : Mutations) (purpose : Purpose)
    (proof : Option Hmac) : Output × World :=
  match world.localStore.putBatch (listed log) with
  | none => world.panicked
  | some localStore => (.done, { world with localStore, phase := .committed muts purpose proof })

def respond (world : World) (muts : Mutations) (proof : Option Hmac) : Purpose → Output × World
  | none => (.done, { world with phase := .ready })
  | some .reply =>
    (.replied, { world with phase := .ready, answered := ⟨muts, proof⟩ :: world.answered })
  | some .error => (.refused, { world with phase := .ready })
  | some .temporaryError => (.refused, { world with phase := .ready })

/-- Any answer to a request to store but an error moves the signer on: what it carries is not
    looked at. -/
def step (signerId : Value) (world : World) (input : Input) : Option (Output × World) :=
  match input, world.phase with
  | .connect nonce, .down =>
    if world.Fresh nonce then some (.done, { world with phase := .syncing nonce }) else none
  | .query nonce, _ =>
    some (.done, { world with
      emitted := .state nonce (listed world.cloudStore) :: world.emitted })
  | .synced kvs received puts, .syncing nonce =>
    if world.Knows received then
      if received = (Statement.state nonce kvs).hmac then
        some (world.synchronise signerId kvs puts)
      else some world.panicked
    else none
  | .request request, .ready => some (world.handle signerId request)
  | .deliver muts, _ => if .put muts ∈ world.emitted then some (.done, world.serve muts) else none
  | .answer none, .storing _ _ _ => some world.panicked
  | .answer (some received), .storing log muts purpose =>
    if world.Knows received then
      some (.done, { world with phase := .stored log muts purpose (some received) })
    else none
  | .commit, .stored log muts purpose proof => some (world.commitLog log muts purpose proof)
  | .reply, .committed muts purpose proof => some (world.respond muts proof purpose)
  | .crash, _ => some (.done, { world with phase := .down })
  | _, _ => none

end World

def machine (signerId : Value) : Machine World Input Output where
  step := World.step signerId

end Vls.Cloud
