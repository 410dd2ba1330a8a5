import Vls.Persist.Cloud

/-! # Durable before reply

An answer to a request to store counts as an acknowledgement whatever it carries. Where it carries
the server's own authenticator, every reply is backed by the server's store. -/

namespace Vls.Cloud

open VersionedStore

variable {muts kvs : Mutations} {proof : Option Hmac} {phase : Phase} {log : Store}
  {nonce : List U8} {purpose : Purpose} {output : Output}

theorem logged_isSome (signerId : Value) {localStore : Store} {puts : List (Key × Value)}
    (room : ∀ entry ∈ puts, Unexhausted localStore entry.1) :
    ∃ log, logged signerId localStore puts = some log := by
  suffices loop : ∀ log, ∃ log',
      puts.foldlM (fun log entry => put localStore log entry.1 entry.2) log = some log' from
    loop _
  induction puts with
  | nil => exact fun log => ⟨log, rfl⟩
  | cons first rest ih =>
    rw [List.forall_mem_cons] at room
    intro log
    obtain ⟨log', put⟩ := ih room.2 (log.insert first.1 (localStore.nextVersion first.1, first.2))
    exact ⟨log', by rw [List.foldlM_cons, put_eq room.1]; exact put⟩

theorem listed_prepare (log : Store) : listed (prepare log).2 = (prepare log).1 := by
  unfold prepare
  split <;> rfl

namespace World

variable {world world' : World} {signerId : Value}

def Proved (world : World) (muts : Mutations) (proof : Option Hmac) : Prop :=
  muts = [] ∨ proof = some (Statement.stored muts).hmac ∧ .stored muts ∈ world.emitted

/-- No other authenticated statement spells the same bytes. -/
def Plain (world : World) (statement : Statement) : Prop :=
  ∀ other ∈ world.emitted, other.hmac = statement.hmac → other = statement
  deriving Decidable

/-- What the network hands on as an acknowledgement carries the server's authenticator of the
    mutations at hand, what it hands on as the server's word was not said of something else that
    spells the same bytes, and a peer's id is one. -/
def Sound (world : World) (input : Input) : Prop :=
  match input, world.phase with
  | .request request, _ => ¬ (request.parses ∧ request.BadPeer)
  | .answer (some received), .storing _ muts _ =>
    received = (Statement.stored muts).hmac ∧ world.Plain (.stored muts)
  | .synced kvs _ _, .syncing nonce => world.Plain (.state nonce kvs)
  | _, _ => True

instance (world : World) (input : Input) : Decidable (world.Sound input) := by
  unfold Sound
  split
  · infer_instance
  · infer_instance
  · infer_instance
  · infer_instance

theorem Plain.mem {statement} (plain : world.Plain statement) (knows : world.Knows statement.hmac) :
    statement ∈ world.emitted := by
  obtain ⟨other, mem, same⟩ := knows
  exact plain other mem same ▸ mem

def Answered (world : World) (store : Store) : Prop :=
  ∀ reply ∈ world.answered, ∀ entry ∈ reply.muts, store.Has entry

/-- What the stores and the record of authenticators have in common at any time. -/
structure Safe (world : World) : Prop where
  below : world.localStore.Below world.cloudStore
  apart : ∀ muts, .put muts ∈ world.emitted → (muts.map Prod.fst).Nodup
  kept : ∀ muts, .stored muts ∈ world.emitted → ∀ entry ∈ muts, world.cloudStore.Has entry
  replies : ∀ reply ∈ world.answered, world.Proved reply.muts reply.proof

theorem Safe.has_of_proved (safe : world.Safe) (proved : world.Proved muts proof) :
    ∀ entry ∈ muts, world.cloudStore.Has entry := by
  obtain rfl | ⟨_, stored⟩ := proved
  · simp
  · exact safe.kept muts stored

theorem Safe.answered (safe : world.Safe) : world.Answered world.cloudStore :=
  fun reply mem => safe.has_of_proved (safe.replies reply mem)

/-- What the signer has in hand: mutations, by how far their transaction has come, or the server's
    answers to its question for the state. -/
def InHand (world : World) : Phase → Prop
  | .storing log muts _ => listed log = muts
  | .stored log muts _ proof => listed log = muts ∧ world.Proved muts proof
  | .committed muts _ proof => world.Proved muts proof
  | .syncing nonce => ∀ kvs, .state nonce kvs ∈ world.emitted →
      ∃ store, kvs = listed store ∧ world.localStore.Below store ∧
        store.Below world.cloudStore ∧ world.Answered store
  | _ => True

structure Backed (world : World) : Prop extends Safe world where
  inHand : world.InHand world.phase

theorem Proved.mono (proved : world.Proved muts proof)
    (more : ∀ statement ∈ world.emitted, statement ∈ world'.emitted) :
    world'.Proved muts proof :=
  proved.imp_right fun ⟨same, mem⟩ => ⟨same, more _ mem⟩

theorem InHand.rise (inHand : world.InHand phase) (safe : world'.Safe)
    (sameLocal : world'.localStore = world.localStore)
    (sameAnswered : world'.answered = world.answered)
    (raised : world.cloudStore.Below world'.cloudStore)
    (more : ∀ statement ∈ world.emitted, statement ∈ world'.emitted)
    (truth : ∀ nonce kvs, .state nonce kvs ∈ world'.emitted →
      .state nonce kvs ∈ world.emitted ∨ kvs = listed world'.cloudStore) :
    world'.InHand phase := by
  cases phase with
  | down | ready => trivial
  | storing log muts purpose => exact inHand
  | stored log muts purpose proof => exact ⟨inHand.1, inHand.2.mono more⟩
  | committed muts purpose proof => exact inHand.mono more
  | syncing nonce =>
    intro kvs said
    obtain before | rfl := truth nonce kvs said
    · obtain ⟨store, same, below, above, answered⟩ := inHand kvs before
      refine ⟨store, same, sameLocal ▸ below, above.trans raised, ?_⟩
      intro reply mem
      exact answered reply (sameAnswered ▸ mem)
    · exact ⟨_, rfl, safe.below, .refl _, safe.answered⟩

theorem Backed.serve (backed : world.Backed) (sent : .put muts ∈ world.emitted) :
    (world.serve muts).Backed := by
  unfold World.serve
  split
  · exact backed
  · rename_i cloudStore put
    obtain ⟨raised, has⟩ := putNext_raises (backed.apart muts sent) put
    have safe : Safe { world with cloudStore, emitted := .stored muts :: world.emitted } := {
      below := backed.below.trans raised
      apart := fun muts' mem => backed.apart muts' (by simpa using mem)
      kept := by
        intro muts' mem entry among
        obtain here | before := List.mem_cons.mp mem
        · cases here
          exact has entry among
        · exact (backed.kept muts' before entry among).mono raised
      replies := fun reply mem =>
        (backed.replies reply mem).mono fun _ => List.mem_cons_of_mem _ }
    refine { safe with inHand := ?_ }
    exact backed.inHand.rise safe rfl rfl raised (fun _ => List.mem_cons_of_mem _)
      fun nonce kvs said => .inl (by simpa using said)

theorem Backed.query (backed : world.Backed) (nonce : List U8) :
    Backed { world with emitted := .state nonce (listed world.cloudStore) :: world.emitted } := by
  have safe : Safe { world with
      emitted := .state nonce (listed world.cloudStore) :: world.emitted } := {
    below := backed.below
    apart := fun muts mem => backed.apart muts (by simpa using mem)
    kept := fun muts mem => backed.kept muts (by simpa using mem)
    replies := fun reply mem =>
      (backed.replies reply mem).mono fun _ => List.mem_cons_of_mem _ }
  refine { safe with inHand := ?_ }
  refine backed.inHand.rise safe rfl rfl (.refl _) (fun _ => List.mem_cons_of_mem _)
    fun nonce' kvs said => ?_
  obtain here | before := List.mem_cons.mp said
  · cases here
    exact .inr rfl
  · exact .inl before

theorem Safe.turn (safe : world.Safe) (inHand : world.InHand phase) :
    Backed { world with phase } where
  below := safe.below
  apart := safe.apart
  kept := safe.kept
  replies := safe.replies
  inHand := by cases phase <;> exact inHand

theorem Safe.storeWithClient (safe : world.Safe) (same : listed log = muts) (purpose : Purpose) :
    (world.storeWithClient log muts purpose).Backed := by
  unfold World.storeWithClient
  split
  · rename_i empty
    exact safe.turn ⟨same, .inl empty⟩
  · exact {
      below := safe.below
      apart := by
        intro muts' mem
        obtain here | before := List.mem_cons.mp mem
        · cases here
          exact same ▸ listing_nodup
        · exact safe.apart muts' before
      kept := fun muts' mem => safe.kept muts' (by simpa using mem)
      inHand := same
      replies := fun reply mem =>
        (safe.replies reply mem).mono fun _ => List.mem_cons_of_mem _ }

theorem Safe.transact (safe : world.Safe) (puts : List (Key × Value)) (purpose : Purpose) :
    (world.transact signerId puts purpose).2.Backed := by
  unfold World.transact
  split
  · exact safe.turn trivial
  · split
    · exact safe.turn trivial
    · exact safe.storeWithClient (listed_prepare _) purpose

@[simp] theorem storeWithClient_localStore (world : World) (log : Store) (muts : Mutations)
    (purpose : Purpose) :
    (world.storeWithClient log muts purpose).localStore = world.localStore := by
  unfold World.storeWithClient
  split <;> rfl

@[simp] theorem transact_localStore (signerId : Value) (world : World) (puts : List (Key × Value))
    (purpose : Purpose) :
    (world.transact signerId puts purpose).2.localStore = world.localStore := by
  unfold World.transact
  split
  · rfl
  · split
    · rfl
    · exact storeWithClient_localStore _ _ _ _

theorem storeWithClient_up (world : World) (log : Store) (muts : Mutations) (purpose : Purpose) :
    (world.storeWithClient log muts purpose).phase ≠ .down := by
  unfold World.storeWithClient
  split <;> nofun

theorem putBatch_listed {store} (below : world.localStore.Below store) :
    ∃ localStore,
      world.localStore.putBatch (listed (insertAll ∅ (listed store))) = some localStore ∧
      ∀ key, localStore.lookup key = store.lookup key := by
  have said : ∀ key, (insertAll ∅ (listed store)).lookup key = store.lookup key :=
    lookup_insertAll_listing
  obtain ⟨localStore, put, same⟩ :
      ∃ localStore, world.localStore.putBatch (listed (insertAll ∅ (listed store))) =
        some localStore ∧ ∀ key, localStore.lookup key = (insertAll ∅ (listed store)).lookup key :=
    putBatch_listing (below.congr said)
  exact ⟨localStore, put, fun key => (same key).trans (said key)⟩

theorem Backed.synchronise (signerId : Value) (backed : world.Backed)
    (syncing : world.phase = .syncing nonce) (said : .state nonce kvs ∈ world.emitted)
    (puts : List (Key × Value)) :
    ∃ store localStore, kvs = listed store ∧ store.Below world.cloudStore ∧
      (∀ key, localStore.lookup key = store.lookup key) ∧ world.Answered localStore ∧
      Safe { world with localStore } ∧
      world.synchronise signerId kvs puts
        = transact signerId { world with localStore } puts none := by
  have inHand := backed.inHand
  rw [syncing] at inHand
  obtain ⟨store, rfl, below, above, answered⟩ := inHand kvs said
  obtain ⟨localStore, put, same⟩ := putBatch_listed below
  refine ⟨store, localStore, rfl, above, same, ?_, ?_, ?_⟩
  · intro reply mem entry among
    obtain ⟨version, value, here, later⟩ := answered reply mem entry among
    exact ⟨version, value, (same _).trans here, later⟩
  · exact {
      below := fun key version value here => above _ _ _ ((same key).symm.trans here)
      apart := backed.apart
      kept := backed.kept
      replies := backed.replies }
  · simp only [World.synchronise, put]

theorem Backed.commitLog (backed : world.Backed)
    (phase : world.phase = .stored log muts purpose proof) :
    (world.commitLog log muts purpose proof).2.Backed := by
  have inHand := backed.inHand
  rw [phase] at inHand
  obtain ⟨rfl, proved⟩ := inHand
  unfold World.commitLog
  split
  · exact backed.turn trivial
  · rename_i localStore put
    exact {
      below := below_putBatch put backed.below (backed.has_of_proved proved)
      apart := backed.apart
      kept := backed.kept
      replies := backed.replies
      inHand := proved }

theorem Backed.respond (backed : world.Backed)
    (phase : world.phase = .committed muts purpose proof) :
    (world.respond muts proof purpose).2.Backed := by
  have inHand := backed.inHand
  rw [phase] at inHand
  match purpose with
  | none | some .error | some .temporaryError => exact backed.turn trivial
  | some .reply => exact {
      below := backed.below
      apart := backed.apart
      kept := backed.kept
      replies := List.forall_mem_cons.mpr ⟨inHand, backed.replies⟩
      inHand := trivial }

theorem Backed.handle (backed : world.Backed) {request}
    (peer : ¬ (request.parses ∧ request.BadPeer)) : (world.handle signerId request).2.Backed := by
  unfold World.handle
  split
  · exact backed
  · rename_i parses
    rw [if_neg fun bad => peer ⟨by simpa using parses, bad⟩]
    exact backed.transact _ _

theorem Backed.step (backed : world.Backed) {input} (sound : world.Sound input)
    (stepped : world.step signerId input = some (output, world')) : world'.Backed := by
  unfold World.step at stepped
  unfold World.Sound at sound
  split at stepped
  case h_1 nonce phase =>
    split at stepped
    · rename_i fresh
      cases stepped
      exact backed.turn fun kvs said => absurd rfl (fresh.2 _ said)
    · cases stepped
  case h_2 nonce =>
    cases stepped
    exact backed.query nonce
  case h_3 kvs received puts nonce phase =>
    rw [phase] at sound
    split at stepped
    · rename_i known
      split at stepped
      · rename_i same
        subst same
        obtain ⟨store, localStore, -, -, -, -, safe, started⟩ :=
          backed.synchronise signerId phase (Plain.mem sound known) puts
        have after : _ = world' := congrArg Prod.snd (Option.some.inj (started ▸ stepped))
        exact after ▸ safe.transact puts none
      · cases stepped
        exact backed.turn trivial
    · cases stepped
  case h_4 request phase =>
    have after : _ = world' := congrArg Prod.snd (Option.some.inj stepped)
    exact after ▸ backed.handle sound
  case h_5 muts =>
    split at stepped
    · rename_i sent
      cases stepped
      exact backed.serve sent
    · cases stepped
  case h_6 =>
    cases stepped
    exact backed.turn trivial
  case h_7 received log muts purpose phase =>
    rw [phase] at sound
    have inHand := backed.inHand
    rw [phase] at inHand
    split at stepped
    · rename_i known
      obtain ⟨rfl, plain⟩ := sound
      cases stepped
      exact backed.turn ⟨inHand, .inr ⟨rfl, plain.mem known⟩⟩
    · cases stepped
  case h_8 phase =>
    have after : _ = world' := congrArg Prod.snd (Option.some.inj stepped)
    exact after ▸ backed.commitLog phase
  case h_9 phase =>
    have after : _ = world' := congrArg Prod.snd (Option.some.inj stepped)
    exact after ▸ backed.respond phase
  case h_10 =>
    cases stepped
    exact backed.turn trivial
  case h_11 => cases stepped

theorem backed_init : Backed init where
  below := .refl _
  apart := by simp [init]
  kept := by simp [init]
  replies := by simp [init]
  inHand := trivial

/-- Every request that was answered with success is backed by the server: it has proved to have
    stored these mutations, it has them, and whenever the signer starts it has them too. -/
structure Durable (signerId : Value) (world : World) : Prop where
  proved : ∀ reply ∈ world.answered, world.Proved reply.muts reply.proof
  kept : world.Answered world.cloudStore
  /-- A start that got through has the server's state, as it was when the server was asked. -/
  synchronised : ∀ kvs received puts output world', world.Sound (.synced kvs received puts) →
    world.step signerId (.synced kvs received puts) = some (output, world') → output ≠ .panicked →
    ∃ store, kvs = listed store ∧ store.Below world.cloudStore ∧
      (∀ key, world'.localStore.lookup key = store.lookup key) ∧ world.Answered world'.localStore
  /-- After a crash at this point, the server's own answer lets the signer start. -/
  restarts : ∀ nonce puts, world.Fresh nonce →
    (∀ entry ∈ puts, Unexhausted world.cloudStore entry.1) →
    ∃ history world', (machine signerId).exec [] world
        [.crash, .connect nonce, .query nonce, .synced (listed world.cloudStore)
          (Statement.state nonce (listed world.cloudStore)).hmac puts] = some (history, world') ∧
      world'.phase ≠ .down ∧
      (∀ key, world'.localStore.lookup key = world.cloudStore.lookup key) ∧
      world.Answered world'.localStore

theorem Backed.synchronised (backed : world.Backed) {received puts}
    (sound : world.Sound (.synced kvs received puts))
    (stepped : world.step signerId (.synced kvs received puts) = some (output, world'))
    (through : output ≠ .panicked) :
    ∃ store, kvs = listed store ∧ store.Below world.cloudStore ∧
      (∀ key, world'.localStore.lookup key = store.lookup key) ∧
      world.Answered world'.localStore := by
  cases phase : world.phase with
  | syncing nonce =>
    simp only [World.Sound, phase] at sound
    simp only [World.step, phase] at stepped
    split at stepped
    · rename_i known
      split at stepped
      · rename_i same
        subst same
        obtain ⟨store, localStore, same, above, equal, answered, -, started⟩ :=
          backed.synchronise signerId phase (sound.mem known) puts
        have after : _ = world' := congrArg Prod.snd (Option.some.inj (started ▸ stepped))
        subst after
        refine ⟨store, same, above, ?_, ?_⟩
        · simpa using equal
        · simpa using answered
      · cases stepped
        exact absurd rfl through
    · cases stepped
  | _ => simp [World.step, phase] at stepped

theorem Backed.restarts (backed : world.Backed) (fresh : world.Fresh nonce)
    {puts : List (Key × Value)} (room : ∀ entry ∈ puts, Unexhausted world.cloudStore entry.1) :
    ∃ history world', (machine signerId).exec [] world
        [.crash, .connect nonce, .query nonce, .synced (listed world.cloudStore)
          (Statement.state nonce (listed world.cloudStore)).hmac puts] = some (history, world') ∧
      world'.phase ≠ .down ∧
      (∀ key, world'.localStore.lookup key = world.cloudStore.lookup key) ∧
      world.Answered world'.localStore := by
  -- the world in which the server has just answered the new nonce
  let asked : World := { world with
    phase := .syncing nonce
    emitted := .state nonce (listed world.cloudStore) :: world.emitted }
  have backedAsked : asked.Backed := by
    have connected : Backed { world with phase := .syncing nonce } :=
      backed.turn fun kvs said => absurd rfl (fresh.2 _ said)
    exact connected.query nonce
  have said : .state nonce (listed world.cloudStore) ∈ asked.emitted := List.mem_cons_self
  obtain ⟨store, localStore, same, -, equal, answered, -, started⟩ :=
    backedAsked.synchronise signerId rfl said puts
  have equalCloud : ∀ key, localStore.lookup key = world.cloudStore.lookup key := by
    intro key
    calc localStore.lookup key = store.lookup key := equal key
      _ = (insertAll ∅ (listed store)).lookup key := (lookup_insertAll_listing key).symm
      _ = (insertAll ∅ (listed world.cloudStore)).lookup key := by rw [same]
      _ = world.cloudStore.lookup key := lookup_insertAll_listing key
  obtain ⟨log, made⟩ := @logged_isSome signerId localStore puts fun entry among found here =>
    room entry among found (equalCloud entry.1 ▸ here)
  have known : asked.Knows (Statement.state nonce (listed world.cloudStore)).hmac :=
    ⟨_, said, rfl⟩
  let down : World := { world with phase := .down }
  let begun := World.storeWithClient { asked with localStore } (prepare log).2 (prepare log).1 none
  have crashed : (machine signerId).step world .crash = some (.done, down) := by
    simp [machine, World.step, down]
  have connected : (machine signerId).step down (.connect nonce) =
      some (.done, { down with phase := .syncing nonce }) := if_pos fresh
  have queried : (machine signerId).step { down with phase := .syncing nonce } (.query nonce) =
      some (.done, asked) := rfl
  have synced : (machine signerId).step asked (.synced (listed world.cloudStore)
      (Statement.state nonce (listed world.cloudStore)).hmac puts) = some (.done, begun) := by
    show (if _ then _ else _) = _
    rw [if_pos known, if_pos rfl, started, World.transact, made]
    rfl
  rw [Machine.exec_cons crashed, Machine.exec_cons connected, Machine.exec_cons queried,
    Machine.exec_cons synced]
  have kept : begun.localStore = localStore := storeWithClient_localStore _ _ _ _
  exact ⟨_, begun, rfl, storeWithClient_up _ _ _ _, kept ▸ equalCloud, kept ▸ answered⟩

end World

/-- The loop answers a request with success only once the server has proved to have stored what it
    changed, and a start after a crash at any point brings all of it back. -/
theorem durable_before_reply {signerId : Value} {world : World}
    {history : List (Machine.Step World Input Output)}
    (run : (machine signerId).Run .init history world)
    (meets : Machine.Meets (fun _ world input => world.Sound input) history) :
    world.Durable signerId := by
  have backed : world.Backed := run.inv (fun _ world => world.Backed) meets World.backed_init
    fun _ _ _ _ _ backed sound stepped => backed.step sound stepped
  exact {
    proved := backed.replies
    kept := backed.answered
    synchronised := fun _ _ _ _ _ sound stepped through =>
      backed.synchronised sound stepped through
    restarts := fun _ _ fresh room => backed.restarts fresh room }

def toyNonce (first : U8) : List U8 :=
  first :: List.replicate 31 0

def firstStart : List Input :=
  [.connect (toyNonce 7), .query (toyNonce 7), .synced [] (Statement.state (toyNonce 7) []).hmac [],
    .commit, .reply]

def toyRequest : Request where
  parses := true
  context := none
  puts := [([1], [5])]
  ending := .reply

def toyMuts : Mutations :=
  [([1], 0, [5]), (lastWriterKey, 0, [9])]

def servedRequest : List Input :=
  [.request toyRequest, .deliver toyMuts, .answer (some (Statement.stored toyMuts).hmac), .commit,
    .reply]

theorem durable_of_served :
    ∃ history world, (machine [9]).Run .init history world ∧
      Machine.Meets (fun _ world input => world.Sound input) history ∧
      world.answered = [⟨toyMuts, some (Statement.stored toyMuts).hmac⟩] ∧
      world.Durable [9] := by
  have served : ∃ history world, (machine [9]).Run .init history world ∧
      Machine.Meets (fun _ world input => world.Sound input) history ∧
      world.answered = [⟨toyMuts, some (Statement.stored toyMuts).hmac⟩] :=
    Machine.exists_run (firstStart ++ servedRequest) (by decide +kernel)
  obtain ⟨history, world, run, meets, answered⟩ := served
  exact ⟨history, world, run, meets, answered, durable_before_reply run meets⟩

def strangerRequest : Request where
  parses := true
  context := some (1, [])
  puts := []
  ending := .reply

/-- An answer that carries no authenticator at all is as good as the server's. And after a request
    with a bad peer id the local store is ahead of the server's, which no start gets over. -/
theorem reply_without_storage :
    (∃ history world, (machine [9]).Run .init history world ∧
      world.answered = [⟨toyMuts, some (.other [])⟩] ∧ .stored toyMuts ∉ world.emitted ∧
      world.cloudStore.lookup [1] = none) ∧
    ∃ history world, (machine [9]).Run .init history world ∧ world.phase = .syncing (toyNonce 8) ∧
      .state (toyNonce 8) (listed world.cloudStore) ∈ world.emitted ∧
      (world.step [9] (.synced (listed world.cloudStore)
        (Statement.state (toyNonce 8) (listed world.cloudStore)).hmac [])).map Prod.fst =
        some .panicked := by
  constructor
  · exact Machine.exists_run (firstStart ++ [.request toyRequest, .answer (some (.other [])),
      .commit, .reply]) (by decide +kernel)
  · exact Machine.exists_run (firstStart ++ servedRequest ++ [.request strangerRequest,
      .connect (toyNonce 8), .query (toyNonce 8)]) (by decide +kernel)

end Vls.Cloud
