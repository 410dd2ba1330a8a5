import Vls.Proxy.Adapter

/-! # What a step of the adapter can do

Each poll of a writer is one of a few moves. What the invariants need of a step is in the list of
moves, so that none of them looks at the code again. -/

namespace Vls.Proxy

namespace State

variable {s : State}

theorem lookup_setPhase (connection connection' : Nat) (writer : Writer) (phase : Phase) :
    (s.setPhase connection writer phase).writers.lookup connection'
      = if connection' = connection then some { writer with phase }
        else s.writers.lookup connection' :=
  Map.lookup_insert_ite _ _ _ _

theorem nextRequest_eq_some {ind id req} (next : s.nextRequest ind = some (id, req)) :
    s.requests.lookup id = some req ∧ ind ≤ id ∧
      ∀ id' req', s.requests.lookup id' = some req' → ind ≤ id' → id ≤ id' := by
  simp only [nextRequest] at next
  split at next
  · rename_i least found
    obtain ⟨req', here, same⟩ := Option.map_eq_some_iff.mp next
    cases same
    obtain ⟨mem, lower⟩ := List.min?_eq_some_iff.mp found
    refine ⟨here, of_decide_eq_true (List.mem_filter.mp mem).2, fun id' req' there above => ?_⟩
    have key : id' ∈ s.requests := Map.mem_of_lookup.mpr (by rw [there]; rfl)
    exact lower id' (List.mem_filter.mpr ⟨key, decide_eq_true above⟩)
  · cases next

theorem nextRequest_eq_none {ind} (next : s.nextRequest ind = none) {id req}
    (here : s.requests.lookup id = some req) : id < ind := by
  by_contra above
  have key : id ∈ s.requests := Map.mem_of_lookup.mpr (by rw [here]; rfl)
  have mem : id ∈ s.requests.keys.filter (ind ≤ ·) :=
    List.mem_filter.mpr ⟨key, decide_eq_true (not_lt.mp above)⟩
  simp only [nextRequest] at next
  split at next
  · rename_i least found
    have member := (List.mem_filter.mp (List.min?_mem found)).1
    obtain ⟨req', there⟩ := Option.isSome_iff_exists.mp (Map.mem_of_lookup.mp member)
    rw [there] at next
    cases next
  · rename_i none_found
    rw [List.min?_eq_none_iff.mp none_found] at mem
    cases mem

end State

inductive Effect (s : State) : Event → Output → State → Prop where
  /-- Nothing that matters to a request. -/
  | quiet {event initMessage shutdown} :
      Effect s event .nothing { s with initMessage, shutdown }
  | send {message clientId} : Effect s (.send message clientId) .nothing (s.send message clientId)
  | connect : Effect s .connect .nothing s.connect
  | init {connection writer message} : s.writers.lookup connection = some writer →
      writer.phase = .starting → writer.init = some message →
      Effect s (.poll connection) (.sent connection (initRequest message))
        (s.setPhase connection writer (.retransmitting 0))
  | start {connection writer} : s.writers.lookup connection = some writer →
      writer.phase = .starting → writer.init = none →
      Effect s (.poll connection) .nothing (s.setPhase connection writer (.retransmitting 0))
  | retransmit {connection writer ind id req} : s.writers.lookup connection = some writer →
      writer.phase = .retransmitting ind → s.nextRequest ind = some (id, req) →
      Effect s (.poll connection) (.sent connection (makeSignerRequest id req))
        { s.setPhase connection writer (.retransmitted ((id + 1) % 2 ^ 64)) with
          requestsLock := some connection }
  | scanned {connection writer ind} : s.writers.lookup connection = some writer →
      writer.phase = .retransmitting ind → s.nextRequest ind = none →
      Effect s (.poll connection) .nothing (s.setPhase connection writer .waiting)
  | resume {connection writer ind} : s.writers.lookup connection = some writer →
      writer.phase = .retransmitted ind →
      Effect s (.poll connection) .nothing
        { s.setPhase connection writer (.retransmitting ind) with requestsLock := none }
  | enter {connection writer} : s.writers.lookup connection = some writer →
      writer.phase = .waiting → s.receiverLock = none →
      Effect s (.poll connection) .nothing
        { s.setPhase connection writer .reading with receiverLock := some connection }
  | take {connection writer req rest} : s.writers.lookup connection = some writer →
      writer.phase = .reading → s.queue = req :: rest →
      Effect s (.poll connection) .nothing
        { s.setPhase connection writer (.taken req) with queue := rest }
  | record {connection writer req} : s.writers.lookup connection = some writer →
      writer.phase = .taken req →
      Effect s (.poll connection)
        (.recorded connection req.replyTx (makeSignerRequest s.requestId req))
        { s.setPhase connection writer .recorded with
          requests := s.requests.insert s.requestId req,
          requestId := (s.requestId + 1) % 2 ^ 64,
          requestsLock := some connection }
  | reread {connection writer} : s.writers.lookup connection = some writer →
      writer.phase = .recorded →
      Effect s (.poll connection) .nothing
        { s.setPhase connection writer .reading with requestsLock := none }
  | finish {connection writer} : s.writers.lookup connection = some writer →
      writer.phase = .reading →
      Effect s (.finish connection) .nothing
        { s.setPhase connection writer .finished with
          receiverLock := State.released s.receiverLock connection }
  | disconnect {connection} : Effect s (.disconnect connection) .nothing (s.disconnect connection)
  | deliver {response req reply} : s.requests.lookup response.requestId = some req →
      Effect s (.reply response) (.delivered response.requestId req.replyTx reply)
        { s with requests := s.requests.erase response.requestId }

namespace State

variable {s : State}

theorem pollWriter_effect {connection writer} (here : s.writers.lookup connection = some writer) :
    Effect s (.poll connection) (s.pollWriter connection writer).1
      (s.pollWriter connection writer).2 := by
  unfold pollWriter
  cases phase : writer.phase with
  | starting =>
    cases init : writer.init with
    | none => exact .start here phase init
    | some message => exact .init here phase init
  | retransmitting ind =>
    simp only
    split
    · exact .quiet
    · split
      · rename_i next
        exact .retransmit here phase next
      · rename_i next
        exact .scanned here phase next
  | retransmitted ind => exact .resume here phase
  | waiting =>
    simp only
    split
    · exact .quiet
    · rename_i free
      exact .enter here phase (not_not.mp free)
  | reading =>
    simp only
    split
    · exact .quiet
    · rename_i queue
      exact .take here phase queue
  | taken req =>
    simp only
    split
    · exact .quiet
    · exact .record here phase
  | recorded => exact .reread here phase
  | finished => exact .quiet

theorem step_effect (s : State) (event : Event) :
    Effect s event (s.step event).1 (s.step event).2 := by
  cases event with
  | send message clientId => exact .send
  | cacheInit message => exact .quiet
  | connect => exact .connect
  | poll connection =>
    simp only [step, poll]
    cases here : s.writers.lookup connection with
    | none => exact .quiet
    | some writer => exact pollWriter_effect here
  | finish connection =>
    simp only [step, finish]
    cases here : s.writers.lookup connection with
    | none => exact .quiet
    | some writer =>
      simp only
      split
      · rename_i both
        exact .finish here both.2
      · exact .quiet
  | disconnect connection => exact .disconnect
  | reply response =>
    simp only [step, reply]
    split
    · exact .quiet
    · split
      · exact .quiet
      · split
        · rename_i here
          exact .deliver here
        · exact .quiet
  | shutDown => exact .quiet

end State

end Vls.Proxy
