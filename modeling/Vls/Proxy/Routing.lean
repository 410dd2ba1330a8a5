import Vls.Proxy.Effect

/-! # Requests, ids and replies

A request goes from the node's channel into the hands of the writer that reads it, from there into
the table under a fresh id, and out of the table with its reply. Seen as a line of reply channels
this is a queue that only its ends change: so the ids, the channels and the answers stay in step. -/

namespace Vls.Proxy

open State List

variable {s s' : State} {event : Event} {output : Output} {history : History}

variable {connection : Nat} {writer writer' : Writer} {recorded : List (Nat × Nat)}

def Phase.holdsReceiver : Phase → Bool
  | .reading | .taken _ | .recorded => true
  | _ => false

def State.Exclusive (s : State) : Prop :=
  ∀ connection writer, s.writers.lookup connection = some writer →
    writer.phase.holdsReceiver → s.receiverLock = some connection

theorem State.Exclusive.move (exclusive : s.Exclusive)
    (moved : ∀ connection',
      s'.writers.lookup connection' = if connection'
      = connection then some writer else s.writers.lookup connection')
    (own : writer.phase.holdsReceiver → s'.receiverLock = some connection)
    (others : ∀ connection' ≠ connection, s.receiverLock = some connection' →
      s'.receiverLock = some connection') :
    s'.Exclusive := by
  intro connection' writer' here holds
  rw [moved] at here
  split at here
  · rename_i same
    cases here
    rw [same]
    exact own holds
  · rename_i other
    exact others _ other (exclusive _ _ here holds)

theorem Effect.exclusive (effect : Effect s event output s') (exclusive : s.Exclusive) :
    s'.Exclusive := by
  cases effect with
  | quiet | send | deliver _ => exact exclusive
  | connect => exact exclusive.move (Map.lookup_insert_ite _ _ · _) nofun fun _ _ held => held
  | init _ _ _ | start _ _ _ | retransmit _ _ _ | scanned _ _ _ | resume _ _ =>
    exact exclusive.move (lookup_setPhase _ · _ _) nofun fun _ _ held => held
  | enter _ _ free =>
    exact exclusive.move (lookup_setPhase _ · _ _) (fun _ => rfl)
      fun _ _ held => absurd (free.symm.trans held) nofun
  | take here phase _ | record here phase | reread here phase =>
    have own := exclusive _ _ here (by rw [phase]; rfl)
    exact exclusive.move (lookup_setPhase _ · _ _) (fun _ => own) fun _ _ held => held
  | finish _ _ =>
    refine exclusive.move (lookup_setPhase _ · _ _) nofun fun _ other held => ?_
    simp [State.released, held, if_neg other]
  | @disconnect connection =>
    intro connection' writer' here holds
    by_cases same : connection' = connection
    · subst same
      simp [State.disconnect] at here
    · have there : s.writers.lookup connection' = some writer' := by
        simpa [State.disconnect, AList.lookup_erase_ne same] using here
      have held := exclusive _ _ there holds
      simp [State.disconnect, State.released, held, if_neg same]

def State.Numbered (s : State) : Prop :=
  ∀ connection writer, s.writers.lookup connection = some writer → connection < s.connections

theorem State.Numbered.lookup_connections (numbered : s.Numbered) :
    s.writers.lookup s.connections = none := by
  cases here : s.writers.lookup s.connections with
  | none => rfl
  | some writer => exact absurd (numbered _ _ here) (lt_irrefl _)

theorem State.Numbered.move (numbered : s.Numbered)
    (here : s.writers.lookup connection = some writer)
    (moved : ∀ connection',
      s'.writers.lookup connection' = if connection'
      = connection then some writer' else s.writers.lookup connection')
    (connections : s'.connections = s.connections) : s'.Numbered := by
  intro connection' found there
  rw [moved] at there
  rw [connections]
  split at there
  · rename_i same
    exact same ▸ numbered _ _ here
  · exact numbered _ _ there

theorem Effect.numbered (effect : Effect s event output s') (numbered : s.Numbered) :
    s'.Numbered := by
  cases effect with
  | quiet | send | deliver _ => exact numbered
  | connect =>
    intro connection writer here
    simp only [State.connect, Map.lookup_insert_ite] at here ⊢
    split at here
    · omega
    · have := numbered _ _ here
      omega
  | init here _ _ | start here _ _ | retransmit here _ _ | scanned here _ _ | resume here _
  | enter here _ _ | take here _ _ | record here _ | reread here _ | finish here _ =>
    exact numbered.move here (lookup_setPhase _ · _ _) rfl
  | @disconnect connection =>
    intro connection' writer here
    by_cases same : connection' = connection
    · subst same
      simp [State.disconnect] at here
    · refine numbered connection' writer ?_
      simpa [State.disconnect, AList.lookup_erase_ne same] using here

def Phase.inHand : Phase → List Nat
  | .taken req => [req.replyTx]
  | _ => []

def State.hand (s : State) : List Nat :=
  ((s.receiverLock.bind fun connection => s.writers.lookup connection).map
    fun writer => writer.phase.inHand).getD []

theorem State.Exclusive.hand_eq (exclusive : s.Exclusive)
    (here : s.writers.lookup connection = some writer) (holds : writer.phase.holdsReceiver) :
    s.hand = writer.phase.inHand := by
  rw [State.hand, exclusive _ _ here holds]
  simp [here]

theorem State.hand_move (here : s.writers.lookup connection = some writer)
    (before : writer.phase.inHand = []) (after : writer'.phase.inHand = [])
    (moved : ∀ connection', s'.writers.lookup connection'
      = if connection' = connection then some writer' else s.writers.lookup connection')
    (lock : s'.receiverLock = s.receiverLock) : s'.hand = s.hand := by
  simp only [hand, lock]
  cases s.receiverLock with
  | none => rfl
  | some holder =>
    simp only [Option.bind_some, moved]
    split
    · rename_i same
      rw [same, here]
      simp [before, after]
    · rfl

/-- The reply channels of the requests in the order in which they pass: those that have an id, the
    one in a writer's hands, those in the node's channel. -/
def State.line (s : State) (recorded : List (Nat × Nat)) : List Nat :=
  (recorded.map Prod.snd).reverse ++ s.hand ++ s.queue.map ChannelRequest.replyTx

def Output.recordings : Output → List (Nat × Nat)
  | .recorded _ replyTx request => [(request.requestId, replyTx)]
  | _ => []

theorem History.recorded_cons (step : Machine.Step State Event Output) :
    History.recorded (step :: history) = step.output.recordings ++ History.recorded history := by
  obtain ⟨_, _, output⟩ := step
  cases output <;> rfl

def Phase.isTaken : Phase → Bool
  | .taken _ => true
  | _ => false

def State.HasInHand (s : State) (connection : Nat) : Prop :=
  (s.writers.lookup connection).any fun writer => writer.phase.isTaken
  deriving Decidable

/-- The event drops a stream whose writer has a request in its hands. -/
def State.Loses (s : State) : Event → Prop
  | .disconnect connection => s.HasInHand connection
  | _ => False

theorem State.hand_disconnect (s : State) (connection : Nat) :
    (s.disconnect connection).hand = s.hand ∨
      s.Loses (.disconnect connection) ∧ (s.disconnect connection).hand = [] := by
  simp only [State.hand, State.disconnect, State.released]
  cases locked : s.receiverLock with
  | none => exact .inl rfl
  | some holder =>
    by_cases same : holder = connection
    · subst same
      simp only [if_true, Option.bind_none, Option.map_none, Option.getD_none, Option.bind_some]
      cases here : s.writers.lookup holder with
      | none => exact .inl rfl
      | some writer =>
        cases phase : writer.phase with
        | taken req =>
          refine .inr ⟨?_, trivial⟩
          simp [Loses, HasInHand, here, phase, Phase.isTaken]
        | _ => exact .inl (by simp [phase, Phase.inHand])
    · simp only [Option.some.injEq, same, if_false, Option.bind_some]
      exact .inl (by rw [AList.lookup_erase_ne same])

/-- The line moves on without a change, grows at its end, or loses the request in a dropped
    writer's hands. -/
theorem Effect.line (effect : Effect s event output s') (exclusive : s.Exclusive)
    (numbered : s.Numbered) (recorded : List (Nat × Nat)) :
    (s'.line (output.recordings ++ recorded) = s.line recorded ∧
        s'.replyChannels = s.replyChannels) ∨
      (s'.line (output.recordings ++ recorded) = s.line recorded ++ [s.replyChannels] ∧
        s'.replyChannels = s.replyChannels + 1) ∨
      (s.Loses event ∧ (s'.line (output.recordings ++ recorded)).Sublist (s.line recorded) ∧
        s'.replyChannels = s.replyChannels) := by
  have same_hand (hand : s'.hand = s.hand) (queue : s'.queue = s.queue)
      (channels : s'.replyChannels = s.replyChannels) (silent : output.recordings = []) :
      s'.line (output.recordings ++ recorded) = s.line recorded ∧
        s'.replyChannels = s.replyChannels := by
    simp [State.line, silent, hand, queue, channels]
  cases effect with
  | quiet | deliver _ => exact .inl ⟨rfl, rfl⟩
  | @send message clientId =>
    refine .inr (.inl ⟨?_, rfl⟩)
    have hand : (s.send message clientId).hand = s.hand := rfl
    rw [State.line, State.line, hand]
    simp [State.send, Output.recordings]
  | connect =>
    refine .inl (same_hand ?_ rfl rfl rfl)
    simp only [State.hand, State.connect]
    cases s.receiverLock with
    | none => rfl
    | some holder =>
      simp only [Option.bind_some, Map.lookup_insert_ite]
      split
      · rename_i same
        rw [same, numbered.lookup_connections]
        rfl
      · rfl
  | init here phase _ | start here phase _ | retransmit here phase _ | scanned here phase _ =>
    refine .inl (same_hand ?_ rfl rfl rfl)
    exact hand_move here (by rw [phase]; rfl) rfl (lookup_setPhase _ · _ _) rfl
  | resume here phase | reread here phase =>
    refine .inl (same_hand ?_ rfl rfl rfl)
    exact hand_move here (by rw [phase]; rfl) rfl (lookup_setPhase _ · _ _) rfl
  | enter here phase free =>
    refine .inl (same_hand ?_ rfl rfl rfl)
    simp [State.hand, free, lookup_setPhase, Phase.inHand]
  | take here phase queue =>
    have before := exclusive.hand_eq here (by rw [phase]; rfl)
    have lock := exclusive _ _ here (by rw [phase]; rfl)
    refine .inl ⟨?_, rfl⟩
    simp only [State.line, before, phase, queue, Phase.inHand, Output.recordings,
      nil_append, append_nil, map_cons]
    simp [State.hand, setPhase, lock, Phase.inHand]
  | record here phase =>
    have before := exclusive.hand_eq here (by rw [phase]; rfl)
    have lock := exclusive _ _ here (by rw [phase]; rfl)
    refine .inl ⟨?_, rfl⟩
    simp only [State.line, before, phase, Phase.inHand, Output.recordings]
    simp [State.hand, setPhase, lock, Phase.inHand]
  | finish here phase =>
    have before := exclusive.hand_eq here (by rw [phase]; rfl)
    have lock := exclusive _ _ here (by rw [phase]; rfl)
    refine .inl (same_hand ?_ rfl rfl rfl)
    rw [before, phase]
    simp [State.hand, State.released, lock, Phase.inHand]
  | @disconnect connection =>
    obtain hand | ⟨loses, hand⟩ := s.hand_disconnect connection
    · exact .inl (same_hand hand rfl rfl rfl)
    · refine .inr (.inr ⟨loses, ?_, rfl⟩)
      simp only [State.line, hand, Output.recordings, nil_append, append_nil]
      exact (sublist_append_left _ _).append (List.Sublist.refl _)

def Output.deliveries : Output → List (Nat × Nat)
  | .delivered requestId replyTx _ => [(requestId, replyTx)]
  | _ => []

theorem History.delivered_cons (step : Machine.Step State Event Output) :
    History.delivered (step :: history) = step.output.deliveries ++ History.delivered history := by
  obtain ⟨_, _, output⟩ := step
  cases output <;> rfl

/-- The table has the requests that have an id and no answer. -/
structure Routed (recorded delivered : List (Nat × Nat)) (requests : Map Nat ChannelRequest)
    (requestId : Nat) : Prop where
  id_lt : ∀ entry ∈ recorded, entry.1 < requestId
  ids_apart : (recorded.map Prod.fst).Nodup
  bounded : requestId ≤ dummyRequestId
  pending_recorded : ∀ id req, requests.lookup id = some req → (id, req.replyTx) ∈ recorded
  recorded_kept : ∀ entry ∈ recorded,
    (∃ req, requests.lookup entry.1 = some req ∧ req.replyTx = entry.2) ∨ entry ∈ delivered
  delivered_gone : ∀ entry ∈ delivered, entry ∈ recorded ∧ requests.lookup entry.1 = none
  delivered_apart : (delivered.map Prod.fst).Nodup

section table

variable {recorded delivered : List (Nat × Nat)} {requests : Map Nat ChannelRequest}
  {requestId : Nat}

theorem Routed.record (routed : Routed recorded delivered requests requestId)
    (room : requestId < dummyRequestId) (req : ChannelRequest) :
    Routed ((requestId, req.replyTx) :: recorded) delivered (requests.insert requestId req)
      ((requestId + 1) % 2 ^ 64) := by
  have next : (requestId + 1) % 2 ^ 64 = requestId + 1 := by
    unfold dummyRequestId at room
    omega
  rw [next]
  have elsewhere (entry) (mem : entry ∈ recorded) :
      (requests.insert requestId req).lookup entry.1 = requests.lookup entry.1 := by
    rw [Map.lookup_insert_ite, if_neg (routed.id_lt entry mem).ne]
  constructor
  case id_lt =>
    intro entry mem
    obtain rfl | mem := mem_cons.mp mem
    · exact Nat.lt_succ_self _
    · exact (routed.id_lt entry mem).trans (Nat.lt_succ_self _)
  case ids_apart =>
    rw [map_cons, nodup_cons]
    refine ⟨fun mem => ?_, routed.ids_apart⟩
    obtain ⟨entry, among, same⟩ := mem_map.mp mem
    exact (routed.id_lt entry among).ne same
  case bounded => exact room
  case pending_recorded =>
    intro id req' here
    rw [Map.lookup_insert_ite] at here
    split at here
    · rename_i same
      cases here
      exact same ▸ .head _
    · exact .tail _ (routed.pending_recorded id req' here)
  case recorded_kept =>
    intro entry mem
    obtain rfl | mem := mem_cons.mp mem
    · exact .inl ⟨req, by simp, rfl⟩
    · rw [elsewhere entry mem]
      exact routed.recorded_kept entry mem
  case delivered_gone =>
    intro entry mem
    obtain ⟨among, gone⟩ := routed.delivered_gone entry mem
    exact ⟨.tail _ among, (elsewhere entry among).trans gone⟩
  case delivered_apart => exact routed.delivered_apart

theorem Routed.deliver (routed : Routed recorded delivered requests requestId) {id req}
    (here : requests.lookup id = some req) :
    Routed recorded ((id, req.replyTx) :: delivered) (requests.erase id) requestId := by
  have elsewhere {id'} (other : id' ≠ id) : (requests.erase id).lookup id' = requests.lookup id' :=
    AList.lookup_erase_ne other
  constructor
  case id_lt => exact routed.id_lt
  case ids_apart => exact routed.ids_apart
  case bounded => exact routed.bounded
  case pending_recorded =>
    intro id' req' there
    by_cases same : id' = id
    · subst same
      simp at there
    · exact routed.pending_recorded id' req' ((elsewhere same).symm.trans there)
  case recorded_kept =>
    intro entry mem
    by_cases same : entry.1 = id
    · obtain ⟨req', there, channel⟩ | done := routed.recorded_kept entry mem
      · rw [same, here] at there
        cases there
        exact .inr (by rw [← Prod.mk.eta (p := entry), same, channel]; exact .head _)
      · exact .inr (.tail _ done)
    · rw [elsewhere same]
      exact (routed.recorded_kept entry mem).imp_right (.tail _)
  case delivered_gone =>
    intro entry mem
    obtain rfl | mem := mem_cons.mp mem
    · exact ⟨routed.pending_recorded id req here, AList.lookup_erase id requests⟩
    · obtain ⟨among, gone⟩ := routed.delivered_gone entry mem
      have other : entry.1 ≠ id := fun same => by
        rw [same, here] at gone
        cases gone
      exact ⟨among, (elsewhere other).trans gone⟩
  case delivered_apart =>
    rw [map_cons, nodup_cons]
    refine ⟨fun mem => ?_, routed.delivered_apart⟩
    obtain ⟨entry, among, same⟩ := mem_map.mp mem
    have gone := (routed.delivered_gone entry among).2
    rw [same, here] at gone
    cases gone

end table

theorem Effect.routed (effect : Effect s event output s') (room : s.requestId < dummyRequestId)
    {delivered} (routed : Routed recorded delivered s.requests s.requestId) :
    Routed (output.recordings ++ recorded) (output.deliveries ++ delivered) s'.requests
      s'.requestId := by
  cases effect with
  | record _ _ => exact routed.record room _
  | deliver here => exact routed.deliver here
  | _ => exact routed

/-- The requests of a run stand in line, each with a channel of its own. -/
structure State.InLine (s : State) (recorded : List (Nat × Nat)) : Prop where
  sorted : (s.line recorded).Pairwise (· < ·)
  made : ∀ replyTx ∈ s.line recorded, replyTx < s.replyChannels

theorem Effect.inLine (effect : Effect s event output s') (exclusive : s.Exclusive)
    (numbered : s.Numbered) (inLine : s.InLine recorded) :
    s'.InLine (output.recordings ++ recorded) := by
  obtain ⟨same, channels⟩ | ⟨grown, channels⟩ | ⟨-, shrunk, channels⟩ :=
    effect.line exclusive numbered recorded
  · exact ⟨same ▸ inLine.sorted, channels ▸ same ▸ inLine.made⟩
  · constructor
    · rw [grown, pairwise_append]
      refine ⟨inLine.sorted, pairwise_singleton _ _, fun replyTx mem last among => ?_⟩
      exact mem_singleton.mp among ▸ inLine.made replyTx mem
    · intro replyTx mem
      rw [grown, mem_append, mem_singleton] at mem
      rw [channels]
      obtain mem | rfl := mem
      · exact (inLine.made replyTx mem).trans (Nat.lt_succ_self _)
      · exact Nat.lt_succ_self _
  · exact ⟨inLine.sorted.sublist shrunk, fun replyTx mem =>
      channels ▸ inLine.made replyTx (shrunk.subset mem)⟩

/-- What every run keeps while there are ids left. -/
structure Sound (history : History) (s : State) : Prop where
  exclusive : s.Exclusive
  numbered : s.Numbered
  inLine : s.InLine history.recorded
  routed : Routed history.recorded history.delivered s.requests s.requestId

theorem sound_initial : Sound [] initial where
  exclusive := fun _ _ here => by cases here
  numbered := fun _ _ here => by cases here
  inLine := ⟨.nil, nofun⟩
  routed := ⟨nofun, .nil, Nat.zero_le _, fun _ _ here => (by cases here), nofun, nofun, .nil⟩

theorem Sound.step (sound : Sound history s) (room : s.requestId < dummyRequestId)
    (effect : Effect s event output s') : Sound (⟨s, event, output⟩ :: history) s' where
  exclusive := effect.exclusive sound.exclusive
  numbered := effect.numbered sound.numbered
  inLine := by
    rw [History.recorded_cons]
    exact effect.inLine sound.exclusive sound.numbered sound.inLine
  routed := by
    rw [History.recorded_cons, History.delivered_cons]
    exact effect.routed room sound.routed

end Vls.Proxy
