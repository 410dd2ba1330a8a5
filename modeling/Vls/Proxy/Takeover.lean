import Vls.Proxy.Routing

/-! # Taking over from an older connection

A new connection's writer sends what the table has, in the order of the ids, and then waits for the
receiver. What an older writer still takes from the node and records while the new one waits is
sent on the old connection only. -/

namespace Vls.Proxy

open List State

variable {s s' : State} {event : Event} {output : Output} {history : History}

variable {sentOn sends : Nat → List SignerRequest} {connection requestId id newest : Nat}
  {writer : Writer} {phase : Phase} {requests : Map Nat ChannelRequest}
  {sent sent' : List SignerRequest} {req : ChannelRequest} {recorded : List (Nat × Nat)}

def Output.sendings (connection : Nat) : Output → List SignerRequest
  | .sent connection' request => if connection' = connection then [request] else []
  | .recorded connection' _ request => if connection' = connection then [request] else []
  | _ => []

theorem History.sentOn_cons (connection : Nat) (step : Machine.Step State Event Output) :
    History.sentOn connection (step :: history)
      = step.output.sendings connection ++ History.sentOn connection history := by
  obtain ⟨_, _, output⟩ := step
  cases output with
  | nothing | delivered => rfl
  | sent connection' request | recorded connection' _ request =>
    by_cases same : connection' = connection <;>
      simp [History.sentOn, Output.sendings, same]

/-- What a connection was sent starts with the init message that was cached when it was made. -/
def InitFirst (sentOn : Nat → List SignerRequest) (s : State) : Prop :=
  (∀ connection, s.connections ≤ connection → sentOn connection = []) ∧
    ∀ connection writer, s.writers.lookup connection = some writer →
      (writer.phase = .starting → sentOn connection = []) ∧
        (writer.phase ≠ .starting → ∀ message, writer.init = some message →
          (sentOn connection).getLast? = some (initRequest message))

theorem InitFirst.move (first : InitFirst sentOn s) (numbered : s.Numbered)
    (here : s.writers.lookup connection = some writer)
    (moved : ∀ connection',
      s'.writers.lookup connection' = if connection'
      = connection then some { writer with phase } else s.writers.lookup connection')
    (connections : s'.connections = s.connections) (started : phase ≠ .starting)
    (own : ∀ connection' ≠ connection, sends connection' = [])
    (begun : writer.phase = .starting → ∀ message, writer.init = some message →
      sends connection = [initRequest message]) :
    InitFirst (fun connection => sends connection ++ sentOn connection) s' := by
  refine ⟨fun connection' above => ?_, fun connection' writer' there => ?_⟩
  · rw [connections] at above
    have other : connection' ≠ connection := fun same =>
      absurd (numbered _ _ here) (not_lt.mpr (same ▸ above))
    simp [own _ other, first.1 _ above]
  · rw [moved] at there
    split at there
    · rename_i same
      subst same
      cases there
      refine ⟨fun starting => absurd starting started, fun _ message cached => ?_⟩
      simp only [getLast?_append]
      by_cases starting : writer.phase = .starting
      · rw [(first.2 _ _ here).1 starting, begun starting message cached]
        rfl
      · rw [(first.2 _ _ here).2 starting message cached]
        rfl
    · rename_i other
      simpa only [own _ other, nil_append] using first.2 _ _ there

theorem Effect.initFirst (effect : Effect s event output s') (numbered : s.Numbered)
    (first : InitFirst sentOn s) :
    InitFirst (fun connection => output.sendings connection ++ sentOn connection) s' := by
  have elsewhere {connection connection' : Nat} (other : connection' ≠ connection)
      (request : SignerRequest) : (if connection = connection' then [request] else []) = [] :=
    if_neg other.symm
  cases effect with
  | quiet | send | deliver _ => exact first
  | connect =>
    refine ⟨fun connection above => first.1 connection (Nat.le_of_succ_le above),
      fun connection writer here => ?_⟩
    simp only [State.connect, Map.lookup_insert_ite] at here
    split at here
    · rename_i same
      subst same
      cases here
      exact ⟨fun _ => first.1 _ le_rfl, fun started => absurd rfl started⟩
    · exact first.2 connection writer here
  | init here phase cached =>
    refine first.move numbered here (lookup_setPhase _ · _ _) rfl (by simp)
      (fun _ other => elsewhere other _) fun _ message cached' => ?_
    cases cached.symm.trans cached'
    exact if_pos rfl
  | start here phase none =>
    refine first.move numbered here (lookup_setPhase _ · _ _) rfl (by simp)
      (fun _ _ => rfl) fun _ message cached => ?_
    rw [none] at cached
    cases cached
  | retransmit here phase _ | record here phase =>
    exact first.move numbered here (lookup_setPhase _ · _ _) rfl (by simp)
      (fun _ other => elsewhere other _) fun starting => by cases phase.symm.trans starting
  | scanned here phase _ | resume here phase | enter here phase _ | take here phase _
  | reread here phase | finish here phase =>
    exact first.move numbered here (lookup_setPhase _ · _ _) rfl (by simp)
      (fun _ _ => rfl) fun starting => by cases phase.symm.trans starting
  | @disconnect connection =>
    refine ⟨first.1, fun connection' writer here => first.2 connection' writer ?_⟩
    by_cases same : connection' = connection
    · subst same
      simp [State.disconnect] at here
    · simpa [State.disconnect, AList.lookup_erase_ne same] using here

/-- What the newest connection has been sent, by where its writer stands. -/
def Phase.CaughtUp (requests : Map Nat ChannelRequest) (requestId : Nat)
    (sent : List SignerRequest) : Phase → Prop
  | .retransmitting ind | .retransmitted ind => ind ≤ requestId ∧
      ∀ id req, requests.lookup id = some req → id < ind → makeSignerRequest id req ∈ sent
  | .waiting | .reading | .taken _ | .recorded =>
    ∀ id req, requests.lookup id = some req → makeSignerRequest id req ∈ sent
  | .starting | .finished => True

def CaughtUp (sentOn : Nat → List SignerRequest) (s : State) : Prop :=
  ∀ newest writer, s.connections = newest + 1 → s.writers.lookup newest = some writer →
    writer.phase.CaughtUp s.requests s.requestId (sentOn newest)

/-- The condition of a take-over: no writer records a request while the newest connection's writer
    waits for the receiver, and no stream is dropped with a request in its writer's hands. -/
def State.TakesOver (s : State) : Event → Prop
  | .poll connection => s.HasInHand connection →
      (s.writers.lookup (s.connections - 1)).map Writer.phase ≠ some .waiting
  | .disconnect connection => ¬ s.HasInHand connection
  | _ => True

instance (s : State) : (event : Event) → Decidable (s.TakesOver event)
  | .poll connection => inferInstanceAs (Decidable (s.HasInHand connection → _ ≠ _))
  | .disconnect connection => inferInstanceAs (Decidable (¬ s.HasInHand connection))
  | .send _ _ | .cacheInit _ | .connect | .finish _ | .reply _ | .shutDown => .isTrue trivial

theorem Phase.CaughtUp.mono {requests'} (caughtUp : phase.CaughtUp requests requestId sent)
    (fewer : ∀ id req, requests'.lookup id = some req → requests.lookup id = some req)
    (more : sent ⊆ sent') : phase.CaughtUp requests' requestId sent' := by
  cases phase with
  | starting | finished => trivial
  | retransmitting ind | retransmitted ind =>
    exact ⟨caughtUp.1, fun id req here below => more (caughtUp.2 id req (fewer id req here) below)⟩
  | waiting | reading | taken _ | recorded =>
    exact fun id req here => more (caughtUp id req (fewer id req here))

theorem Phase.CaughtUp.insert_sent
    (before : ∀ id req, requests.lookup id = some req → makeSignerRequest id req ∈ sent)
    (now : makeSignerRequest id req ∈ sent') (more : sent ⊆ sent') (id' : Nat)
    (req' : ChannelRequest) (there : (requests.insert id req).lookup id' = some req') :
    makeSignerRequest id' req' ∈ sent' := by
  rw [Map.lookup_insert_ite] at there
  split at there
  · rename_i same
    cases there
    exact same ▸ now
  · exact more (before id' req' there)

theorem Phase.CaughtUp.insert_pending (caughtUp : phase.CaughtUp requests requestId sent)
    (waits : phase ≠ .waiting) (holds : phase.holdsReceiver = false) (req : ChannelRequest)
    (more : sent ⊆ sent') :
    phase.CaughtUp (requests.insert requestId req) (requestId + 1) sent' := by
  cases phase with
  | starting | finished => trivial
  | retransmitting ind | retransmitted ind =>
    refine ⟨caughtUp.1.trans (Nat.le_succ _), fun id req' here below => ?_⟩
    rw [Map.lookup_insert_ite, if_neg (below.trans_le caughtUp.1).ne] at here
    exact more (caughtUp.2 id req' here below)
  | waiting => exact absurd rfl waits
  | reading | taken _ | recorded => cases holds

theorem CaughtUp.move (caughtUp : CaughtUp sentOn s)
    (moved : ∀ connection',
      s'.writers.lookup connection' = if connection'
      = connection then some writer else s.writers.lookup connection')
    (connections : s'.connections = s.connections) (requests : s'.requests = s.requests)
    (requestId : s'.requestId = s.requestId)
    (own : s.connections = connection + 1 →
      writer.phase.CaughtUp s.requests s.requestId (sends connection ++ sentOn connection)) :
    CaughtUp (fun connection => sends connection ++ sentOn connection) s' := by
  intro newest writer' last here
  rw [moved] at here
  rw [connections] at last
  rw [requests, requestId]
  split at here
  · rename_i same
    subst same
    cases here
    exact own last
  · exact (caughtUp newest writer' last here).mono (fun _ _ there => there)
      (subset_append_right _ _)

theorem Effect.caughtUp {delivered} (effect : Effect s event output s')
    (takesOver : s.TakesOver event) (room : s.requestId < dummyRequestId) (exclusive : s.Exclusive)
    (routed : Routed recorded delivered s.requests s.requestId) (caughtUp : CaughtUp sentOn s) :
    CaughtUp (fun connection => output.sendings connection ++ sentOn connection) s' := by
  cases effect with
  | quiet | send => exact caughtUp
  | connect =>
    intro newest writer last here
    obtain rfl : s.connections = newest := Nat.succ.inj last
    simp only [State.connect, Map.lookup_insert_ite, if_true, Option.some.injEq] at here
    subst here
    trivial
  | init here phase _ | start here phase _ =>
    refine caughtUp.move (lookup_setPhase _ · _ _) rfl rfl rfl fun _ => ?_
    exact ⟨Nat.zero_le _, fun id _ _ below => absurd below (Nat.not_lt_zero id)⟩
  | @retransmit connection writer ind id req here phase next =>
    obtain ⟨pending, above, least⟩ := nextRequest_eq_some next
    have bound := routed.id_lt _ (routed.pending_recorded _ _ pending)
    have succ : (id + 1) % 2 ^ 64 = id + 1 := by
      simp only [dummyRequestId] at room bound
      omega
    refine caughtUp.move (lookup_setPhase _ · _ _) rfl rfl rfl fun last => ?_
    have before := caughtUp connection writer last here
    rw [phase] at before
    rw [succ]
    refine ⟨bound, fun id' req' there below => ?_⟩
    simp only [Output.sendings, if_true, singleton_append, mem_cons]
    by_cases lower : id' < ind
    · exact .inr (before.2 id' req' there lower)
    · have same : id' = id := by
        have := least id' req' there (not_lt.mp lower)
        omega
      subst same
      cases pending.symm.trans there
      exact .inl rfl
  | @scanned connection writer ind here phase next =>
    refine caughtUp.move (lookup_setPhase _ · _ _) rfl rfl rfl fun last => ?_
    have before := caughtUp connection writer last here
    rw [phase] at before
    exact fun id req there => before.2 id req there (nextRequest_eq_none next there)
  | @resume connection writer ind here phase =>
    refine caughtUp.move (lookup_setPhase _ · _ _) rfl rfl rfl fun last => ?_
    have before := caughtUp connection writer last here
    rw [phase] at before
    exact before
  | @enter connection writer here phase _ | @take connection writer _ _ here phase _
  | @reread connection writer here phase =>
    refine caughtUp.move (lookup_setPhase _ · _ _) rfl rfl rfl fun last => ?_
    have before := caughtUp connection writer last here
    rw [phase] at before
    exact before
  | finish _ _ => exact caughtUp.move (lookup_setPhase _ · _ _) rfl rfl rfl fun _ => trivial
  | @record connection writer req here phase =>
    intro newest writer' last there
    rw [lookup_setPhase] at there
    split at there
    · rename_i same
      subst same
      cases there
      have before := caughtUp newest writer last here
      rw [phase] at before
      exact Phase.CaughtUp.insert_sent before (by simp [Output.sendings])
        (subset_append_right _ _)
    · rename_i other
      -- The one who records has the receiver, so the newest is not reading; nor is it waiting.
      have waits : writer'.phase ≠ .waiting := fun waiting => by
        refine takesOver ?_ ?_
        · simp [State.HasInHand, here, phase, Phase.isTaken]
        · have connections : s.connections = newest + 1 := last
          rw [connections, Nat.add_sub_cancel, there, Option.map_some, waiting]
      have holds : writer'.phase.holdsReceiver = false := by
        by_contra held
        have lock := exclusive _ _ there (Bool.eq_true_of_not_eq_false held)
        rw [exclusive _ _ here (by rw [phase]; rfl)] at lock
        exact other (Option.some.inj lock).symm
      have next : (s.requestId + 1) % 2 ^ 64 = s.requestId + 1 := by
        simp only [dummyRequestId] at room
        omega
      show writer'.phase.CaughtUp _ ((s.requestId + 1) % 2 ^ 64) _
      rw [next]
      exact (caughtUp newest writer' last there).insert_pending waits holds req
        (subset_append_right _ _)
  | @disconnect connection =>
    intro newest writer last here
    by_cases same : newest = connection
    · subst same
      simp [State.disconnect] at here
    · refine caughtUp newest writer last ?_
      simpa [State.disconnect, AList.lookup_erase_ne same] using here
  | @deliver response _ _ _ =>
    intro newest writer last here
    refine (caughtUp newest writer last here).mono (fun id req there => ?_) (List.Subset.refl _)
    by_cases same : id = response.requestId
    · rw [same, AList.lookup_erase] at there
      cases there
    · exact (AList.lookup_erase_ne same).symm.trans there

theorem Effect.complete (effect : Effect s event output s') (takesOver : s.TakesOver event)
    (exclusive : s.Exclusive) (numbered : s.Numbered)
    (complete : s.line recorded = range s.replyChannels) :
    s'.line (output.recordings ++ recorded) = range s'.replyChannels := by
  obtain ⟨same, channels⟩ | ⟨grown, channels⟩ | ⟨loses, -, -⟩ :=
    effect.line exclusive numbered recorded
  · rw [same, channels, complete]
  · rw [grown, channels, complete, range_succ]
  · cases event with
    | disconnect connection => exact absurd loses takesOver
    | _ => exact absurd loses not_false

/-- What the runs keep in which every take-over is clean. -/
structure Relayed (history : History) (s : State) : Prop where
  sound : Sound history s
  initFirst : InitFirst history.sentOn s
  caughtUp : CaughtUp history.sentOn s
  complete : s.line history.recorded = range s.replyChannels

theorem relayed_initial : Relayed [] initial where
  sound := sound_initial
  initFirst := ⟨fun _ _ => rfl, fun _ _ here => by cases here⟩
  caughtUp := fun _ _ _ here => by cases here
  complete := rfl

theorem Relayed.step (relayed : Relayed history s) (room : s.requestId < dummyRequestId)
    (takesOver : s.TakesOver event) (effect : Effect s event output s') :
    Relayed (⟨s, event, output⟩ :: history) s' := by
  have sound := relayed.sound
  have sentOn : (fun connection => History.sentOn connection (⟨s, event, output⟩ :: history))
      = fun connection => output.sendings connection ++ history.sentOn connection :=
    funext fun connection => History.sentOn_cons connection _
  refine ⟨sound.step room effect, ?_, ?_, ?_⟩
  · rw [sentOn]
    exact effect.initFirst sound.numbered relayed.initFirst
  · rw [sentOn]
    exact effect.caughtUp takesOver room sound.exclusive sound.routed relayed.caughtUp
  · rw [History.recorded_cons]
    exact effect.complete takesOver sound.exclusive sound.numbered relayed.complete

def State.Room (s : State) : Prop := s.requestId < dummyRequestId
  deriving Decidable

theorem run_sound (run : machine.Run initial history s)
    (room : Machine.Meets (fun _ s _ => s.Room) history) : Sound history s :=
  run.inv Sound room sound_initial fun _ s event _ _ sound room stepped => by
    obtain ⟨rfl, rfl⟩ := Prod.ext_iff.mp (Option.some.inj stepped)
    exact sound.step room (s.step_effect event)

theorem run_relayed (run : machine.Run initial history s)
    (clean : Machine.Meets (fun _ s event => s.Room ∧ s.TakesOver event) history) :
    Relayed history s :=
  run.inv Relayed clean relayed_initial fun _ s event _ _ relayed clean stepped => by
    obtain ⟨rfl, rfl⟩ := Prod.ext_iff.mp (Option.some.inj stepped)
    exact relayed.step clean.1 clean.2 (s.step_effect event)

theorem Sound.channels_apart (sound : Sound history s) : (history.recorded.map Prod.snd).Nodup := by
  have sorted := sound.inLine.sorted
  rw [line, append_assoc, pairwise_append] at sorted
  exact nodup_reverse.mp (sorted.1.imp fun less => less.ne)

theorem Sound.delivered_once (sound : Sound history s) :
    (history.delivered.map Prod.snd).Nodup := by
  have ids := pairwise_map.mp sound.routed.delivered_apart
  refine pairwise_map.mpr (ids.imp_of_mem fun {one other} mem mem' apart same => apart ?_)
  have recorded := (sound.routed.delivered_gone one mem).1
  have recorded' := (sound.routed.delivered_gone other mem').1
  exact congrArg Prod.fst (inj_on_of_nodup_map sound.channels_apart recorded recorded' same)

/-- A reply goes to the request that was given the id it carries. -/
def Addressed (history : History) (step : Machine.Step State Event Output) : Prop :=
  ∀ id replyTx reply, step.output = .delivered id replyTx reply →
    (∃ response, step.input = .reply response ∧ response.requestId = id) ∧
      (id, replyTx) ∈ history.recorded

theorem run_addressed (run : machine.Run initial history s)
    (room : Machine.Meets (fun _ s _ => s.Room) history) :
    ∀ step ∈ history, Addressed history step := by
  refine (run.inv (fun history s => Sound history s ∧ ∀ step ∈ history, Addressed history step)
    room ⟨sound_initial, nofun⟩ ?_).2
  intro history s event output s' ⟨sound, addressed⟩ room stepped
  obtain ⟨rfl, rfl⟩ := Prod.ext_iff.mp (Option.some.inj stepped)
  have effect := s.step_effect event
  refine ⟨sound.step room effect, fun step mem => ?_⟩
  have more (entry) (among : entry ∈ History.recorded history) :
      entry ∈ History.recorded (⟨s, event, (s.step event).1⟩ :: history) := by
    rw [History.recorded_cons]
    exact mem_append_right _ among
  obtain rfl | earlier := mem_cons.mp mem
  · intro id replyTx reply delivered
    simp only at delivered
    generalize s.step event = result at delivered effect more
    obtain ⟨output, s'⟩ := result
    simp only at delivered effect more
    subst delivered
    cases effect with
    | deliver here => exact ⟨⟨_, rfl, rfl⟩, more _ (sound.routed.pending_recorded _ _ here)⟩
  · intro id replyTx reply delivered
    obtain ⟨input, among⟩ := addressed step earlier id replyTx reply delivered
    exact ⟨input, more _ among⟩

/-- A message was sent on a connection, after the init message if there was one. -/
def SentAfterInit (history : History) (connection : Nat) (writer : Writer)
    (request : SignerRequest) : Prop :=
  request ∈ history.sentOn connection ∧ ∀ message, writer.init = some message →
    (history.sentOn connection).getLast? = some (initRequest message)

def State.AtRest (s : State) (newest : Nat) (writer : Writer) : Prop :=
  s.connections = newest + 1 ∧ s.writers.lookup newest = some writer ∧
    (writer.phase = .waiting ∨ writer.phase = .reading)

def State.Idle (s : State) (newest : Nat) (writer : Writer) : Prop :=
  s.connections = newest + 1 ∧ s.writers.lookup newest = some writer ∧
    writer.phase = .reading ∧ s.queue = []

theorem Relayed.pending_sent (relayed : Relayed history s) (rest : s.AtRest newest writer)
    (pending : s.requests.lookup id = some req) :
    SentAfterInit history newest writer (makeSignerRequest id req) := by
  obtain ⟨last, here, phase⟩ := rest
  have caughtUp := relayed.caughtUp newest writer last here
  have first := (relayed.initFirst.2 newest writer here).2
  obtain phase | phase := phase
  · rw [phase] at caughtUp first
    exact ⟨caughtUp id req pending, first nofun⟩
  · rw [phase] at caughtUp first
    exact ⟨caughtUp id req pending, first nofun⟩

theorem Relayed.all_served (relayed : Relayed history s) (idle : s.Idle newest writer) {replyTx}
    (made : replyTx < s.replyChannels) :
    replyTx ∈ history.delivered.map Prod.snd ∨
      ∃ id req, s.requests.lookup id = some req ∧ req.replyTx = replyTx ∧
        SentAfterInit history newest writer (makeSignerRequest id req) := by
  obtain ⟨last, here, phase, queue⟩ := idle
  have sound := relayed.sound
  have hand : s.hand = [] := by
    rw [sound.exclusive.hand_eq here (by rw [phase]; rfl), phase]
    rfl
  have among : replyTx ∈ s.line history.recorded := by
    rw [relayed.complete]
    exact mem_range.mpr made
  rw [line, hand, queue, append_nil, map_nil, append_nil, mem_reverse] at among
  obtain ⟨entry, mem, rfl⟩ := mem_map.mp among
  obtain ⟨req, pending, channel⟩ | done := sound.routed.recorded_kept entry mem
  · exact .inr ⟨entry.1, req, pending, channel,
      relayed.pending_sent ⟨last, here, .inr phase⟩ pending⟩
  · exact .inl (mem_map_of_mem done)

/-- In every run, while there are ids left: no id is given twice, no request is answered twice, and
    a reply goes to the request that has its id. If every take-over is clean, the newest connection
    has been sent all requests without an answer whenever its writer is at rest. -/
theorem replies_routed (history : History) (s : State) (run : machine.Run initial history s)
    (room : Machine.Meets (fun _ s _ => s.Room) history) :
    (history.recorded.map Prod.fst).Nodup ∧ (history.delivered.map Prod.snd).Nodup ∧
      (∀ step ∈ history, Addressed history step) ∧
      (Machine.Meets (fun _ s event => s.Room ∧ s.TakesOver event) history → ∀ newest writer,
          (s.AtRest newest writer → ∀ id req, s.requests.lookup id = some req →
            SentAfterInit history newest writer (makeSignerRequest id req)) ∧
          (s.Idle newest writer → ∀ replyTx < s.replyChannels,
            replyTx ∈ history.delivered.map Prod.snd ∨
              ∃ id req, s.requests.lookup id = some req ∧ req.replyTx = replyTx ∧
                SentAfterInit history newest writer (makeSignerRequest id req))) := by
  have sound := run_sound run room
  refine ⟨sound.routed.ids_apart, sound.delivered_once, run_addressed run room,
    fun clean newest writer => ?_⟩
  have relayed := run_relayed run clean
  exact ⟨fun rest id req pending => relayed.pending_sent rest pending,
    fun idle replyTx made => relayed.all_served idle made⟩

namespace Toy

def settle (connection : Nat) : List Event :=
  [.connect, .poll connection, .poll connection, .poll connection]

def cleanTakeOver : List Event :=
  .cacheInit [0x0b] :: settle 0 ++
    [.send [1] none, .poll 0, .poll 0, .poll 0, .connect, .disconnect 0,
      .poll 1, .poll 1, .poll 1, .poll 1, .poll 1]

def lateRecord : List Event :=
  .cacheInit [0x0b] :: settle 0 ++ settle 1 ++
    [.send [1] none, .poll 0, .poll 0, .poll 0, .disconnect 0, .poll 1]

end Toy

theorem request_sent_again :
    ∃ history s, machine.Run initial history s ∧
      (s.connections = 2 ∧ s.writers.lookup 1 = some ⟨some [0x0b], .reading⟩ ∧
        s.queue = [] ∧ s.replyChannels = 1 ∧
        Machine.Meets (fun _ s event => s.Room ∧ s.TakesOver event) history) ∧
      (0 ∈ (History.delivered history).map Prod.snd ∨
        ∃ id req, s.requests.lookup id = some req ∧ req.replyTx = 0 ∧
          SentAfterInit history 1 ⟨some [0x0b], .reading⟩ (makeSignerRequest id req)) := by
  obtain ⟨history, s, run, ⟨last, here, queue, made, clean⟩, room⟩ :
      ∃ history s, machine.Run initial history s ∧
        (s.connections = 2 ∧ s.writers.lookup 1 = some ⟨some [0x0b], .reading⟩ ∧
          s.queue = [] ∧ s.replyChannels = 1 ∧
          Machine.Meets (fun _ s event => s.Room ∧ s.TakesOver event) history) ∧
        Machine.Meets (fun _ s _ => s.Room) history :=
    Machine.exists_run Toy.cleanTakeOver (by decide +kernel)
  refine ⟨history, s, run, ⟨last, here, queue, made, clean⟩, ?_⟩
  exact ((replies_routed history s run room).2.2.2 clean 1 _).2 ⟨last, here, rfl, queue⟩ 0
    (by rw [made]; exact Nat.one_pos)

/-- The newest connection is idle and has been sent the init message only, and a request has no
    answer. -/
theorem request_stranded :
    ∃ history s, machine.Run initial history s ∧ Machine.Meets (fun _ s _ => s.Room) history ∧
      s.connections = 2 ∧ s.writers.lookup 1 = some ⟨some [0x0b], .reading⟩ ∧ s.queue = [] ∧
      s.requests.lookup 0 = some ⟨[1], 0, none⟩ ∧ History.delivered history = [] ∧
      History.sentOn 1 history = [initRequest [0x0b]] :=
  Machine.exists_run Toy.lateRecord (by decide +kernel)

end Vls.Proxy
