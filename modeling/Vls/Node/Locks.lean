import Vls.Lib.Locks

/-! # The mutexes of a node

The node documents an order for four mutexes: tracker, channel map, channel slot, node state. Under
these are taken the validator factory, the state of each channel's monitor, and the decode state of
each listener. Here are the lock uses of the node's operations.

Validation reads the monitor of a channel under the channel's slot, and so does the log of the
enforcement state. In block processing a monitor asks the channel with its own state locked. The
two may wait for each other. -/

namespace Vls.Locks

open Locking Locking.Routine List

/-- A channel, known by its slot. Its monitor state lives as long as the slot and is shared by
    the copies of the channel and by the listeners. -/
abbrev Slot := Nat

inductive Lock where
  | tracker
  | channels
  | slot (c : Slot)
  | state
  | validatorFactory
  | monitor (c : Slot)
  | decode (listener : Nat)
  deriving DecidableEq

section channel

variable (c : Slot)

/-- Both `Channel::validator` and `Node::validator`, and `Node::policy`. -/
def validator : Routine Lock := touch .validatorFactory

def getChainState : Routine Lock := touch (.monitor c)

def allowlistContains : Routine Lock := touch .state

/-- The chain state is logged at the debug level only. -/
def traceEnforcementState : Routine Lock := optional (getChainState c)

def balance : Routine Lock := hold .state (inTurn [validator, getChainState c])

/-- The methods of a ready channel that take locks. -/
inductive ChannelMethod where
  | signCounterpartyCommitmentTx
  | signCounterpartyCommitmentTxPhase2
  | validateHolderCommitmentTx
  | validateHolderCommitmentTxPhase2
  | revokePreviousHolderCommitment
  | activateInitialCommitment
  | validateCounterpartyRevocation
  | signHolderCommitmentTxPhase2
  | signHolderCommitmentTxForRecovery (received : Nat)
  | signMutualCloseTx (tried : Nat)
  | signMutualCloseTxPhase2
  | signSweep
  | signHtlcTx
  | htlcsFulfilled

/-- A failed validation reads the chain state once more, for its message. -/
def ChannelMethod.routine : ChannelMethod → Routine Lock
  | signCounterpartyCommitmentTx =>
    seq validator (hold .state (inTurn [getChainState c, optional (getChainState c),
      traceEnforcementState c]))
  | signCounterpartyCommitmentTxPhase2 =>
    seq validator (hold .state (seq (getChainState c) (traceEnforcementState c)))
  | validateHolderCommitmentTx =>
    inTurn [validator, validator, getChainState c, optional (getChainState c),
      hold .state (traceEnforcementState c)]
  | validateHolderCommitmentTxPhase2 =>
    hold .state (inTurn [validator, getChainState c, optional (getChainState c),
      traceEnforcementState c])
  | revokePreviousHolderCommitment => seq validator (hold .state (traceEnforcementState c))
  | activateInitialCommitment => traceEnforcementState c
  | validateCounterpartyRevocation => seq validator (traceEnforcementState c)
  | signHolderCommitmentTxPhase2 => seq validator (traceEnforcementState c)
  | signHolderCommitmentTxForRecovery received =>
    inTurn [validator, optional (getChainState c), inTurn (replicate received (touch .state)),
      traceEnforcementState c]
  | signMutualCloseTx tried =>
    inTurn [touch .state, validator, inTurn (replicate tried allowlistContains),
      traceEnforcementState c]
  | signMutualCloseTxPhase2 =>
    inTurn [validator, optional allowlistContains, traceEnforcementState c]
  | signSweep =>
    inTurn [validator, getChainState c, optional allowlistContains, traceEnforcementState c]
  | signHtlcTx => inTurn [validator, validator, getChainState c, optional (getChainState c)]
  | htlcsFulfilled => seq validator (touch .state)

def ChannelMethod.readsChain : ChannelMethod → Bool
  | htlcsFulfilled => false
  | _ => true

def chaninfo : Routine Lock :=
  inTurn [touch (.monitor c), balance c, touch (.monitor c), touch (.monitor c)]

/-- What a monitor takes a spend of its funding for. -/
inductive Close where
  | mutualClose
  | unilateralClose (htlcs : Bool)

/-- The calls of the commitment point provider, which locks the slot for each: the transaction
    parameters, the two points, and which HTLCs can be spent, for which the payments are read. -/
def consult : Close → Routine Lock
  | .mutualClose => touch (.slot c)
  | .unilateralClose false => inTurn [touch (.slot c), touch (.slot c), touch (.slot c)]
  | .unilateralClose true =>
    inTurn [touch (.slot c), touch (.slot c), touch (.slot c), hold (.slot c) (touch .state)]

end channel

/-- A listener of the tracker: its decode state, its channel, and the closes that it sees in what
    it is told. -/
structure Sighting where
  listener : Nat
  channel : Slot
  closes : List Close

namespace Sighting

variable (seen : Sighting)

def onAddBlock : Routine Lock :=
  seq (hold (.monitor seen.channel) (inTurn (seen.closes.map (consult seen.channel))))
    (touch (.monitor seen.channel))

def onAddStreamedBlockEnd : Routine Lock :=
  hold (.monitor seen.channel) (touch (.decode seen.listener))

def onPush : Routine Lock :=
  hold (.monitor seen.channel)
    (hold (.decode seen.listener) (inTurn (seen.closes.map (consult seen.channel))))

end Sighting

/-- The operations of a node, with what decides their way through the locks: the slots they come
    by, in order, and the channels whose listeners are persisted. -/
inductive Operation where
  | withChannel (c : Slot) (methods : List ChannelMethod)
  | newChannel (existing : Option Slot)
  | setupChannel (c fresh : Slot) (listeners : List Slot)
  | forgetChannel (c : Slot)
  | checkOnchainTx (found funded : List Slot)
  | uncheckedSignOnchainTx (found funded listeners : List Slot)
  | addBlock (seen : List Sighting)
  | removeBlock (seen : List Sighting)
  | addStreamedBlock (seen : List Sighting)
  | removeStreamedBlock (seen : List Sighting)
  | blockChunk (pushed : List Sighting)
  | getHeartbeat (slots pruned listeners : List Slot)
  | channelBalance (slots : List Slot)
  | chaninfo (slots : List Slot)
  | persistAll (slots listeners : List Slot)
  | updateAllowlist
  | addPayment
  | updateVelocityControls
  | setValidatorFactory
  | getChainHeight

/-- Saving the tracker reads the state of every monitor. -/
def updateTracker (listeners : List Slot) : Routine Lock :=
  inTurn (listeners.map fun c => touch (.monitor c))

def touchSlots (slots : List Slot) : Routine Lock := inTurn (slots.map fun c => touch (.slot c))

def channelBalance (slots : List Slot) : Routine Lock :=
  seq (touch .channels) (inTurn (slots.map fun c => hold (.slot c) (optional (balance c))))

def compactBlock (seen : List Sighting) : Routine Lock :=
  hold .tracker (seq (inTurn (seen.map Sighting.onAddBlock)) (updateTracker (seen.map (·.channel))))

def streamedBlock (seen : List Sighting) : Routine Lock :=
  hold .tracker
    (seq (inTurn (seen.map Sighting.onAddStreamedBlockEnd)) (updateTracker (seen.map (·.channel))))

/-- The splice branch of `setup_channel`, and the branch for a stub. The ready channel of the
    latter is in a new slot. -/
def setupChannel (c fresh : Slot) (listeners : List Slot) : Routine Lock :=
  hold .tracker (inTurn [validator, touch .channels,
    either
      (inTurn [hold (.slot c) (touch (.monitor c)), optional allowlistContains, touch (.slot c),
        updateTracker listeners])
      (inTurn [touch (.slot c), hold .channels (hold (.slot c) (touch (.monitor fresh))),
        optional allowlistContains,
        hold .channels (inTurn [touch (.slot fresh), traceEnforcementState fresh,
          updateTracker listeners])])])

def Operation.routine : Operation → Routine Lock
  | withChannel c methods =>
    seq (touch .channels) (hold (.slot c) (inTurn (methods.map (ChannelMethod.routine c))))
  | newChannel existing =>
    inTurn [optional (touch .state), touch .tracker,
      hold .channels (seq validator (touchSlots existing.toList))]
  | setupChannel c fresh listeners => Locks.setupChannel c fresh listeners
  | forgetChannel c =>
    hold .channels (seq (hold (.slot c) (optional (touch (.monitor c)))) (touch .state))
  | checkOnchainTx found funded =>
    inTurn [
      hold .channels (inTurn [touchSlots found, validator,
        inTurn (funded.map fun c =>
          seq (optional allowlistContains) (optional (touch (.slot c))))]),
      validator, touch .state, touch .state]
  | uncheckedSignOnchainTx found funded listeners =>
    seq (hold .channels (touchSlots found))
      (hold .tracker (hold .channels
        (seq (inTurn (funded.map fun c => hold (.slot c) (touch (.monitor c))))
          (updateTracker listeners))))
  | addBlock seen => compactBlock seen
  | removeBlock seen => compactBlock seen
  | addStreamedBlock seen => streamedBlock seen
  | removeStreamedBlock seen => streamedBlock seen
  | blockChunk pushed => hold .tracker (inTurn (pushed.map Sighting.onPush))
  | getHeartbeat slots pruned listeners =>
    inTurn [touch .state, Locks.channelBalance slots,
      hold .tracker (hold .channels (inTurn [
        inTurn (slots.map fun c => hold (.slot c) (optional (touch (.monitor c)))),
        touchSlots pruned, optional (updateTracker listeners)]))]
  | channelBalance slots => Locks.channelBalance slots
  | chaninfo slots =>
    hold .channels (inTurn (slots.map fun c => hold (.slot c) (optional (Locks.chaninfo c))))
  | persistAll slots listeners =>
    inTurn [touch .state, hold .channels (touchSlots slots),
      hold .tracker (updateTracker listeners)]
  | updateAllowlist => touch .state
  | addPayment => inTurn [optional validator, hold .state validator, touch .state]
  | updateVelocityControls => seq validator (touch .state)
  | setValidatorFactory => touch .validatorFactory
  | getChainHeight => touch .tracker

/-- The channels whose monitor consults them during the operation: those that it sees closed. -/
def Operation.closes : Operation → List Slot
  | addBlock seen | removeBlock seen | blockChunk seen =>
    (seen.filter fun s => !s.closes.isEmpty).map (·.channel)
  | _ => []

def Operation.reads : Operation → List Slot
  | withChannel c methods => if methods.any ChannelMethod.readsChain then [c] else []
  | forgetChannel c => [c]
  | getHeartbeat slots _ _ | channelBalance slots | chaninfo slots => slots
  | _ => []

/-- The documented order, with the other locks after it. -/
def Lock.rank : Lock → Nat
  | tracker => 0
  | channels => 2
  | slot _ => 3
  | state => 4
  | validatorFactory | monitor _ => 5
  | decode _ => 6

/-- The order while the monitor of a channel consults it. -/
def Lock.rankConsulting (c : Slot) : Lock → Nat
  | monitor c' => if c' = c then 1 else 5
  | decode _ => 1
  | lock => lock.rank

def Below (rank : Lock → Nat) (place : Nat) (held : List Lock) : Prop :=
  ∀ h ∈ held, rank h < place

@[simp] theorem below_nil {rank place} : Below rank place [] := by simp [Below]

@[simp] theorem below_cons {rank place lock held} :
    Below rank place (lock :: held) ↔ rank lock < place ∧ Below rank place held := by
  simp [Below]

/-- A request in the documented order. Monitors are read under the tracker, or the operation is
    one of those that read the channel's monitor without it. -/
structure InOrder (op : Operation) (held : List Lock) (lock : Lock) : Prop where
  climbs : Below Lock.rank lock.rank held
  reads : ∀ c, lock = .monitor c → .tracker ∈ held ∨ c ∈ op.reads
  tracked : ∀ listener, lock = .decode listener → .tracker ∈ held

/-- A request of a monitor that consults its channel. -/
structure Consults (op : Operation) (c : Slot) (held : List Lock) (lock : Lock) : Prop where
  closes : c ∈ op.closes
  tracker : .tracker ∈ held
  monitor : .monitor c ∈ held
  climbs : Below (Lock.rankConsulting c) (lock.rankConsulting c) held

def Kind (op : Operation) (held : List Lock) (lock : Lock) : Prop :=
  InOrder op held lock ∨ ∃ c, Consults op c held lock

section kinds

variable {op : Operation} {held : List Lock}

variable {c : Slot} {seen : List Sighting} {s : Sighting}

theorem kind_monitor (climbs : Below Lock.rank 5 held) (reads : .tracker ∈ held ∨ c ∈ op.reads) :
    Kind op held (.monitor c) := by
  refine .inl ⟨climbs, ?_, by simp⟩
  rintro c' ⟨⟩
  exact reads

theorem kind_of_rank {lock} (climbs : Below Lock.rank lock.rank held) (low : lock.rank < 5) :
    Kind op held lock := by
  refine .inl ⟨climbs, ?_, ?_⟩
  · rintro c rfl
    simp [Lock.rank] at low
  · rintro listener rfl
    simp [Lock.rank] at low

theorem kind_tracker : Kind op [] .tracker := kind_of_rank below_nil (by simp [Lock.rank])

theorem kind_channels (climbs : Below Lock.rank 2 held) : Kind op held .channels :=
  kind_of_rank climbs (by simp [Lock.rank])

theorem kind_slot (climbs : Below Lock.rank 3 held) : Kind op held (.slot c) :=
  kind_of_rank climbs (by simp [Lock.rank])

theorem kind_state (climbs : Below Lock.rank 4 held) : Kind op held .state :=
  kind_of_rank climbs (by simp [Lock.rank])

theorem kind_validatorFactory (climbs : Below Lock.rank 5 held) :
    Kind op held .validatorFactory :=
  .inl ⟨climbs, by simp, by simp⟩

theorem kind_decode {listener} (climbs : Below Lock.rank 6 held) (tracked : .tracker ∈ held) :
    Kind op held (.decode listener) :=
  .inl ⟨climbs, by simp, fun _ _ => tracked⟩

theorem obeys_method {method : ChannelMethod} (reads : method.readsChain → c ∈ op.reads) :
    (method.routine c).Obeys (Kind op) [.slot c] := by
  cases method <;>
    simp_all [ChannelMethod.routine, ChannelMethod.readsChain, validator, getChainState,
      traceEnforcementState, allowlistContains, kind_monitor, kind_state, kind_validatorFactory,
      Lock.rank]

theorem obeys_balance (climbs : Below Lock.rank 4 held) (reads : c ∈ op.reads) :
    (balance c).Obeys (Kind op) held := by
  have climbs' : Below Lock.rank 5 held := fun h mem => Nat.lt_succ_of_lt (climbs h mem)
  simp [balance, validator, getChainState, kind_monitor, kind_state, kind_validatorFactory,
    Lock.rank, *]

theorem obeys_channelBalance {slots} (reads : ∀ c ∈ slots, c ∈ op.reads) :
    (channelBalance slots).Obeys (Kind op) [] := by
  simp only [channelBalance, obeys_seq, obeys_touch, obeys_inTurn, forall_mem_map,
    obeys_hold, obeys_optional]
  refine ⟨kind_channels below_nil, fun c mem => ⟨kind_slot below_nil, ?_⟩⟩
  exact obeys_balance (by simp [Lock.rank]) (reads c mem)

theorem obeys_updateTracker {listeners} (climbs : Below Lock.rank 5 held)
    (tracked : .tracker ∈ held) : (updateTracker listeners).Obeys (Kind op) held := by
  simp [updateTracker, kind_monitor climbs (.inl tracked)]

theorem obeys_touchSlots {slots} (climbs : Below Lock.rank 3 held) :
    (touchSlots slots).Obeys (Kind op) held := by
  simp [touchSlots, kind_slot climbs]

theorem obeys_consult {close} (closes : c ∈ op.closes) (tracked : .tracker ∈ held)
    (monitored : .monitor c ∈ held) (climbs : Below (Lock.rankConsulting c) 3 held) :
    (consult c close).Obeys (Kind op) held := by
  have slot : Kind op held (.slot c) := .inr ⟨c, closes, tracked, monitored, climbs⟩
  have state : Kind op (.slot c :: held) .state := by
    have climbs' : Below (Lock.rankConsulting c) 4 held :=
      fun h mem => Nat.lt_succ_of_lt (climbs h mem)
    exact .inr ⟨c, closes, by simp [tracked], by simp [monitored],
      by simp [Lock.rankConsulting, Lock.rank, climbs']⟩
  cases close with
  | mutualClose => simp [consult, slot]
  | unilateralClose htlcs => cases htlcs <;> simp [consult, slot, state]

theorem obeys_closes {closes : List Close} (consults : closes ≠ [] → c ∈ op.closes)
    (tracked : .tracker ∈ held) (monitored : .monitor c ∈ held)
    (climbs : Below (Lock.rankConsulting c) 3 held) :
    (inTurn (closes.map (consult c))).Obeys (Kind op) held := by
  simp only [obeys_inTurn, forall_mem_map]
  exact fun close mem => obeys_consult (consults (ne_nil_of_mem mem)) tracked monitored climbs

theorem obeys_compactBlock (consults : ∀ s ∈ seen, s.closes ≠ [] → s.channel ∈ op.closes) :
    (compactBlock seen).Obeys (Kind op) [] := by
  simp only [compactBlock, obeys_hold, obeys_seq, obeys_inTurn, forall_mem_map]
  refine ⟨kind_tracker, fun s mem => ?_, obeys_updateTracker (by simp [Lock.rank]) (by simp)⟩
  have monitor : Kind op [.tracker] (.monitor s.channel) :=
    kind_monitor (by simp [Lock.rank]) (by simp)
  refine ⟨⟨monitor, ?_⟩, by simpa using monitor⟩
  exact obeys_closes (consults s mem) (by simp) (by simp) (by simp [Lock.rankConsulting, Lock.rank])

theorem obeys_streamedBlock : (streamedBlock seen).Obeys (Kind op) [] := by
  simp [streamedBlock, Sighting.onAddStreamedBlockEnd, obeys_updateTracker, kind_tracker,
    kind_monitor, kind_decode, Lock.rank]

theorem obeys_onPush (consults : s.closes ≠ [] → s.channel ∈ op.closes) :
    s.onPush.Obeys (Kind op) [.tracker] := by
  refine ⟨kind_monitor (by simp [Lock.rank]) (by simp),
    kind_decode (by simp [Lock.rank]) (by simp), ?_⟩
  exact obeys_closes consults (by simp) (by simp) (by simp [Lock.rankConsulting, Lock.rank])

theorem mem_closes (mem : s ∈ seen) (some : s.closes ≠ []) :
    s.channel ∈ (seen.filter fun s => !s.closes.isEmpty).map (·.channel) :=
  mem_map.mpr ⟨s, by simp [mem, some], rfl⟩

theorem obeys_routine (op : Operation) : op.routine.Obeys (Kind op) [] := by
  cases op with
  | withChannel c methods =>
    simp only [Operation.routine, obeys_seq, obeys_touch, obeys_hold, obeys_inTurn, forall_mem_map]
    refine ⟨kind_channels below_nil, kind_slot below_nil, fun method mem => obeys_method ?_⟩
    intro reads
    have any : methods.any ChannelMethod.readsChain := any_eq_true.mpr ⟨method, mem, reads⟩
    simp [Operation.reads, any]
  | newChannel existing =>
    simp [Operation.routine, validator, obeys_touchSlots, kind_tracker, kind_channels, kind_state,
      kind_validatorFactory, Lock.rank]
  | setupChannel c fresh listeners =>
    simp [Operation.routine, Locks.setupChannel, validator, allowlistContains,
      traceEnforcementState, getChainState, obeys_updateTracker, kind_tracker, kind_channels,
      kind_slot, kind_state, kind_monitor, kind_validatorFactory, Lock.rank]
  | forgetChannel c =>
    simp [Operation.routine, Operation.reads, kind_channels, kind_slot, kind_state, kind_monitor,
      Lock.rank]
  | checkOnchainTx found funded =>
    simp [Operation.routine, validator, allowlistContains, obeys_touchSlots, kind_channels,
      kind_slot, kind_state, kind_validatorFactory, Lock.rank]
  | uncheckedSignOnchainTx found funded listeners =>
    simp [Operation.routine, obeys_touchSlots, obeys_updateTracker, kind_tracker, kind_channels,
      kind_slot, kind_monitor, Lock.rank]
  | addBlock seen => exact obeys_compactBlock fun s => mem_closes
  | removeBlock seen => exact obeys_compactBlock fun s => mem_closes
  | addStreamedBlock seen => exact obeys_streamedBlock
  | removeStreamedBlock seen => exact obeys_streamedBlock
  | blockChunk pushed =>
    simp only [Operation.routine, obeys_hold, obeys_inTurn, forall_mem_map]
    exact ⟨kind_tracker, fun s mem => obeys_onPush (mem_closes mem)⟩
  | getHeartbeat slots pruned listeners =>
    have balances := @obeys_channelBalance (.getHeartbeat slots pruned listeners) slots
      fun c mem => mem
    simp [Operation.routine, balances, obeys_touchSlots, obeys_updateTracker, kind_tracker,
      kind_channels, kind_slot, kind_state, kind_monitor, Lock.rank]
  | channelBalance slots => exact obeys_channelBalance fun c mem => mem
  | chaninfo slots =>
    simp only [Operation.routine, obeys_hold, obeys_inTurn, forall_mem_map, obeys_optional]
    refine ⟨kind_channels below_nil, fun c mem => ⟨kind_slot (by simp [Lock.rank]), ?_⟩⟩
    have reads : c ∈ (Operation.chaninfo slots).reads := mem
    simp [Locks.chaninfo, obeys_balance, kind_monitor, Lock.rank, reads]
  | persistAll slots listeners =>
    simp [Operation.routine, obeys_touchSlots, obeys_updateTracker, kind_tracker, kind_channels,
      kind_state, Lock.rank]
  | updateAllowlist => simp [Operation.routine, kind_state]
  | addPayment => simp [Operation.routine, validator, kind_state, kind_validatorFactory, Lock.rank]
  | updateVelocityControls => simp [Operation.routine, validator, kind_state, kind_validatorFactory]
  | setValidatorFactory => simp [Operation.routine, kind_validatorFactory]
  | getChainHeight => simp [Operation.routine, kind_tracker]

end kinds

/-- No channel is closed by the one whose monitor is read by the other. -/
def Apart (op op' : Operation) : Prop := ∀ c ∈ op.closes, c ∉ op'.reads
  deriving Decidable

def threads (ι : Type) [Fintype ι] [DecidableEq ι] :
    Machine (ι → Thread Operation Lock) (ι × Turn Operation) Unit := machine Operation.routine

section deadlock

variable {ι : Type} [Fintype ι] [DecidableEq ι] {s : ι → Thread Operation Lock}

/-- Beside a thread that consults a channel from its monitor, requests in the documented order are
    in the order for consulting as well. -/
theorem InOrder.climbs_consulting {op held lock c} (inOrder : InOrder op held lock)
    (apart : c ∉ op.reads) (untracked : .tracker ∉ held) (unmonitored : .monitor c ∉ held) :
    Below (Lock.rankConsulting c) (lock.rankConsulting c) held := by
  have place : lock.rankConsulting c = lock.rank := by
    cases lock with
    | monitor c' =>
      have other : c' ≠ c := by
        rintro rfl
        exact (inOrder.reads c' rfl).elim untracked apart
      simp [Lock.rankConsulting, Lock.rank, other]
    | decode listener => exact (untracked (inOrder.tracked listener rfl)).elim
    | _ => rfl
  intro h mem
  have before := inOrder.climbs h mem
  rw [place]
  cases h with
  | monitor c' =>
    have other : c' ≠ c := by
      rintro rfl
      exact unmonitored mem
    simpa [Lock.rankConsulting, Lock.rank, other] using before
  | decode listener => exact Nat.lt_of_le_of_lt (by simp [Lock.rankConsulting, Lock.rank]) before
  | _ => exact before

/-- Only one thread at a time can consult a channel, since it holds the tracker; while it does, the
    monitor of that channel comes before the slots, and otherwise after the node state. -/
theorem not_deadlocked_of_compatible (orderly : ∀ i, Orderly Kind (s i)) (exclusive : Exclusive s)
    (compatible : Compatible Apart s) : ¬ Deadlocked s := by
  by_cases consulting : ∃ i c op lock, lock ∈ (s i).awaited ∧ op ∈ (s i).doing ∧
      Consults op c (s i).held lock
  · obtain ⟨b, c, op, lock, awaits, doing, consults⟩ := consulting
    refine not_deadlocked orderly (Lock.rankConsulting c) fun i lock' awaits' => ?_
    by_cases same : i = b
    · subst same
      rw [Option.mem_unique awaits' awaits]
      exact consults.climbs
    · have untracked : .tracker ∉ (s i).held := fun mem =>
        same (exclusive _ i b mem consults.tracker)
      obtain ⟨op', doing', inOrder | ⟨c', consults'⟩⟩ := (orderly i).awaited awaits'
      · refine inOrder.climbs_consulting ?_ untracked ?_
        · exact compatible b i (Ne.symm same) op doing op' doing' c consults.closes
        · exact fun mem => same (exclusive _ i b mem consults.monitor)
      · exact (untracked consults'.tracker).elim
  · refine not_deadlocked orderly Lock.rank fun i lock awaits => ?_
    obtain ⟨op, doing, inOrder | ⟨c, consults⟩⟩ := (orderly i).awaited awaits
    · exact inOrder.climbs
    · exact (consulting ⟨i, c, op, lock, awaits, doing, consults⟩).elim

/-- In any run of any threads, if a block with a close of a channel is never processed beside an
    operation that reads that channel's monitor, then no state reached is a deadlock. -/
theorem operations_never_deadlock {start : ι → Thread Operation Lock}
    {history : List (Machine.Step (ι → Thread Operation Lock) (ι × Turn Operation) Unit)}
    (run : (threads ι).Run start history s) (idle : ∀ i, start i = .idle)
    (apart : Machine.Meets (fun _ s input => StartsWith Apart s input) history) :
    ¬ Deadlocked s :=
  not_deadlocked_of_compatible (orderly_of_run obeys_routine run idle) (exclusive_of_run run idle)
    (compatible_of_run run idle apart)

end deadlock

def signerTurns : List (Fin 2 × Turn Operation) :=
  (0, .start (.withChannel 0 [.signCounterpartyCommitmentTxPhase2])) ::
    replicate 12 (0, .go)

def blockTurns (c : Slot) : List (Fin 2 × Turn Operation) :=
  (1, .start (.addBlock [⟨0, c, [.unilateralClose false]⟩])) :: replicate 7 (1, .go)

/-- The signer holds the slot and the node state and waits for the monitor; the monitor waits for
    the slot. -/
theorem signing_deadlocks_with_close :
    ∃ history s, (threads (Fin 2)).Run (fun _ => .idle) history s ∧
      Deadlocked s ∧ Waits s 0 1 ∧ Waits s 1 0 :=
  Machine.exists_run (signerTurns ++ blockTurns 0) (by decide +kernel)

/-- The same with the close of another channel: neither waits for the other. -/
theorem signing_beside_other_close :
    ∃ history s, (threads (Fin 2)).Run (fun _ => .idle) history s ∧
      Machine.Meets (fun _ s input => StartsWith Apart s input) history ∧ ¬ Deadlocked s := by
  obtain ⟨history, s, run, apart⟩ : ∃ history s,
      (threads (Fin 2)).Run (fun _ => .idle) history s ∧
        Machine.Meets (fun _ s input => StartsWith Apart s input) history :=
    Machine.exists_run (signerTurns ++ blockTurns 1) (by decide +kernel)
  exact ⟨history, s, run, apart, operations_never_deadlock run (fun _ => rfl) apart⟩

end Vls.Locks
