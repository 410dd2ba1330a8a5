import Vls.Monitor.Push
import Vls.Monitor.Returned

/-! # A streamed block, as a monitor sees it

A monitor that is pushed a block piece by piece ends with what it would have made of the block's
transactions at once. It decodes with a copy of its state that it may have made before it was in
step with the chain, but nothing that is decoded depends on that. -/

namespace Vls.Monitor

open BlockDecodeState List

open Chain (BlockHash BlockHeader PushEvent)

variable {f : BlockDecodeState → Result Empty BlockDecodeState}
  {finish : State → List StateChange → Result Empty (State × Watch)}

def BlockDecodeState.saw (d : BlockDecodeState) : BlockDecodeState :=
  { d with state := d.state.saw }

theorem applyForwardChange_saw (s : State) (c : StateChange) :
    s.saw.applyForwardChange c = (s.applyForwardChange c).map fun (s, watch) => (s.saw, watch) := by
  have closing : s.saw.unwrapClosing = s.unwrapClosing := rfl
  have map_bind {α β γ} (f : β → γ) (x : Result Empty α) (g : α → Result Empty β) :
      (x >>= g).map f = x >>= fun a => (g a).map f := by
    cases x <;> rfl
  cases c with
  | ourOutputSpent | htlcOutputSpent | secondLevelHtlcOutputSpent =>
    simp only [State.applyForwardChange, closing, map_bind]
    rfl
  | _ => rfl

namespace BlockDecodeState

variable (prims : Primitives) (provider : CommitmentPointProvider) (d : BlockDecodeState)

theorem addChange_saw (c : StateChange) : d.saw.addChange c = (d.addChange c).map saw := by
  have applied := applyForwardChange_saw d.state c
  simp only [addChange, saw, applied]
  cases d.state.applyForwardChange c <;> rfl

theorem bind_saw {x y} (first : y = x.map saw) (rest : ∀ d, f d.saw = (f d).map saw) :
    (y >>= f) = (x >>= f).map saw := by
  subst first
  cases x with
  | error fault => rfl
  | ok d => exact rest d

theorem noteFundingInput_saw (o : OutPoint) :
    d.saw.noteFundingInput o = (d.noteFundingInput o).map saw := by
  simp only [noteFundingInput]
  split
  · rename_i funding
    rw [if_pos (show o ∈ d.state.fundingInputs from funding)]
    exact d.addChange_saw _
  · rename_i other
    rw [if_neg (show o ∉ d.state.fundingInputs from other)]
    rfl

theorem noteSweep_saw (o : OutPoint) : d.saw.noteSweep o = (d.noteSweep o).map saw := by
  have tracks : d.saw.state.tracks o = d.state.tracks o := rfl
  simp only [noteSweep, tracks]
  split
  · exact d.addChange_saw _
  · rfl
  · exact d.addChange_saw _
  · rfl

theorem gatherClosing_saw (input : TxIn) :
    d.saw.gatherClosing input = (d.gatherClosing input).saw := by
  have funding : d.saw.state.fundingOutpoint = d.state.fundingOutpoint := rfl
  simp only [gatherClosing, funding]
  split <;> rfl

theorem dropSplice_saw : d.saw.dropSplice = d.dropSplice.saw := by
  have closing : d.saw.closingTx = d.closingTx := rfl
  have number : d.saw.inputNum = d.inputNum := rfl
  simp only [dropSplice, closing, number]
  split <;> rfl

theorem onTransactionInput_saw (input : TxIn) :
    d.saw.onTransactionInput input = (d.onTransactionInput input).map saw := by
  apply bind_saw (d.noteFundingInput_saw input.previousOutput)
  intro d
  simp only [gatherClosing_saw]
  apply bind_saw (noteSweep_saw _ _)
  intro d
  simp only [dropSplice_saw]
  rfl

theorem onTransactionOutput_saw (output : TxOut) :
    d.saw.onTransactionOutput output = (d.onTransactionOutput output).map saw := by
  have closing : d.saw.closingTx = d.closingTx := rfl
  have number : d.saw.outputNum = d.outputNum := rfl
  simp only [onTransactionOutput, closing, number]
  split
  · split <;> rfl
  · rfl

theorem noteFunding_saw (txid : BitVec 256) :
    d.saw.noteFunding txid = (d.noteFunding txid).map saw := by
  have txids : d.saw.state.fundingTxids = d.state.fundingTxids := rfl
  have vouts : d.saw.state.fundingVouts = d.state.fundingVouts := rfl
  have number : d.saw.outputNum = d.outputNum := rfl
  simp only [noteFunding, txids, vouts, number]
  split
  · rename_i ind found
    cases d.state.fundingVouts[ind]? with
    | none => rfl
    | some vout =>
      simp only [Result.expect, bind, Except.bind]
      split
      · exact d.addChange_saw _
      · rfl
  · rfl

theorem noteClosing_saw (lockTime : U32) (txid : BitVec 256) :
    d.saw.noteClosing prims provider lockTime txid
      = (d.noteClosing prims provider lockTime txid).map saw := by
  have closing : d.saw.closingTx = d.closingTx := rfl
  have txids : d.saw.state.fundingTxids = d.state.fundingTxids := rfl
  simp only [noteClosing, closing, txids]
  split
  · split
    · rfl
    · rename_i closingTx _ _
      cases closeChange prims provider { closingTx with lockTime := lockTime } txid with
      | error fault => rfl
      | ok change => exact addChange_saw { d with closingTx := none } change
  · rfl

theorem onTransactionEnd_saw (lockTime : U32) (txid : BitVec 256) :
    d.saw.onTransactionEnd prims provider lockTime txid
      = (d.onTransactionEnd prims provider lockTime txid).map saw := by
  apply bind_saw (d.noteFunding_saw txid)
  intro d
  apply bind_saw (d.noteClosing_saw prims provider lockTime txid)
  intro d
  exact Result.foldlM_map saw (fun d spent => d.addChange_saw (htlcChange txid spent))
    d.spentHtlcOutputs { d with spentHtlcOutputs := [] }

theorem pushTransaction_saw (tx : Transaction) :
    d.saw.pushTransaction prims provider tx = (d.pushTransaction prims provider tx).map saw := by
  apply bind_saw (Result.foldlM_map saw onTransactionInput_saw tx.input
    (d.onTransactionStart tx.version))
  intro d
  apply bind_saw (Result.foldlM_map saw onTransactionOutput_saw tx.output d)
  intro d
  exact d.onTransactionEnd_saw prims provider tx.lockTime (prims.computeTxid tx)

end BlockDecodeState

theorem pushTransactions_saw (prims : Primitives) (provider : CommitmentPointProvider) (s : State)
    (txs : List Transaction) :
    s.saw.pushTransactions prims provider txs = (s.pushTransactions prims provider txs).map saw :=
  Result.foldlM_map saw
    (fun d tx => d.pushTransaction_saw prims provider tx) txs (.new s)

section

variable (prims : Primitives) (provider : CommitmentPointProvider)

def transactionEvents (tx : Transaction) : List PushEvent :=
  .transactionStart tx.version :: tx.input.map .transactionInput
    ++ tx.output.map .transactionOutput ++ [.transactionEnd tx.lockTime (prims.computeTxid tx)]

def blockEvents (header : BlockHeader) (txs : List Transaction) : List PushEvent :=
  .blockStart header :: txs.flatMap (transactionEvents prims) ++ [.blockEnd]

def BlockDecodeState.onEvent (d : BlockDecodeState) : PushEvent → Result Empty BlockDecodeState
  | .transactionStart version => .ok (d.onTransactionStart version)
  | .transactionInput input => d.onTransactionInput input
  | .transactionOutput output => d.onTransactionOutput output
  | .transactionEnd lockTime txid => d.onTransactionEnd prims provider lockTime txid
  | .blockStart _ | .blockEnd => .ok d

theorem onEvents_transaction (d : BlockDecodeState) (tx : Transaction) :
    (transactionEvents prims tx).foldlM (·.onEvent prims provider) d
      = d.pushTransaction prims provider tx := by
  simp only [transactionEvents, foldlM_append, cons_append, foldlM_cons,
    foldlM_nil, foldlM_map, onEvent]
  simp only [pushTransaction, bind_assoc, bind_pure]
  rfl

theorem onEvents_transactions (d : BlockDecodeState) (txs : List Transaction) :
    (txs.flatMap (transactionEvents prims)).foldlM (·.onEvent prims provider) d
      = txs.foldlM (pushTransaction prims provider) d := by
  induction txs generalizing d with
  | nil => rfl
  | cons tx rest ih =>
    rw [flatMap_cons, foldlM_append, onEvents_transaction, foldlM_cons]
    exact bind_congr ih

end

variable {prims : Primitives} {blockHash : BlockHeader → BlockHash} {m : ChainMonitor}
  {hash : BlockHash} {d : BlockDecodeState} {header : BlockHeader} {txs : List Transaction}
  {event : PushEvent}

def ChainMonitor.decoding (m : ChainMonitor) (hash : BlockHash) (d : BlockDecodeState) :
    ChainMonitor :=
  { m with decodeState := some ⟨d, some hash⟩, state := m.state.saw }

theorem onPush_idle (idle : m.decodeState = none) :
    m.onPush prims blockHash (.blockStart header)
      = .ok (m.decoding (blockHash header) (.new m.state)) := by
  simp only [ChainMonitor.onPush, idle, Option.getD_none]
  rfl

def PushListener.ready (hash : BlockHash) (d : BlockDecodeState) : PushListener :=
  ⟨⟨d, some hash⟩, true⟩

theorem whenReady_ready :
    (PushListener.ready hash d).whenReady f = (f d).map (PushListener.ready hash) := by
  change (f d >>= fun d => .ok (PushListener.ready hash d)) = _
  cases f d <;> rfl

theorem onEvent_ready {provider} (inside : ∀ header, event ≠ .blockStart header) :
    (PushListener.ready hash d).onEvent prims provider blockHash event
      = (d.onEvent prims provider event).map (PushListener.ready hash) := by
  cases event with
  | blockStart header => exact absurd rfl (inside header)
  | blockEnd => rfl
  | _ => simp only [PushListener.onEvent, whenReady_ready, onEvent]

theorem onPush_decoding (inside : ∀ header, event ≠ .blockStart header) :
    (m.decoding hash d).onPush prims blockHash event
      = (d.onEvent prims m.commitmentPointProvider event).map (m.decoding hash) := by
  have told : (PushListener.ready hash d).onEvent prims m.commitmentPointProvider blockHash event
      = _ := onEvent_ready inside
  change ((PushListener.ready hash d).onEvent prims m.commitmentPointProvider blockHash event
    >>= _) = _
  rw [told]
  cases d.onEvent prims m.commitmentPointProvider event <;> rfl

theorem not_blockStart_of_mem {tx} (member : event ∈ transactionEvents prims tx) :
    ∀ header, event ≠ .blockStart header := by
  rintro header rfl
  simp [transactionEvents] at member

theorem onPush_blockEvents (idle : m.decodeState = none) :
    (blockEvents prims header txs).foldlM (fun m event => m.onPush prims blockHash event) m
      = (m.state.pushTransactions prims m.commitmentPointProvider txs).map
        (m.decoding (blockHash header)) := by
  have inside : ∀ event ∈ txs.flatMap (transactionEvents prims) ++ [.blockEnd],
      ∀ header, event ≠ .blockStart header := by
    intro event member
    rcases mem_append.mp member with member | member
    · obtain ⟨tx, -, member⟩ := mem_flatMap.mp member
      exact not_blockStart_of_mem member
    · intro header same
      cases (mem_singleton.mp member).symm.trans same
  have loop : ∀ (events : List PushEvent) (d : BlockDecodeState),
      (∀ event ∈ events, ∀ header, event ≠ .blockStart header) →
      events.foldlM (fun m event => m.onPush prims blockHash event)
          (m.decoding (blockHash header) d)
        = (events.foldlM (onEvent prims m.commitmentPointProvider) d).map
          (m.decoding (blockHash header)) := by
    intro events
    induction events with
    | nil =>
      intro d _
      rfl
    | cons event rest ih =>
      intro d inside
      obtain ⟨here, later⟩ := forall_mem_cons.mp inside
      rw [foldlM_cons, foldlM_cons, onPush_decoding here]
      cases d.onEvent prims m.commitmentPointProvider event with
      | error fault => rfl
      | ok d' => exact ih d' later
  have last : ∀ x : Result Empty BlockDecodeState, (x >>= fun d =>
      [PushEvent.blockEnd].foldlM (onEvent prims m.commitmentPointProvider) d) = x := by
    intro x
    cases x <;> rfl
  rw [blockEvents, cons_append, foldlM_cons, onPush_idle idle]
  change foldlM _ (m.decoding (blockHash header) (.new m.state)) _ = _
  rw [loop _ _ inside, foldlM_append, onEvents_transactions, last]
  rfl

theorem onStreamedBlockEnd_decoding :
    (m.decoding hash d).onStreamedBlockEnd finish hash
      = (finish m.state.saw d.changes).map fun (state, watch) =>
        ({ m with decodeState := none, state := state }, watch) := by
  have asked : (m.decoding hash d).onStreamedBlockEnd finish hash
      = (finish m.state.saw d.changes >>= fun (state, watch) =>
        .ok ({ m with decodeState := none, state := state }, watch)) := by
    simp [ChainMonitor.onStreamedBlockEnd, ChainMonitor.decoding, State.saw, Result.expect, bind,
      Except.bind]
  rw [asked]
  cases finish m.state.saw d.changes <;> rfl

theorem streamed_eq (idle : m.decodeState = none) :
    ((blockEvents prims header txs).foldlM (fun m event => m.onPush prims blockHash event) m
        >>= fun m => m.onStreamedBlockEnd finish (blockHash header))
      = (m.state.saw.pushTransactions prims m.commitmentPointProvider txs
          >>= fun d => finish m.state.saw d.changes).map fun (state, watch) =>
        ({ m with state := state }, watch) := by
  rw [onPush_blockEvents idle, pushTransactions_saw]
  cases m.state.pushTransactions prims m.commitmentPointProvider txs with
  | error fault => rfl
  | ok d =>
    change (m.decoding (blockHash header) d).onStreamedBlockEnd finish (blockHash header)
      = (finish m.state.saw d.changes).map _
    rw [onStreamedBlockEnd_decoding, ← idle]

theorem map_state (x : Result Empty (State × Watch)) :
    (x.map fun (state, watch) => ({ m with state := state }, watch))
      = x >>= fun (state, watch) => .ok ({ m with state := state }, watch) := by
  cases x <;> rfl

end Vls.Monitor
