import Vls.Chain.Linked

/-! # Compact proofs

A compact proof lists the transactions of a block that spend what the tracker watches, as it was
before the block. What a monitor reads of a block besides is hidden by such a proof: a funding whose
inputs are not watched, and what is spent in the block in which it was made. -/

namespace Vls.Monitor

open BlockDecodeState List

variable {prims : Primitives} {provider : CommitmentPointProvider} {s : State}
  {d d' : BlockDecodeState} {tx : Transaction} {listed txs : List Transaction}

def State.Ignores (prims : Primitives) (s : State) (tx : Transaction) : Prop :=
  (∀ input ∈ tx.input, input.previousOutput ∉ s.fundingInputs
    ∧ some input.previousOutput ≠ s.fundingOutpoint ∧ s.tracks input.previousOutput = none)
  ∧ prims.computeTxid tx ∉ s.fundingTxids
  deriving Decidable

theorem inputs_ignored {inputs : List TxIn} (none : d.closingTx = none)
    (ignored : ∀ input ∈ inputs, input.previousOutput ∉ d.state.fundingInputs
      ∧ some input.previousOutput ≠ d.state.fundingOutpoint
      ∧ d.state.tracks input.previousOutput = .none) :
    inputs.foldlM onTransactionInput d = .ok { d with inputNum := d.inputNum + inputs.length } := by
  induction inputs generalizing d with
  | nil => rfl
  | cons input rest ih =>
    obtain ⟨⟨notFunding, notOutpoint, untracked⟩, later⟩ := forall_mem_cons.mp ignored
    have step : d.onTransactionInput input = .ok { d with inputNum := d.inputNum + 1 } := by
      simp [onTransactionInput, noteFundingInput, notFunding, gatherClosing, notOutpoint,
        noteSweep, untracked, dropSplice, none, bind, Except.bind]
    rw [foldlM_cons, step]
    refine (ih (d := { d with inputNum := d.inputNum + 1 }) none later).trans ?_
    simp [Nat.add_comm, Nat.add_left_comm]

theorem outputs_ignored (outputs : List TxOut) (none : d.closingTx = none) :
    outputs.foldlM onTransactionOutput d
      = .ok { d with outputNum := d.outputNum + outputs.length } := by
  induction outputs generalizing d with
  | nil => rfl
  | cons output rest ih =>
    have step : d.onTransactionOutput output = .ok { d with outputNum := d.outputNum + 1 } := by
      simp [onTransactionOutput, none, bind, Except.bind]
    rw [foldlM_cons, step]
    refine (ih (d := { d with outputNum := d.outputNum + 1 }) none).trans ?_
    simp [Nat.add_comm, Nat.add_left_comm]

variable (provider) in
theorem pushTransaction_ignored (ignored : d.state.Ignores prims tx) :
    ∃ d', d.pushTransaction prims provider tx = .ok d'
      ∧ d'.changes = d.changes ∧ d'.state = d.state := by
  have inputs := inputs_ignored (d := d.onTransactionStart tx.version) rfl ignored.1
  have outputs := outputs_ignored tx.output
    (d := { d.onTransactionStart tx.version with inputNum := 0 + tx.input.length }) rfl
  have absent : d.state.fundingTxids.findIdx? (· = prims.computeTxid tx) = none := by
    rw [findIdx?_eq_none_iff]
    intro txid member
    simp only [decide_eq_false_iff_not]
    rintro rfl
    exact ignored.2 member
  have pushed : d.pushTransaction prims provider tx = .ok { d with
      version := tx.version, inputNum := 0 + tx.input.length, outputNum := 0 + tx.output.length
      closingTx := none, spentHtlcOutputs := [] } := by
    rw [pushTransaction, inputs]
    refine (congrArg (· >>= fun d => d.onTransactionEnd prims provider tx.lockTime
      (prims.computeTxid tx)) outputs).trans ?_
    simp [onTransactionStart, onTransactionEnd, noteFunding, absent, noteClosing, bind, Except.bind,
      pure, Except.pure]
  exact ⟨_, pushed, rfl, rfl⟩

theorem pushTransaction_congr (changes : d.changes = d'.changes) (state : d.state = d'.state) :
    d.pushTransaction prims provider tx = d'.pushTransaction prims provider tx := by
  have start : d.onTransactionStart tx.version = d'.onTransactionStart tx.version := by
    simp only [onTransactionStart, changes, state]
  simp only [pushTransaction, start]

theorem changesIn_ignored (ignored : s.Ignores prims tx) : s.changesIn prims provider tx = [] := by
  obtain ⟨d', pushed, changes, -⟩ := pushTransaction_ignored provider
    (d := BlockDecodeState.new s) ignored
  have decoded := (pushTransaction_ok pushed).2.1
  rw [changes] at decoded
  exact self_eq_append_right.mp decoded

theorem push_listed (among : listed.Sublist txs) (apart : txs.Nodup)
    (changes : d.changes = d'.changes) (state : d.state = d'.state)
    (ignored : ∀ done tx rest, txs = done ++ tx :: rest → tx ∉ listed →
      (d.state.after prims provider done).Ignores prims tx) :
    (txs.foldlM (pushTransaction prims provider) d).map (·.changes)
      = (listed.foldlM (pushTransaction prims provider) d').map (·.changes) := by
  induction among generalizing d d' with
  | slnil => simp [pure, Except.pure, Except.map, changes]
  | @cons listed txs tx among ih =>
    obtain ⟨fresh, apart⟩ := nodup_cons.mp apart
    have unlisted : tx ∉ listed := fun member => fresh (among.subset member)
    have here : d.state.Ignores prims tx := ignored [] tx txs rfl unlisted
    obtain ⟨d₁, pushed, changes₁, state₁⟩ := pushTransaction_ignored provider here
    rw [foldlM_cons, pushed]
    apply ih apart (changes₁.trans changes) (state₁.trans state)
    intro done tx' rest split missing
    have later := ignored (tx :: done) tx' rest (by rw [split]; rfl) missing
    rw [State.after, State.decode, changesIn_ignored here] at later
    rw [state₁]
    exact later
  | @cons_cons listed txs tx among ih =>
    obtain ⟨fresh, apart⟩ := nodup_cons.mp apart
    rw [foldlM_cons, foldlM_cons, pushTransaction_congr changes state]
    cases pushed : d'.pushTransaction prims provider tx with
    | error fault => rfl
    | ok d₁ =>
      apply ih apart rfl rfl
      intro done tx' rest split missing
      have other : tx' ≠ tx := by
        rintro rfl
        apply fresh
        rw [split]
        exact mem_append_right _ mem_cons_self
      have later := ignored (tx :: done) tx' rest (by rw [split]; rfl) (by simp [other, missing])
      rw [(pushTransaction_ok pushed).2.2, ← state]
      rw [State.after, State.decode, forwards_append] at later
      exact later

/-- Every transaction of the block of which the monitor reads something, in the light of those
    before it, is listed or spends something that is watched. -/
def Covered (prims : Primitives) (provider : CommitmentPointProvider) (s : State)
    (txs listed : List Transaction) (watches : Finset OutPoint) : Prop :=
  ∀ done tx rest, txs = done ++ tx :: rest → ¬ (s.after prims provider done).Ignores prims tx →
    tx ∈ listed ∨ ∃ input ∈ tx.input, input.previousOutput ∈ watches

theorem pushTransactions_listed {watches} (among : listed.Sublist txs) (apart : txs.Nodup)
    (complete : ∀ tx ∈ txs, (∃ input ∈ tx.input, input.previousOutput ∈ watches) → tx ∈ listed)
    (covered : Covered prims provider s txs listed watches) :
    (s.saw.pushTransactions prims provider txs).map (·.changes)
      = (s.saw.pushTransactions prims provider listed).map (·.changes) := by
  apply push_listed among apart rfl rfl
  intro done tx rest split missing
  by_contra read
  have watched := covered done tx rest split fun ignored => read <| by
    rw [show (BlockDecodeState.new s.saw).state = s.saw from rfl, State.after, decode_saw,
      forwards_saw]
    exact ignored
  apply missing
  apply complete tx _ (watched.resolve_left missing)
  rw [split]
  exact mem_append_right _ mem_cons_self

end Vls.Monitor

namespace Vls.Chain

open Monitor

/-- What is relied on of the verification of compact proofs: what is listed is in the block, in
    order, and what spends one of the outpoints that are handed to it is listed. -/
def ChainEnv.Verifies {D : Type} (env : ChainEnv D) (blockTxs : BlockHeader → List Transaction) :
    Prop :=
  ∀ attestations content listed height header external prev watches oracles,
    env.validateBlock ⟨attestations, .filter content listed⟩ height header external prev watches
      oracles = .ok () →
    listed.Sublist (blockTxs header)
      ∧ ∀ tx ∈ blockTxs header, (∃ input ∈ tx.input, input.previousOutput ∈ watches) → tx ∈ listed

theorem ChainEnv.verify_of_accepted {D : Type} {env : ChainEnv D} (strict : env.filter.Strict)
    {proof height header external prev watches oracles}
    (accepted : env.validateBlock proof height header external prev watches oracles = .ok ()) :
    env.verify proof height header external prev watches = none := by
  unfold validateBlock at accepted
  cases found : env.verify proof height header external prev watches with
  | none => rfl
  | some fault =>
    cases fault <;>
      (simp only [found] at accepted
       obtain ⟨_, refused, -⟩ := Result.bind_eq_ok.mp accepted
       exact absurd trivial ((PolicyFilter.refuseIf_eq_ok strict).mp refused))

namespace ChainTracker

section

variable {L K D : Type} [DecidableEq K] (t : ChainTracker L K D)

def Request.block : Request → BlockHeader
  | add header => header
  | remove _ => t.tip.header

def Request.prev : Request → Headers
  | add _ => t.tip
  | remove prev => prev

def Request.watches : Request → Finset OutPoint
  | add _ => t.getAllForwardWatches
  | remove _ => t.getAllReverseWatches

def Request.answer : Request → Option BlockHeader
  | add _ => none
  | remove _ => some t.tip.header

end

variable {D : Type} {env : ChainEnv D} {prims : Primitives}
  {blockTxs : BlockHeader → List Transaction} {t t' : ChainTracker ChainMonitor OutPoint D}
  {delivery : Delivery} {answer : Option BlockHeader} {request : Request}
  {entry : ChainMonitor × ListenSlot} {listed txs : List Transaction} {hash : BlockHash}
  {watches : Finset OutPoint}

/-- The machine that tells the monitors of all transactions of a block, whatever a compact proof
    lists. -/
def idealMachine (env : ChainEnv D) (prims : Primitives)
    (blockTxs : BlockHeader → List Transaction) :
    Machine (ChainTracker ChainMonitor OutPoint D) Delivery (Option BlockHeader) where
  step t delivery :=
    match delivery.proof.proof with
    | .filter .. =>
      (Map.traverse t.listeners (delivery.request.hear (listener prims env.blockHash)
        (some (blockTxs (delivery.request.block t))) (delivery.request.hash env))).toOption.map
        fun listeners =>
          (delivery.request.answer t, delivery.request.result env t delivery.proof listeners)
    | _ => (ChainTracker.machine env prims).step t delivery

/-- The condition on a step with a compact proof. There is a filter header to verify the proof with,
    and what a monitor reads of the block is listed or spends something that is watched. -/
def Shown (prims : Primitives) (blockTxs : BlockHeader → List Transaction)
    (t : ChainTracker ChainMonitor OutPoint D) (delivery : Delivery) : Prop :=
  ∀ content listed, delivery.proof.proof = .filter content listed →
    (delivery.request.prev t).filterHeader ≠ 0
    ∧ ∀ key m slot, t.listeners.lookup key = some (m, slot) →
      Covered prims m.commitmentPointProvider m.state (blockTxs (delivery.request.block t))
        listed (delivery.request.watches t)

theorem hear_listed (among : listed.Sublist txs) (apart : txs.Nodup)
    (complete : ∀ tx ∈ txs, (∃ input ∈ tx.input, input.previousOutput ∈ watches) → tx ∈ listed)
    (covered : Covered prims entry.1.commitmentPointProvider entry.1.state txs listed watches) :
    request.hear (listener prims env.blockHash) (some listed) hash entry
      = request.hear (listener prims env.blockHash) (some txs) hash entry := by
  have same := pushTransactions_listed among apart complete covered
  have through {α : Type} (f : List StateChange → Result Empty α)
      (x : Result Empty BlockDecodeState) :
      (x >>= fun d => f d.changes) = x.map (·.changes) >>= f := by
    cases x <;> rfl
  cases request with
  | add _ =>
    have added : entry.1.state.onAddBlock prims entry.1.commitmentPointProvider listed
        = entry.1.state.onAddBlock prims entry.1.commitmentPointProvider txs := by
      change (_ >>= fun d : BlockDecodeState => entry.1.state.saw.onAddBlockEnd d.changes)
        = (_ >>= fun d : BlockDecodeState => entry.1.state.saw.onAddBlockEnd d.changes)
      rw [through, through, same]
    simp only [Request.hear, hearAdd, listener, ChainMonitor.onAddBlock, added]
  | remove _ =>
    have removed : entry.1.state.onRemoveBlock prims entry.1.commitmentPointProvider listed
        = entry.1.state.onRemoveBlock prims entry.1.commitmentPointProvider txs := by
      change (_ >>= fun d : BlockDecodeState => entry.1.state.saw.onRemoveBlockEnd d.changes)
        = (_ >>= fun d : BlockDecodeState => entry.1.state.saw.onRemoveBlockEnd d.changes)
      rw [through, through, same]
    simp only [Request.hear, hearRemove, listener, ChainMonitor.onRemoveBlock, removed]

theorem verified_of_accepted (accepted : request.Accepted env t delivery.proof)
    (checked : (request.prev t).filterHeader ≠ 0) :
    ∃ height external, env.validateBlock delivery.proof height (request.block t) external
      (request.prev t).filterHeader (request.watches t) t.trustedOraclePubkeys = .ok () := by
  cases request with
  | add header => exact ⟨_, _, (validateBlock_ok.mp accepted).2.2.2.resolve_left checked⟩
  | remove prev => exact ⟨_, _, (validateBlock_ok.mp accepted.2).2.2.2.resolve_left checked⟩

theorem ideal_step (verifies : env.Verifies blockTxs) (apart : ∀ header, (blockTxs header).Nodup)
    (shown : Shown prims blockTxs t delivery)
    (stepped : (ChainTracker.machine env prims).step t delivery = some (answer, t')) :
    (idealMachine env prims blockTxs).step t delivery = some (answer, t') := by
  cases kind : delivery.proof.proof with
  | filter content listed =>
    obtain ⟨checked, covered⟩ := shown content listed kind
    obtain ⟨t₁, streamed, called⟩ := run_ok.mp (machine_step stepped)
    obtain ⟨⟨external, -⟩, accepted, txs, given, listeners, heard, rfl⟩ :=
      call_ok.mp ⟨answer, called⟩
    rw [kind] at given external
    obtain rfl : some listed = txs := Option.some.inj given
    -- a compact proof is refused while a block is being received, so there were no chunks
    have unstreamed : t₁ = t := by
      cases chunks : delivery.chunks with
      | nil =>
        rw [chunks] at streamed
        exact (Except.ok.inj streamed).symm
      | cons chunk rest =>
        rw [chunks] at streamed
        obtain ⟨-, -, _, _, -, -, _, -, rfl⟩ := stream_ok.mp streamed
        cases external
    subst unstreamed
    obtain ⟨height, external', verified⟩ := verified_of_accepted accepted checked
    rw [show delivery.proof = ⟨delivery.proof.attestations, .filter content listed⟩ by
      rw [← kind]] at verified
    obtain ⟨among, complete⟩ := verifies _ _ _ _ _ _ _ _ _ verified
    have all : Map.traverse t₁.listeners (delivery.request.hear (listener prims env.blockHash)
        (some (blockTxs (delivery.request.block t₁))) (delivery.request.hash env))
        = .ok listeners := by
      rw [← heard]
      apply Map.traverse_congr
      intro key entry found
      exact (hear_listed among (apart _) complete (covered key entry.1 entry.2 found)).symm
    have answered : answer = delivery.request.answer t₁ := by
      obtain ⟨hash, chunks, request, proof⟩ := delivery
      cases request with
      | add header => exact (call_add_ok.mp called).2
      | remove prev =>
        obtain ⟨removed, taken, rfl⟩ := call_remove_ok.mp called
        obtain ⟨-, -, -, _, -, _, -, rfl, -⟩ := removeBlock_ok.mp taken
        rfl
    simp only [idealMachine, kind, all, answered, Except.toOption, Option.map_some]
  | block header txs =>
    simp only [idealMachine, kind]
    exact stepped
  | externalBlock =>
    simp only [idealMachine, kind]
    exact stepped

/-- In every run whose compact proofs are such that what a monitor reads of a block is listed or
    spends something watched before it, each state is the one that is reached if the monitors are
    told of all transactions. -/
theorem nothing_hidden (verifies : env.Verifies blockTxs)
    (apart : ∀ header, (blockTxs header).Nodup) {start : ChainTracker ChainMonitor OutPoint D}
    {history : List
      (Machine.Step (ChainTracker ChainMonitor OutPoint D) Delivery (Option BlockHeader))}
    (run : (ChainTracker.machine env prims).Run start history t)
    (shown : Machine.Meets (fun _ => Shown prims blockTxs) history) :
    (idealMachine env prims blockTxs).Run start history t := by
  induction run with
  | init => exact .init
  | step _ stepped ih =>
    obtain ⟨here, earlier⟩ := shown
    exact .step (ih earlier) (ideal_step verifies apart here stepped)

end ChainTracker

end Vls.Chain

namespace Vls

open Chain ChainTracker

open Toy

def Toy.otherTx : Transaction := ⟨2, 9, [spend ⟨50, 0⟩], [⟨1000, []⟩]⟩

def Toy.fundingBlock (_ : BlockHeader) : List Transaction := [otherTx, fundingTx]

def Toy.verifyingEnv : ChainEnv (List U8) :=
  { chainEnv (blockHeader 2) [] with
    verify := fun proof _ header _ _ watches =>
      match proof.proof with
      | .filter _ listed =>
        if listed.isSublist (fundingBlock header) ∧ ∀ tx ∈ fundingBlock header,
          (∃ input ∈ tx.input, input.previousOutput ∈ watches) → tx ∈ listed
        then none else some (.other "InvalidProof")
      | _ => none }

theorem Toy.verifies : verifyingEnv.Verifies fundingBlock := by
  intro attestations content listed height header external prev watches oracles verified
  have none := ChainEnv.verify_of_accepted PolicyFilter.default_strict verified
  by_contra unlisted
  rw [← List.isSublist_iff_sublist] at unlisted
  cases none.symm.trans (if_neg unlisted)

def Toy.compactDelivery (listed : List Transaction) : Delivery :=
  ⟨0, [], .add (blockHeader 2), ⟨[], .filter [] listed⟩⟩

/-- The monitor of the funder is shown the funding, whose input is watched. -/
theorem funding_not_hidden : ∃ t,
    (idealMachine verifyingEnv Toy.prims fundingBlock).Run startTracker
      [⟨startTracker, compactDelivery [fundingTx], none⟩] t
    ∧ slotWatches t = some {⟨1, 0⟩} := by
  have steps : ((ChainTracker.machine verifyingEnv Toy.prims).step startTracker
      (compactDelivery [fundingTx])).any (fun r =>
        r.1 = none ∧ slotWatches r.2 = some {⟨1, 0⟩}) = true := by decide +kernel
  obtain ⟨⟨_, t⟩, stepped, checked⟩ := (Option.any_eq_true _ _).mp steps
  obtain ⟨rfl, watched⟩ := of_decide_eq_true checked
  refine ⟨t, ?_, watched⟩
  have apart : [otherTx, fundingTx].Nodup := by decide +kernel
  apply nothing_hidden Toy.verifies (fun _ => apart) (.step .init stepped)
  refine ⟨?_, trivial⟩
  intro content listed kind
  refine ⟨by decide, ?_⟩
  intro key m slot found
  obtain ⟨rfl, -⟩ := lookup_trackerOf found
  have ignored : signedState.Ignores Toy.prims otherTx := by decide +kernel
  have watches : (compactDelivery [fundingTx]).request.watches startTracker
      = {walletOutpoint} := by decide +kernel
  intro done tx rest split read
  cases done with
  | nil =>
    obtain ⟨rfl, -⟩ := List.cons.inj split
    exact absurd ignored read
  | cons first done =>
    cases done with
    | nil =>
      obtain ⟨rfl, -⟩ := List.cons.inj (List.cons.inj split).2
      rw [watches]
      exact .inr (by decide +kernel)
    | cons second done =>
      have short := congrArg List.length split
      simp [fundingBlock] at short

/-- The monitor of the fundee watches for nothing before the funding. A compact proof that lists no
    transaction is accepted, and the monitor does not learn of the confirmation. -/
theorem funding_hidden : ∃ t t',
    (ChainTracker.machine verifyingEnv Toy.prims).step
      (trackerOf fundedStart.state ∅) (compactDelivery []) = some (none, t)
    ∧ (idealMachine verifyingEnv Toy.prims fundingBlock).step
      (trackerOf fundedStart.state ∅) (compactDelivery []) = some (none, t')
    ∧ (t.listeners.lookup ⟨1, 0⟩).map (·.1.state.fundingHeight) = some none
    ∧ (t'.listeners.lookup ⟨1, 0⟩).map (·.1.state.fundingHeight) = some (some 1) := by
  have steps : ((ChainTracker.machine verifyingEnv Toy.prims).step
      (trackerOf fundedStart.state ∅) (compactDelivery [])).any (fun r => r.1 = none
        ∧ (r.2.listeners.lookup ⟨1, 0⟩).map (·.1.state.fundingHeight) = some none) = true := by
    decide +kernel
  have idealSteps : ((idealMachine verifyingEnv Toy.prims fundingBlock).step
      (trackerOf fundedStart.state ∅) (compactDelivery [])).any (fun r => r.1 = none
        ∧ (r.2.listeners.lookup ⟨1, 0⟩).map (·.1.state.fundingHeight) = some (some 1)) = true := by
    decide +kernel
  obtain ⟨⟨_, t⟩, stepped, checked⟩ := (Option.any_eq_true _ _).mp steps
  obtain ⟨⟨_, t'⟩, stepped', checked'⟩ := (Option.any_eq_true _ _).mp idealSteps
  obtain ⟨rfl, hidden⟩ := of_decide_eq_true checked
  obtain ⟨rfl, shown⟩ := of_decide_eq_true checked'
  exact ⟨t, t', stepped, stepped', hidden, shown⟩

end Vls
