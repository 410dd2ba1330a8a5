import Vls.Monitor.Frame

/-! # What a block is decoded to

While a block is decoded the copy of the state changes, and what a transaction is decoded to depends
on the copy it meets. As long as the copy tells of the outpoints that are spent what a fixed state
tells of them, the `view`, a transaction is decoded to what can be read off in the view. -/

namespace Vls.Monitor

open StateChange BlockDecodeState State List

variable {s : State} {outpoints : List OutPoint} {changes : List StateChange} {input : TxIn}
  {inputs : List TxIn} {one : U32 × U32}

/-- A state tells of some outpoints what the view tells of them. -/
structure Sees (view s : State) (outpoints : List OutPoint) : Prop where
  fundingInputs : s.fundingInputs = view.fundingInputs
  fundingTxids : s.fundingTxids = view.fundingTxids
  fundingVouts : s.fundingVouts = view.fundingVouts
  fundingOutpoint : s.fundingOutpoint = view.fundingOutpoint
  tracks : ∀ o ∈ outpoints, s.tracks o = view.tracks o

theorem Sees.mono {view fewer} (sees : Sees view s outpoints) (among : ∀ o ∈ fewer, o ∈ outpoints) :
    Sees view s fewer where
  fundingInputs := sees.fundingInputs
  fundingTxids := sees.fundingTxids
  fundingVouts := sees.fundingVouts
  fundingOutpoint := sees.fundingOutpoint
  tracks o member := sees.tracks o (among o member)

def State.fundingInputChanges (view : State) (outpoint : OutPoint) : List StateChange :=
  if outpoint ∈ view.fundingInputs then [fundingInputSpent outpoint] else []

def State.sweepChanges (view : State) (outpoint : OutPoint) : List StateChange :=
  match view.tracks outpoint with
  | some .ourOutput => [ourOutputSpent outpoint.vout]
  | some .secondLevelHtlcOutput => [secondLevelHtlcOutputSpent outpoint]
  | _ => []

def State.inputChanges (view : State) (outpoint : OutPoint) : List StateChange :=
  view.fundingInputChanges outpoint ++ view.sweepChanges outpoint

def State.spentHtlcs (view : State) (inputs : List TxIn) : List (U32 × U32) :=
  inputs.zipIdx.flatMap fun entry =>
    if view.tracks entry.1.previousOutput = some .htlcOutput then
      [(entry.1.previousOutput.vout, .ofNat 32 entry.2)] else []

def State.confirms (view : State) (txid : BitVec 256) : Option OutPoint :=
  (view.fundingTxids.findIdx? (· = txid)).bind fun ind =>
    view.fundingVouts[ind]?.map fun vout => ⟨txid, vout⟩

def State.spendsFunding (view : State) (tx : Transaction) : Prop :=
  tx.input.map (fun input => some input.previousOutput) = [view.fundingOutpoint]
  deriving Decidable

section

variable (prims : Primitives) (provider : CommitmentPointProvider) (view : State)

def State.Closes (tx : Transaction) : Prop :=
  view.spendsFunding tx ∧ prims.computeTxid tx ∉ view.fundingTxids
  deriving Decidable

def State.closeChanges (tx : Transaction) : List StateChange :=
  if view.Closes prims tx then
    (closeChange prims provider tx (prims.computeTxid tx)).toOption.toList
  else []

def State.htlcChanges (tx : Transaction) : List StateChange :=
  (view.spentHtlcs tx.input).map (htlcChange (prims.computeTxid tx))

def State.endChanges (tx : Transaction) : List StateChange :=
  (view.confirms (prims.computeTxid tx)).toList.map fundingConfirmed
    ++ (view.closeChanges prims provider tx ++ view.htlcChanges prims tx)

def State.changesIn (tx : Transaction) : List StateChange :=
  tx.input.flatMap (fun input => view.inputChanges input.previousOutput)
    ++ view.endChanges prims provider tx

end

/-- The funding outpoint of the view matters only to what closes the channel. -/
theorem changesIn_congr {prims provider} {view : State} {tx : Transaction} {o : Option OutPoint}
    (same : ({ view with fundingOutpoint := o } : State).Closes prims tx ↔ view.Closes prims tx) :
    ({ view with fundingOutpoint := o } : State).changesIn prims provider tx
      = view.changesIn prims provider tx := by
  have closes : ({ view with fundingOutpoint := o } : State).closeChanges prims provider tx
      = view.closeChanges prims provider tx := by simp only [closeChanges, same]
  simp only [changesIn, endChanges, closes]
  rfl

variable {d : BlockDecodeState} {view : State} {c : StateChange} {outpoint : OutPoint}

theorem addChange_able (able : c.Able d.state) :
    d.addChange c = .ok { d with
      changes := d.changes ++ [c], state := c.forward d.state } := by
  rw [addChange, applyForwardChange_able able]
  rfl

def Tracked.Of (o : ClosingOutpoints) (outpoint : OutPoint) : Tracked → Prop
  | ourOutput => o.txid = outpoint.txid ∧ o.ourOutput.map (·.key) = some outpoint.vout
  | htlcOutput => o.txid = outpoint.txid ∧ Marked.Has o.htlcOutputs outpoint.vout
  | secondLevelHtlcOutput => Marked.Has o.secondLevelHtlcOutputs outpoint

theorem tracks_some {kind} (tracked : s.tracks outpoint = some kind) :
    ∃ o ∈ s.closingOutpoints, kind.Of o outpoint := by
  unfold tracks at tracked
  split at tracked
  · rename_i o found
    refine ⟨o, found, ?_⟩
    split at tracked
    · rename_i ours
      cases tracked
      exact ClosingOutpoints.includesOurOutput_iff.mp ours
    · split at tracked
      · rename_i htlc
        cases tracked
        exact ClosingOutpoints.includesHtlcOutput_iff.mp htlc
      · split at tracked
        · rename_i second
          cases tracked
          exact ClosingOutpoints.includesSecondLevelHtlcOutput_iff.mp second
        · cases tracked
  · cases tracked

theorem forwards_append {more} :
    forwards (changes ++ more) s = forwards more (forwards changes s) :=
  Undo.all_append ..

theorem noteFundingInput_eq (fundingInputs : d.state.fundingInputs = view.fundingInputs) :
    d.noteFundingInput outpoint = .ok { d with
      changes := d.changes ++ view.fundingInputChanges outpoint
      state := forwards (view.fundingInputChanges outpoint) d.state } := by
  rw [noteFundingInput, fundingInputs, fundingInputChanges]
  split
  · exact addChange_able trivial
  · simp [forwards]

theorem noteSweep_eq (tracks : d.state.tracks outpoint = view.tracks outpoint) :
    d.noteSweep outpoint = .ok { d with
      changes := d.changes ++ view.sweepChanges outpoint
      spentHtlcOutputs := d.spentHtlcOutputs ++
        if view.tracks outpoint = some .htlcOutput then
          [(outpoint.vout, .ofNat 32 d.inputNum)] else []
      state := forwards (view.sweepChanges outpoint) d.state } := by
  unfold noteSweep
  cases tracked : view.tracks outpoint with
  | none => simp [tracks, tracked, sweepChanges, forwards]
  | some kind =>
    obtain ⟨o, found, is⟩ := tracks_some (tracks.trans tracked)
    cases kind with
    | ourOutput =>
      have able : (ourOutputSpent outpoint.vout).Able d.state := ⟨o, found, is.2⟩
      simp [tracks, tracked, addChange_able able, sweepChanges, forwards]
    | htlcOutput => simp [tracks, tracked, sweepChanges, forwards]
    | secondLevelHtlcOutput =>
      have able : (secondLevelHtlcOutputSpent outpoint).Able d.state := ⟨o, found, is⟩
      simp [tracks, tracked, addChange_able able, sweepChanges, forwards]

theorem fundingInputChanges_tracks {s o} :
    (forwards (view.fundingInputChanges outpoint) s).tracks o = s.tracks o
      ∧ (forwards (view.fundingInputChanges outpoint) s).fundingOutpoint = s.fundingOutpoint := by
  unfold fundingInputChanges
  split <;> exact ⟨rfl, rfl⟩

theorem gatherClosing_eq (funding : d.state.fundingOutpoint = view.fundingOutpoint) :
    d.gatherClosing input = { d with
      closingTx :=
        if some input.previousOutput = view.fundingOutpoint then
          some ⟨d.version, 0, [input], []⟩
        else d.closingTx } := by
  rw [gatherClosing, funding]
  split <;> rfl

theorem dropSplice_eq :
    d.dropSplice = { d with closingTx := if d.inputNum ≠ 0 then none else d.closingTx } := by
  unfold dropSplice
  by_cases first : d.inputNum = 0
  · rw [if_neg fun both => both.2 first, if_neg fun later => later first]
  · rw [if_pos first]
    split
    · rfl
    · rename_i kept
      have absent : d.closingTx = none := by simpa [first] using kept
      rw [← absent]

theorem onTransactionInput_eq (sees : Sees view d.state [input.previousOutput]) :
    d.onTransactionInput input = .ok { d with
      changes := d.changes ++ view.inputChanges input.previousOutput
      inputNum := d.inputNum + 1
      closingTx :=
        if d.inputNum ≠ 0 then none
        else if some input.previousOutput = view.fundingOutpoint then
          some ⟨d.version, 0, [input], []⟩
        else d.closingTx
      spentHtlcOutputs := d.spentHtlcOutputs ++
        if view.tracks input.previousOutput = some .htlcOutput then
          [(input.previousOutput.vout, .ofNat 32 d.inputNum)] else []
      state := forwards (view.inputChanges input.previousOutput) d.state } := by
  obtain ⟨sameTracks, sameFunding⟩ :=
    @fundingInputChanges_tracks view input.previousOutput d.state input.previousOutput
  have tracks := sameTracks.trans (sees.tracks _ (mem_singleton_self _))
  have funding := sameFunding.trans sees.fundingOutpoint
  let d₁ : BlockDecodeState := { d with
    changes := d.changes ++ view.fundingInputChanges input.previousOutput
    state := forwards (view.fundingInputChanges input.previousOutput) d.state }
  have noted : d.noteFundingInput input.previousOutput = .ok d₁ :=
    noteFundingInput_eq sees.fundingInputs
  have gathered := @gatherClosing_eq input d₁ view funding
  have tracks : (d₁.gatherClosing input).state.tracks input.previousOutput
      = view.tracks input.previousOutput := by rw [gathered]; exact tracks
  have swept := noteSweep_eq tracks
  rw [onTransactionInput, noted]
  simp only [bind, Except.bind, swept, dropSplice_eq]
  simp [gathered, d₁, inputChanges, forwards_append]

/-- A change that tells nothing new of any outpoint. -/
def StateChange.Quiet : StateChange → Prop
  | fundingInputSpent _ => True
  | ourOutputSpent _ => True
  | secondLevelHtlcOutputSpent _ => True
  | _ => False

theorem inputChanges_quiet : ∀ c ∈ view.inputChanges outpoint, c.Quiet := by
  intro c member
  rcases mem_append.mp member with funding | sweep
  · unfold fundingInputChanges at funding
    split at funding
    · obtain rfl := mem_singleton.mp funding
      trivial
    · cases funding
  · unfold sweepChanges at sweep
    split at sweep
    · obtain rfl := mem_singleton.mp sweep
      trivial
    · obtain rfl := mem_singleton.mp sweep
      trivial
    · cases sweep

theorem sees_forwards (quiet : ∀ c ∈ changes, c.Quiet) (sees : Sees view s outpoints) :
    Sees view (forwards changes s) outpoints := by
  refine Undo.all_inv (s := s) (fun t => Sees view t outpoints) sees ?_
  intro c member t here
  have quiet := quiet c member
  have kept : Kept t (c.forward t) := forward_kept
  constructor
  · exact kept.fundingInputs.trans here.fundingInputs
  · exact kept.fundingTxids.trans here.fundingTxids
  · exact kept.fundingVouts.trans here.fundingVouts
  · rw [← here.fundingOutpoint]
    cases c <;> first
      | exact quiet.elim
      | rfl
  · intro o spent
    rw [← here.tracks o spent]
    apply tracks_forward
    · cases c <;> first
        | exact quiet.elim
        | exact not_mem_nil
    · intro close
      cases c <;> first
        | exact quiet.elim
        | cases close

def afterInputs (view : State) (d : BlockDecodeState) (inputs : List TxIn) : BlockDecodeState :=
  { d with
    changes := d.changes ++ inputs.flatMap (fun input => view.inputChanges input.previousOutput)
    inputNum := inputs.length
    closingTx :=
      if inputs.map (fun input => some input.previousOutput) = [view.fundingOutpoint] then
        some ⟨d.version, 0, inputs, []⟩
      else none
    spentHtlcOutputs := view.spentHtlcs inputs
    state := forwards (inputs.flatMap fun input => view.inputChanges input.previousOutput) d.state }

theorem afterInputs_concat (sees : Sees view d.state ((inputs ++ [input]).map (·.previousOutput))) :
    (afterInputs view d inputs).onTransactionInput input
      = .ok (afterInputs view d (inputs ++ [input])) := by
  have seesHere : Sees view (afterInputs view d inputs).state [input.previousOutput] := by
    apply sees_forwards
    · intro c member
      obtain ⟨other, -, member⟩ := mem_flatMap.mp member
      exact inputChanges_quiet c member
    · exact sees.mono (by simp)
  rw [onTransactionInput_eq seesHere]
  cases inputs with
  | nil => simp [afterInputs, spentHtlcs, forwards]
  | cons first rest => simp [afterInputs, spentHtlcs, forwards, zipIdx_append, Nat.add_comm 1]

theorem inputs_eq (sees : Sees view d.state (inputs.map (·.previousOutput))) :
    inputs.foldlM onTransactionInput (afterInputs view d []) = .ok (afterInputs view d inputs) := by
  refine Result.foldlM_eq_ok (afterInputs view d) ?_
  rintro done input rest rfl
  apply afterInputs_concat
  apply sees.mono
  intro o member
  simp only [map_append, map_cons, map_nil, mem_append, mem_cons] at member ⊢
  tauto

def afterOutputs (d : BlockDecodeState) (outputs : List TxOut) : BlockDecodeState :=
  { d with
    closingTx := d.closingTx.map fun tx => { tx with output := tx.output ++ outputs }
    outputNum := d.outputNum + outputs.length }

theorem outputs_eq {outputs : List TxOut}
    (few : d.closingTx.isSome → d.outputNum + outputs.length ≤ maxCommitmentOutputs) :
    outputs.foldlM onTransactionOutput d = .ok (afterOutputs d outputs) := by
  have start : afterOutputs d [] = d := by simp [afterOutputs]
  rw [← start, Result.foldlM_eq_ok (afterOutputs d), start]
  rintro done output rest rfl
  unfold onTransactionOutput
  cases gathered : d.closingTx with
  | none =>
    simp only [afterOutputs, gathered, Option.map_none, length_append, length_singleton]
    rfl
  | some tx =>
    have few : d.outputNum + done.length < maxCommitmentOutputs := by
      have := few (by simp [gathered])
      simp only [length_append, length_cons] at this
      omega
    simp only [afterOutputs, gathered, Option.map_some, if_pos few, length_append,
      length_singleton, ← append_assoc]
    rfl

section

variable {prims : Primitives} {provider : CommitmentPointProvider} {tx : Transaction}
  {txid : BitVec 256}

theorem closeChange_cases (closed : closeChange prims provider tx txid = .ok c) :
    ∃ input, tx.input = [input]
      ∧ ((∃ ours htlcs, c = unilateralCloseConfirmed txid input.previousOutput ours htlcs)
        ∨ c = mutualCloseConfirmed txid input.previousOutput) := by
  unfold closeChange at closed
  split at closed
  · rename_i input single
    refine ⟨input, single, ?_⟩
    split at closed
    · unfold unilateralClose at closed
      obtain ⟨point, -, closed⟩ := Result.bind_eq_ok.mp closed
      obtain ⟨htlcs, -, closed⟩ := Result.bind_eq_ok.mp closed
      cases closed
      exact .inl ⟨_, _, rfl⟩
    · cases closed
      exact .inr rfl
  · cases closed

theorem noteFunding_eq (fundingTxids : d.state.fundingTxids = view.fundingTxids)
    (fundingVouts : d.state.fundingVouts = view.fundingVouts)
    (there : ∀ ind ∈ view.fundingTxids.findIdx? (· = txid),
      ∃ vout ∈ view.fundingVouts[ind]?, vout.toNat < d.outputNum) :
    d.noteFunding txid = .ok { d with
      changes := d.changes ++ (view.confirms txid).toList.map fundingConfirmed
      state := forwards ((view.confirms txid).toList.map fundingConfirmed) d.state } := by
  unfold noteFunding confirms
  rw [fundingTxids, fundingVouts]
  cases found : view.fundingTxids.findIdx? (· = txid) with
  | none => simp [forwards]
  | some ind =>
    obtain ⟨vout, isVout, below⟩ := there ind found
    have noted : d.addChange (fundingConfirmed ⟨txid, vout⟩) = _ := addChange_able trivial
    simp [Option.mem_def.mp isVout, Result.expect, bind, Except.bind, below, noted, forwards]

theorem noteClosing_eq (fundingTxids : d.state.fundingTxids = view.fundingTxids)
    (gathered : d.closingTx
      = if view.spendsFunding tx then some { tx with lockTime := 0 } else none)
    (readable : view.Closes prims tx →
      ∃ c, closeChange prims provider tx (prims.computeTxid tx) = .ok c) :
    d.noteClosing prims provider tx.lockTime (prims.computeTxid tx) = .ok { d with
      closingTx := none
      changes := d.changes ++ view.closeChanges prims provider tx
      state := forwards (view.closeChanges prims provider tx) d.state } := by
  unfold noteClosing closeChanges
  rw [gathered]
  by_cases spends : view.spendsFunding tx
  · by_cases splice : prims.computeTxid tx ∈ view.fundingTxids
    · have kept : ¬ view.Closes prims tx := fun closes => closes.2 splice
      simp [spends, fundingTxids, splice, kept, forwards]
    · have closes : view.Closes prims tx := ⟨spends, splice⟩
      obtain ⟨c, closed⟩ := readable closes
      have able : ∀ s, c.Able s := by
        obtain ⟨input, -, ⟨ours, htlcs, rfl⟩ | rfl⟩ := closeChange_cases closed <;>
          exact fun _ => trivial
      have noted : ({ d with closingTx := none } : BlockDecodeState).addChange c = _ :=
        addChange_able (able _)
      simp [spends, fundingTxids, splice, closes, closed, bind, Except.bind, noted, forwards,
        Except.toOption]
  · have kept : ¬ view.Closes prims tx := fun closes => spends closes.1
    have unchanged : d = { d with closingTx := none } := by
      rw [if_neg spends] at gathered
      rw [← gathered]
    simp only [if_neg spends, if_neg kept, append_nil, forwards, Undo.all_nil]
    rw [← unchanged]

structure Readable (prims : Primitives) (provider : CommitmentPointProvider) (view : State)
    (tx : Transaction) : Prop where
  funding : ∀ ind ∈ view.fundingTxids.findIdx? (· = prims.computeTxid tx),
    ∃ vout ∈ view.fundingVouts[ind]?, vout.toNat < tx.output.length
  outputs : view.spendsFunding tx → tx.output.length ≤ maxCommitmentOutputs
  close : view.Closes prims tx → ∃ c, closeChange prims provider tx (prims.computeTxid tx) = .ok c
  closedOnce : ∀ c ∈ view.closeChanges prims provider tx, c.isUnilateralClose →
    ∀ input ∈ tx.input, view.tracks input.previousOutput = none

theorem noteHtlcs_eq {spent : List (U32 × U32)}
    (able : ∀ one ∈ spent, (htlcChange txid one).Able d.state) :
    spent.foldlM (fun d one => d.addChange (htlcChange txid one)) d = .ok { d with
        changes := d.changes ++ spent.map (htlcChange txid)
        state := forwards (spent.map (htlcChange txid)) d.state } := by
  let after (done : List (U32 × U32)) : BlockDecodeState := { d with
    changes := d.changes ++ done.map (htlcChange txid)
    state := forwards (done.map (htlcChange txid)) d.state }
  have start : after [] = d := by simp [after, forwards]
  rw [← start, Result.foldlM_eq_ok after, start]
  rintro done one rest rfl
  have here : (htlcChange txid one).Able (after done).state := by
    refine Undo.all_inv (fun t => (htlcChange txid one).Able t)
      (able one (by simp)) ?_
    intro c member t here
    obtain ⟨_, -, rfl⟩ := mem_map.mp member
    exact able_forward here fun close => by cases close
  rw [addChange_able here]
  simp [after, forwards]

theorem mem_spentHtlcs (member : one ∈ view.spentHtlcs inputs) :
    ∃ input k, (input, k) ∈ inputs.zipIdx ∧ view.tracks input.previousOutput = some .htlcOutput
      ∧ one = (input.previousOutput.vout, .ofNat 32 k) := by
  obtain ⟨⟨input, k⟩, there, here⟩ := mem_flatMap.mp member
  refine ⟨input, k, there, ?_⟩
  split at here
  · rename_i tracked
    exact ⟨tracked, mem_singleton.mp here⟩
  · cases here

section

variable (sees : Sees view d.state (tx.input.map (·.previousOutput)))
include sees

theorem able_htlcChange (readable : Readable prims provider view tx)
    (member : one ∈ view.spentHtlcs tx.input) :
    (htlcChange txid one).Able (forwards (view.closeChanges prims provider tx)
      (forwards ((view.confirms (prims.computeTxid tx)).toList.map fundingConfirmed) d.state)) := by
  obtain ⟨input, k, there, tracked, rfl⟩ := mem_spentHtlcs member
  have there : input ∈ tx.input := fst_mem_of_mem_zipIdx there
  obtain ⟨o, found, -, has⟩ := tracks_some
    ((sees.tracks input.previousOutput (mem_map_of_mem there)).trans tracked)
  refine Undo.all_inv (fun t => (htlcOutputSpent input.previousOutput.vout _).Able t) ?_ ?_
  · refine Undo.all_inv (fun t => (htlcOutputSpent input.previousOutput.vout _).Able t)
      ⟨o, found, has⟩ ?_
    intro c member t here
    obtain ⟨_, -, rfl⟩ := mem_map.mp member
    exact able_forward here fun close => by cases close
  · intro c member t here
    apply able_forward here
    intro close
    have untracked := readable.closedOnce c member close input there
    cases untracked.symm.trans tracked

theorem onTransactionEnd_eq (readable : Readable prims provider view tx)
    (outputNum : d.outputNum = tx.output.length)
    (gathered : d.closingTx
      = if view.spendsFunding tx then some { tx with lockTime := 0 } else none)
    (spent : d.spentHtlcOutputs = view.spentHtlcs tx.input) :
    ∃ d', d.onTransactionEnd prims provider tx.lockTime (prims.computeTxid tx) = .ok d'
      ∧ d'.changes = d.changes ++ view.endChanges prims provider tx
      ∧ d'.state = forwards (view.endChanges prims provider tx) d.state := by
  let fundings := (view.confirms (prims.computeTxid tx)).toList.map fundingConfirmed
  let d₁ : BlockDecodeState := { d with
    changes := d.changes ++ fundings
    state := forwards fundings d.state }
  have funding : d.noteFunding (prims.computeTxid tx) = .ok d₁ :=
    noteFunding_eq sees.fundingTxids sees.fundingVouts (outputNum ▸ readable.funding)
  let d₂ : BlockDecodeState := { d₁ with
    closingTx := none
    changes := d₁.changes ++ view.closeChanges prims provider tx
    state := forwards (view.closeChanges prims provider tx) d₁.state }
  have closing : d₁.noteClosing prims provider tx.lockTime (prims.computeTxid tx) = .ok d₂ :=
    noteClosing_eq (forwards_kept.fundingTxids.trans sees.fundingTxids) gathered readable.close
  let d₃ : BlockDecodeState := { d₂ with
    spentHtlcOutputs := []
    changes := d₂.changes ++ view.htlcChanges prims tx
    state := forwards (view.htlcChanges prims tx) d₂.state }
  have htlcs : (view.spentHtlcs tx.input).foldlM
      (fun d one => d.addChange (htlcChange (prims.computeTxid tx) one))
      { d₂ with spentHtlcOutputs := [] } = .ok d₃ :=
    noteHtlcs_eq fun one member => able_htlcChange sees readable member
  refine ⟨d₃, ?_, ?_, ?_⟩
  · rw [onTransactionEnd, funding]
    simp only [bind, Except.bind, closing]
    rw [show d₂.spentHtlcOutputs = view.spentHtlcs tx.input from spent]
    exact htlcs
  · simp [d₃, d₂, d₁, fundings, endChanges]
  · simp only [d₃, d₂, d₁, fundings, endChanges, forwards_append]

theorem pushTransaction_eq (readable : Readable prims provider view tx) :
    ∃ d', d.pushTransaction prims provider tx = .ok d'
      ∧ d'.changes = d.changes ++ view.changesIn prims provider tx
      ∧ d'.state = forwards (view.changesIn prims provider tx) d.state := by
  have start : afterInputs view (d.onTransactionStart tx.version) []
      = d.onTransactionStart tx.version := by
    simp [afterInputs, onTransactionStart, spentHtlcs, forwards]
  have inputs := inputs_eq (d := d.onTransactionStart tx.version) sees
  rw [start] at inputs
  let d₁ := afterInputs view (d.onTransactionStart tx.version) tx.input
  have outputs : tx.output.foldlM onTransactionOutput d₁ = .ok (afterOutputs d₁ tx.output) := by
    apply outputs_eq
    intro gathered
    have spends : view.spendsFunding tx := by
      by_contra notSpends
      simp [d₁, afterInputs, show ¬ _ = [_] from notSpends] at gathered
    simpa [d₁, afterInputs, onTransactionStart] using readable.outputs spends
  have quiet : ∀ c ∈ tx.input.flatMap (fun input => view.inputChanges input.previousOutput),
      c.Quiet := by
    intro c member
    obtain ⟨input, -, member⟩ := mem_flatMap.mp member
    exact inputChanges_quiet c member
  have gathered : (afterOutputs d₁ tx.output).closingTx
      = if view.spendsFunding tx then some { tx with lockTime := 0 } else none := by
    by_cases spends : view.spendsFunding tx
    · simp [d₁, afterOutputs, afterInputs, spends, show _ = [_] from spends,
        onTransactionStart]
    · simp [d₁, afterOutputs, afterInputs, spends, show ¬ _ = [_] from spends]
  obtain ⟨d', ended, changes, state⟩ := onTransactionEnd_eq (d := afterOutputs d₁ tx.output)
    (sees_forwards quiet sees) readable
    (by simp [d₁, afterOutputs, afterInputs, onTransactionStart]) gathered rfl
  refine ⟨d', ?_, ?_, ?_⟩
  · rw [pushTransaction, inputs]
    simp only [bind, Except.bind]
    rw [outputs]
    exact ended
  · rw [changes, changesIn, ← append_assoc]
    rfl
  · rw [state, changesIn, forwards_append]
    rfl

end

end

end Vls.Monitor
