import Vls.Monitor.Reorg

/-! # Blocks that were processed

A block that is processed without a panic is decoded transaction by transaction, each in the light
of what the transactions before it brought. No condition on the block is needed to say what it is
decoded to. -/

namespace Vls.Monitor

open StateChange BlockDecodeState State Result

variable {prims : Primitives} {provider : CommitmentPointProvider} {d d' : BlockDecodeState}
  {s s' : State} {c : StateChange} {changes : List StateChange} {tx : Transaction}
  {txs done rest : List Transaction} {txid : BitVec 256} {w : Watch}

theorem addChange_ok (noted : d.addChange c = .ok d') :
    d' = { d with changes := d.changes ++ [c], state := c.forward d.state } := by
  obtain ⟨r, applied, noted⟩ := bind_eq_ok.mp noted
  obtain rfl := applyForwardChange_ok applied
  exact (Except.ok.inj noted).symm

theorem outputs_ok {outputs} (returned : outputs.foldlM onTransactionOutput d = .ok d') :
    d' = afterOutputs d outputs := by
  refine foldlM_inv (fun done d' => d' = afterOutputs d done) (by simp [afterOutputs]) ?_
    returned
  rintro done output rest _ d' - rfl pushed
  cases closing : d.closingTx with
  | none =>
    have here : (afterOutputs d done).closingTx = none := by simp [afterOutputs, closing]
    simp only [onTransactionOutput, here] at pushed
    cases pushed
    simp [afterOutputs, closing, Nat.add_assoc]
  | some closingTx =>
    have here : (afterOutputs d done).closingTx
        = some { closingTx with output := closingTx.output ++ done } := by
      simp [afterOutputs, closing]
    simp only [onTransactionOutput, here] at pushed
    split at pushed
    · cases pushed
      simp [afterOutputs, closing, Nat.add_assoc]
    · cases pushed

theorem noteFunding_ok (noted : d.noteFunding txid = .ok d') :
    d' = { d with
      changes := d.changes ++ (d.state.confirms txid).toList.map fundingConfirmed
      state := forwards ((d.state.confirms txid).toList.map fundingConfirmed) d.state } := by
  have there : ∀ ind ∈ d.state.fundingTxids.findIdx? (· = txid),
      ∃ vout ∈ d.state.fundingVouts[ind]?, vout.toNat < d.outputNum := by
    intro ind found
    simp only [noteFunding, Option.mem_def.mp found] at noted
    obtain ⟨vout, isVout, noted⟩ := bind_eq_ok.mp noted
    refine ⟨vout, expect_eq_ok.mp isVout, ?_⟩
    split at noted
    · assumption
    · cases noted
  exact (Except.ok.inj ((noteFunding_eq rfl rfl there).symm.trans noted)).symm

theorem noteClosing_ok
    (noted : d.noteClosing prims provider tx.lockTime (prims.computeTxid tx) = .ok d')
    (gathered : d.closingTx = if s.spendsFunding tx then some { tx with lockTime := 0 } else none)
    (fundingTxids : d.state.fundingTxids = s.fundingTxids) :
    (s.Closes prims tx → ∃ c, closeChange prims provider tx (prims.computeTxid tx) = .ok c)
      ∧ d' = { d with
        closingTx := none
        changes := d.changes ++ s.closeChanges prims provider tx
        state := forwards (s.closeChanges prims provider tx) d.state } := by
  have readable : s.Closes prims tx →
      ∃ c, closeChange prims provider tx (prims.computeTxid tx) = .ok c := by
    intro closes
    rw [if_pos closes.1] at gathered
    simp only [noteClosing, gathered, fundingTxids, if_neg closes.2] at noted
    obtain ⟨c, closed, -⟩ := bind_eq_ok.mp noted
    exact ⟨c, closed⟩
  exact ⟨readable,
    (Except.ok.inj ((noteClosing_eq fundingTxids gathered readable).symm.trans noted)).symm⟩

theorem noteHtlcs_ok {spent : List (U32 × U32)}
    (noted : spent.foldlM (fun d one => d.addChange (htlcChange txid one)) d = .ok d') :
    d' = { d with
      changes := d.changes ++ spent.map (htlcChange txid)
      state := forwards (spent.map (htlcChange txid)) d.state } := by
  refine foldlM_inv (fun done d' => d' = { d with
    changes := d.changes ++ done.map (htlcChange txid)
    state := forwards (done.map (htlcChange txid)) d.state })
    (by simp [forwards]) ?_ noted
  rintro done one rest _ d' - rfl noted
  rw [addChange_ok noted]
  simp [forwards]

theorem confirms_kept (kept : Kept s s') : s'.confirms txid = s.confirms txid := by
  rw [confirms, confirms, kept.fundingTxids, kept.fundingVouts]

theorem pushTransaction_ok (pushed : d.pushTransaction prims provider tx = .ok d') :
    (d.state.Closes prims tx → ∃ c, closeChange prims provider tx (prims.computeTxid tx) = .ok c)
      ∧ d'.changes = d.changes ++ d.state.changesIn prims provider tx
      ∧ d'.state = forwards (d.state.changesIn prims provider tx) d.state := by
  have start : afterInputs d.state (d.onTransactionStart tx.version) []
      = d.onTransactionStart tx.version := by
    simp [afterInputs, onTransactionStart, spentHtlcs, forwards]
  have sees : Sees d.state (d.onTransactionStart tx.version).state
      (tx.input.map (·.previousOutput)) :=
    ⟨rfl, rfl, rfl, rfl, fun _ _ => rfl⟩
  have inputs := inputs_eq sees
  rw [start] at inputs
  rw [pushTransaction, inputs] at pushed
  obtain ⟨_, entered, pushed⟩ := bind_eq_ok.mp pushed
  cases entered
  obtain ⟨d₁, outputs, pushed⟩ := bind_eq_ok.mp pushed
  obtain rfl := outputs_ok outputs
  obtain ⟨d₂, funding, pushed⟩ := bind_eq_ok.mp pushed
  obtain ⟨d₃, closing, pushed⟩ := bind_eq_ok.mp pushed
  obtain rfl := noteFunding_ok funding
  have gathered : (afterOutputs (afterInputs d.state (d.onTransactionStart tx.version) tx.input)
      tx.output).closingTx
      = if d.state.spendsFunding tx then some { tx with lockTime := 0 } else none := by
    by_cases spends : d.state.spendsFunding tx
    · simp [afterOutputs, afterInputs, spends, show _ = [_] from spends,
        onTransactionStart]
    · simp [afterOutputs, afterInputs, spends, show ¬ _ = [_] from spends]
  have kept := @forwards_kept (tx.input.flatMap fun input =>
    d.state.inputChanges input.previousOutput) d.state
  have confirms : (afterOutputs (afterInputs d.state (d.onTransactionStart tx.version) tx.input)
      tx.output).state.confirms (prims.computeTxid tx)
      = d.state.confirms (prims.computeTxid tx) := confirms_kept kept
  obtain ⟨readable, rfl⟩ := noteClosing_ok (s := d.state) closing gathered
    (kept.trans forwards_kept).fundingTxids
  obtain rfl := noteHtlcs_ok pushed
  refine ⟨readable, ?_, ?_⟩
  · simp only [confirms, changesIn, endChanges, ← List.append_assoc]
    rfl
  · simp only [confirms, changesIn, endChanges, forwards_append]
    rfl

def State.decode (prims : Primitives) (provider : CommitmentPointProvider) (s : State) :
    List Transaction → List StateChange
  | [] => []
  | tx :: rest => s.changesIn prims provider tx
      ++ decode prims provider (forwards (s.changesIn prims provider tx) s) rest

abbrev State.after (prims : Primitives) (provider : CommitmentPointProvider) (s : State)
    (done : List Transaction) : State :=
  forwards (s.decode prims provider done) s

theorem decode_append : s.decode prims provider (done ++ rest)
    = s.decode prims provider done ++ (s.after prims provider done).decode prims provider rest := by
  induction done generalizing s with
  | nil => rfl
  | cons tx done ih => simp [decode, after, ih, forwards_append]

theorem decode_concat : s.decode prims provider (done ++ [tx])
    = s.decode prims provider done
      ++ (s.after prims provider done).changesIn prims provider tx := by
  simp [decode_append, decode]

theorem after_append : s.after prims provider (done ++ rest)
    = (s.after prims provider done).after prims provider rest := by
  rw [after, decode_append, forwards_append]

theorem after_concat : s.after prims provider (done ++ [tx])
    = forwards ((s.after prims provider done).changesIn prims provider tx)
      (s.after prims provider done) := by
  rw [after, decode_concat, forwards_append]

theorem mem_decode (member : c ∈ s.decode prims provider txs) :
    ∃ done tx rest, txs = done ++ tx :: rest
      ∧ c ∈ (s.after prims provider done).changesIn prims provider tx := by
  induction txs generalizing s with
  | nil => cases member
  | cons tx txs ih =>
    rcases List.mem_append.mp member with here | later
    · exact ⟨[], tx, txs, rfl, here⟩
    · obtain ⟨done, tx', rest, rfl, here⟩ := ih later
      exact ⟨tx :: done, tx', rest, rfl, by simpa [after, decode, forwards_append]⟩

theorem decode_of_split (split : txs = done ++ tx :: rest)
    (member : c ∈ (s.after prims provider done).changesIn prims provider tx) :
    c ∈ s.decode prims provider txs := by
  rw [split, decode_append]
  exact List.mem_append_right _ (List.mem_append_left _ member)

theorem pushTransactions_ok (pushed : s.pushTransactions prims provider txs = .ok d) :
    d.changes = s.decode prims provider txs
      ∧ ∀ done tx rest, txs = done ++ tx :: rest → (s.after prims provider done).Closes prims tx →
        ∃ c, closeChange prims provider tx (prims.computeTxid tx) = .ok c := by
  have decoded : d.changes = s.decode prims provider txs ∧ d.state = s.after prims provider txs
      ∧ ∀ done tx rest, txs = done ++ tx :: rest → (s.after prims provider done).Closes prims tx →
        ∃ c, closeChange prims provider tx (prims.computeTxid tx) = .ok c := by
    refine foldlM_inv (fun done (d : BlockDecodeState) =>
      d.changes = s.decode prims provider done ∧ d.state = s.after prims provider done
        ∧ ∀ before tx rest, done = before ++ tx :: rest →
          (s.after prims provider before).Closes prims tx →
            ∃ c, closeChange prims provider tx (prims.computeTxid tx) = .ok c)
      ⟨rfl, rfl, by simp⟩ ?_ pushed
    rintro done tx rest d d' - ⟨changes, state, earlier⟩ pushed
    obtain ⟨readable, changes', state'⟩ := pushTransaction_ok pushed
    rw [state] at readable changes' state'
    refine ⟨?_, ?_, ?_⟩
    · rw [changes', changes, decode_concat]
    · rw [state', after_concat]
    · intro before tx' rest' split
      rcases List.eq_nil_or_concat rest' with rfl | ⟨rest', last, rfl⟩
      · obtain ⟨rfl, same⟩ := List.append_inj' split rfl
        obtain rfl := List.cons.inj same |>.1
        exact readable
      · rw [List.concat_eq_append, ← List.cons_append, ← List.append_assoc] at split
        obtain ⟨rfl, -⟩ := List.append_inj' split rfl
        exact earlier before tx' rest' rfl
  exact ⟨decoded.1, decoded.2.2⟩

theorem fundingInputSpent_mem_changesIn {o} :
    fundingInputSpent o ∈ s.changesIn prims provider tx
      ↔ o ∈ tx.input.map (·.previousOutput) ∧ o ∈ s.fundingInputs := by
  constructor
  · intro member
    simp only [changesIn, endChanges, List.mem_append] at member
    rcases member with inputs | fundings | closes | htlcs
    · obtain ⟨input, there, member⟩ := List.mem_flatMap.mp inputs
      unfold inputChanges fundingInputChanges sweepChanges at member
      rcases List.mem_append.mp member with member | member
      · split at member
        · rename_i funding
          obtain rfl := fundingInputSpent.inj (List.mem_singleton.mp member)
          exact ⟨List.mem_map_of_mem there, funding⟩
        · cases member
      · split at member <;> simp at member
    · simp at fundings
    · obtain ⟨-, closed, -⟩ := mem_closeChanges closes
      obtain ⟨_, _, ⟨ours, htlcs, same⟩ | same⟩ := closeChange_cases closed
      · cases same
      · cases same
    · obtain ⟨one, -, same⟩ := List.mem_map.mp htlcs
      cases same
  · rintro ⟨there, funding⟩
    obtain ⟨input, spent, rfl⟩ := List.mem_map.mp there
    refine List.mem_append_left _ (List.mem_flatMap.mpr ⟨input, spent, ?_⟩)
    simp [inputChanges, fundingInputChanges, funding]

theorem fundingInputSpent_mem {o} :
    fundingInputSpent o ∈ s.decode prims provider txs ↔ o ∈ spends txs ∧ o ∈ s.fundingInputs := by
  constructor
  · intro member
    obtain ⟨done, tx, rest, rfl, here⟩ := mem_decode member
    obtain ⟨there, funding⟩ := fundingInputSpent_mem_changesIn.mp here
    rw [forwards_kept.fundingInputs] at funding
    exact ⟨List.mem_flatMap.mpr ⟨tx, by simp, there⟩, funding⟩
  · rintro ⟨spent, funding⟩
    obtain ⟨tx, there, spent⟩ := List.mem_flatMap.mp spent
    obtain ⟨done, rest, split⟩ := List.append_of_mem there
    refine decode_of_split split (fundingInputSpent_mem_changesIn.mpr ⟨spent, ?_⟩)
    rwa [forwards_kept.fundingInputs]

theorem applyChanges_ok {apply f} (one : ∀ {s c r}, apply s c = .ok r → r.1 = f c s)
    (applied : s.applyChanges apply changes = .ok (s', w)) : s' = Undo.all f changes s := by
  refine foldlM_inv (fun done (r : State × Watch) => r.1 = Undo.all f done s) rfl ?_ applied
  rintro done c rest ⟨_, _⟩ r' - rfl stepped
  obtain ⟨r₁, here, stepped⟩ := bind_eq_ok.mp stepped
  cases stepped
  simpa using one here

theorem forwards_saw : forwards changes s.saw = (forwards changes s).saw := by
  induction changes generalizing s with
  | nil => rfl
  | cons c rest ih =>
    have step : c.forward s.saw = (c.forward s).saw := by cases c <;> rfl
    exact (congrArg (forwards rest) step).trans ih

theorem decode_saw : s.saw.decode prims provider txs = s.decode prims provider txs := by
  induction txs generalizing s with
  | nil => rfl
  | cons tx rest ih =>
    have here : s.saw.changesIn prims provider tx = s.changesIn prims provider tx := rfl
    rw [decode, decode, here, forwards_saw, ih]

theorem onAddBlock_ok (added : s.onAddBlock prims provider txs = .ok (s', w)) :
    s' = s.added (s.decode prims provider txs) := by
  obtain ⟨d, pushed, added⟩ := bind_eq_ok.mp added
  rw [(pushTransactions_ok pushed).1, decode_saw] at added
  obtain ⟨⟨applied, watch⟩, changed, added⟩ := bind_eq_ok.mp added
  obtain rfl := applyChanges_ok (f := forward) (fun here => by rw [applyForwardChange_ok here])
    changed
  exact (congrArg Prod.fst (Except.ok.inj added)).symm

theorem height_removed : (s.removed changes).height = s.height - 1 :=
  congrArg (· - 1) (backwards_kept (s := s.saw)).height

theorem height_added : (s.added changes).height = s.height + 1 :=
  (forwards_kept (s := s.next)).height

theorem onRemoveBlock_ok (removed : s.onRemoveBlock prims provider txs = .ok (s', w)) :
    s' = s.removed (s.decode prims provider txs)
      ∧ ∀ done tx rest, txs = done ++ tx :: rest → (s.after prims provider done).Closes prims tx →
        ∃ c, closeChange prims provider tx (prims.computeTxid tx) = .ok c := by
  obtain ⟨d, pushed, removed⟩ := bind_eq_ok.mp removed
  obtain ⟨decoded, readable⟩ := pushTransactions_ok pushed
  rw [decoded, decode_saw] at removed
  obtain ⟨⟨applied, watch⟩, changed, removed⟩ := bind_eq_ok.mp removed
  obtain rfl := applyChanges_ok (f := backward) (fun here => by rw [applyBackwardChange_ok here])
    changed
  refine ⟨(congrArg Prod.fst (Except.ok.inj removed)).symm, ?_⟩
  intro done tx rest split closes
  refine readable done tx rest split ?_
  rw [after, decode_saw, forwards_saw]
  exact closes

end Vls.Monitor
