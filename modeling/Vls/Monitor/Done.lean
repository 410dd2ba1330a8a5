import Vls.Monitor.Shrinking

/-! # A channel that is done is settled

The records tell of events of the chain in every run whose steps are orderly, so the monitor
declares a channel done only where its money is settled. -/

namespace Vls.Monitor

open StateChange List

variable {prims : Primitives} {told : CommitmentPointProvider} {m m' : Followed} {s : State}
  {block : Block} {tx : Transaction} {o : OutPoint} {closing : ClosingOutpoints} {k n u : Nat}

theorem blockAt_mem (found : m.blockAt k = some block) : block ∈ m.chain := by
  unfold Followed.blockAt at found
  split at found
  · exact mem_of_getElem? found
  · cases found

/-- The chain and the records of closes stay, and no funding is told that is in the chain. -/
structure Moved (prims : Primitives) (m m' : Followed) : Prop where
  chain : m'.chain = m.chain
  height : m'.state.height = m.state.height
  outpoint : m'.state.fundingOutpoint = m.state.fundingOutpoint
  closedMutually : m'.state.mutualClosingHeight = m.state.mutualClosingHeight
  closedUnilaterally : m'.state.unilateralClosingHeight = m.state.unilateralClosingHeight
  closing : m'.state.closingOutpoints = m.state.closingOutpoints
  swept : m'.state.closingSweptHeight = m.state.closingSweptHeight
  fundings : ∀ txid ∈ m.fundings, txid ∈ m'.fundings
  fresh : ∀ block ∈ m.chain, ∀ tx ∈ block.txs,
    (prims.computeTxid tx ∈ m'.fundings → prims.computeTxid tx ∈ m.fundings)
      ∧ (prims.computeTxid tx ∈ m'.state.fundingTxids → prims.computeTxid tx ∈ m.state.fundingTxids)

section

variable (moved : Moved prims m m')
include moved

theorem blockAt_moved : m'.blockAt k = m.blockAt k := by
  rw [Followed.blockAt, Followed.blockAt, moved.chain, moved.height]

theorem standing_moved (standing : Standing prims m k block tx o) :
    Standing prims m' k block tx o where
  found := (blockAt_moved moved).trans standing.found
  there := standing.there
  single := standing.single
  funding := moved.fundings _ standing.funding
  notFunding isFunding := standing.notFunding
    ((moved.fresh block (blockAt_mem standing.found) tx standing.there).1 isFunding)
  outpoint := moved.outpoint.trans standing.outpoint
  above j higher other found tx' there := by
    rw [blockAt_moved moved] at found
    obtain ⟨notFunding, different⟩ := standing.above j higher other found tx' there
    exact ⟨fun isFunding => notFunding
      ((moved.fresh other (blockAt_mem found) tx' there).2 isFunding), different⟩

theorem marks_moved (marks : Marks prims m n closing) : Marks prims m' n closing where
  ourOutput vout spent := by
    obtain ⟨j, bounded, other, found, spent⟩ := marks.ourOutput vout spent
    exact ⟨j, bounded, other, (blockAt_moved moved).trans found, spent⟩
  htlcOutputs vout spent := by
    obtain ⟨notOurs, second, has, j, bounded, other, found, tx, there, input, i, entry, same,
      isSecond, above⟩ := marks.htlcOutputs vout spent
    refine ⟨notOurs, second, has, j, bounded, other, (blockAt_moved moved).trans found, tx, there,
      input, i, entry, same, isSecond, ?_⟩
    intro j higher other found
    exact above j higher other ((blockAt_moved moved).symm.trans found)
  secondLevel p spent := by
    obtain ⟨notOurs, notHtlc, j, bounded, other, found, spent⟩ := marks.secondLevel p spent
    exact ⟨notOurs, notHtlc, j, bounded, other, (blockAt_moved moved).trans found, spent⟩

theorem closing_moved (closed : Closing prims told m closing u) :
    Closing prims told m' closing u where
  recorded := moved.closedUnilaterally.trans closed.recorded
  standing := by
    obtain ⟨block, tx, o, ours, htlcs, standing, close, same⟩ := closed.standing
    exact ⟨block, tx, o, ours, htlcs, standing_moved moved standing, close, same⟩
  marks := moved.height ▸ marks_moved moved closed.marks

theorem sweeping_moved (sweeping : Sweeping prims m closing u k) :
    Sweeping prims m' closing u k where
  swept := sweeping.swept
  after := sweeping.after
  marks := marks_moved moved sweeping.marks
  last := by
    rcases sweeping.last with here | ⟨block, found, o, spent, tracked⟩
    · exact .inl here
    · refine .inr ⟨block, (blockAt_moved moved).trans found, o, spent, ?_⟩
      exact tracks_congr moved.closing ▸ tracked
  above j higher block found o spent := by
    rw [tracks_congr moved.closing]
    exact sweeping.above j higher block ((blockAt_moved moved).symm.trans found) o spent

theorem recorded_moved (recorded : Recorded prims told m)
    (funded : ∃ o, m'.state.FundedBy o ∧ o.txid ∈ m'.fundings)
    (inputs : ∀ o ∈ m'.state.fundingInputs, ∃ funding : Transaction,
      prims.computeTxid funding ∈ m'.fundings ∧ o ∈ funding.input.map (·.previousOutput))
    (confirmed : ∀ block ∈ m.chain, ∀ tx ∈ block.txs, ∀ p,
      m'.state.confirms (prims.computeTxid tx) = some p → ∀ o ∈ m.state.fundingOutpoint, o = p)
    (doubleSpent : ∀ k ∈ m'.state.fundingDoubleSpentHeight,
      ∃ block, m.blockAt k = some block ∧ ∃ o ∈ spends block.txs, o ∈ m'.state.fundingInputs)
    (unfunded : m'.state.fundingDoubleSpentHeight ≠ none → m'.Unfunded prims) :
    Recorded prims told m' where
  fits := by
    rw [moved.chain, moved.height]
    exact recorded.fits
  funded := funded
  inputs := inputs
  outpoint o outpoint := moved.fundings _ (recorded.outpoint o (moved.outpoint ▸ outpoint))
  confirmed block here tx there p confirms o outpoint :=
    confirmed block (moved.chain ▸ here) tx there p confirms o (moved.outpoint ▸ outpoint)
  doubleSpent k doubleSpentAt := by
    obtain ⟨block, found, spent⟩ := doubleSpent k doubleSpentAt
    exact ⟨block, (blockAt_moved moved).trans found, spent⟩
  unfunded := unfunded
  closedMutually k closedAt := by
    obtain ⟨block, tx, o, standing, closed⟩ :=
      recorded.closedMutually k (moved.closedMutually ▸ closedAt)
    exact ⟨block, tx, o, standing_moved moved standing, closed⟩
  closing closing found := by
    obtain ⟨u, closed⟩ := recorded.closing closing (moved.closing ▸ found)
    exact ⟨u, closing_moved moved closed⟩
  swept k sweptAt := by
    obtain ⟨closing, found, sweeping⟩ := recorded.swept k (moved.swept ▸ sweptAt)
    refine ⟨closing, moved.closing ▸ found, ?_⟩
    intro u closedAt
    exact sweeping_moved moved (sweeping u (moved.closedUnilaterally ▸ closedAt))

end

theorem recorded_next {input} (recorded : Recorded prims told m)
    (orderly : Orderly prims told m input)
    (next : Next prims m input m') : Recorded prims told m' := by
  cases next with
  | added watch added =>
    obtain ⟨consistent, ordinary, tells⟩ := orderly
    exact recorded_added recorded consistent ordinary tells added
  | removed watch removed => exact recorded_removed recorded removed
  | funded txids vouts | fundedWith txids vouts =>
    obtain ⟨first, funded, -⟩ := recorded.funded
    cases txids.symm.trans funded.1
  | @inputs _ tx =>
    refine recorded_moved (m := m) ⟨rfl, rfl, rfl, rfl, rfl, rfl, rfl, fun _ member => member,
      fun _ _ _ _ => ⟨id, id⟩⟩ recorded recorded.funded ?_ recorded.confirmed ?_ recorded.unfunded
    · intro o input
      rcases Finset.mem_union.mp input with earlier | new
      · exact recorded.inputs o earlier
      · obtain ⟨first, funded, isFunding⟩ := recorded.funded
        have isTxid : prims.computeTxid tx ∈ m.state.fundingTxids := orderly
        rw [funded.1, mem_singleton] at isTxid
        exact ⟨tx, isTxid ▸ isFunding, mem_toFinset.mp new⟩
    · intro k doubleSpentAt
      obtain ⟨block, found, o, spent, input⟩ := recorded.doubleSpent k doubleSpentAt
      exact ⟨block, found, o, spent, Finset.mem_union_left _ input⟩
  | @replaced _ outpoint =>
    have fresh := orderly
    refine recorded_moved (m := m) ⟨rfl, rfl, rfl, rfl, rfl, rfl, rfl,
      fun _ member => mem_cons_of_mem _ member, ?_⟩ recorded
      ⟨outpoint, ⟨rfl, rfl⟩, mem_cons_self⟩ ?_ ?_ ?_ ?_
    · intro block here tx there
      constructor
      · intro isFunding
        exact mem_of_ne_of_mem (fresh block here tx there) isFunding
      · intro isTxid
        exact absurd (mem_singleton.mp isTxid) (fresh block here tx there)
    · intro o input
      obtain ⟨funding, isFunding, spent⟩ := recorded.inputs o input
      exact ⟨funding, mem_cons_of_mem _ isFunding, spent⟩
    · intro block here tx there p confirms
      have isTxid := (confirms_mem confirms).1
      exact absurd (mem_singleton.mp isTxid) (fresh block here tx there)
    · intro k doubleSpentAt
      cases doubleSpentAt
    · intro doubleSpent
      exact absurd rfl doubleSpent
  | forgotten =>
    exact recorded_moved (m := m) ⟨rfl, rfl, rfl, rfl, rfl, rfl, rfl, fun _ member => member,
      fun _ _ _ _ => ⟨id, id⟩⟩ recorded recorded.funded recorded.inputs recorded.confirmed
      recorded.doubleSpent recorded.unfunded

theorem recorded_new {below height} (fits : below.length ≤ height)
    (funded : (State.new height).addFundingOutpoint o = .ok s) :
    Recorded prims told ⟨below, [o.txid], s⟩ := by
  obtain ⟨-, -, rfl⟩ := addFundingOutpoint_ok funded
  exact {
    fits := fits
    funded := ⟨o, ⟨rfl, rfl⟩, mem_singleton_self _⟩
    inputs := fun o input => absurd input (Finset.notMem_empty o)
    outpoint := fun _ outpoint => nomatch outpoint
    confirmed := fun _ _ _ _ _ _ _ outpoint => nomatch outpoint
    doubleSpent := fun _ doubleSpentAt => nomatch doubleSpentAt
    unfunded := fun doubleSpent => absurd rfl doubleSpent
    closedMutually := fun _ closedAt => nomatch closedAt
    closing := fun _ found => nomatch found
    swept := fun _ sweptAt => nomatch sweptAt }

theorem deep_of_forget {recordedAt}
    (deep : s.deepEnoughAndSawNodeForget recordedAt State.minDepth = true) :
    s.sawForgetChannel = true ∧ ∃ k, recordedAt = some k ∧ k + State.minDepth ≤ s.height + 1 := by
  unfold State.deepEnoughAndSawNodeForget State.depthOf at deep
  split at deep
  · cases deep
  · rename_i depth
    refine ⟨deep, ?_⟩
    cases recordedAt with
    | none => simp [State.minDepth] at depth
    | some k =>
      simp only [Option.getD_some, State.minDepth] at depth
      exact ⟨k, rfl, by simp only [State.minDepth]; omega⟩

theorem ours_of_closeChange {main htlcs}
    (closed : closeChange prims told tx txid = .ok (unilateralCloseConfirmed txid o main htlcs)) :
    ∃ number, Ours prims told tx number main htlcs := by
  unfold closeChange at closed
  split at closed
  · split at closed
    case h_1 number decodes =>
      obtain ⟨point, counterparty, closed⟩ := Result.bind_eq_ok.mp closed
      obtain ⟨indices, spendable, closed⟩ := Result.bind_eq_ok.mp closed
      cases closed
      refine ⟨number, decodes, point, _, counterparty, rfl, ?_⟩
      unfold spendableHtlcs at spendable
      split at spendable
      · rename_i isNone
        cases spendable
        exact .inl ⟨isEmpty_iff.mp isNone, rfl⟩
      · rename_i isSome
        refine .inr ⟨fun isNone => isSome (isEmpty_iff.mpr isNone), ?_⟩
        unfold Result.expectOk at spendable
        split at spendable <;> cases spendable
        assumption
    case h_2 => cases closed
  · cases closed

theorem sweptAt_of_recorded (recorded : Recorded prims told m)
    (sweptAt : m.state.closingSweptHeight = some k) : m.SweptAt prims told k := by
  obtain ⟨closing, found, sweeping⟩ := recorded.swept k sweptAt
  obtain ⟨u, closed⟩ := recorded.closing closing found
  have sweeping := sweeping u closed.recorded
  obtain ⟨block, tx, o, ours, htlcs, standing, close, same⟩ := closed.standing
  obtain ⟨⟨oursSpent, htlcsSpent⟩, secondsSpent⟩ : (_ ∧ _) ∧ _ := by
    simpa [ClosingOutpoints.isAllSpent] using sweeping.swept
  have txid : closing.txid = prims.computeTxid tx := same.txid
  obtain ⟨number, isOurs⟩ := ours_of_closeChange close
  refine ⟨u, sweeping.after, block, tx, o, number, ours, htlcs, standing.toCloseAt, isOurs, ?_, ?_⟩
  · intro vout main
    have key : closing.ourOutput.map (·.key) = some vout := by
      rw [same.ourOutput, Option.mem_def.mp main]
      rfl
    obtain ⟨⟨_, mark⟩, here, rfl⟩ := Option.map_eq_some_iff.mp key
    have marked : mark = true := by simpa [here] using oursSpent
    exact txid ▸ sweeping.marks.ourOutput _ (marked ▸ here)
  · intro vout isHtlc
    have has : Marked.Has closing.htlcOutputs vout := by
      rw [Marked.Has, same.htlcOutputs]
      exact Marked.has_unmarked.mpr isHtlc
    obtain ⟨-, second, hasSecond, j, bounded, other, found, tx', there, input, i, entry, equal,
      isSecond, -⟩ := sweeping.marks.htlcOutputs vout (Marked.markOf_of_allMarked htlcsSpent has)
    refine ⟨second, ⟨j, bounded, other, found, tx', there, input, i, entry, txid ▸ equal, isSecond⟩,
      ?_⟩
    exact (sweeping.marks.secondLevel second
      (Marked.markOf_of_allMarked secondsSpent hasSecond)).2.2

theorem unsettled_of_fundings
    (fundings : ∀ block ∈ m.chain, ∀ tx ∈ block.txs, prims.computeTxid tx ∈ m.fundings)
    (funded : ∃ block ∈ m.chain, block.txs ≠ []) : ¬ m.Settled prims told := by
  have notClosed {k : Nat} {block : Block} {tx : Transaction} {o : OutPoint}
      (close : CloseAt prims m k block tx o) : False :=
    close.notFunding (fundings block (blockAt_mem close.found) tx close.there)
  rintro ⟨-, k, -, ⟨-, unfunded⟩ | ⟨block, tx, o, close, -⟩ |
    ⟨u, -, block, tx, o, number, main, htlcs, close, -⟩⟩
  · obtain ⟨block, here, holds⟩ := funded
    obtain ⟨tx, there⟩ := exists_mem_of_ne_nil block.txs holds
    exact unfunded block here tx there (fundings block here tx there)
  · exact notClosed close
  · exact notClosed close

end Vls.Monitor

namespace Vls

open Monitor

open Toy

end Vls
