import Vls.Monitor.RoundTrip
import Vls.Monitor.Settled
import Vls.Monitor.Sources

/-! # Records that tell of the chain

What the monitor has on record is an event of the chain it has followed. A block that is added
brings records of its own events; a block that is removed takes its events along, since it is read
then as it was when it was added. -/

namespace Vls.Monitor

open StateChange Marked

variable (prims : Primitives) (told : CommitmentPointProvider)

/-- A close on record, with the funding outpoint that it spends, and nothing above it that spends
    this outpoint alone or is a funding. -/
structure Standing (m : Followed) (k : Nat) (block : Block) (tx : Transaction) (o : OutPoint) :
    Prop extends CloseAt prims m k block tx o where
  outpoint : m.state.fundingOutpoint = some o
  above : ∀ j > k, ∀ other, m.blockAt j = some other → ∀ tx' ∈ other.txs,
    prims.computeTxid tx' ∉ m.state.fundingTxids ∧ tx'.input.map (·.previousOutput) ≠ [o]

/-- What is marked as spent of a close is spent in the chain, up to a height. The transaction that
    an HTLC output was spent by is in no later block. -/
structure Marks (m : Followed) (n : Nat) (closing : ClosingOutpoints) : Prop where
  ourOutput : ∀ vout, closing.ourOutput = some ⟨vout, true⟩ → m.SpentBy n ⟨closing.txid, vout⟩
  htlcOutputs : ∀ vout, markOf vout closing.htlcOutputs = some true →
    ¬ Tracked.ourOutput.Of closing ⟨closing.txid, vout⟩
      ∧ ∃ second, Marked.Has closing.secondLevelHtlcOutputs second
        ∧ ∃ k ≤ n, ∃ block, m.blockAt k = some block ∧ ∃ tx ∈ block.txs, ∃ input i,
          (input, i) ∈ tx.input.zipIdx ∧ input.previousOutput = ⟨closing.txid, vout⟩
            ∧ second = ⟨prims.computeTxid tx, .ofNat 32 i⟩
            ∧ ∀ j > k, ∀ other, m.blockAt j = some other →
              second.txid ∉ other.txs.map prims.computeTxid
  secondLevel : ∀ p, markOf p closing.secondLevelHtlcOutputs = some true →
    ¬ Tracked.ourOutput.Of closing p ∧ ¬ Tracked.htlcOutput.Of closing p ∧ m.SpentBy n p

structure Closing (m : Followed) (closing : ClosingOutpoints) (u : Nat) : Prop where
  recorded : m.state.unilateralClosingHeight = some u
  standing : ∃ block tx o ours htlcs, Standing prims m u block tx o
    ∧ closeChange prims told tx (prims.computeTxid tx)
      = .ok (unilateralCloseConfirmed (prims.computeTxid tx) o ours htlcs)
    ∧ SameClose (.new (prims.computeTxid tx) ours htlcs) closing
  marks : Marks prims m m.state.height closing

/-- The close on record was swept at a height: the block there holds the close or spends one of its
    outputs, and no block above does. -/
structure Sweeping (m : Followed) (closing : ClosingOutpoints) (u k : Nat) : Prop where
  swept : closing.isAllSpent
  after : u ≤ k
  marks : Marks prims m k closing
  last : u = k ∨ ∃ block, m.blockAt k = some block ∧ ∃ o ∈ spends block.txs, m.state.tracks o ≠ none
  above : ∀ j > k, ∀ block, m.blockAt j = some block →
    ∀ o ∈ spends block.txs, m.state.tracks o = none

structure Recorded (m : Followed) : Prop where
  fits : m.chain.length ≤ m.state.height
  funded : ∃ o, m.state.FundedBy o ∧ o.txid ∈ m.fundings
  inputs : ∀ o ∈ m.state.fundingInputs, ∃ funding : Transaction,
    prims.computeTxid funding ∈ m.fundings ∧ o ∈ funding.input.map (·.previousOutput)
  outpoint : ∀ o ∈ m.state.fundingOutpoint, o.txid ∈ m.fundings
  confirmed : ∀ block ∈ m.chain, ∀ tx ∈ block.txs, ∀ p,
    m.state.confirms (prims.computeTxid tx) = some p → ∀ o ∈ m.state.fundingOutpoint, o = p
  doubleSpent : ∀ k ∈ m.state.fundingDoubleSpentHeight,
    ∃ block, m.blockAt k = some block ∧ ∃ o ∈ spends block.txs, o ∈ m.state.fundingInputs
  unfunded : m.state.fundingDoubleSpentHeight ≠ none → m.Unfunded prims
  closedMutually : ∀ k ∈ m.state.mutualClosingHeight, ∃ block tx o, Standing prims m k block tx o
    ∧ closeChange prims told tx (prims.computeTxid tx)
      = .ok (mutualCloseConfirmed (prims.computeTxid tx) o)
  closing : ∀ closing ∈ m.state.closingOutpoints, ∃ u, Closing prims told m closing u
  swept : ∀ k ∈ m.state.closingSweptHeight, ∃ closing ∈ m.state.closingOutpoints,
    ∀ u ∈ m.state.unilateralClosingHeight, Sweeping prims m closing u k

variable {prims told} {m : Followed} {s t s' : State} {block block' other : Block} {c : StateChange}
  {changes : List StateChange} {tx : Transaction} {txs : List Transaction} {o : OutPoint}
  {closing : ClosingOutpoints} {j k n : Nat}

section

variable (height : s'.height = m.state.height + 1)
include height

theorem blockAt_added_cases
    (found : ({ m with chain := block :: m.chain, state := s' } : Followed).blockAt k
      = some other) :
    k ≤ m.state.height ∧ m.blockAt k = some other ∨ k = m.state.height + 1 ∧ other = block := by
  have bounded := blockAt_le found
  simp only [height] at bounded
  rcases Nat.lt_or_eq_of_le bounded with lower | rfl
  · have lower : k ≤ m.state.height := Nat.le_of_lt_succ lower
    exact .inl ⟨lower, (blockAt_added height lower).symm.trans found⟩
  · exact .inr ⟨rfl, (Option.some.inj ((blockAt_new height).symm.trans found)).symm⟩

theorem spentBy_added (spent : m.SpentBy n o) :
    ({ m with chain := block :: m.chain, state := s' } : Followed).SpentBy n o := by
  obtain ⟨k, bounded, other, found, spent⟩ := spent
  exact ⟨k, bounded, other, (blockAt_added height (blockAt_le found)).trans found, spent⟩

theorem marks_added (marks : Marks prims m n closing)
    (once : ∀ p, Marked.Has closing.secondLevelHtlcOutputs p →
      p.txid ∉ block.txs.map prims.computeTxid) :
    Marks prims ({ m with chain := block :: m.chain, state := s' } : Followed) n closing where
  ourOutput vout spent := spentBy_added height (marks.ourOutput vout spent)
  htlcOutputs vout spent := by
    obtain ⟨notOurs, second, has, k, bounded, other, found, tx, there, input, i, entry, same,
      isSecond, above⟩ := marks.htlcOutputs vout spent
    refine ⟨notOurs, second, has, k, bounded, other,
      (blockAt_added height (blockAt_le found)).trans found, tx, there, input, i, entry, same,
      isSecond, ?_⟩
    intro j higher later found'
    rcases blockAt_added_cases height found' with ⟨-, found'⟩ | ⟨-, rfl⟩
    · exact above j higher later found'
    · exact once second has
  secondLevel p spent := by
    obtain ⟨notOurs, notHtlc, spent⟩ := marks.secondLevel p spent
    exact ⟨notOurs, notHtlc, spentBy_added height spent⟩

theorem standing_added (standing : Standing prims m k block' tx o)
    (clear : ∀ tx' ∈ block.txs, prims.computeTxid tx' ∉ m.state.fundingTxids
      ∧ tx'.input.map (·.previousOutput) ≠ [o])
    (outpoint : s'.fundingOutpoint = some o) (txids : s'.fundingTxids = m.state.fundingTxids) :
    Standing prims
      ({ m with chain := block :: m.chain, state := s' } : Followed) k block' tx o where
  found := (blockAt_added height (blockAt_le standing.found)).trans standing.found
  there := standing.there
  single := standing.single
  funding := standing.funding
  notFunding := standing.notFunding
  outpoint := outpoint
  above j higher other found := by
    simp only [txids]
    rcases blockAt_added_cases height found with ⟨-, found⟩ | ⟨-, rfl⟩
    · exact standing.above j higher other found
    · exact clear

end

theorem marks_mono (marks : Marks prims m n closing) (more : n ≤ k) :
    Marks prims m k closing where
  ourOutput vout spent := by
    obtain ⟨j, bounded, rest⟩ := marks.ourOutput vout spent
    exact ⟨j, bounded.trans more, rest⟩
  htlcOutputs vout spent := by
    obtain ⟨notOurs, second, has, j, bounded, rest⟩ := marks.htlcOutputs vout spent
    exact ⟨notOurs, second, has, j, bounded.trans more, rest⟩
  secondLevel p spent := by
    obtain ⟨notOurs, notHtlc, j, bounded, rest⟩ := marks.secondLevel p spent
    exact ⟨notOurs, notHtlc, j, bounded.trans more, rest⟩

/-- A block at the height `n` lists the spends. -/
structure Listed (prims : Primitives) (m : Followed) (n : Nat) (txs : List Transaction) : Prop where
  block : ∃ block, m.blockAt n = some block ∧ ∀ tx ∈ txs, tx ∈ block.txs
  top : ∀ j > n, m.blockAt j = none

theorem spentBy_listed (listed : Listed prims m n txs) (spent : o ∈ spends txs) :
    m.SpentBy n o := by
  obtain ⟨block, found, among⟩ := listed.block
  obtain ⟨tx, there, spent⟩ := List.mem_flatMap.mp spent
  exact ⟨n, Nat.le_refl n, block, found, List.mem_flatMap.mpr ⟨tx, among tx there, spent⟩⟩

theorem marks_spend {first} (listed : Listed prims m n txs) (same : SameClose first closing)
    (source : c.isSpend → Source prims first txs c) (marks : Marks prims m n closing) :
    Marks prims m n (c.spend closing) := by
  cases c with
  | fundingConfirmed | fundingInputSpent | unilateralCloseConfirmed | mutualCloseConfirmed =>
    exact marks
  | ourOutputSpent vout =>
    refine ⟨?_, ?_, ?_⟩
    · intro vout' isOurs
      obtain ⟨entry, ours, equal⟩ := Option.map_eq_some_iff.mp isOurs
      cases source rfl with
      | @ourOutput o tracked spent =>
        have tracked := same.ours_iff.mpr tracked
        have key : entry.key = o.vout := by simpa [ours] using tracked.2
        have same : o = ⟨closing.txid, vout'⟩ :=
          outpoint_ext tracked.1.symm (key.symm.trans (congrArg Marked.key equal))
        exact same ▸ spentBy_listed listed spent
    · intro vout' marked
      have ours : Tracked.ourOutput.Of (spend (ourOutputSpent vout) closing)
          ⟨closing.txid, vout'⟩ ↔ Tracked.ourOutput.Of closing ⟨closing.txid, vout'⟩ :=
        spend_same.ours_iff
      have marks := marks.htlcOutputs vout' marked
      exact ⟨mt ours.mp marks.1, marks.2⟩
    · intro p marked
      have marks := marks.secondLevel p marked
      exact ⟨mt (spend_same (c := ourOutputSpent vout)).ours_iff.mp marks.1, marks.2⟩
  | htlcOutputSpent vout second =>
    refine ⟨marks.ourOutput, ?_, ?_⟩
    · intro vout' marked
      cases source rfl with
      | @htlcOutput tx input i there entry notOurs htlc =>
        have notOurs := mt same.ours_iff.mp notOurs
        have htlc := same.htlc_iff.mpr htlc
        have prev : input.previousOutput = ⟨closing.txid, input.previousOutput.vout⟩ :=
          outpoint_ext htlc.1.symm rfl
        by_cases here : input.previousOutput.vout = vout'
        · subst here
          obtain ⟨block, found, among⟩ := listed.block
          refine ⟨prev ▸ notOurs, _, has_append.mpr (.inr (by simp [Marked.Has])), n,
            Nat.le_refl n, block, found, tx, among tx there, input, i, entry, prev, rfl, ?_⟩
          intro j higher other found'
          cases (listed.top j higher).symm.trans found'
        · have marked := (markOf_setMark_ne here).symm.trans marked
          obtain ⟨notOurs', second, has, rest⟩ := marks.htlcOutputs vout' marked
          exact ⟨notOurs', second, has_append.mpr (.inl has), rest⟩
    · intro p marked
      have marked : markOf p closing.secondLevelHtlcOutputs = some true := by
        have marked : markOf p (closing.secondLevelHtlcOutputs ++ [⟨second, false⟩])
            = some true := marked
        rw [markOf_append] at marked
        rcases Option.or_eq_some_iff.mp marked with here | ⟨-, new⟩
        · exact here
        · obtain ⟨entry, found, isMarked⟩ := Option.map_eq_some_iff.mp new
          have only := List.mem_of_find?_eq_some found
          rw [List.mem_singleton.mp only] at isMarked
          cases isMarked
      obtain ⟨notOurs, notHtlc, spent⟩ := marks.secondLevel p marked
      refine ⟨notOurs, ?_, spent⟩
      exact mt (spend_same (c := htlcOutputSpent vout second)).htlc_iff.mp notHtlc
  | secondLevelHtlcOutputSpent outpoint =>
    refine ⟨marks.ourOutput, ?_, ?_⟩
    · intro vout' marked
      obtain ⟨notOurs, second, has, rest⟩ := marks.htlcOutputs vout' marked
      exact ⟨notOurs, second, has_setMark.mpr has, rest⟩
    · intro p marked
      cases source rfl with
      | secondLevel notOurs notHtlc spent =>
        by_cases here : outpoint = p
        · subst here
          exact ⟨mt same.ours_iff.mp notOurs, mt same.htlc_iff.mp notHtlc,
            spentBy_listed listed spent⟩
        · have marked := (markOf_setMark_ne here).symm.trans marked
          exact marks.secondLevel p marked

theorem marks_forwards (listed : Listed prims m n txs)
    (notClose : ∀ c ∈ changes, c.isUnilateralClose = false)
    (sources : ∀ c ∈ changes, c.isSpend → Source prims closing txs c)
    (found : s.closingOutpoints = some closing) (marks : Marks prims m n closing) :
    ∃ closing', (forwards changes s).closingOutpoints = some closing'
      ∧ SameClose closing closing' ∧ Marks prims m n closing' := by
  apply Undo.all_inv (fun t : State => ∃ closing', t.closingOutpoints = some closing'
    ∧ SameClose closing closing' ∧ Marks prims m n closing')
  · exact ⟨closing, found, .refl closing, marks⟩
  · intro c member t ⟨closing', found', same, marks'⟩
    refine ⟨c.spend closing', ?_, same.trans spend_same,
      marks_spend listed same (sources c member) marks'⟩
    rw [closing_forward (notClose c member), found']
    rfl

end Vls.Monitor
