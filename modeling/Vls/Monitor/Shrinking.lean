import Vls.Monitor.Growing

/-! # Blocks that are removed

A block that is removed is read again, with what the monitor and the channel tell by then. What is
on record of its events is found again, and taken off the record. -/

namespace Vls.Monitor

open StateChange Marked List

variable {prims : Primitives} {provider told : CommitmentPointProvider} {s s' : State}
  {block other : Block} {below : List Block} {fundings : List (BitVec 256)}
  {c : StateChange} {changes : List StateChange} {tx : Transaction} {o : OutPoint}
  {closing closing' : ClosingOutpoints} {j k n u : Nat}

theorem outpoint_backwards {p} (left : (backwards changes s).fundingOutpoint = some p) :
    s.fundingOutpoint = some p := by
  have traced : ∀ p ∈ (backwards changes s).fundingOutpoint, s.fundingOutpoint = some p := by
    apply Undo.all_inv (s := s) (fun t : State => ∀ p ∈ t.fundingOutpoint,
      s.fundingOutpoint = some p) fun p here => here
    intro c _ t here
    cases c with
    | fundingConfirmed =>
      intro p confirmed
      cases confirmed
    | _ => exact here
  exact traced p left

theorem outpoint_backwards_unconfirmed (nowhere : ∀ q, fundingConfirmed q ∉ changes) :
    (backwards changes s).fundingOutpoint = s.fundingOutpoint := by
  apply Undo.all_inv (fun t : State => t.fundingOutpoint = s.fundingOutpoint) rfl
  intro c member t here
  cases c with
  | fundingConfirmed q => exact absurd member (nowhere q)
  | _ => exact here

theorem mutual_backwards (left : (backwards changes s).mutualClosingHeight = some k) :
    s.mutualClosingHeight = some k ∧ ∀ txid o, mutualCloseConfirmed txid o ∉ changes := by
  induction changes generalizing s with
  | nil => exact ⟨left, fun _ _ member => absurd member not_mem_nil⟩
  | cons c rest ih =>
    obtain ⟨earlier, nowhere⟩ := ih left
    cases c with
    | mutualCloseConfirmed => cases earlier
    | _ =>
      refine ⟨earlier, ?_⟩
      intro txid o member
      rcases mem_cons.mp member with same | later
      · cases same
      · exact nowhere txid o later

/-- What is left of a close once changes have been taken back: a mark that stays was there, and is
    not among the changes. -/
structure Left (changes : List StateChange) (closing closing' : ClosingOutpoints) : Prop where
  same : SameClose closing closing'
  notClose : ∀ c ∈ changes, c.isUnilateralClose = false
  ourOutput : ∀ vout, closing'.ourOutput = some ⟨vout, true⟩ →
    closing.ourOutput = some ⟨vout, true⟩ ∧ ∀ v, ourOutputSpent v ∉ changes
  htlcOutputs : ∀ vout, markOf vout closing'.htlcOutputs = some true →
    markOf vout closing.htlcOutputs = some true ∧ ∀ p, htlcOutputSpent vout p ∉ changes
  secondLevel : ∀ p, markOf p closing'.secondLevelHtlcOutputs = some true →
    markOf p closing.secondLevelHtlcOutputs = some true ∧ secondLevelHtlcOutputSpent p ∉ changes
  kept : ∀ p, Marked.Has closing.secondLevelHtlcOutputs p → (∀ v, htlcOutputSpent v p ∉ changes) →
    Marked.Has closing'.secondLevelHtlcOutputs p

theorem not_marked_unmark {κ : Type} [DecidableEq κ] {key key'} {entries : List (Marked κ)}
    (marked : markOf key (setMark key' false entries) = some true) :
    key' ≠ key ∧ markOf key entries = some true := by
  by_cases same : key' = key
  · subst same
    have has := has_setMark.mp (has_of_markOf marked)
    cases (markOf_setMark_self has).symm.trans marked
  · exact ⟨same, (markOf_setMark_ne same).symm.trans marked⟩

theorem not_marked_removed {κ : Type} [DecidableEq κ] {key key'} {entries : List (Marked κ)}
    (marked : markOf key (remove key' entries) = some true) : markOf key entries = some true := by
  by_cases same : key' = key
  · subst same
    cases markOf_remove_self.symm.trans marked
  · exact (markOf_remove_ne same).symm.trans marked

theorem left_unspend (notClose : c.isUnilateralClose = false)
    (left : Left changes (c.unspend closing) closing') : Left (c :: changes) closing closing' where
  same := unspend_same.trans left.same
  notClose d member := by
    rcases mem_cons.mp member with rfl | later
    · exact notClose
    · exact left.notClose d later
  ourOutput vout spent := by
    obtain ⟨spent, nowhere⟩ := left.ourOutput vout spent
    cases c with
    | ourOutputSpent =>
      obtain ⟨_, -, same⟩ := Option.map_eq_some_iff.mp spent
      cases same
    | _ => exact ⟨spent, fun v member => nowhere v (by simpa using member)⟩
  htlcOutputs vout spent := by
    obtain ⟨spent, nowhere⟩ := left.htlcOutputs vout spent
    cases c with
    | htlcOutputSpent v p =>
      obtain ⟨apart, spent⟩ := not_marked_unmark spent
      refine ⟨spent, ?_⟩
      intro q member
      rcases mem_cons.mp member with same | later
      · cases same
        exact apart rfl
      · exact nowhere q later
    | _ => exact ⟨spent, fun p member => nowhere p (by simpa using member)⟩
  secondLevel p spent := by
    obtain ⟨spent, nowhere⟩ := left.secondLevel p spent
    cases c with
    | secondLevelHtlcOutputSpent q =>
      obtain ⟨apart, spent⟩ := not_marked_unmark spent
      refine ⟨spent, ?_⟩
      intro member
      rcases mem_cons.mp member with same | later
      · cases same
        exact apart rfl
      · exact nowhere later
    | htlcOutputSpent =>
      exact ⟨not_marked_removed spent, fun member => nowhere (by simpa using member)⟩
    | _ => exact ⟨spent, fun member => nowhere (by simpa using member)⟩
  kept p has nowhere := by
    apply left.kept p _ fun v member => nowhere v (mem_cons_of_mem _ member)
    cases c with
    | htlcOutputSpent v q =>
      refine has_remove.mpr ⟨has, ?_⟩
      intro same
      exact nowhere v (by simp [same])
    | secondLevelHtlcOutputSpent => exact has_setMark.mpr has
    | _ => exact has

theorem closing_backwards (found : (backwards changes s).closingOutpoints = some closing') :
    ∃ closing, s.closingOutpoints = some closing ∧ Left changes closing closing' := by
  induction changes generalizing s with
  | nil =>
    exact ⟨closing', found, .refl closing', fun c member => absurd member not_mem_nil,
      fun _ spent => ⟨spent, fun _ => not_mem_nil⟩,
      fun _ spent => ⟨spent, fun _ => not_mem_nil⟩,
      fun _ spent => ⟨spent, not_mem_nil⟩, fun _ has _ => has⟩
  | cons c rest ih =>
    obtain ⟨closing₁, found₁, left⟩ := ih found
    cases c with
    | unilateralCloseConfirmed => cases found₁
    | fundingConfirmed | fundingInputSpent | mutualCloseConfirmed =>
      exact ⟨closing₁, found₁, left_unspend rfl left⟩
    | ourOutputSpent | htlcOutputSpent | secondLevelHtlcOutputSpent =>
      obtain ⟨closing, found, rfl⟩ := Option.map_eq_some_iff.mp found₁
      exact ⟨closing, found, left_unspend rfl left⟩

section

variable (height : s'.height = s.height - 1) (positive : 0 < s.height)
include height positive

theorem blockAt_below (found : (⟨below, fundings, s'⟩ : Followed).blockAt k = some other) :
    k < s.height ∧ (⟨block :: below, fundings, s⟩ : Followed).blockAt k = some other := by
  have bounded := blockAt_le found
  simp only [height] at bounded
  have lower : k < s.height := by omega
  exact ⟨lower, (blockAt_removed height lower).symm.trans found⟩

omit positive in
theorem spentBy_removed (lower : n < s.height)
    (spent : (⟨block :: below, fundings, s⟩ : Followed).SpentBy n o) :
    (⟨below, fundings, s'⟩ : Followed).SpentBy n o := by
  obtain ⟨k, bounded, other, found, spent⟩ := spent
  have lower : k < s.height := by omega
  exact ⟨k, bounded, other, (blockAt_removed height lower).trans found, spent⟩

theorem marks_removed (lower : n < s.height)
    (marks : Marks prims ⟨block :: below, fundings, s⟩ n closing) :
    Marks prims ⟨below, fundings, s'⟩ n closing where
  ourOutput vout spent := spentBy_removed height lower (marks.ourOutput vout spent)
  htlcOutputs vout spent := by
    obtain ⟨notOurs, second, has, k, bounded, other, found, tx, there, input, i, entry, same,
      isSecond, above⟩ := marks.htlcOutputs vout spent
    have lower : k < s.height := by omega
    refine ⟨notOurs, second, has, k, bounded, other, (blockAt_removed height lower).trans found, tx,
      there, input, i, entry, same, isSecond, ?_⟩
    intro j higher later found
    exact above j higher later (blockAt_below height positive found).2
  secondLevel p spent := by
    obtain ⟨notOurs, notHtlc, spent⟩ := marks.secondLevel p spent
    exact ⟨notOurs, notHtlc, spentBy_removed height lower spent⟩

theorem standing_removed (lower : k < s.height)
    (standing : Standing prims ⟨block :: below, fundings, s⟩ k other tx o)
    (outpoint : s'.fundingOutpoint = some o) (txids : s'.fundingTxids = s.fundingTxids) :
    Standing prims ⟨below, fundings, s'⟩ k other tx o where
  found := (blockAt_removed height lower).trans standing.found
  there := standing.there
  single := standing.single
  funding := standing.funding
  notFunding := standing.notFunding
  outpoint := outpoint
  above j higher later found := by
    simp only [txids]
    exact standing.above j higher later (blockAt_below height positive found).2

end

theorem marks_left (found : s.closingOutpoints = some closing)
    (left : Left (s.decode prims provider block.txs) closing closing')
    (marks : Marks prims ⟨block :: below, fundings, s⟩ s.height closing) :
    Marks prims ⟨block :: below, fundings, s⟩ (s.height - 1) closing' := by
  -- a spend at the tip is read as one when the block is removed
  have lower (j : Nat) (other : Block)
      (here : (⟨block :: below, fundings, s⟩ : Followed).blockAt j = some other) {p : OutPoint}
      (spent : p ∈ spends other.txs) (unspent : p ∉ spends block.txs) : j < s.height := by
    have bounded : j ≤ s.height := blockAt_le here
    rcases Nat.lt_or_eq_of_le bounded with lower | rfl
    · exact lower
    · cases blockAt_tip.symm.trans here
      exact absurd spent unspent
  refine ⟨?_, ?_, ?_⟩
  · intro vout spent
    obtain ⟨spent, nowhere⟩ := left.ourOutput vout spent
    obtain ⟨j, -, other, here, spends⟩ := marks.ourOutput vout spent
    rw [left.same.txid]
    refine ⟨j, Nat.le_sub_one_of_lt (lower j other here spends ?_), other, here, spends⟩
    intro again
    have ours : Tracked.ourOutput.Of closing ⟨closing.txid, vout⟩ := ⟨rfl, by simp [spent]⟩
    exact nowhere vout (decode_ourOutput left.notClose found ours again)
  · intro vout spent
    obtain ⟨spent, nowhere⟩ := left.htlcOutputs vout spent
    obtain ⟨notOurs, second, has, j, -, other, here, tx, there, input, i, entry, same, isSecond,
      above⟩ := marks.htlcOutputs vout spent
    have spends : (⟨closing.txid, vout⟩ : OutPoint) ∈ spends other.txs :=
      mem_flatMap.mpr ⟨tx, there, same ▸ mem_map_of_mem (fst_mem_of_mem_zipIdx entry)⟩
    have higher : j < s.height := by
      apply lower j other here spends
      intro again
      have htlc : Tracked.htlcOutput.Of closing ⟨closing.txid, vout⟩ :=
        ⟨rfl, has_of_markOf spent⟩
      obtain ⟨p, member⟩ := decode_htlcOutput left.notClose found notOurs htlc again
      exact nowhere p member
    rw [left.same.txid]
    refine ⟨mt left.same.ours_iff.mp notOurs, second, ?_, j, Nat.le_sub_one_of_lt higher, other,
      here, tx, there, input, i, entry, same, isSecond, above⟩
    apply left.kept second has
    intro v member
    cases source_of_decode left.notClose found member rfl with
    | htlcOutput there => exact above _ higher block blockAt_tip (mem_map_of_mem there)
  · intro p spent
    obtain ⟨spent, nowhere⟩ := left.secondLevel p spent
    obtain ⟨notOurs, notHtlc, j, -, other, here, spends⟩ := marks.secondLevel p spent
    refine ⟨mt left.same.ours_iff.mp notOurs, mt left.same.htlc_iff.mp notHtlc, j,
      Nat.le_sub_one_of_lt (lower j other here spends ?_), other, here, spends⟩
    intro again
    exact nowhere (decode_secondLevel left.notClose found notOurs notHtlc
      (has_of_markOf spent) again)

section

variable (recorded : Recorded prims told ⟨block :: below, fundings, s⟩)
include recorded

theorem closes_tip (standing : Standing prims ⟨block :: below, fundings, s⟩ s.height other tx o) :
    other = block ∧ ∃ done rest, block.txs = done ++ tx :: rest
      ∧ (s.after prims provider done).Closes prims tx := by
  cases blockAt_tip.symm.trans standing.found
  obtain ⟨done, rest, split⟩ := append_of_mem standing.there
  refine ⟨rfl, done, rest, split, ?_, ?_⟩
  · have outpoint : (s.after prims provider done).fundingOutpoint = some o := by
      apply fundingOutpoint_after standing.outpoint
      intro q member
      obtain ⟨tx', there, confirms⟩ := fundingConfirmed_mem_decode.mp member
      exact (recorded.confirmed block (by simp) tx' (by simp [split, there]) q confirms o
        standing.outpoint).symm
    rw [State.spendsFunding, outpoint]
    simpa [map_map, Function.comp_def] using congrArg (map some) standing.single
  · intro isTxid
    obtain ⟨first, funded, isFunding⟩ := recorded.funded
    rw [forwards_kept.fundingTxids, funded.1, mem_singleton] at isTxid
    exact standing.notFunding (isTxid ▸ isFunding)

omit recorded in
theorem outpoint_removed (lower : k < s.height)
    (standing : Standing prims ⟨block :: below, fundings, s⟩ k other tx o) :
    (s.removed (s.decode prims provider block.txs)).fundingOutpoint = some o := by
  apply Eq.trans (outpoint_backwards_unconfirmed (s := s.saw) _) standing.outpoint
  intro q member
  obtain ⟨tx', there, confirms⟩ := fundingConfirmed_mem_decode.mp member
  exact (standing.above s.height lower block blockAt_tip tx' there).1 (confirms_mem confirms).1

variable {w : Watch} (removed : s.onRemoveBlock prims provider block.txs = .ok (s', w))
include removed

theorem closedMutually_removed (closedAt : s'.mutualClosingHeight = some k) :
    ∃ other tx o, Standing prims ⟨below, fundings, s'⟩ k other tx o
      ∧ closeChange prims told tx (prims.computeTxid tx)
        = .ok (mutualCloseConfirmed (prims.computeTxid tx) o) := by
  obtain ⟨rfl, readable⟩ := onRemoveBlock_ok removed
  obtain ⟨closedAt, nowhere⟩ := mutual_backwards closedAt
  obtain ⟨other, tx, o, standing, closed⟩ := recorded.closedMutually k closedAt
  have positive : 0 < s.height := Nat.lt_of_lt_of_le (by simp) recorded.fits
  have lower : k < s.height := by
    apply Nat.lt_of_le_of_ne (blockAt_le standing.found)
    rintro rfl
    obtain ⟨rfl, done, rest, split, closes⟩ := closes_tip recorded standing
    obtain ⟨c, closed'⟩ := readable done tx rest split closes
    have member := close_of_split split closes closed'
    obtain ⟨input, -, ⟨ours, htlcs, rfl⟩ | rfl⟩ := closeChange_cases closed'
    · exact closeChange_mutual closed closed'
    · exact nowhere _ _ member
  refine ⟨other, tx, o, ?_, closed⟩
  exact standing_removed height_removed positive lower standing (outpoint_removed lower standing)
    (backwards_kept (s := s.saw)).fundingTxids

theorem closing_lower (left : Left (s.decode prims provider block.txs) closing closing')
    (closed : Closing prims told ⟨block :: below, fundings, s⟩ closing u) : u < s.height := by
  obtain ⟨other, tx, o, ours, htlcs, standing, close, -⟩ := closed.standing
  apply Nat.lt_of_le_of_ne (blockAt_le standing.found)
  rintro rfl
  obtain ⟨rfl, done, rest, split, closes⟩ := closes_tip recorded standing
  obtain ⟨c, closed'⟩ := (onRemoveBlock_ok removed).2 done tx rest split closes
  have member := close_of_split split closes closed'
  obtain ⟨input, -, ⟨ours', htlcs', rfl⟩ | rfl⟩ := closeChange_cases closed'
  · cases left.notClose _ member
  · exact closeChange_mutual closed' close

theorem closing_removed (found : s'.closingOutpoints = some closing') :
    ∃ u, Closing prims told ⟨below, fundings, s'⟩ closing' u := by
  obtain ⟨rfl, -⟩ := onRemoveBlock_ok removed
  obtain ⟨closing, found, left⟩ := closing_backwards (s := s.saw) found
  obtain ⟨u, closed⟩ := recorded.closing closing found
  have positive : 0 < s.height := Nat.lt_of_lt_of_le (by simp) recorded.fits
  have lower := closing_lower recorded removed left closed
  obtain ⟨other, tx, o, ours, htlcs, standing, close, same⟩ := closed.standing
  refine ⟨u, (unilateral_kept left.notClose).2.trans closed.recorded, ⟨other, tx, o, ours, htlcs,
    ?_, close, same.trans left.same⟩, ?_⟩
  · exact standing_removed height_removed positive lower standing (outpoint_removed lower standing)
      (backwards_kept (s := s.saw)).fundingTxids
  · simp only [height_removed]
    apply marks_removed height_removed positive (Nat.sub_one_lt_of_lt positive)
    exact marks_left found left closed.marks

omit recorded removed in
theorem untracked_of_left (found : s.closingOutpoints = some closing)
    (left : Left (s.decode prims provider block.txs) closing closing')
    (swept : closing'.isAllSpent) : ∀ o ∈ spends block.txs, s.tracks o = none := by
  obtain ⟨⟨ours, htlcs⟩, seconds⟩ : (_ ∧ _) ∧ _ := by
    simpa [ClosingOutpoints.isAllSpent] using swept
  have unspentHtlc (v : U32) (has : Marked.Has closing.htlcOutputs v) :
      ∀ p, htlcOutputSpent v p ∉ s.decode prims provider block.txs := by
    have has' : Marked.Has closing'.htlcOutputs v := by
      rw [Marked.Has, left.same.htlcOutputs]
      exact has
    exact (left.htlcOutputs v (markOf_of_allMarked htlcs has')).2
  intro o spent
  cases tracked : s.tracks o with
  | none => rfl
  | some kind =>
    cases kind with
    | ourOutput =>
      have isOurs := (tracks_ourOutput found).mp tracked
      obtain ⟨entry, here, same⟩ : ∃ entry, closing'.ourOutput = some entry
          ∧ entry.key = o.vout := by
        apply Option.map_eq_some_iff.mp
        exact left.same.ourOutput.trans isOurs.2
      have isMarked : entry = ⟨o.vout, true⟩ := by
        obtain ⟨key, mark⟩ := entry
        have marked : mark = true := by simpa [here] using ours
        exact congrArg₂ mk same marked
      have nowhere := (left.ourOutput o.vout (here.trans (congrArg some isMarked))).2
      exact absurd (decode_ourOutput left.notClose found isOurs spent) (nowhere o.vout)
    | htlcOutput =>
      obtain ⟨notOurs, htlc⟩ := (tracks_htlcOutput found).mp tracked
      obtain ⟨p, member⟩ := decode_htlcOutput left.notClose found notOurs htlc spent
      exact absurd member (unspentHtlc o.vout htlc.2 p)
    | secondLevelHtlcOutput =>
      obtain ⟨notOurs, notHtlc, has⟩ := (tracks_secondLevel found).mp tracked
      have has' : Marked.Has closing'.secondLevelHtlcOutputs o := by
        apply left.kept o has
        intro v member
        cases source_of_decode left.notClose found member rfl with
        | htlcOutput _ _ _ htlc => exact unspentHtlc _ htlc.2 _ member
      have nowhere := (left.secondLevel o (markOf_of_allMarked seconds has')).2
      exact absurd (decode_secondLevel left.notClose found notOurs notHtlc has spent) nowhere

theorem swept_removed (sweptAt : s'.closingSweptHeight = some k) :
    ∃ closing ∈ s'.closingOutpoints, ∀ u ∈ s'.unilateralClosingHeight,
      Sweeping prims ⟨below, fundings, s'⟩ closing u k := by
  obtain ⟨rfl, -⟩ := onRemoveBlock_ok removed
  have sweptAt : (if s.isClosingSwept && !(backwards (s.decode prims provider block.txs)
      s.saw).isClosingSwept then none
    else (backwards (s.decode prims provider block.txs) s.saw).closingSweptHeight) = some k :=
      sweptAt
  rw [(backwards_kept (s := s.saw)).closingSweptHeight] at sweptAt
  split at sweptAt
  · cases sweptAt
  · rename_i kept
    obtain ⟨closing, found, sweeping⟩ := recorded.swept k sweptAt
    obtain ⟨u, closed⟩ := recorded.closing closing found
    have sweeping := sweeping u closed.recorded
    have found : s.closingOutpoints = some closing := found
    have before : s.isClosingSwept = true := by
      simpa [State.isClosingSwept, found] using sweeping.swept
    have after : (backwards (s.decode prims provider block.txs) s.saw).isClosingSwept = true := by
      simpa [before] using kept
    obtain ⟨closing', found', swept⟩ : ∃ closing',
        (backwards (s.decode prims provider block.txs) s.saw).closingOutpoints = some closing'
          ∧ closing'.isAllSpent := by
      unfold State.isClosingSwept at after
      cases here : (backwards (s.decode prims provider block.txs) s.saw).closingOutpoints with
      | none => simp [here] at after
      | some closing' => exact ⟨closing', rfl, by simpa [here] using after⟩
    obtain ⟨closing₁, found₁, left⟩ := closing_backwards (s := s.saw) found'
    cases found.symm.trans found₁
    have untracked := untracked_of_left found left swept
    have unspent := unspent_of_untracked untracked left.notClose
    have same := (closing_unspent (s := s.saw) left.notClose unspent).2
    have positive : 0 < s.height := Nat.lt_of_lt_of_le (by simp) recorded.fits
    have lower : k < s.height := by
      rcases sweeping.last with rfl | ⟨other, here, o, spent, tracked⟩
      · exact closing_lower recorded removed left closed
      · apply Nat.lt_of_le_of_ne (blockAt_le here)
        rintro rfl
        cases blockAt_tip.symm.trans here
        exact tracked (untracked o spent)
    refine ⟨closing, same.trans found, ?_⟩
    intro u' closedAt
    have closedAt : (backwards (s.decode prims provider block.txs) s.saw).unilateralClosingHeight
      = some u' := closedAt
    rw [(unilateral_kept left.notClose).2] at closedAt
    cases closed.recorded.symm.trans closedAt
    refine ⟨sweeping.swept, sweeping.after, ?_, ?_, ?_⟩
    · exact marks_removed height_removed positive lower sweeping.marks
    · rcases sweeping.last with here | ⟨other, here, o, spent, tracked⟩
      · exact .inl here
      · refine .inr ⟨other, (blockAt_removed height_removed lower).trans here, o, spent, ?_⟩
        have tracks : (s.removed (s.decode prims provider block.txs)).tracks o = s.tracks o :=
          tracks_congr same
        exact tracks ▸ tracked
    · intro j higher other here o spent
      have tracks : (s.removed (s.decode prims provider block.txs)).tracks o = s.tracks o :=
        tracks_congr same
      rw [tracks]
      exact sweeping.above j higher other (blockAt_below height_removed positive here).2 o spent

theorem recorded_removed : Recorded prims told ⟨below, fundings, s'⟩ := by
  have doubleSpent := doubleSpent_removed recorded.doubleSpent removed
  obtain ⟨rfl, -⟩ := onRemoveBlock_ok removed
  have kept := @backwards_kept (s.decode prims provider block.txs) s.saw
  have earlier {o : OutPoint}
      (outpoint : o ∈ (s.removed (s.decode prims provider block.txs)).fundingOutpoint) :
      s.fundingOutpoint = some o := outpoint_backwards (s := s.saw) outpoint
  exact {
    fits := by
      have fits := recorded.fits
      simp only [length_cons] at fits
      simp only [height_removed]
      omega
    funded := by
      obtain ⟨o, funded, isFunding⟩ := recorded.funded
      exact ⟨o, ⟨kept.fundingTxids.trans funded.1, kept.fundingVouts.trans funded.2⟩, isFunding⟩
    inputs := by
      intro o input
      exact recorded.inputs o (kept.fundingInputs ▸ input)
    outpoint := by
      intro o outpoint
      exact recorded.outpoint o (earlier outpoint)
    confirmed := by
      intro other here tx there p confirms o outpoint
      have confirms : (backwards (s.decode prims provider block.txs) s.saw).confirms
        (prims.computeTxid tx) = some p := confirms
      rw [confirms_kept kept] at confirms
      exact recorded.confirmed other (mem_cons_of_mem _ here) tx there p confirms o
        (earlier outpoint)
    doubleSpent := fun k recorded => (doubleSpent k recorded).2
    unfunded := by
      intro present other here
      apply recorded.unfunded _ other (mem_cons_of_mem _ here)
      obtain ⟨k, present⟩ := Option.ne_none_iff_exists'.mp present
      have present := doubleSpent_backwards (s := s.saw) present
      simp [show s.fundingDoubleSpentHeight = some k from present]
    closedMutually := fun k closedAt => closedMutually_removed recorded removed closedAt
    closing := fun closing' found => closing_removed recorded removed found
    swept := fun k sweptAt => swept_removed recorded removed sweptAt }

end

end Vls.Monitor
