import Vls.Monitor.Records

/-! # Blocks that are added

A block that is added brings records of the events it holds, and leaves those that are there. -/

namespace Vls.Monitor

open StateChange State List

variable {prims : Primitives} {provider told : CommitmentPointProvider} {m : Followed} {s t : State}
  {block : Block} {c : StateChange} {changes : List StateChange} {tx : Transaction}
  {txs : List Transaction} {o : OutPoint} {closing : ClosingOutpoints} {k n : Nat}

variable {x : State} {p : OutPoint} {txid : BitVec 256} {ours : Option U32} {htlcs : List U32}
  {u : Nat}

abbrev State.grown (prims : Primitives) (provider : CommitmentPointProvider)
    (txs : List Transaction) (s : State) : State :=
  s.added (s.decode prims provider txs)

abbrev Followed.grown (prims : Primitives) (provider : CommitmentPointProvider)
    (txs : List Transaction) (m : Followed) : Followed :=
  { m with chain := ⟨txs⟩ :: m.chain, state := m.state.grown prims provider txs }

section

variable (funded : ∃ o, s.FundedBy o)
include funded

theorem single_funding : s.fundingTxids.length ≤ 1 := by
  obtain ⟨o, txids, -⟩ := funded
  simp [txids]

theorem confirms_some (isFunding : prims.computeTxid tx ∈ s.fundingTxids) :
    ∃ p, s.confirms (prims.computeTxid tx) = some p ∧ p.txid = prims.computeTxid tx := by
  obtain ⟨o, funded⟩ := funded
  have isFunding : prims.computeTxid tx = o.txid := by simpa [funded.1] using isFunding
  exact ⟨o, (confirms_iff funded).mpr ⟨isFunding, rfl⟩, isFunding.symm⟩

theorem outpoint_confirmed (there : tx ∈ txs)
    (confirms : s.confirms (prims.computeTxid tx) = some p) :
    (forwards (s.decode prims provider txs) x).fundingOutpoint = some p := by
  apply fundingOutpoint_forwards (fundingConfirmed_mem_decode.mpr ⟨tx, there, confirms⟩)
  intro q member
  obtain ⟨_, _, confirms'⟩ := fundingConfirmed_mem_decode.mp member
  exact confirms_unique (single_funding funded) confirms' confirms

omit funded in
theorem outpoint_unconfirmed (nowhere : ∀ tx ∈ txs, prims.computeTxid tx ∉ s.fundingTxids) :
    (forwards (s.decode prims provider txs) x).fundingOutpoint = x.fundingOutpoint := by
  apply fundingOutpoint_forwards_none
  intro q member
  obtain ⟨tx, there, confirms⟩ := fundingConfirmed_mem_decode.mp member
  exact nowhere tx there (confirms_mem confirms).1

omit funded in
theorem view_unconfirmed (nowhere : ∀ tx ∈ txs, prims.computeTxid tx ∉ s.fundingTxids) :
    (s.view prims txs).fundingOutpoint = s.fundingOutpoint := by
  apply view_fundingOutpoint_none
  intro tx there
  cases confirms : s.confirms (prims.computeTxid tx) with
  | none => rfl
  | some p => exact absurd (confirms_mem confirms).1 (nowhere tx there)

theorem outpoint_view (outpoint : x.fundingOutpoint = s.fundingOutpoint) :
    (forwards (s.decode prims provider txs) x).fundingOutpoint
      = (s.view prims txs).fundingOutpoint := by
  by_cases funding : ∃ tx ∈ txs, prims.computeTxid tx ∈ s.fundingTxids
  · obtain ⟨tx, there, isFunding⟩ := funding
    obtain ⟨p, confirms, -⟩ := confirms_some funded isFunding
    rw [outpoint_confirmed funded there confirms,
      view_fundingOutpoint (single_funding funded) there confirms]
  · have nowhere := fun tx there isFunding => funding ⟨tx, there, isFunding⟩
    rw [outpoint_unconfirmed nowhere, outpoint, view_unconfirmed nowhere]

end

section

variable (funded : ∃ o, m.state.FundedBy o) (consistent : Consistent prims m.state txs)
  (ordinary : Ordinary prims m txs)
include funded consistent ordinary

theorem closes_view {done rest} (split : txs = done ++ tx :: rest) :
    (m.state.after prims provider done).Closes prims tx
      ↔ (m.state.view prims txs).Closes prims tx := by
  have txids : (m.state.after prims provider done).fundingTxids = m.state.fundingTxids :=
    forwards_kept.fundingTxids
  by_cases funding : ∃ tx ∈ txs, prims.computeTxid tx ∈ m.state.fundingTxids
  · obtain ⟨funding, there, isFunding⟩ := funding
    obtain ⟨p, confirms, txid⟩ := confirms_some funded isFunding
    have viewed := view_fundingOutpoint (single_funding funded) there confirms
    rw [split] at there
    rcases mem_append.mp there with before | after
    · have same : (m.state.after prims provider done).fundingOutpoint = some p :=
        outpoint_confirmed funded before confirms
      simp only [State.Closes, spendsFunding, txids, same, viewed]
      rfl
    · -- neither spends the old funding outpoint, nor the new one before it is there
      constructor
      · intro closes
        have unchanged : (m.state.after prims provider done).fundingOutpoint
            = m.state.fundingOutpoint := by
          apply outpoint_unconfirmed
          intro other before isFunding'
          have same := eq_of_single (single_funding funded) isFunding isFunding'
          have apart := consistent.txidsApart
          rw [split, map_append, nodup_append] at apart
          exact apart.2.2 _ (mem_map_of_mem before) _ (mem_map_of_mem after) same.symm
        have here : tx ∈ txs := by simp [split]
        have there : funding ∈ txs := split ▸ there
        apply absurd _ ((ordinary.funding funding there isFunding).2.2 tx here)
        simpa only [State.Closes, spendsFunding, txids, unchanged] using closes
      · intro closes
        have single := closes.1
        simp only [spendsFunding, viewed] at single
        obtain ⟨input, inputs, equal⟩ := map_eq_singleton_iff.mp single
        have ordered := (split ▸ consistent.ordered).split input (by simp [inputs])
        rw [Option.some.inj equal, txid] at ordered
        exact absurd (mem_map_of_mem after) ordered
  · have nowhere := fun tx there isFunding => funding ⟨tx, there, isFunding⟩
    have unchanged : (m.state.after prims provider done).fundingOutpoint
        = m.state.fundingOutpoint := by
      apply outpoint_unconfirmed
      intro other before
      exact nowhere other (by simp [split, before])
    simp only [State.Closes, spendsFunding, txids, unchanged, view_unconfirmed nowhere]
    rfl

omit funded in
theorem clear_of_closed
    (closed : m.state.mutualClosingHeight ≠ none ∨ m.state.unilateralClosingHeight ≠ none)
    (outpoint : m.state.fundingOutpoint = some o) :
    ∀ tx ∈ txs, prims.computeTxid tx ∉ m.state.fundingTxids
      ∧ tx.input.map (·.previousOutput) ≠ [o] := by
  have nowhere : ∀ tx ∈ txs, prims.computeTxid tx ∉ m.state.fundingTxids := by
    intro tx there isFunding
    obtain ⟨noMutual, noUnilateral, -⟩ := ordinary.funding tx there isFunding
    rcases closed with closed | closed
    · exact closed noMutual
    · exact closed noUnilateral
  intro tx there
  refine ⟨nowhere tx there, ?_⟩
  intro single
  have viewed := (view_unconfirmed nowhere).trans outpoint
  have closes : (m.state.view prims txs).Closes prims tx := by
    refine ⟨?_, nowhere tx there⟩
    rw [spendsFunding, viewed]
    simpa [map_map, Function.comp_def] using congrArg (map some) single
  obtain ⟨noUnilateral, noMutual, -⟩ := consistent.closedOnce tx there closes
  rcases closed with closed | closed
  · exact closed noMutual
  · exact closed noUnilateral

theorem closes_once {done rest} (split : txs = done ++ tx :: rest)
    (closes : (m.state.view prims txs).Closes prims tx) :
    (∀ c ∈ m.state.decode prims provider done, c.isClose = false)
      ∧ ∀ c ∈ (m.state.after prims provider (done ++ [tx])).decode prims provider rest,
        c.isClose = false := by
  have once : ∀ tx', tx' ∈ done ∨ tx' ∈ rest → ¬ (m.state.view prims txs).Closes prims tx' := by
    intro tx' elsewhere closes'
    have single := closes.1
    have single' := closes'.1
    obtain ⟨input, inputs, equal⟩ := map_eq_singleton_iff.mp single
    obtain ⟨input', inputs', equal'⟩ := map_eq_singleton_iff.mp single'
    have same := Option.some.inj (equal.trans equal'.symm)
    have spentOnce := consistent.spentOnce
    rw [split, spends, flatMap_append, flatMap_cons, nodup_append, nodup_append] at spentOnce
    have here : input.previousOutput ∈ tx.input.map (·.previousOutput) := by simp [inputs]
    have there : input.previousOutput ∈ tx'.input.map (·.previousOutput) := by simp [inputs', same]
    rcases elsewhere with before | after
    · exact spentOnce.2.2 _ (mem_flatMap.mpr ⟨tx', before, there⟩) _
        (mem_append_left _ here) rfl
    · exact spentOnce.2.1.2.2 _ here _ (mem_flatMap.mpr ⟨tx', after, there⟩) rfl
  constructor
  · intro c member
    by_contra isClose
    obtain ⟨before, tx', after, done', closes', -⟩ :=
      close_mem_decode member (by simpa using isClose)
    have split' : txs = before ++ tx' :: (after ++ tx :: rest) := by simp [split, done']
    have viewed := (closes_view funded consistent ordinary split').mp closes'
    exact once tx' (.inl (by simp [done'])) viewed
  · intro c member
    by_contra isClose
    obtain ⟨before, tx', after, rest', closes', -⟩ :=
      close_mem_decode member (by simpa using isClose)
    have split' : txs = (done ++ [tx] ++ before) ++ tx' :: after := by simp [split, rest']
    rw [← after_append] at closes'
    have viewed := (closes_view funded consistent ordinary split').mp closes'
    exact once tx' (.inr (by simp [rest'])) viewed

end

theorem standing_new (funded : ∃ o, m.state.FundedBy o ∧ o.txid ∈ m.fundings)
    (outpoints : ∀ o ∈ m.state.fundingOutpoint, o.txid ∈ m.fundings)
    (ordinary : Ordinary prims m txs) (there : tx ∈ txs)
    (closes : (m.state.view prims txs).Closes prims tx) {input} (single : tx.input = [input]) :
    Standing prims (m.grown prims provider txs)
      (m.state.height + 1) ⟨txs⟩ tx input.previousOutput := by
  obtain ⟨first, funded, isFunding⟩ := funded
  have viewed : (m.state.view prims txs).fundingOutpoint = some input.previousOutput := by
    have spends := closes.1
    simp only [spendsFunding, single, map_cons, map_nil, cons.injEq, and_true] at spends
    exact spends.symm
  have notFunding := fun isFunding => closes.2 (ordinary.former tx there isFunding)
  refine ⟨⟨blockAt_new height_added, there, by simp [single], ?_, notFunding⟩, ?_, ?_⟩
  · -- the outpoint is on record already, or confirmed by the block
    by_cases confirmed : ∃ tx ∈ txs, prims.computeTxid tx ∈ m.state.fundingTxids
    · obtain ⟨funding, member, isTxid⟩ := confirmed
      obtain ⟨p, confirms, txid⟩ := confirms_some ⟨first, funded⟩ isTxid
      have same := view_fundingOutpoint (single_funding ⟨first, funded⟩) member confirms
      cases viewed.symm.trans same
      rw [funded.1, mem_singleton] at isTxid
      rw [txid, isTxid]
      exact isFunding
    · have unconfirmed := view_unconfirmed fun tx there isTxid => confirmed ⟨tx, there, isTxid⟩
      exact outpoints _ (unconfirmed.symm.trans viewed)
  · exact (outpoint_view (x := m.state.next) ⟨first, funded⟩ rfl).trans viewed
  · intro j higher other found
    have bounded := blockAt_le found
    simp only [height_added] at bounded
    omega

theorem unilateral_kept (notClose : ∀ c ∈ changes, c.isUnilateralClose = false) :
    (forwards changes s).unilateralClosingHeight = s.unilateralClosingHeight
      ∧ (backwards changes s).unilateralClosingHeight = s.unilateralClosingHeight := by
  constructor
  all_goals
    apply Undo.all_inv (fun t : State => t.unilateralClosingHeight = s.unilateralClosingHeight) rfl
    intro c member t here
    cases c with
    | unilateralCloseConfirmed => cases notClose _ member
    | _ => exact here

theorem unilateral_forwards_some (member : c ∈ changes) (isClose : c.isUnilateralClose) :
    (forwards changes s).unilateralClosingHeight = some s.height := by
  obtain ⟨before, after, rfl⟩ := append_of_mem member
  have height : (forwards before s).height = s.height := forwards_kept.height
  rw [forwards, Undo.all_append, Undo.all_cons]
  apply And.right (a := _ = s.height)
  apply Undo.all_inv (fun t : State => t.height = s.height
    ∧ t.unilateralClosingHeight = some s.height)
  · cases c with
    | unilateralCloseConfirmed => exact ⟨height, congrArg some height⟩
    | _ => cases isClose
  · rintro d - t ⟨height, here⟩
    refine ⟨forward_kept.height.trans height, ?_⟩
    cases d with
    | unilateralCloseConfirmed => exact congrArg some height
    | _ => exact here

theorem mutual_forwards {k} (recorded : (forwards changes s).mutualClosingHeight = some k) :
    s.mutualClosingHeight = some k
      ∨ k = s.height ∧ ∃ txid o, mutualCloseConfirmed txid o ∈ changes := by
  have traced : (forwards changes s).height = s.height
      ∧ ∀ k ∈ (forwards changes s).mutualClosingHeight, s.mutualClosingHeight = some k
        ∨ k = s.height ∧ ∃ txid o, mutualCloseConfirmed txid o ∈ changes := by
    apply Undo.all_inv (s := s) (fun t : State => t.height = s.height
      ∧ ∀ k ∈ t.mutualClosingHeight, s.mutualClosingHeight = some k
        ∨ k = s.height ∧ ∃ txid o, mutualCloseConfirmed txid o ∈ changes)
      ⟨rfl, fun k recorded => .inl recorded⟩
    intro c member t ⟨height, here⟩
    refine ⟨forward_kept.height.trans height, ?_⟩
    cases c with
    | mutualCloseConfirmed txid outpoint =>
      intro k recorded
      have same : t.height = k := Option.some.inj recorded
      exact .inr ⟨same.symm.trans height, txid, outpoint, member⟩
    | _ => exact here
  exact traced.2 k recorded

theorem doubleSpent_unspent (absent : s.fundingDoubleSpentHeight = none)
    (unspent : ∀ o, fundingInputSpent o ∉ changes) :
    (forwards changes s).fundingDoubleSpentHeight = none := by
  cases recorded : (forwards changes s).fundingDoubleSpentHeight with
  | none => rfl
  | some k =>
    rcases doubleSpent_forwards recorded with earlier | ⟨-, o, spent⟩
    · cases absent.symm.trans earlier
    · exact absurd spent (unspent o)

theorem doubleSpent_confirmed (confirms : t.confirms (prims.computeTxid tx) = some p) :
    (forwards (t.changesIn prims provider tx) x).fundingDoubleSpentHeight = none := by
  rw [changesIn, endChanges, confirms, forwards_append, forwards_append]
  apply doubleSpent_unspent
  · rfl
  · intro o member
    rcases mem_append.mp member with close | htlc
    · obtain ⟨-, closed, -⟩ := mem_closeChanges close
      obtain ⟨_, _, ⟨_, _, same⟩ | same⟩ := closeChange_cases closed
      · cases same
      · cases same
    · obtain ⟨_, -, same⟩ := mem_map.mp htlc
      cases same

theorem listed_added (among : ∀ tx ∈ txs, tx ∈ block.txs) :
    Listed prims { m with
      chain := block :: m.chain, state := m.state.added changes } (m.state.height + 1) txs where
  block := ⟨_, blockAt_new height_added, among⟩
  top j higher := by
    cases found : Followed.blockAt _ j with
    | none => rfl
    | some other =>
      have bounded := blockAt_le found
      simp only [height_added] at bounded
      omega

theorem closing_forwards_congr (same : s.closingOutpoints = t.closingOutpoints) :
    (forwards changes s).closingOutpoints = (forwards changes t).closingOutpoints := by
  induction changes generalizing s t with
  | nil => exact same
  | cons c rest ih =>
    apply ih
    cases c with
    | unilateralCloseConfirmed => rfl
    | fundingConfirmed | fundingInputSpent | mutualCloseConfirmed => exact same
    | ourOutputSpent | htlcOutputSpent | secondLevelHtlcOutputSpent =>
      exact congrArg (Option.map _) same

theorem closing_unspent (notClose : ∀ c ∈ changes, c.isUnilateralClose = false)
    (unspent : ∀ c ∈ changes, c.isSpend = false) :
    (forwards changes s).closingOutpoints = s.closingOutpoints
      ∧ (backwards changes s).closingOutpoints = s.closingOutpoints := by
  constructor
  all_goals
    apply Undo.all_inv (fun t : State => t.closingOutpoints = s.closingOutpoints) rfl
    intro c member t here
    have notClose := notClose c member
    have unspent := unspent c member
    cases c with
    | unilateralCloseConfirmed => cases notClose
    | fundingConfirmed | fundingInputSpent | mutualCloseConfirmed => exact here
    | ourOutputSpent | htlcOutputSpent | secondLevelHtlcOutputSpent => cases unspent

theorem tracks_congr (same : s.closingOutpoints = t.closingOutpoints) :
    s.tracks o = t.tracks o := by
  rw [tracks, tracks, same]

theorem tracked_of_spend (notClose : ∀ c ∈ s.decode prims provider txs, c.isUnilateralClose = false)
    (found : s.closingOutpoints = some closing) (member : c ∈ s.decode prims provider txs)
    (isSpend : c.isSpend) : ∃ o ∈ spends txs, (s.after prims provider txs).tracks o ≠ none := by
  obtain ⟨done, tx, rest, split, here⟩ := mem_decode member
  have whole : s.after prims provider txs
      = (s.after prims provider done).after prims provider (tx :: rest) := by
    rw [split, after_append]
  have notAfter : ∀ c ∈ (s.after prims provider done).decode prims provider (tx :: rest),
      c.isUnilateralClose = false := by
    intro c later
    apply notClose c
    rw [split, decode_append]
    exact mem_append_right _ later
  obtain ⟨closing', found', -, -⟩ := closing_forwards (notClose_done notClose split) found
  obtain ⟨closing'', found'', same, second⟩ := closing_forwards notAfter found'
  rw [whole]
  rcases mem_changesIn here with ⟨p, -, rfl⟩ | ⟨input, spent, arises⟩
  · cases isSpend
  · have spent : input.previousOutput ∈ spends txs :=
      mem_flatMap.mpr ⟨tx, by simp [split], mem_map_of_mem spent⟩
    cases arises with
    | fundingInput => cases isSpend
    | ourOutput tracked =>
      have ours := (tracks_ourOutput found').mp tracked
      refine ⟨_, spent, ?_⟩
      simp [(tracks_ourOutput found'').mpr (same.ours_iff.mpr ours)]
    | htlcOutput _ _ tracked =>
      obtain ⟨notOurs, htlc⟩ := (tracks_htlcOutput found').mp tracked
      refine ⟨_, spent, ?_⟩
      simp [(tracks_htlcOutput found'').mpr ⟨mt same.ours_iff.mp notOurs, same.htlc_iff.mpr htlc⟩]
    | secondLevel tracked =>
      obtain ⟨notOurs, notHtlc, has⟩ := (tracks_secondLevel found').mp tracked
      refine ⟨_, spent, ?_⟩
      simp [(tracks_secondLevel found'').mpr
        ⟨mt same.ours_iff.mp notOurs, mt same.htlc_iff.mp notHtlc, second _ has⟩]
    | close _ closed _ =>
      obtain ⟨_, _, ⟨ours, htlcs, rfl⟩ | rfl⟩ := closeChange_cases closed
      · cases isSpend
      · cases isSpend

theorem unspent_of_untracked (untracked : ∀ o ∈ spends txs, s.tracks o = none)
    (notClose : ∀ c ∈ s.decode prims provider txs, c.isUnilateralClose = false) :
    ∀ c ∈ s.decode prims provider txs, c.isSpend = false := by
  induction txs generalizing s with
  | nil => exact fun c member => absurd member not_mem_nil
  | cons tx rest ih =>
    have here : ∀ c ∈ s.changesIn prims provider tx, c.isSpend = false := by
      intro c member
      rcases mem_changesIn member with ⟨p, -, rfl⟩ | ⟨input, spent, arises⟩
      · rfl
      · have untracked : s.tracks input.previousOutput = none :=
          untracked _ (mem_flatMap.mpr ⟨tx, by simp, mem_map_of_mem spent⟩)
        cases arises with
        | fundingInput => rfl
        | ourOutput tracked | secondLevel tracked | htlcOutput _ _ tracked =>
          cases untracked.symm.trans tracked
        | close _ closed _ =>
          obtain ⟨_, _, ⟨ours, htlcs, rfl⟩ | rfl⟩ := closeChange_cases closed <;> rfl
    have same : (forwards (s.changesIn prims provider tx) s).closingOutpoints
        = s.closingOutpoints :=
      (closing_unspent (fun c member => notClose c (mem_append_left _ member)) here).1
    intro c member
    rcases mem_append.mp member with first | later
    · exact here c first
    · apply ih _ (fun c member => notClose c (mem_append_right _ member)) c later
      intro o spent
      rw [tracks_congr same]
      exact untracked o (mem_append_right _ spent)

theorem untracked_of_swept (consistent : Consistent prims s txs)
    (found : s.closingOutpoints = some closing) (swept : closing.isAllSpent) :
    ∀ o ∈ spends txs, s.tracks o = none := by
  intro o spent
  obtain ⟨⟨ours, htlcs⟩, seconds⟩ : (_ ∧ _) ∧ _ := by
    simpa [ClosingOutpoints.isAllSpent] using swept
  cases tracked : s.tracks o with
  | none => rfl
  | some kind =>
    obtain ⟨closing', found', is⟩ := tracks_some tracked
    cases found.symm.trans found'
    cases kind with
    | ourOutput =>
      have unspent := consistent.ourOutput closing found o spent
        (ClosingOutpoints.includesOurOutput_iff.mpr is)
      simp [unspent] at ours
    | htlcOutput =>
      have unspent := consistent.htlcOutputs closing found o spent
        (ClosingOutpoints.includesHtlcOutput_iff.mpr is)
      cases unspent.symm.trans (Marked.markOf_of_allMarked htlcs is.2)
    | secondLevelHtlcOutput =>
      have unspent := consistent.secondLevel closing found o spent
        (ClosingOutpoints.includesSecondLevelHtlcOutput_iff.mpr is)
      cases unspent.symm.trans (Marked.markOf_of_allMarked seconds is)

theorem marks_new :
    Marks prims m n (.new txid ours htlcs) where
  ourOutput vout spent := by
    obtain ⟨_, _, same⟩ := Option.map_eq_some_iff.mp spent
    cases same
  htlcOutputs vout spent := by
    obtain ⟨entry, found, isMarked⟩ := Option.map_eq_some_iff.mp spent
    obtain ⟨_, _, rfl⟩ := mem_map.mp (mem_of_find?_eq_some found)
    cases isMarked
  secondLevel p spent := by cases spent

theorem notUnilateral (notClose : c.isClose = false) : c.isUnilateralClose = false := by
  cases c <;> first | rfl | cases notClose

theorem closing_of_changesIn (absent : t.closingOutpoints = none) (closes : t.Closes prims tx)
    (closed : closeChange prims provider tx (prims.computeTxid tx)
      = .ok (unilateralCloseConfirmed txid o ours htlcs)) :
    (forwards (t.changesIn prims provider tx) x).closingOutpoints
      = some (.new txid ours htlcs) := by
  have made : t.closeChanges prims provider tx = [unilateralCloseConfirmed txid o ours htlcs] := by
    simp [closeChanges, closes, closed, Except.toOption]
  have unspent : t.htlcChanges prims tx = [] := by
    simp [htlcChanges, spentHtlcs, tracks_none absent]
  rw [changesIn, endChanges, made, unspent, append_nil, ← append_assoc, forwards_append]
  rfl

section

variable (recorded : Recorded prims told m) (consistent : Consistent prims m.state txs)
  (ordinary : Ordinary prims m txs)
include recorded consistent ordinary

theorem nowhere_of_closing (found : closing ∈ m.state.closingOutpoints) :
    ∀ tx ∈ txs, prims.computeTxid tx ∉ m.state.fundingTxids
      ∧ ∀ o, m.state.fundingOutpoint = some o → tx.input.map (·.previousOutput) ≠ [o] := by
  obtain ⟨u, closed⟩ := recorded.closing closing found
  obtain ⟨block, tx, o, ours, htlcs, standing, -, -⟩ := closed.standing
  have clear := clear_of_closed consistent ordinary (.inr (by simp [closed.recorded]))
    standing.outpoint
  intro tx there
  refine ⟨(clear tx there).1, ?_⟩
  intro o' outpoint
  cases standing.outpoint.symm.trans outpoint
  exact (clear tx there).2

theorem unclosed_of_closing (found : closing ∈ m.state.closingOutpoints) :
    ∀ c ∈ m.state.decode prims provider txs, c.isClose = false := by
  obtain ⟨u, closed⟩ := recorded.closing closing found
  obtain ⟨block, tx, o, ours, htlcs, standing, -, -⟩ := closed.standing
  have clear := nowhere_of_closing recorded consistent ordinary found
  intro c member
  by_contra isClose
  obtain ⟨done, tx, rest, split, closes, -⟩ := close_mem_decode member (by simpa using isClose)
  have unchanged : (m.state.after prims provider done).fundingOutpoint
      = m.state.fundingOutpoint := by
    apply outpoint_unconfirmed
    intro other before
    exact (clear other (by simp [split, before])).1
  have single := closes.1
  rw [spendsFunding, unchanged, standing.outpoint] at single
  obtain ⟨input, inputs, equal⟩ := map_eq_singleton_iff.mp single
  refine (clear tx (by simp [split])).2 o standing.outpoint ?_
  rw [inputs, ← Option.some.inj equal]
  rfl

theorem closing_kept (found : closing ∈ m.state.closingOutpoints) :
    ∃ closing' u, (m.state.grown prims provider txs).closingOutpoints = some closing'
      ∧ SameClose closing closing'
      ∧ Closing prims told (m.grown prims provider txs) closing' u
      ∧ m.state.unilateralClosingHeight = some u := by
  obtain ⟨u, closed⟩ := recorded.closing closing found
  have clear := nowhere_of_closing recorded consistent ordinary found
  obtain ⟨block, tx, o, ours, htlcs, standing, close, same⟩ := closed.standing
  have notClose := fun c (member : c ∈ m.state.decode prims provider txs) =>
    notUnilateral (unclosed_of_closing recorded consistent ordinary found c member)
  have once : ∀ p, Marked.Has closing.secondLevelHtlcOutputs p →
      p.txid ∉ txs.map prims.computeTxid := by
    intro p has
    obtain ⟨entry, member, rfl⟩ := mem_map.mp has
    exact consistent.secondLevelOnce closing found entry member
  have marks : Marks prims (m.grown prims provider txs) (m.state.height + 1) closing :=
    marks_mono (marks_added height_added closed.marks once) (Nat.le_succ m.state.height)
  have sources : ∀ c ∈ m.state.decode prims provider txs, c.isSpend →
      Source prims closing txs c := fun c member isSpend =>
    source_of_decode notClose found member isSpend
  have foundNext : m.state.next.closingOutpoints = some closing := found
  obtain ⟨closing', found', same', marks'⟩ :=
    marks_forwards (listed_added fun _ there => there) notClose sources foundNext marks
  refine ⟨closing', u, found', same', ?_, closed.recorded⟩
  refine ⟨(unilateral_kept notClose).1.trans closed.recorded,
    ⟨block, tx, o, ours, htlcs, ?_, close, same.trans same'⟩, ?_⟩
  · apply standing_added height_added standing
    · intro tx' there
      exact ⟨(clear tx' there).1, (clear tx' there).2 o standing.outpoint⟩
    · apply Eq.trans (outpoint_unconfirmed fun tx' there => (clear tx' there).1)
      exact standing.outpoint
    · exact (forwards_kept (s := m.state.next)).fundingTxids
  · simp only [height_added]
    exact marks'

theorem closing_made (tells : Tells prims told m provider txs)
    (absent : m.state.closingOutpoints = none)
    (found : closing ∈ (m.state.grown prims provider txs).closingOutpoints) :
    Closing prims told (m.grown prims provider txs) closing
      (m.state.height + 1) := by
  obtain ⟨first, funded, isFunding⟩ := recorded.funded
  obtain ⟨c, member, isUnilateral⟩ : ∃ c ∈ m.state.decode prims provider txs,
      c.isUnilateralClose = true := by
    by_contra nowhere
    have notClose : ∀ c ∈ m.state.decode prims provider txs, c.isUnilateralClose = false := by
      intro c member
      by_contra isUnilateral
      exact nowhere ⟨c, member, by simpa using isUnilateral⟩
    have absent' := closing_forwards_none (s := m.state.next) notClose absent
    cases absent'.symm.trans found
  have isClose : c.isClose := by cases c <;> first | rfl | cases isUnilateral
  obtain ⟨done, tx, rest, split, closes, closed⟩ := close_mem_decode member isClose
  have there : tx ∈ txs := by simp [split]
  have viewed := (closes_view ⟨first, funded⟩ consistent ordinary split).mp closes
  obtain ⟨before, after⟩ := @closes_once _ provider _ _ _ ⟨first, funded⟩ consistent ordinary _ _
    split viewed
  obtain ⟨input, single, ⟨ours, htlcs, rfl⟩ | rfl⟩ := closeChange_cases closed
  swap
  · cases isUnilateral
  have notBefore := fun c member => notUnilateral (before c member)
  have notAfter := fun c member => notUnilateral (after c member)
  have made : (m.state.after prims provider (done ++ [tx])).closingOutpoints
      = some (.new (prims.computeTxid tx) ours htlcs) := by
    rw [after_concat]
    exact closing_of_changesIn (closing_forwards_none notBefore absent) closes closed
  have madeNext :
      (forwards (m.state.decode prims provider (done ++ [tx])) m.state.next).closingOutpoints
      = some (.new (prims.computeTxid tx) ours htlcs) := by
    rw [decode_concat, forwards_append]
    exact closing_of_changesIn (closing_forwards_none notBefore absent) closes closed
  have initial : Marks prims (m.grown prims provider txs) (m.state.height + 1)
      (.new (prims.computeTxid tx) ours htlcs) := marks_new
  have among : ∀ tx' ∈ rest, tx' ∈ (⟨txs⟩ : Block).txs := by
    intro tx' later
    simp [split, later]
  obtain ⟨closing', found', same, marks⟩ := marks_forwards (listed_added among) notAfter
    (fun c member isSpend => source_of_decode notAfter made member isSpend) madeNext initial
  have whole : m.state.decode prims provider txs = m.state.decode prims provider (done ++ [tx])
        ++ (m.state.after prims provider (done ++ [tx])).decode prims provider rest := by
    rw [← decode_append, split, append_assoc]
    rfl
  rw [← forwards_append, ← whole] at found'
  cases found.symm.trans found'
  refine ⟨unilateral_forwards_some member isUnilateral, ⟨_, tx, _, ours, htlcs,
    standing_new recorded.funded recorded.outpoint ordinary there viewed single,
    (tells tx there viewed).symm.trans closed, same⟩, ?_⟩
  simp only [height_added]
  exact marks

omit consistent ordinary in
theorem single_recorded : ∃ o, m.state.FundedBy o := by
  obtain ⟨o, funded, -⟩ := recorded.funded
  exact ⟨o, funded⟩

theorem closedMutually_added (tells : Tells prims told m provider txs) :
    ∀ k ∈ (m.state.grown prims provider txs).mutualClosingHeight,
      ∃ block tx o, Standing prims (m.grown prims provider txs) k block tx o
        ∧ closeChange prims told tx (prims.computeTxid tx)
          = .ok (mutualCloseConfirmed (prims.computeTxid tx) o) := by
  intro k closedAt
  rcases mutual_forwards (s := m.state.next) closedAt with earlier | ⟨rfl, txid, p, member⟩
  · have earlier : m.state.mutualClosingHeight = some k := earlier
    obtain ⟨block, tx, o, standing, closed⟩ := recorded.closedMutually k earlier
    have clear := clear_of_closed consistent ordinary (.inl (by simp [earlier])) standing.outpoint
    refine ⟨block, tx, o, ?_, closed⟩
    apply standing_added height_added standing clear
    · exact (outpoint_unconfirmed fun tx there => (clear tx there).1).trans standing.outpoint
    · exact (forwards_kept (s := m.state.next)).fundingTxids
  · obtain ⟨done, tx, rest, split, closes, closed⟩ := close_mem_decode member rfl
    have viewed :=
      (closes_view (single_recorded recorded) consistent ordinary split).mp closes
    obtain ⟨input, single, ⟨_, _, same⟩ | same⟩ := closeChange_cases closed
    · cases same
    · cases same
      have there : tx ∈ txs := by simp [split]
      exact ⟨_, tx, _, standing_new recorded.funded recorded.outpoint ordinary there viewed single,
        (tells tx there viewed).symm.trans closed⟩

omit consistent ordinary in
theorem outpoint_added :
    ∀ o ∈ (m.state.grown prims provider txs).fundingOutpoint,
      o.txid ∈ m.fundings := by
  intro o outpoint
  obtain ⟨first, funded, isFunding⟩ := recorded.funded
  by_cases funding : ∃ tx ∈ txs, prims.computeTxid tx ∈ m.state.fundingTxids
  · obtain ⟨tx, there, isTxid⟩ := funding
    obtain ⟨p, confirms, txid⟩ := confirms_some ⟨first, funded⟩ isTxid
    have same : (m.state.grown prims provider txs).fundingOutpoint = some p :=
      outpoint_confirmed ⟨first, funded⟩ there confirms
    cases same.symm.trans outpoint
    rw [funded.1, mem_singleton] at isTxid
    rw [txid, isTxid]
    exact isFunding
  · have same : (m.state.grown prims provider txs).fundingOutpoint = m.state.fundingOutpoint :=
      outpoint_unconfirmed fun tx there isTxid => funding ⟨tx, there, isTxid⟩
    exact recorded.outpoint o (same.symm.trans outpoint)

omit consistent ordinary in
theorem confirmed_added {block} (here : block ∈ (⟨txs⟩ : Block) :: m.chain)
    (there : tx ∈ block.txs) (confirms : m.state.confirms (prims.computeTxid tx) = some p) :
    ∀ o ∈ (m.state.grown prims provider txs).fundingOutpoint, o = p := by
  intro o outpoint
  have funded := single_recorded recorded
  by_cases funding : ∃ tx ∈ txs, prims.computeTxid tx ∈ m.state.fundingTxids
  · obtain ⟨tx', there', isTxid⟩ := funding
    obtain ⟨p', confirms', -⟩ := confirms_some funded isTxid
    have same : (m.state.grown prims provider txs).fundingOutpoint = some p' :=
      outpoint_confirmed funded there' confirms'
    rw [Option.some.inj (outpoint.symm.trans same)]
    exact confirms_unique (single_funding funded) confirms' confirms
  · have nowhere := fun tx there isTxid => funding ⟨tx, there, isTxid⟩
    rcases mem_cons.mp here with rfl | below
    · exact absurd (confirms_mem confirms).1 (nowhere tx there)
    · have same : (m.state.grown prims provider txs).fundingOutpoint
          = m.state.fundingOutpoint := outpoint_unconfirmed nowhere
      exact recorded.confirmed block below tx there p confirms o (same.symm.trans outpoint)

omit recorded in
theorem doubleSpent_of_funding (funded : ∃ o, m.state.FundedBy o ∧ o.txid ∈ m.fundings)
    (there : tx ∈ txs) (isFunding : prims.computeTxid tx ∈ m.fundings) :
    (m.state.grown prims provider txs).fundingDoubleSpentHeight = none := by
  have isTxid := ordinary.former tx there isFunding
  obtain ⟨first, funded, -⟩ := funded
  obtain ⟨p, confirms, -⟩ := confirms_some ⟨first, funded⟩ isTxid
  obtain ⟨done, rest, split⟩ := append_of_mem there
  have confirms' : (m.state.after prims provider done).confirms (prims.computeTxid tx) = some p :=
    (confirms_kept forwards_kept).trans confirms
  have whole : m.state.decode prims provider txs = m.state.decode prims provider done
        ++ (m.state.after prims provider done).changesIn prims provider tx
        ++ (m.state.after prims provider (done ++ [tx])).decode prims provider rest := by
    rw [← decode_concat, ← decode_append, split, append_assoc]
    rfl
  change (forwards (m.state.decode prims provider txs) m.state.next).fundingDoubleSpentHeight = none
  rw [whole, forwards_append, forwards_append]
  apply doubleSpent_unspent (doubleSpent_confirmed confirms')
  intro o member
  obtain ⟨spent, input⟩ := fundingInputSpent_mem.mp member
  obtain ⟨other, later, spent⟩ := mem_flatMap.mp spent
  obtain ⟨entry, inputs, rfl⟩ := mem_map.mp spent
  rw [forwards_kept.fundingInputs] at input
  have otherwise : prims.computeTxid other ∉ m.state.fundingTxids := by
    intro isTxid'
    have same := eq_of_single (single_funding ⟨first, funded⟩) isTxid isTxid'
    have apart := consistent.txidsApart
    rw [split, map_append, map_cons, nodup_append, nodup_cons] at apart
    exact apart.2.1.1 (same ▸ mem_map_of_mem later)
  have unfunded := ordinary.doubleSpend other (by simp [split, later]) otherwise
    ⟨entry, inputs, input⟩
  exact unfunded.2 tx there isFunding

theorem unfunded_added
    (doubleSpent : (m.state.grown prims provider txs).fundingDoubleSpentHeight ≠ none) :
    Followed.Unfunded prims (m.grown prims provider txs) := by
  have nowhere : ∀ tx ∈ txs, prims.computeTxid tx ∉ m.fundings := fun tx there isFunding =>
    doubleSpent (doubleSpent_of_funding consistent ordinary recorded.funded there isFunding)
  have unfunded : m.Unfunded prims := by
    by_cases before : m.state.fundingDoubleSpentHeight = none
    · obtain ⟨k, now⟩ := Option.ne_none_iff_exists'.mp doubleSpent
      rcases doubleSpent_forwards (s := m.state.next) now with earlier | ⟨-, o, member⟩
      · cases before.symm.trans earlier
      · obtain ⟨spent, funding⟩ := fundingInputSpent_mem.mp member
        obtain ⟨tx, there, spent⟩ := mem_flatMap.mp spent
        obtain ⟨input, inputs, rfl⟩ := mem_map.mp spent
        obtain ⟨first, funded, isFunding⟩ := recorded.funded
        apply And.left
        apply ordinary.doubleSpend tx there _ ⟨input, inputs, funding⟩
        intro isTxid
        rw [funded.1, mem_singleton] at isTxid
        exact nowhere tx there (isTxid ▸ isFunding)
    · exact recorded.unfunded before
  intro block here
  rcases mem_cons.mp here with rfl | below
  · exact nowhere
  · exact unfunded block below

theorem swept_kept (found : m.state.closingOutpoints = some closing)
    (sweeping : Sweeping prims m closing u k) :
    (m.state.grown prims provider txs).closingOutpoints = some closing
      ∧ Sweeping prims (m.grown prims provider txs) closing u k := by
  have untracked := untracked_of_swept consistent found sweeping.swept
  have notClose : ∀ c ∈ m.state.decode prims provider txs, c.isUnilateralClose = false :=
    fun c member => notUnilateral (unclosed_of_closing recorded consistent ordinary found c member)
  have same : (m.state.grown prims provider txs).closingOutpoints = m.state.closingOutpoints :=
    (closing_unspent (s := m.state.next) notClose (unspent_of_untracked untracked notClose)).1
  refine ⟨same.trans found, sweeping.swept, sweeping.after, ?_, ?_, ?_⟩
  · apply marks_added height_added sweeping.marks
    intro p has
    obtain ⟨entry, member, rfl⟩ := mem_map.mp has
    exact consistent.secondLevelOnce closing found entry member
  · rcases sweeping.last with here | ⟨block, found, o, spent, tracked⟩
    · exact .inl here
    · refine .inr ⟨block, (blockAt_added height_added (blockAt_le found)).trans found, o, spent, ?_⟩
      exact tracks_congr same ▸ tracked
  · intro j higher block found o spent
    rw [tracks_congr same]
    rcases blockAt_added_cases height_added found with ⟨-, found⟩ | ⟨-, rfl⟩
    · exact sweeping.above j higher block found o spent
    · exact untracked o spent

theorem swept_made (tells : Tells prims told m provider txs)
    (found : (m.state.grown prims provider txs).closingOutpoints = some closing)
    (swept : closing.isAllSpent) (unswept : m.state.isClosingSwept = false)
    (closedAt : (m.state.grown prims provider txs).unilateralClosingHeight = some u) :
    Sweeping prims (m.grown prims provider txs) closing u
      (m.state.height + 1) := by
  have top : ∀ j > m.state.height + 1, ∀ block,
      Followed.blockAt (m.grown prims provider txs) j = some block → False := by
    intro j higher block found
    have bounded := blockAt_le found
    simp only [height_added] at bounded
    omega
  cases before : m.state.closingOutpoints with
  | none =>
    have closed := closing_made recorded consistent ordinary tells before found
    cases closed.recorded.symm.trans closedAt
    have marks := closed.marks
    simp only [height_added] at marks
    exact ⟨swept, Nat.le_refl _, marks, .inl rfl, fun j higher block found =>
      (top j higher block found).elim⟩
  | some closing₀ =>
    obtain ⟨closing', u', found', same, closed, -⟩ :=
      closing_kept recorded consistent ordinary before
    cases found.symm.trans found'
    cases closed.recorded.symm.trans closedAt
    have notClose : ∀ c ∈ m.state.decode prims provider txs, c.isUnilateralClose = false :=
      fun c member => notUnilateral
        (unclosed_of_closing recorded consistent ordinary before c member)
    obtain ⟨block, tx, o, ours, htlcs, standing, -, -⟩ := closed.standing
    have bounded := blockAt_le standing.found
    have marks := closed.marks
    simp only [height_added] at bounded marks
    refine ⟨swept, bounded, marks, .inr ⟨_, blockAt_new height_added, ?_⟩,
      fun j higher block found => (top j higher block found).elim⟩
    have afterwards : (m.state.grown prims provider txs).closingOutpoints
        = (m.state.after prims provider txs).closingOutpoints :=
      closing_forwards_congr (s := m.state.next) rfl
    simp only [tracks_congr afterwards]
    by_contra untracked
    have unspent : ∀ c ∈ m.state.decode prims provider txs, c.isSpend = false := by
      intro c member
      by_contra isSpend
      exact untracked (tracked_of_spend notClose before member (by simpa using isSpend))
    have unchanged := (closing_unspent (s := m.state.next) notClose unspent).1
    have equal : some closing₀ = some closing :=
      before.symm.trans (unchanged.symm.trans found)
    cases equal
    simp [isClosingSwept, before, swept] at unswept

theorem recorded_added {s' w} (tells : Tells prims told m provider txs)
    (added : m.state.onAddBlock prims provider txs = .ok (s', w)) :
    Recorded prims told { m with chain := ⟨txs⟩ :: m.chain, state := s' } := by
  have doubleSpent := doubleSpent_added recorded.doubleSpent added
  obtain rfl := onAddBlock_ok added
  have kept := @forwards_kept (m.state.decode prims provider txs) m.state.next
  have confirms (txid : BitVec 256) :
      (forwards (m.state.decode prims provider txs) m.state.next).confirms txid
        = m.state.next.confirms txid := confirms_kept kept
  exact {
    fits := by
      have fits := recorded.fits
      simp only [length_cons, height_added]
      omega
    funded := by
      obtain ⟨o, funded, isFunding⟩ := recorded.funded
      exact ⟨o, ⟨kept.fundingTxids.trans funded.1, kept.fundingVouts.trans funded.2⟩, isFunding⟩
    inputs := by
      intro o input
      exact recorded.inputs o (kept.fundingInputs ▸ input)
    outpoint := outpoint_added recorded
    confirmed := by
      intro block here tx there p confirmed
      exact confirmed_added recorded here there ((confirms _).symm.trans confirmed)
    doubleSpent := doubleSpent
    unfunded := unfunded_added recorded consistent ordinary
    closedMutually := closedMutually_added recorded consistent ordinary tells
    closing := by
      intro closing found
      cases before : m.state.closingOutpoints with
      | none => exact ⟨_, closing_made recorded consistent ordinary tells before found⟩
      | some closing₀ =>
        obtain ⟨closing', u, found', -, closed, -⟩ :=
          closing_kept recorded consistent ordinary before
        cases Option.mem_def.mp found |>.symm.trans found'
        exact ⟨u, closed⟩
    swept := by
      intro k sweptAt
      have sweptAt : (if !m.state.isClosingSwept
          && (m.state.grown prims provider txs).isClosingSwept
        then some (forwards (m.state.decode prims provider txs) m.state.next).height
        else (forwards (m.state.decode prims provider txs) m.state.next).closingSweptHeight)
          = some k := sweptAt
      rw [kept.height, kept.closingSweptHeight] at sweptAt
      split at sweptAt
      · rename_i now
        obtain ⟨unswept, swept⟩ := Bool.and_eq_true_iff.mp now
        cases sweptAt
        obtain ⟨closing, found, swept⟩ : ∃ closing,
            (m.state.grown prims provider txs).closingOutpoints = some closing
              ∧ closing.isAllSpent := by
          unfold isClosingSwept at swept
          cases found : (m.state.grown prims provider txs).closingOutpoints with
          | none => simp [found] at swept
          | some closing => exact ⟨closing, rfl, by simpa [found] using swept⟩
        exact ⟨closing, found, fun u closedAt =>
          swept_made recorded consistent ordinary tells found swept
            (by simpa using unswept) closedAt⟩
      · obtain ⟨closing, found, sweeping⟩ := recorded.swept k sweptAt
        obtain ⟨u, closed⟩ := recorded.closing closing found
        obtain ⟨kept, sweeping⟩ := swept_kept recorded consistent ordinary found
          (sweeping u closed.recorded)
        refine ⟨closing, kept, ?_⟩
        intro u' closedAt
        have notClose : ∀ c ∈ m.state.decode prims provider txs, c.isUnilateralClose = false :=
          fun c member => notUnilateral
            (unclosed_of_closing recorded consistent ordinary found c member)
        have same := (unilateral_kept (s := m.state.next) notClose).1
        cases closedAt.symm.trans (same.trans closed.recorded)
        exact sweeping }

end

end Vls.Monitor
