import Vls.Monitor.Change

/-! # What changes leave alone

Every change touches a part of the state only. Whatever a list of changes has to find in the state
is there as long as no change of the list touches it. -/

namespace Vls.Monitor

open StateChange

structure Kept (s t : State) : Prop where
  height : t.height = s.height
  fundingTxids : t.fundingTxids = s.fundingTxids
  fundingVouts : t.fundingVouts = s.fundingVouts
  fundingInputs : t.fundingInputs = s.fundingInputs
  closingSweptHeight : t.closingSweptHeight = s.closingSweptHeight
  ourOutputSweptHeight : t.ourOutputSweptHeight = s.ourOutputSweptHeight
  sawBlock : t.sawBlock = s.sawBlock
  sawForgetChannel : t.sawForgetChannel = s.sawForgetChannel

theorem Kept.trans {s t u} (first : Kept s t) (second : Kept t u) : Kept s u where
  height := second.height.trans first.height
  fundingTxids := second.fundingTxids.trans first.fundingTxids
  fundingVouts := second.fundingVouts.trans first.fundingVouts
  fundingInputs := second.fundingInputs.trans first.fundingInputs
  closingSweptHeight := second.closingSweptHeight.trans first.closingSweptHeight
  ourOutputSweptHeight := second.ourOutputSweptHeight.trans first.ourOutputSweptHeight
  sawBlock := second.sawBlock.trans first.sawBlock
  sawForgetChannel := second.sawForgetChannel.trans first.sawForgetChannel

theorem Kept.refl (s : State) : Kept s s := ⟨rfl, rfl, rfl, rfl, rfl, rfl, rfl, rfl⟩

variable {c d : StateChange} {changes : List StateChange} {s : State} {outpoint : OutPoint}

theorem forward_kept : Kept s (c.forward s) := by
  cases c <;> exact ⟨rfl, rfl, rfl, rfl, rfl, rfl, rfl, rfl⟩

theorem backward_kept : Kept s (c.backward s) := by
  cases c <;> exact ⟨rfl, rfl, rfl, rfl, rfl, rfl, rfl, rfl⟩

theorem forwards_kept : Kept s (forwards changes s) :=
  Undo.all_inv (Kept s) (.refl s) fun _ _ _ kept => kept.trans forward_kept

theorem backwards_kept : Kept s (backwards changes s) :=
  Undo.all_inv (Kept s) (.refl s) fun _ _ _ kept => kept.trans backward_kept

namespace StateChange

def isUnilateralClose : StateChange → Bool
  | unilateralCloseConfirmed .. => true
  | _ => false

def makes : StateChange → List OutPoint
  | unilateralCloseConfirmed txid _ ourOutputIndex htlcsIndices =>
    ourOutputIndex.toList.map (⟨txid, ·⟩) ++ htlcsIndices.map (⟨txid, ·⟩)
  | htlcOutputSpent _ secondLevel => [secondLevel]
  | _ => []

end StateChange

theorem tracks_of_close {txid ourOutputIndex htlcsIndices}
    (closing : s.closingOutpoints = some (.new txid ourOutputIndex htlcsIndices))
    (notMade : outpoint ∉ ourOutputIndex.toList.map (⟨txid, ·⟩) ++ htlcsIndices.map (⟨txid, ·⟩)) :
    s.tracks outpoint = none := by
  have notOurs : ¬ (txid = outpoint.txid ∧ ourOutputIndex = some outpoint.vout) := by
    rintro ⟨rfl, rfl⟩
    exact notMade (by simp)
  have notHtlc : ¬ (txid = outpoint.txid ∧ outpoint.vout ∈ htlcsIndices) := by
    rintro ⟨rfl, member⟩
    exact notMade (List.mem_append_right _ (List.mem_map_of_mem member))
  have noSecond : ¬ Marked.Has [] outpoint := List.not_mem_nil
  simp only [State.tracks, closing, ClosingOutpoints.includesOurOutput_iff,
    ClosingOutpoints.includesHtlcOutput_iff, ClosingOutpoints.includesSecondLevelHtlcOutput_iff]
  simp [ClosingOutpoints.new, Function.comp_def, Marked.has_unmarked, notOurs, notHtlc, noSecond]

theorem tracks_spend (notMade : outpoint ∉ c.makes) :
    ({ s with closingOutpoints := s.closingOutpoints.map c.spend } : State).tracks outpoint
      = s.tracks outpoint := by
  cases found : s.closingOutpoints with
  | none => simp [State.tracks, found]
  | some o =>
    have ours : (c.spend o).includesOurOutput outpoint ↔ o.includesOurOutput outpoint := by
      cases c <;> simp [spend, Function.comp_def]
    have htlc : (c.spend o).includesHtlcOutput outpoint ↔ o.includesHtlcOutput outpoint := by
      cases c <;> simp [spend]
    have second : (c.spend o).includesSecondLevelHtlcOutput outpoint
        ↔ o.includesSecondLevelHtlcOutput outpoint := by
      cases c with
      | htlcOutputSpent vout secondLevel =>
        have other : outpoint ≠ secondLevel := by simpa [makes] using notMade
        simp [spend, Marked.Has, other]
      | _ => simp [spend]
    simp [State.tracks, found, ours, htlc, second]

/-- An outpoint that is not made an output of the close stays what it was, except that a new close
    takes the place of the old one. -/
theorem tracks_forward (notMade : outpoint ∉ c.makes)
    (closed : c.isUnilateralClose → s.tracks outpoint = none) :
    (c.forward s).tracks outpoint = s.tracks outpoint := by
  cases c with
  | unilateralCloseConfirmed =>
    rw [closed rfl]
    exact tracks_of_close rfl notMade
  | fundingConfirmed | fundingInputSpent | mutualCloseConfirmed => rfl
  | ourOutputSpent | htlcOutputSpent | secondLevelHtlcOutputSpent => exact tracks_spend notMade

theorem tracks_forwards (notMade : ∀ c ∈ changes, outpoint ∉ c.makes)
    (closed : ∀ c ∈ changes, c.isUnilateralClose → s.tracks outpoint = none) :
    (forwards changes s).tracks outpoint = s.tracks outpoint := by
  refine Undo.all_inv (fun t : State => t.tracks outpoint = s.tracks outpoint) rfl ?_
  intro c member t same
  rw [tracks_forward (notMade c member) fun isClose => same.trans (closed c member isClose), same]

theorem able_spend {o} (found : s.closingOutpoints = some o) (able : c.Able s) :
    c.Able { s with closingOutpoints := some (d.spend o) } := by
  cases c with
  | fundingConfirmed | fundingInputSpent | unilateralCloseConfirmed | mutualCloseConfirmed =>
    trivial
  | ourOutputSpent vout =>
    obtain ⟨o', found', ours⟩ := able
    obtain rfl : o' = o := Option.mem_unique found' found
    refine ⟨d.spend o', rfl, ?_⟩
    cases d <;> simpa [spend, Function.comp_def] using ours
  | htlcOutputSpent vout secondLevel =>
    obtain ⟨o', found', has⟩ := able
    obtain rfl : o' = o := Option.mem_unique found' found
    refine ⟨d.spend o', rfl, ?_⟩
    cases d <;> simpa [spend] using has
  | secondLevelHtlcOutputSpent outpoint =>
    obtain ⟨o', found', has⟩ := able
    obtain rfl : o' = o := Option.mem_unique found' found
    refine ⟨d.spend o', rfl, ?_⟩
    cases d with
    | htlcOutputSpent => exact Marked.has_append.mpr (.inl has)
    | _ => simpa [spend] using has

theorem able_forward (able : c.Able s) (kept : d.isUnilateralClose → ∀ s, c.Able s) :
    c.Able (d.forward s) := by
  cases d with
  | unilateralCloseConfirmed => exact kept rfl _
  | fundingConfirmed | fundingInputSpent | mutualCloseConfirmed =>
    cases c <;> exact able
  | ourOutputSpent | htlcOutputSpent | secondLevelHtlcOutputSpent =>
    simp only [forward]
    cases found : s.closingOutpoints with
    | none =>
      cases c <;> first
        | trivial
        | (obtain ⟨o, found', -⟩ := able; cases found.symm.trans found')
    | some o => exact able_spend found able

theorem able_of_new (new : c.New s) : c.Able s := by
  cases c with
  | fundingConfirmed | fundingInputSpent | unilateralCloseConfirmed | mutualCloseConfirmed =>
    trivial
  | ourOutputSpent vout =>
    obtain ⟨o, found, unspent⟩ := new
    exact ⟨o, found, by rw [unspent]; rfl⟩
  | htlcOutputSpent vout secondLevel =>
    obtain ⟨o, found, unspent, -⟩ := new
    exact ⟨o, found, Marked.has_of_markOf unspent⟩
  | secondLevelHtlcOutputSpent outpoint =>
    obtain ⟨o, found, unspent⟩ := new
    exact ⟨o, found, Marked.has_of_markOf unspent⟩

theorem able_of_apart (apart : c.Apart d ∨ d.Apart c) (close : d.isUnilateralClose) (s : State) :
    c.Able s := by
  cases d with
  | unilateralCloseConfirmed =>
    cases c with
    | ourOutputSpent | htlcOutputSpent | secondLevelHtlcOutputSpent => exact (apart.elim id id).elim
    | _ => trivial
  | _ => cases close

theorem able_forwards (able : c.Able s) (apart : ∀ d ∈ changes, c.Apart d ∨ d.Apart c) :
    c.Able (forwards changes s) :=
  Undo.all_inv (fun t => c.Able t) able fun d member _ here =>
    able_forward here (able_of_apart (apart d member))

theorem undoable_forwards (new : c.New s) (apart : ∀ d ∈ changes, c.Apart d) :
    c.Undoable (forwards (c :: changes) s) := by
  have able : c.Able (forwards changes (c.forward s)) := by
    refine able_forwards (able_forward (able_of_new new) ?_) fun d member => .inl (apart d member)
    intro close s
    cases c <;> trivial
  cases c with
  | fundingConfirmed outpoint =>
    refine Undo.all_inv (s := (fundingConfirmed outpoint).forward s)
      (fun t : State => t.fundingHeight = some t.height) rfl ?_
    intro d _ t here
    cases d <;> first
      | rfl
      | exact here
  | unilateralCloseConfirmed txid outpoint ours htlcs =>
    refine Undo.all_inv (s := (unilateralCloseConfirmed txid outpoint ours htlcs).forward s)
      (fun t : State => t.unilateralClosingHeight = some t.height) rfl ?_
    intro d _ t here
    cases d <;> first
      | rfl
      | exact here
  | _ => exact able

theorem undoable_putAside : c.Undoable s.putAside ↔ c.Undoable s := by
  cases c <;> rfl

theorem spend_txid {o} : (c.spend o).txid = o.txid := by
  cases c <;> rfl

theorem closeTxid_forward (notClose : c.isUnilateralClose = false) :
    (c.forward s).closeTxid = s.closeTxid := by
  cases c with
  | unilateralCloseConfirmed => cases notClose
  | fundingConfirmed | fundingInputSpent | mutualCloseConfirmed => rfl
  | ourOutputSpent | htlcOutputSpent | secondLevelHtlcOutputSpent =>
    simp [forward, State.closeTxid, Function.comp_def, spend_txid]

def watches (f : StateChange → Watch) (changes : List StateChange) : Watch :=
  ⟨changes.flatMap (fun c => (f c).adds), changes.flatMap (fun c => (f c).removes)⟩

theorem watches_concat (f : StateChange → Watch) :
    watches f (changes ++ [c]) = (watches f changes).append (f c) := by
  simp [watches, Watch.append]

theorem close_forwards {α : Type} (f : StateChange → BitVec 256 → α)
    (blind : ∀ c close close', (∀ s, c.Able s) → f c close = f c close')
    (apart : ∀ d ∈ changes, d.isUnilateralClose → c.Apart d ∨ d.Apart c) :
    f c (forwards changes s).closeTxid = f c s.closeTxid := by
  refine Undo.all_inv (s := s) (fun t : State => f c t.closeTxid = f c s.closeTxid) rfl ?_
  intro d member t here
  cases close : d.isUnilateralClose with
  | false => rw [closeTxid_forward close, here]
  | true => exact blind c _ _ (able_of_apart (apart d member close) close)

theorem watch_blind {close close'} (needless : ∀ s, c.Able s) : c.watch close = c.watch close' := by
  cases c with
  | ourOutputSpent | htlcOutputSpent =>
    obtain ⟨o, found, -⟩ := needless (.new 0)
    cases found
  | _ => rfl

theorem unwatch_blind {close close'} (needless : ∀ s, c.Able s) :
    c.unwatch close = c.unwatch close' := by
  cases c with
  | ourOutputSpent | htlcOutputSpent =>
    obtain ⟨o, found, -⟩ := needless (.new 0)
    cases found
  | _ => rfl

theorem applyChanges_eq {apply} {f : List StateChange → State} {w : StateChange → Watch}
    (initially : f [] = s)
    (step : ∀ done c rest, changes = done ++ c :: rest → apply (f done) c = .ok (f (done ++ [c]),
      w c)) : s.applyChanges apply changes = .ok (f changes, watches w changes) := by
  subst initially
  apply Result.foldlM_eq_ok fun done => (f done, watches w done)
  intro done c rest split
  change apply (f done) c >>= _ = _
  rw [step done c rest split, watches_concat]
  rfl

theorem forwards_concat : forwards (changes ++ [c]) s = c.forward (forwards changes s) := by
  simp [forwards]

theorem backwards_concat : backwards (changes ++ [c]) s = c.backward (backwards changes s) := by
  simp [backwards]

theorem applyChanges_forward (new : ∀ c ∈ changes, c.New s) (apart : changes.Pairwise Apart) :
    s.applyChanges State.applyForwardChange changes
      = .ok (forwards changes s, watches (watch s.closeTxid) changes) := by
  refine applyChanges_eq (f := (forwards · s)) rfl ?_
  rintro done c rest rfl
  have apartBefore : ∀ d ∈ done, d.Apart c := fun d member =>
    (List.pairwise_append.mp apart).2.2 d member c List.mem_cons_self
  have able : c.Able (forwards done s) := able_forwards (able_of_new (new c (by simp)))
    fun d member => .inr (apartBefore d member)
  rw [applyForwardChange_able able, forwards_concat,
    close_forwards (fun c close => c.watch close) (fun _ _ _ => watch_blind) fun d member _ =>
      .inr (apartBefore d member)]

theorem applyChanges_backward (new : ∀ c ∈ changes, c.New s) (apart : changes.Pairwise Apart) :
    (forwards changes s).applyChanges State.applyBackwardChange changes
      = .ok (backwards changes (forwards changes s), watches (unwatch s.closeTxid) changes) := by
  refine applyChanges_eq (f := fun done => backwards done (forwards changes s)) rfl ?_
  rintro done c rest rfl
  have remaining := backwards_forwards (fun d member => new d (by simp [member])) apart
  have apartAfter : ∀ d ∈ rest, c.Apart d :=
    (List.pairwise_cons.mp (List.pairwise_append.mp apart).2.1).1
  have undoable : c.Undoable (backwards done (forwards (done ++ c :: rest) s)) := by
    rw [← undoable_putAside, remaining, undoable_putAside]
    exact undoable_forwards (new c (by simp)) apartAfter
  have closeTxid : (backwards done (forwards (done ++ c :: rest) s)).closeTxid
      = (forwards (c :: rest) s).closeTxid := (congrArg State.closeTxid remaining :)
  have close : c.unwatch (forwards (c :: rest) s).closeTxid = c.unwatch s.closeTxid := by
    cases isClose : c.isUnilateralClose with
    | true => cases c <;> first | rfl | cases isClose
    | false =>
      refine close_forwards (fun c close => c.unwatch close) (fun _ _ _ => unwatch_blind) ?_
      intro d member closes
      rcases List.mem_cons.mp member with rfl | member
      · cases closes.symm.trans isClose
      · exact .inl (apartAfter d member)
  rw [applyBackwardChange_undoable undoable, closeTxid, close, backwards_concat]

theorem doubleSpent_forwards_some {k} (recorded : s.fundingDoubleSpentHeight = some k)
    (unconfirmed : ∀ o, fundingConfirmed o ∉ changes) :
    (forwards changes s).fundingDoubleSpentHeight = some k := by
  refine Undo.all_inv (s := s) (fun t : State => t.fundingDoubleSpentHeight = some k) recorded ?_
  intro c member t here
  cases c with
  | fundingConfirmed outpoint => exact absurd member (unconfirmed outpoint)
  | fundingInputSpent => simp [forward, here]
  | _ => exact here

theorem doubleSpent_forwards_none (absent : s.fundingDoubleSpentHeight = none) :
    (forwards changes s).fundingDoubleSpentHeight = none
      ∨ (forwards changes s).fundingDoubleSpentHeight = some s.height
        ∧ ∃ o, fundingInputSpent o ∈ changes := by
  refine Undo.all_inv (s := s) (fun t : State => t.height = s.height
    ∧ (t.fundingDoubleSpentHeight = none ∨ t.fundingDoubleSpentHeight = some s.height
      ∧ ∃ o, fundingInputSpent o ∈ changes)) ⟨rfl, .inl absent⟩ ?_ |>.2
  rintro c member t ⟨height, here⟩
  refine ⟨forward_kept.height.trans height, ?_⟩
  cases c with
  | fundingConfirmed => exact .inl rfl
  | fundingInputSpent outpoint =>
    refine .inr ⟨?_, outpoint, member⟩
    rcases here with here | ⟨here, -⟩ <;> simp [forward, here, height]
  | _ => exact here

theorem doubleSpent_backwards_earlier (earlier : s.fundingDoubleSpentHeight ≠ some s.height) :
    (backwards changes s).fundingDoubleSpentHeight = s.fundingDoubleSpentHeight := by
  refine Undo.all_inv (s := s) (fun t : State => t.height = s.height
    ∧ t.fundingDoubleSpentHeight = s.fundingDoubleSpentHeight) ⟨rfl, rfl⟩ ?_ |>.2
  rintro c member t ⟨height, here⟩
  refine ⟨backward_kept.height.trans height, ?_⟩
  cases c with
  | fundingInputSpent =>
    have apart : t.fundingDoubleSpentHeight ≠ some t.height := by rwa [here, height]
    exact (if_neg apart).trans here
  | _ => exact here

theorem doubleSpent_backwards_current (current : s.fundingDoubleSpentHeight = some s.height)
    (spent : fundingInputSpent outpoint ∈ changes) :
    (backwards changes s).fundingDoubleSpentHeight = none := by
  induction changes generalizing s with
  | nil => cases spent
  | cons c rest ih =>
    cases c with
    | fundingInputSpent outpoint' =>
      have cleared : ((fundingInputSpent outpoint').backward s).fundingDoubleSpentHeight
          = none := if_pos current
      refine Eq.trans (doubleSpent_backwards_earlier (s := backward _ s) ?_) cleared
      simp [cleared]
    | _ => exact ih current (by simpa using spent)

theorem fundingOutpoint_forwards_none (unconfirmed : ∀ o, fundingConfirmed o ∉ changes) :
    (forwards changes s).fundingOutpoint = s.fundingOutpoint := by
  refine Undo.all_inv (s := s) (fun t : State => t.fundingOutpoint = s.fundingOutpoint) rfl ?_
  intro c member t here
  cases c with
  | fundingConfirmed outpoint => exact absurd member (unconfirmed outpoint)
  | _ => exact here

theorem fundingOutpoint_backwards_none (unconfirmed : ∀ o, fundingConfirmed o ∉ changes) :
    (backwards changes s).fundingOutpoint = s.fundingOutpoint := by
  refine Undo.all_inv (s := s) (fun t : State => t.fundingOutpoint = s.fundingOutpoint) rfl ?_
  intro c member t here
  cases c with
  | fundingConfirmed outpoint => exact absurd member (unconfirmed outpoint)
  | _ => exact here

theorem fundingOutpoint_backwards (confirmed : fundingConfirmed outpoint ∈ changes) :
    (backwards changes s).fundingOutpoint = none := by
  obtain ⟨done, rest, rfl⟩ := List.append_of_mem confirmed
  rw [backwards, Undo.all_append, Undo.all_cons]
  refine Undo.all_inv (fun t : State => t.fundingOutpoint = none) rfl ?_
  intro c _ t here
  cases c with
  | fundingConfirmed => rfl
  | _ => exact here

theorem backwards_forwards_self (new : ∀ c ∈ changes, c.New s) (apart : changes.Pairwise Apart)
    (earlier : ∀ k ∈ s.fundingDoubleSpentHeight, k ≠ s.height)
    (first : ∀ o, fundingConfirmed o ∈ changes →
      s.fundingOutpoint = none ∧ s.fundingDoubleSpentHeight = none) :
    backwards changes (forwards changes s) = s := by
  have aside : (backwards changes (forwards changes s)).putAside = s.putAside := by
    have undone := @backwards_forwards s changes [] new (by simpa using apart)
    rwa [List.append_nil] at undone
  have height : (forwards changes s).height = s.height := forwards_kept.height
  have doubleSpent : (backwards changes (forwards changes s)).fundingDoubleSpentHeight
      = s.fundingDoubleSpentHeight := by
    cases recorded : s.fundingDoubleSpentHeight with
    | some k =>
      have unconfirmed : ∀ o, fundingConfirmed o ∉ changes := by
        intro o confirmed
        cases recorded.symm.trans (first o confirmed).2
      have kept := doubleSpent_forwards_some recorded unconfirmed
      rw [doubleSpent_backwards_earlier, kept]
      rw [kept, height]
      simpa using earlier k recorded
    | none =>
      rcases @doubleSpent_forwards_none changes s recorded with
        absent | ⟨current, outpoint, spent⟩
      · rw [doubleSpent_backwards_earlier (by simp [absent]), absent]
      · exact doubleSpent_backwards_current (by rw [current, height]) spent
  have outpoint : (backwards changes (forwards changes s)).fundingOutpoint = s.fundingOutpoint := by
    by_cases confirmed : ∃ o, fundingConfirmed o ∈ changes
    · obtain ⟨o, confirmed⟩ := confirmed
      rw [fundingOutpoint_backwards confirmed, (first o confirmed).1]
    · have unconfirmed := not_exists.mp confirmed
      rw [fundingOutpoint_backwards_none unconfirmed, fundingOutpoint_forwards_none unconfirmed]
  calc backwards changes (forwards changes s)
      = { (backwards changes (forwards changes s)).putAside with
          fundingOutpoint := s.fundingOutpoint
          fundingDoubleSpentHeight := s.fundingDoubleSpentHeight } := by
        rw [← doubleSpent, ← outpoint]; rfl
    _ = s := by rw [aside]; rfl

end Vls.Monitor
