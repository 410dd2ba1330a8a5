import Vls.Monitor.Block

/-! # Adding a block and removing it again

A block that is consistent with the state and reversible is decoded to the same changes when it is
added and when it is removed. Taking the changes back then restores the state. -/

namespace Vls.Monitor

open StateChange List

variable {prims : Primitives} {provider : CommitmentPointProvider} {s x : State}
  {tx : Transaction} {txs done rest : List Transaction} {changes : List StateChange}
  {o p : OutPoint}

theorem fundingOutpoint_forwards (confirmed : fundingConfirmed o ∈ changes)
    (only : ∀ p, fundingConfirmed p ∈ changes → p = o) :
    (forwards changes x).fundingOutpoint = some o := by
  induction changes generalizing x with
  | nil => cases confirmed
  | cons c rest ih =>
    by_cases later : fundingConfirmed o ∈ rest
    · exact ih later fun p member => only p (mem_cons_of_mem c member)
    · have here : fundingConfirmed o = c :=
        (mem_cons.mp confirmed).resolve_right later
      subst here
      have none : ∀ p, fundingConfirmed p ∉ rest := by
        intro p member
        obtain rfl := only p (mem_cons_of_mem _ member)
        exact later member
      exact fundingOutpoint_forwards_none none

theorem confirms_unique {txid txid'} (single : s.fundingTxids.length ≤ 1)
    (confirms : s.confirms txid = some o) (confirms' : s.confirms txid' = some p) : o = p := by
  obtain rfl := eq_of_single single (confirms_mem confirms).1 (confirms_mem confirms').1
  exact Option.some.inj (confirms.symm.trans confirms')

theorem view_fundingOutpoint (single : s.fundingTxids.length ≤ 1) (there : tx ∈ txs)
    (confirms : s.confirms (prims.computeTxid tx) = some o) :
    (s.view prims txs).fundingOutpoint = some o := by
  cases found : txs.findSome? fun tx => s.confirms (prims.computeTxid tx) with
  | none => cases (findSome?_eq_none_iff.mp found tx there).symm.trans confirms
  | some p =>
    obtain ⟨tx', -, confirms'⟩ := exists_of_findSome?_eq_some found
    obtain rfl := confirms_unique single confirms confirms'
    simp [State.view, found]

theorem view_fundingOutpoint_none
    (unconfirmed : ∀ tx ∈ txs, s.confirms (prims.computeTxid tx) = none) :
    (s.view prims txs).fundingOutpoint = s.fundingOutpoint := by
  simp [State.view, findSome?_eq_none_iff.mpr unconfirmed]

theorem fundingConfirmed_mem {view : State} :
    fundingConfirmed o ∈ txs.flatMap (view.changesIn prims provider)
      ↔ ∃ tx ∈ txs, view.confirms (prims.computeTxid tx) = some o := by
  rw [mem_flatMap]
  constructor
  · rintro ⟨tx, there, member⟩
    rcases mem_changesIn member with ⟨p, confirms, same⟩ | ⟨input, -, arises⟩
    · cases same
      exact ⟨tx, there, confirms⟩
    · exact (apart_fundingConfirmed (p := o) arises).1.elim
  · rintro ⟨tx, there, confirms⟩
    refine ⟨tx, there, ?_⟩
    simp [State.changesIn, State.endChanges, confirms]

theorem Ordered.split (ordered : Ordered prims (done ++ tx :: rest)) :
    ∀ input ∈ tx.input, input.previousOutput.txid ∉ (tx :: rest).map prims.computeTxid := by
  induction done with
  | nil => exact ordered.1
  | cons first done ih => exact ih ordered.2

section

variable (sound : Sound s) (consistent : Consistent prims s txs)
  (readsBack : ReadsBack prims provider s txs)

/-- A state that tells of the block what the state before the block tells of it, or the state
    after. -/
structure Alike (prims : Primitives) (s x : State) (txs : List Transaction) : Prop where
  fundingInputs : x.fundingInputs = s.fundingInputs
  fundingTxids : x.fundingTxids = s.fundingTxids
  fundingVouts : x.fundingVouts = s.fundingVouts
  tracks : ∀ o ∈ spends txs, x.tracks o = s.tracks o
  fundingOutpoint : x.fundingOutpoint = s.fundingOutpoint
    ∨ x.fundingOutpoint = (s.view prims txs).fundingOutpoint

/-- What some transactions of the block make of such a state. -/
abbrev State.afterTxs (x : State) (prims : Primitives) (provider : CommitmentPointProvider)
    (s : State) (txs done : List Transaction) : State :=
  forwards (done.flatMap ((s.view prims txs).changesIn prims provider)) x

include sound

theorem fundingOutpoint_view (alike : Alike prims s x txs) (among : ∀ tx ∈ done, tx ∈ txs) :
    (x.afterTxs prims provider s txs done).fundingOutpoint = (s.view prims txs).fundingOutpoint
      ∨ (x.afterTxs prims provider s txs done).fundingOutpoint = s.fundingOutpoint
        ∧ ∀ tx ∈ done, s.confirms (prims.computeTxid tx) = none := by
  by_cases confirmed : ∃ tx ∈ done, ∃ p, s.confirms (prims.computeTxid tx) = some p
  · obtain ⟨tx, there, p, confirms⟩ := confirmed
    left
    rw [view_fundingOutpoint sound.fundingTxids (among tx there) confirms]
    refine fundingOutpoint_forwards (fundingConfirmed_mem.mpr ⟨tx, there, confirms⟩) ?_
    intro p' member
    obtain ⟨_, _, confirms'⟩ := fundingConfirmed_mem.mp member
    exact confirms_unique sound.fundingTxids confirms' confirms
  · have nowhere : ∀ tx ∈ done, s.confirms (prims.computeTxid tx) = none := by
      intro tx there
      by_contra confirms
      exact confirmed ⟨tx, there, Option.ne_none_iff_exists'.mp confirms⟩
    have kept : (x.afterTxs prims provider s txs done).fundingOutpoint = x.fundingOutpoint := by
      apply fundingOutpoint_forwards_none
      intro p member
      obtain ⟨tx, there, confirms⟩ := fundingConfirmed_mem.mp member
      cases (nowhere tx there).symm.trans confirms
    rw [kept]
    rcases alike.fundingOutpoint with same | same
    · exact .inr ⟨same, nowhere⟩
    · exact .inl same

include consistent readsBack

theorem closes_afterTxs (alike : Alike prims s x txs) (split : txs = done ++ tx :: rest) :
    ({ s.view prims txs with
        fundingOutpoint := (x.afterTxs prims provider s txs done).fundingOutpoint } : State).Closes
        prims tx
      ↔ (s.view prims txs).Closes prims tx := by
  have among : ∀ tx ∈ done, tx ∈ txs := fun tx there => by simp [split, there]
  rcases @fundingOutpoint_view prims provider s x txs done sound alike among with
    same | ⟨same, unconfirmed⟩
  · rw [same]
  · rw [same]
    constructor
    · intro closes
      rw [← readsBack.replaced tx (by simp [split]) closes] at closes
      exact closes
    · intro closes
      -- a funding that is yet to be confirmed is not spent here
      have nowhere : ∀ funding ∈ txs, s.confirms (prims.computeTxid funding) = none := by
        intro funding there
        cases confirms : s.confirms (prims.computeTxid funding) with
        | none => rfl
        | some p =>
          have spends := closes.1
          rw [State.spendsFunding, view_fundingOutpoint sound.fundingTxids there confirms] at spends
          obtain ⟨input, single, same⟩ := map_eq_singleton_iff.mp spends
          obtain rfl := Option.some.inj same
          have ordered := (split ▸ consistent.ordered).split input (by simp [single])
          rw [(confirms_mem confirms).2] at ordered
          rw [split] at there
          rcases mem_append.mp there with there | there
          · exact confirms.symm.trans (unconfirmed funding there)
          · exact absurd (mem_map_of_mem there) ordered
      rw [← view_fundingOutpoint_none nowhere]
      exact closes

omit sound in
theorem tracks_view (alike : Alike prims s x txs) (among : ∀ tx ∈ done, tx ∈ txs)
    (spent : o ∈ spends txs) :
    (forwards (done.flatMap ((s.view prims txs).changesIn prims provider)) x).tracks o
      = s.tracks o := by
  have member {c : StateChange}
      (member : c ∈ done.flatMap ((s.view prims txs).changesIn prims provider)) :
      ∃ tx ∈ txs, c ∈ (s.view prims txs).changesIn prims provider tx := by
    obtain ⟨tx, there, member⟩ := mem_flatMap.mp member
    exact ⟨tx, among tx there, member⟩
  rw [tracks_forwards, alike.tracks o spent]
  · intro c made
    exact notMade_view readsBack spent c (mem_flatMap.mpr (member made))
  · intro c made close
    obtain ⟨tx, there, made⟩ := member made
    rw [alike.tracks o spent]
    rcases mem_changesIn made with ⟨p, confirms, rfl⟩ | ⟨input, -, arises⟩
    · cases close
    · cases arises with
      | close closes => exact (separate_view consistent).closed tx there closes o
      | _ => cases close

theorem pushTransactions_view (alike : Alike prims s x txs) :
    ∃ d, x.pushTransactions prims provider txs = .ok d
      ∧ d.changes = s.changesOf prims provider txs := by
  have decoded : ∃ d, txs.foldlM (BlockDecodeState.pushTransaction prims provider) (.new x) = .ok d
      ∧ d.changes = s.changesOf prims provider txs
      ∧ d.state = x.afterTxs prims provider s txs txs := by
    refine Result.foldlM_exists (fun done (d : BlockDecodeState) =>
      d.changes = done.flatMap ((s.view prims txs).changesIn prims provider)
        ∧ d.state = x.afterTxs prims provider s txs done) ⟨rfl, rfl⟩ ?_
    rintro done tx rest d split ⟨changes, state⟩
    have there : tx ∈ txs := by simp [split]
    have among : ∀ tx ∈ done, tx ∈ txs := fun tx there => by simp [split, there]
    have closes := closes_afterTxs sound consistent readsBack alike split
    have sees : Sees { s.view prims txs with fundingOutpoint := d.state.fundingOutpoint } d.state
        (tx.input.map (·.previousOutput)) := by
      rw [state]
      refine ⟨forwards_kept.fundingInputs.trans alike.fundingInputs,
        forwards_kept.fundingTxids.trans alike.fundingTxids,
        forwards_kept.fundingVouts.trans alike.fundingVouts, rfl, ?_⟩
      intro o spent
      exact tracks_view consistent readsBack alike among (mem_flatMap.mpr ⟨tx, there, spent⟩)
    have readable : Readable prims provider
        { s.view prims txs with fundingOutpoint := d.state.fundingOutpoint } tx := by
      rw [state]
      refine readable_view sound consistent readsBack there ?_ closes
      intro spends
      apply readsBack.outputs tx there
      rcases @fundingOutpoint_view prims provider s x txs done sound alike among with
        same | ⟨same, -⟩ <;> rw [same] at spends
      · exact .inr spends
      · exact .inl spends
    obtain ⟨d', pushed, changes', state'⟩ := pushTransaction_eq sees readable
    rw [state, changesIn_congr closes] at changes' state'
    refine ⟨d', pushed, ?_, ?_⟩
    · simp [changes', changes]
    · simp [state', State.afterTxs, forwards_append]
  obtain ⟨d, pushed, changes, -⟩ := decoded
  exact ⟨d, pushed, changes⟩

end

/-- The heights at which the close was swept are on record beside everything else. -/
def State.recordSwept (s : State) (closing ourOutput : Option Nat) : State :=
  { s with closingSweptHeight := closing, ourOutputSweptHeight := ourOutput }

theorem forwards_recordSwept {closing ourOutput} :
    forwards changes (x.recordSwept closing ourOutput)
      = (forwards changes x).recordSwept closing ourOutput := by
  induction changes generalizing x with
  | nil => rfl
  | cons c rest ih =>
    have step : c.forward (x.recordSwept closing ourOutput)
        = (c.forward x).recordSwept closing ourOutput := by cases c <;> rfl
    exact (congrArg (forwards rest) step).trans ih

abbrev State.saw (s : State) : State := { s with sawBlock := true }

def State.next (s : State) : State := { s with sawBlock := true, height := s.height + 1 }

theorem new_next {c : StateChange} (new : c.New s) : c.New s.next := by
  cases c <;> exact new

theorem new_recordSwept {c : StateChange} {closing ourOutput} (new : c.New s) :
    c.New (s.recordSwept closing ourOutput) := by
  cases c <;> exact new

def State.added (s : State) (changes : List StateChange) : State :=
  (forwards changes s.next).noteSwept s.isClosingSwept s.isOurOutputSwept

theorem onAddBlockEnd_eq (new : ∀ c ∈ changes, c.New s) (apart : changes.Pairwise Apart) :
    s.saw.onAddBlockEnd changes
      = .ok (s.added changes, watches (watch s.closeTxid) changes) := by
  have applied := applyChanges_forward (fun c member => new_next (new c member)) apart
  unfold State.onAddBlockEnd
  change (s.next.applyChanges State.applyForwardChange changes >>= _) = _
  rw [applied]
  rfl

theorem added_eq : s.added changes = forwards changes (s.next.recordSwept
    (s.added changes).closingSweptHeight (s.added changes).ourOutputSweptHeight) := by
  rw [forwards_recordSwept]
  rfl

theorem swept_restored {height : Nat} {recorded was is} (unswept : was = false → recorded = none) :
    (if is && !was then none else if !was && is then some height else recorded) = recorded := by
  cases was <;> cases is <;> simp_all

def State.removed (s : State) (changes : List StateChange) : State :=
  let taken := (backwards changes s.saw).dropSwept s.isClosingSwept s.isOurOutputSwept
  { taken with height := taken.height - 1 }

theorem saw_added : (s.added changes).saw = s.added changes := by
  have saw := (@forwards_kept changes s.next).sawBlock
  change (s.added changes).sawBlock = true at saw
  rw [State.saw, ← saw]

theorem onRemoveBlockEnd_eq (new : ∀ c ∈ changes, c.New s) (apart : changes.Pairwise Apart) :
    (s.added changes).onRemoveBlockEnd changes
      = .ok ((s.added changes).removed changes, watches (unwatch s.closeTxid) changes) := by
  have applied : (s.added changes).applyChanges State.applyBackwardChange changes
      = .ok (backwards changes (s.added changes), watches (unwatch s.closeTxid) changes) := by
    rw [added_eq, applyChanges_backward
      (fun c member => new_recordSwept (new_next (new c member))) apart]
    rfl
  unfold State.onRemoveBlockEnd State.removed
  rw [applied, saw_added]
  rfl

theorem removed_added (sound : Sound s) (new : ∀ c ∈ changes, c.New s)
    (apart : changes.Pairwise Apart)
    (first : ∀ o, fundingConfirmed o ∈ changes →
      s.fundingOutpoint = none ∧ s.fundingDoubleSpentHeight = none) :
    (s.added changes).removed changes = s.saw := by
  let q := s.next.recordSwept (s.added changes).closingSweptHeight
    (s.added changes).ourOutputSweptHeight
  have restored : backwards changes (s.added changes) = q := by
    rw [added_eq]
    refine backwards_forwards_self (fun c member => new_recordSwept (new_next (new c member)))
      apart ?_ first
    intro k recorded
    exact Nat.ne_of_lt (Nat.lt_succ_of_le (sound.doubleSpent k recorded))
  have kept : Kept s.next (forwards changes s.next) := forwards_kept
  have closingSwept : (s.added changes).closingSweptHeight
      = if !s.isClosingSwept && (s.added changes).isClosingSwept
        then some (s.added changes).height else s.closingSweptHeight :=
    congrArg (ite _ _) kept.closingSweptHeight
  have ourOutputSwept : (s.added changes).ourOutputSweptHeight
      = if !s.isOurOutputSwept && (s.added changes).isOurOutputSwept
        then some (s.added changes).height else s.ourOutputSweptHeight :=
    congrArg (ite _ _) kept.ourOutputSweptHeight
  have dropped : q.dropSwept (s.added changes).isClosingSwept (s.added changes).isOurOutputSwept
      = s.next := by
    change s.next.recordSwept
      (if (s.added changes).isClosingSwept && !s.isClosingSwept then none
        else (s.added changes).closingSweptHeight)
      (if (s.added changes).isOurOutputSwept && !s.isOurOutputSwept then none
        else (s.added changes).ourOutputSweptHeight) = s.next
    rw [closingSwept, ourOutputSwept, swept_restored sound.closingSwept,
      swept_restored sound.ourOutputSwept]
    rfl
  rw [State.removed, saw_added, restored]
  simp only [dropped]
  rfl

section

variable (sound : Sound s) (consistent : Consistent prims s txs)
  (readsBack : ReadsBack prims provider s txs)
include sound consistent readsBack

theorem onAddBlock_eq :
    s.onAddBlock prims provider txs = .ok (s.added (s.changesOf prims provider txs),
        watches (watch s.closeTxid) (s.changesOf prims provider txs)) := by
  have alike : Alike prims s s.saw txs := ⟨rfl, rfl, rfl, fun _ _ => rfl, .inl rfl⟩
  obtain ⟨d, pushed, changes⟩ := pushTransactions_view sound consistent readsBack alike
  simp only [State.onAddBlock, pushed, bind, Except.bind, changes]
  exact onAddBlockEnd_eq (new_view consistent) (apart_view sound consistent)

theorem alike_added : Alike prims s (s.added (s.changesOf prims provider txs)) txs := by
  have kept := @forwards_kept (s.changesOf prims provider txs) s.next
  have alike : Alike prims s s.next txs := ⟨rfl, rfl, rfl, fun _ _ => rfl, .inl rfl⟩
  refine ⟨kept.fundingInputs, kept.fundingTxids, kept.fundingVouts, ?_, .inr ?_⟩
  · intro o spent
    exact tracks_view consistent readsBack alike (fun _ there => there) spent
  · rcases @fundingOutpoint_view prims provider s s.next txs txs sound alike
      (fun _ there => there) with same | ⟨same, nowhere⟩
    · exact same
    · exact same.trans (view_fundingOutpoint_none nowhere).symm

theorem onRemoveBlock_eq :
    (s.added (s.changesOf prims provider txs)).onRemoveBlock prims provider txs
      = .ok ((s.added (s.changesOf prims provider txs)).removed (s.changesOf prims provider txs),
        watches (unwatch s.closeTxid) (s.changesOf prims provider txs)) := by
  obtain ⟨d, pushed, changes⟩ := pushTransactions_view sound consistent readsBack
    (alike_added sound consistent readsBack)
  simp only [State.onRemoveBlock, saw_added, pushed, bind, Except.bind, changes]
  exact onRemoveBlockEnd_eq (new_view consistent) (apart_view sound consistent)

end

theorem removed_changesOf (sound : Sound s) (consistent : Consistent prims s txs)
    (reversible : Reversible prims provider s txs) :
    (s.added (s.changesOf prims provider txs)).removed (s.changesOf prims provider txs)
      = s.saw := by
  apply removed_added sound (new_view consistent) (apart_view sound consistent)
  intro o member
  obtain ⟨tx, there, confirms⟩ := fundingConfirmed_mem.mp member
  exact reversible.first tx there (confirms_mem confirms).1

end Vls.Monitor
