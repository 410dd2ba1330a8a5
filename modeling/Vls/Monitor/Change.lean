import Vls.Lib.Undo
import Vls.Monitor.Listener

/-! # What a change does

Making a change and taking it back as total functions, next to the conditions under which the code
does the same without a panic. Two changes are apart if neither touches what the other one does;
changes that are apart can be taken back in any order. -/

namespace Vls.Monitor

open ClosingOutpoints State Marked Result Option

variable {r : State × Watch}

namespace StateChange

def spend (c : StateChange) (o : ClosingOutpoints) : ClosingOutpoints :=
  match c with
  | ourOutputSpent _ => { o with ourOutput := o.ourOutput.map (⟨·.key, true⟩) }
  | htlcOutputSpent vout secondLevel =>
    { o with
      htlcOutputs := setMark vout true o.htlcOutputs
      secondLevelHtlcOutputs := o.secondLevelHtlcOutputs ++ [⟨secondLevel, false⟩] }
  | secondLevelHtlcOutputSpent outpoint =>
    { o with secondLevelHtlcOutputs := setMark outpoint true o.secondLevelHtlcOutputs }
  | _ => o

def unspend (c : StateChange) (o : ClosingOutpoints) : ClosingOutpoints :=
  match c with
  | ourOutputSpent _ => { o with ourOutput := o.ourOutput.map (⟨·.key, false⟩) }
  | htlcOutputSpent vout secondLevel =>
    { o with
      htlcOutputs := setMark vout false o.htlcOutputs
      secondLevelHtlcOutputs := remove secondLevel o.secondLevelHtlcOutputs }
  | secondLevelHtlcOutputSpent outpoint =>
    { o with secondLevelHtlcOutputs := setMark outpoint false o.secondLevelHtlcOutputs }
  | _ => o

def forward (c : StateChange) (s : State) : State :=
  match c with
  | fundingConfirmed outpoint =>
    { s with
      fundingHeight := some s.height
      fundingOutpoint := some outpoint
      fundingDoubleSpentHeight := none }
  | fundingInputSpent _ =>
    { s with fundingDoubleSpentHeight := some (s.fundingDoubleSpentHeight.getD s.height) }
  | unilateralCloseConfirmed txid _ ourOutputIndex htlcsIndices =>
    { s with
      unilateralClosingHeight := some s.height
      closingOutpoints := some (.new txid ourOutputIndex htlcsIndices) }
  | mutualCloseConfirmed .. => { s with mutualClosingHeight := some s.height }
  | c => { s with closingOutpoints := s.closingOutpoints.map c.spend }

def backward (c : StateChange) (s : State) : State :=
  match c with
  | fundingConfirmed _ => { s with fundingHeight := none, fundingOutpoint := none }
  | fundingInputSpent _ =>
    { s with
      fundingDoubleSpentHeight :=
        if s.fundingDoubleSpentHeight = some s.height then none else s.fundingDoubleSpentHeight }
  | unilateralCloseConfirmed .. =>
    { s with unilateralClosingHeight := none, closingOutpoints := none }
  | mutualCloseConfirmed .. => { s with mutualClosingHeight := none }
  | c => { s with closingOutpoints := s.closingOutpoints.map c.unspend }

/-- The outpoints to watch for, and those to watch no longer, after a change. The outputs of the
    close are those of a transaction `close`. -/
def watch (close : BitVec 256) : StateChange → Watch
  | fundingConfirmed outpoint => ⟨[outpoint], []⟩
  | fundingInputSpent outpoint => ⟨[], [outpoint]⟩
  | unilateralCloseConfirmed txid fundingOutpoint ourOutputIndex htlcsIndices =>
    ⟨ourOutputIndex.toList.map (⟨txid, ·⟩) ++ htlcsIndices.map (⟨txid, ·⟩), [fundingOutpoint]⟩
  | mutualCloseConfirmed _ fundingOutpoint => ⟨[], [fundingOutpoint]⟩
  | ourOutputSpent vout => ⟨[], [⟨close, vout⟩]⟩
  | htlcOutputSpent vout secondLevel => ⟨[secondLevel], [⟨close, vout⟩]⟩
  | secondLevelHtlcOutputSpent outpoint => ⟨[], [outpoint]⟩

/-- The lists that the code hands over when it takes a change back. -/
def unwatch (close : BitVec 256) : StateChange → Watch
  | htlcOutputSpent vout secondLevel => ⟨[⟨close, vout⟩], [secondLevel]⟩
  | secondLevelHtlcOutputSpent outpoint => ⟨[outpoint], []⟩
  | c => c.watch close

def Able (s : State) : StateChange → Prop
  | ourOutputSpent vout => ∃ o ∈ s.closingOutpoints, o.ourOutput.map (·.key) = some vout
  | htlcOutputSpent vout _ => ∃ o ∈ s.closingOutpoints, Marked.Has o.htlcOutputs vout
  | secondLevelHtlcOutputSpent outpoint =>
    ∃ o ∈ s.closingOutpoints, Marked.Has o.secondLevelHtlcOutputs outpoint
  | _ => True

def Undoable (s : State) : StateChange → Prop
  | fundingConfirmed _ => s.fundingHeight = some s.height
  | unilateralCloseConfirmed .. => s.unilateralClosingHeight = some s.height
  | c => c.Able s

def New (s : State) : StateChange → Prop
  | fundingConfirmed _ => s.fundingHeight = none
  | fundingInputSpent _ => True
  | unilateralCloseConfirmed .. => s.unilateralClosingHeight = none ∧ s.closingOutpoints = none
  | mutualCloseConfirmed .. => s.mutualClosingHeight = none
  | ourOutputSpent vout => ∃ o ∈ s.closingOutpoints, o.ourOutput = some ⟨vout, false⟩
  | htlcOutputSpent vout secondLevel => ∃ o ∈ s.closingOutpoints,
      markOf vout o.htlcOutputs = some false ∧ ¬ Marked.Has o.secondLevelHtlcOutputs secondLevel
  | secondLevelHtlcOutputSpent outpoint => ∃ o ∈ s.closingOutpoints,
      markOf outpoint o.secondLevelHtlcOutputs = some false

def Apart : StateChange → StateChange → Prop
  | fundingConfirmed _, fundingConfirmed _ => False
  | mutualCloseConfirmed .., mutualCloseConfirmed .. => False
  | unilateralCloseConfirmed .., unilateralCloseConfirmed .. => False
  | unilateralCloseConfirmed .., ourOutputSpent _ => False
  | unilateralCloseConfirmed .., htlcOutputSpent .. => False
  | unilateralCloseConfirmed .., secondLevelHtlcOutputSpent _ => False
  | ourOutputSpent _, unilateralCloseConfirmed .. => False
  | htlcOutputSpent .., unilateralCloseConfirmed .. => False
  | secondLevelHtlcOutputSpent _, unilateralCloseConfirmed .. => False
  | ourOutputSpent _, ourOutputSpent _ => False
  | htlcOutputSpent vout second, htlcOutputSpent vout' second' => vout ≠ vout' ∧ second ≠ second'
  | htlcOutputSpent _ second, secondLevelHtlcOutputSpent outpoint => second ≠ outpoint
  | secondLevelHtlcOutputSpent outpoint, htlcOutputSpent _ second => outpoint ≠ second
  | secondLevelHtlcOutputSpent outpoint, secondLevelHtlcOutputSpent outpoint' =>
    outpoint ≠ outpoint'
  | _, _ => True

end StateChange

namespace State

def closeTxid (s : State) : BitVec 256 :=
  (s.closingOutpoints.map (·.txid)).getD 0

/-- The funding outpoint and a double spend of the funding are put aside. What was the outpoint
    before the funding was confirmed is not on record, and the height of a double spend depends on
    how often the funding inputs are spent, so neither comes and goes with a single change. -/
def putAside (s : State) : State :=
  { s with fundingOutpoint := none, fundingDoubleSpentHeight := none }

end State

open StateChange

variable {c d : StateChange} {s : State}

theorem applyForwardChange_able (able : c.Able s) :
    s.applyForwardChange c = .ok (c.forward s, c.watch s.closeTxid) := by
  cases c with
  | fundingConfirmed | fundingInputSpent | unilateralCloseConfirmed | mutualCloseConfirmed => rfl
  | ourOutputSpent vout =>
    obtain ⟨o, found, here⟩ := able
    obtain ⟨entry, isOurs, rfl⟩ := map_eq_some_iff.mp here
    simp [applyForwardChange, unwrapClosing, mem_def.mp found, forward, watch,
      setOurOutputSpent, isOurs, expect, spend, closeTxid, bind, Except.bind]
  | htlcOutputSpent vout secondLevel =>
    obtain ⟨o, found, here⟩ := able
    simp [applyForwardChange, unwrapClosing, mem_def.mp found, forward, watch, setHtlcOutputSpent,
      addSecondLevelHtlcOutput, here, expect, spend, closeTxid, bind, Except.bind]
  | secondLevelHtlcOutputSpent outpoint =>
    obtain ⟨o, found, here⟩ := able
    simp [applyForwardChange, unwrapClosing, mem_def.mp found, forward, watch,
      setSecondLevelHtlcSpent, here, expect, spend, bind, Except.bind]

theorem applyBackwardChange_undoable (undoable : c.Undoable s) :
    s.applyBackwardChange c = .ok (c.backward s, c.unwatch s.closeTxid) := by
  cases c with
  | fundingConfirmed | unilateralCloseConfirmed => exact if_pos undoable
  | mutualCloseConfirmed => rfl
  | fundingInputSpent outpoint =>
    simp only [applyBackwardChange, backward, unwatch, watch]
    split <;> rfl
  | ourOutputSpent vout =>
    obtain ⟨o, found, here⟩ := undoable
    obtain ⟨entry, isOurs, rfl⟩ := map_eq_some_iff.mp here
    simp [applyBackwardChange, unwrapClosing, mem_def.mp found, backward, unwatch, watch,
      setOurOutputSpent, isOurs, expect, unspend, closeTxid, bind, Except.bind]
  | htlcOutputSpent vout secondLevel =>
    obtain ⟨o, found, here⟩ := undoable
    simp [applyBackwardChange, unwrapClosing, mem_def.mp found, backward, unwatch,
      setHtlcOutputSpent, removeSecondLevelHtlcOutput, here, expect, unspend, closeTxid, bind,
      Except.bind]
  | secondLevelHtlcOutputSpent outpoint =>
    obtain ⟨o, found, here⟩ := undoable
    simp [applyBackwardChange, unwrapClosing, mem_def.mp found, backward, unwatch,
      setSecondLevelHtlcSpent, here, expect, unspend, bind, Except.bind]

section returned

variable {o o' : ClosingOutpoints} {vout : U32} {outpoint : OutPoint} {spent : Bool}

theorem setOurOutputSpent_returned (returned : o.setOurOutputSpent vout spent = .ok o') :
    o.ourOutput.map (·.key) = some vout := by
  unfold setOurOutputSpent at returned
  obtain ⟨entry, ours, returned⟩ := bind_eq_ok.mp returned
  split at returned
  · rename_i same
    rw [expect_eq_ok.mp ours, map_some, same]
  · cases returned

theorem setHtlcOutputSpent_returned (returned : o.setHtlcOutputSpent vout spent = .ok o') :
    Marked.Has o.htlcOutputs vout := by
  unfold setHtlcOutputSpent at returned
  split at returned
  · assumption
  · cases returned

theorem setSecondLevelHtlcSpent_returned
    (returned : o.setSecondLevelHtlcSpent outpoint spent = .ok o') :
    Marked.Has o.secondLevelHtlcOutputs outpoint := by
  unfold setSecondLevelHtlcSpent at returned
  split at returned
  · assumption
  · cases returned

theorem closing_returned {set : ClosingOutpoints → Result Empty ClosingOutpoints} {next}
    (returned : (s.unwrapClosing >>= fun o => set o >>= next) = .ok r) :
    ∃ o ∈ s.closingOutpoints, ∃ o', set o = .ok o' := by
  obtain ⟨o, found, returned⟩ := bind_eq_ok.mp returned
  obtain ⟨o', here, -⟩ := bind_eq_ok.mp returned
  exact ⟨o, expect_eq_ok.mp found, o', here⟩

end returned

theorem able_of_applied (applied : s.applyForwardChange c = .ok r) : c.Able s := by
  cases c with
  | fundingConfirmed | fundingInputSpent | unilateralCloseConfirmed | mutualCloseConfirmed =>
    trivial
  | ourOutputSpent | htlcOutputSpent | secondLevelHtlcOutputSpent =>
    obtain ⟨o, found, _, returned⟩ := closing_returned applied
    first
    | exact ⟨o, found, setOurOutputSpent_returned returned⟩
    | exact ⟨o, found, setHtlcOutputSpent_returned returned⟩
    | exact ⟨o, found, setSecondLevelHtlcSpent_returned returned⟩

theorem undoable_of_applied (applied : s.applyBackwardChange c = .ok r) : c.Undoable s := by
  cases c with
  | fundingConfirmed | unilateralCloseConfirmed =>
    simp only [applyBackwardChange] at applied
    split at applied
    · assumption
    · cases applied
  | fundingInputSpent | mutualCloseConfirmed => trivial
  | ourOutputSpent | htlcOutputSpent | secondLevelHtlcOutputSpent =>
    obtain ⟨o, found, _, returned⟩ := closing_returned applied
    first
    | exact ⟨o, found, setOurOutputSpent_returned returned⟩
    | exact ⟨o, found, setHtlcOutputSpent_returned returned⟩
    | exact ⟨o, found, setSecondLevelHtlcSpent_returned returned⟩

theorem applyForwardChange_ok (applied : s.applyForwardChange c = .ok r) :
    r = (c.forward s, c.watch s.closeTxid) :=
  Except.ok.inj (applied.symm.trans (applyForwardChange_able (able_of_applied applied)))

theorem applyBackwardChange_ok (applied : s.applyBackwardChange c = .ok r) :
    r = (c.backward s, c.unwatch s.closeTxid) :=
  Except.ok.inj (applied.symm.trans (applyBackwardChange_undoable (undoable_of_applied applied)))

theorem unspend_spend_comm (apart : c.Apart d) (o : ClosingOutpoints) :
    c.unspend (d.spend o) = d.spend (c.unspend o) := by
  cases c with
  | fundingConfirmed | fundingInputSpent | unilateralCloseConfirmed | mutualCloseConfirmed => rfl
  | ourOutputSpent vout =>
    cases d with
    | ourOutputSpent => exact apart.elim
    | _ => rfl
  | htlcOutputSpent vout secondLevel =>
    cases d with
    | htlcOutputSpent vout' secondLevel' =>
      obtain ⟨vouts, seconds⟩ := apart
      simp [unspend, spend, setMark_comm vouts, remove_append seconds]
    | secondLevelHtlcOutputSpent outpoint => simp [unspend, spend, remove_setMark apart]
    | _ => rfl
  | secondLevelHtlcOutputSpent outpoint =>
    cases d with
    | htlcOutputSpent vout secondLevel => simp [unspend, spend, setMark_append apart]
    | secondLevelHtlcOutputSpent outpoint' => simp [unspend, spend, setMark_comm apart]
    | _ => rfl

theorem backward_forward_comm (apart : c.Apart d) (s : State) :
    (c.backward (d.forward s)).putAside = (d.forward (c.backward s)).putAside := by
  have closing := unspend_spend_comm apart
  cases c <;> cases d <;> first
    | exact apart.elim
    | rfl
    | simp [backward, forward, putAside, Function.comp_def, closing]

theorem unspend_spend_new {o} (new : c.New s) (found : o ∈ s.closingOutpoints) :
    c.unspend (c.spend o) = o := by
  cases c with
  | fundingConfirmed | fundingInputSpent | unilateralCloseConfirmed | mutualCloseConfirmed => rfl
  | ourOutputSpent vout =>
    obtain ⟨o', found', unspent⟩ := new
    obtain rfl := mem_unique found found'
    obtain ⟨txid, _, htlcs, seconds⟩ := o
    obtain rfl : _ = some _ := unspent
    rfl
  | htlcOutputSpent vout secondLevel =>
    obtain ⟨o', found', unspent, absent⟩ := new
    obtain rfl := mem_unique found found'
    simp [unspend, spend, setMark_undo unspent, remove_undo absent]
  | secondLevelHtlcOutputSpent outpoint =>
    obtain ⟨o', found', unspent⟩ := new
    obtain rfl := mem_unique found found'
    simp [unspend, spend, setMark_undo unspent]

theorem backward_forward_new (new : c.New s) :
    (c.backward (c.forward s)).putAside = s.putAside := by
  have closing : (s.closingOutpoints.map c.spend).map c.unspend = s.closingOutpoints := by
    cases found : s.closingOutpoints with
    | none => rfl
    | some o => exact congrArg some (unspend_spend_new new found)
  cases c with
  | fundingInputSpent => rfl
  | fundingConfirmed => simp [backward, forward, putAside, show _ = none from new]
  | unilateralCloseConfirmed => simp [backward, forward, putAside, new.1, new.2]
  | mutualCloseConfirmed => simp [backward, forward, putAside, show _ = none from new]
  | ourOutputSpent | htlcOutputSpent | secondLevelHtlcOutputSpent =>
    simp only [backward, forward, putAside, closing]

theorem forward_putAside : (c.forward s.putAside).putAside = (c.forward s).putAside := by
  cases c <;> rfl

theorem backward_putAside : (c.backward s.putAside).putAside = (c.backward s).putAside := by
  cases c <;> rfl

def forwards (changes : List StateChange) (s : State) : State := Undo.all forward changes s

def backwards (changes : List StateChange) (s : State) : State := Undo.all backward changes s

theorem putAside_all {f} (aside : ∀ c s, (f c s.putAside).putAside = (f c s).putAside)
    (changes : List StateChange) (s : State) :
    (Undo.all f changes s).putAside
      = Undo.all (fun c s => (f c s).putAside) changes s.putAside := by
  induction changes generalizing s with
  | nil => rfl
  | cons c rest ih => rw [Undo.all_cons, Undo.all_cons, ih, aside]

theorem backwards_forwards {done rest} (new : ∀ c ∈ done, c.New s)
    (apart : (done ++ rest).Pairwise Apart) :
    (backwards done (forwards (done ++ rest) s)).putAside = (forwards rest s).putAside := by
  have cancels : ∀ c ∈ done, (c.backward (c.forward s.putAside).putAside).putAside
      = s.putAside := by
    intro c member
    have newAside : c.New s.putAside := by cases c <;> exact new _ member
    rw [backward_putAside, backward_forward_new newAside]
    rfl
  have independent : (done ++ rest).Pairwise
      (Undo.Independent (fun c s => (c.forward s).putAside)
        fun c s => (c.backward s).putAside) := by
    refine apart.imp fun {c d} apart s => ?_
    change (c.backward (d.forward s).putAside).putAside
      = (d.forward (c.backward s).putAside).putAside
    rw [backward_putAside, forward_putAside, backward_forward_comm apart]
  rw [backwards, forwards, putAside_all fun _ _ => backward_putAside,
    putAside_all fun _ _ => forward_putAside, Undo.all_undo_append cancels independent,
    forwards, putAside_all fun _ _ => forward_putAside]

end Vls.Monitor
