import Vls.Channel.HolderSlot

/-! # The fundings of a splice window

From the first splice to the lock of a funding, all fundings that the channel had are live: any of
them may be the one that confirms. A channel that is spliced once in a window can still deal with
both. -/

namespace Vls

open Channel

def opensFunding (step : ChannelStep) : Bool :=
  match step.input, step.output with
  | .call _ request, .ok _ => request.splices step.before
  | _, _ => false

def endsWindow (step : ChannelStep) : Bool :=
  match step.input with
  | .call _ request => request.closesWindow step.before
  | .others _ => false

def retiredSetups : List ChannelStep → List ChannelSetup
  | [] => []
  | step :: earlier =>
    if endsWindow step then []
    else if opensFunding step then step.before.chan.setup :: retiredSetups earlier
    else retiredSetups earlier

def beforeWindow : List ChannelStep → Option Locked
  | [] => none
  | step :: earlier =>
    if endsWindow step then none
    else if opensFunding step then (beforeWindow earlier).or (some step.before)
    else beforeWindow earlier

def InSlot (chan : Channel) (info : CommitmentInfo2) (signatures : CommitmentSignatures) : Prop :=
  chan.enforcementState.currentHolderCommitInfo = some info
    ∧ chan.enforcementState.currentCounterpartySignatures = some signatures

def InSnapshot (chan : Channel) (info : CommitmentInfo2) (signatures : CommitmentSignatures) :
    Prop :=
  ∃ snap ∈ chan.enforcementState.prevFundingCommitment,
    snap.currentHolderInfo = some info ∧ snap.currentHolderSignatures = some signatures

structure OriginalReachable (ctx : Context) (original s : Locked) : Prop where
  /-- Splices that spend it are signed for the key of its time. -/
  signs : ∀ (tx : Transaction) (inputIndex : U32) (input : TxIn) (amount : Option U64),
    tx.input[inputIndex.toNat]? = some input →
    input.previousOutput = original.chan.setup.fundingOutpoint →
    amount.getD original.chan.setup.channelValueSat = original.chan.setup.channelValueSat →
    ∃ sig, s.chan.signSpliceTx ctx tx inputIndex
      original.chan.setup.counterpartyPoints.fundingPubkey amount = .ok sig
  /-- The commitment that closes it is kept. -/
  held : ∀ info signatures, InSlot original.chan info signatures →
    InSnapshot s.chan info signatures ∨ InSlot s.chan info signatures

def SplicesOnce (s : Locked) : ChannelInput → Prop
  | .others _ => True
  | .call _ request => request.splices s = true → s.chan.prevSetup = none

instance (s : Locked) : (input : ChannelInput) → Decidable (SplicesOnce s input)
  | .others _ | .call .. => by unfold SplicesOnce; infer_instance

/-- The commitment in the record of a retired funding that was current on it. -/
def EnforcementState.retiredCurrent (estate : EnforcementState) :
    Option (Option CommitmentInfo2 × Option CommitmentSignatures) :=
  estate.prevFundingCommitment.map fun snap =>
    (snap.currentHolderInfo, snap.currentHolderSignatures)

/-- What the channel keeps of its original funding. -/
structure InWindow (original : Locked) (eras : Eras) : Prop where
  prevSetup : eras.prevSetup = some original.chan.setup
  moved : eras.setup.fundingOutpoint ≠ original.chan.setup.fundingOutpoint
  snapshot : eras.retired = some ⟨original.chan.slots.current, original.chan.slots.signatures,
    original.chan.eras.current .counterparty⟩

/-- No window is open, or one with one splice. -/
inductive WindowKept (history : List ChannelStep) (s : Locked) : Prop where
  | shut (opened : beforeWindow history = none) (retired : retiredSetups history = [])
  | open (original : Locked) (opened : beforeWindow history = some original)
      (retired : retiredSetups history = [original.chan.setup])
      (window : InWindow original s.chan.eras)

section step

variable {ctx : Context} {s s' : Locked} {input : ChannelInput}

theorem InWindow.step {original output events eras'} (window : InWindow original s.chan.eras)
    (once : SplicesOnce s input) (stays : endsWindow ⟨s, input, output⟩ = false)
    (change : EraChange ctx s input events eras') : InWindow original eras' := by
  cases change with
  | spliced splices moved => cases window.prevSetup.symm.trans (once splices)
  | locked closes => cases closes.symm.trans stays
  | settled shut => cases window.prevSetup.symm.trans shut.1
  | _ => exact ⟨window.prevSetup, window.moved, window.snapshot⟩

theorem setupSplice_ok {env : Env} {setup : ChannelSetup} {path reply}
    (compatible : s.chan.isSpliceCompatible setup = true)
    (ok : perform ctx env (.setupSplice setup path) s = .ok reply s') :
    s' = { s with chan := s.chan.spliced setup } := by
  have ends : Call.Ends (perform ctx env (.setupSplice setup path)) s
      (fun _ s' => s' = { s with chan := s.chan.spliced setup }) (fun _ _ => True) := by
    have other : s.chan.setup ≠ setup := by
      rintro rfl
      exact moved_of_compatible compatible rfl
    simp only [perform, setupSplice, Call.ends_bind, Call.ends_get, Call.ends_ite, Call.ends_pure,
      Call.ends_throw, Call.ends_modify, ends_lift_validation, Call.ends_lift, other, compatible,
      Bool.true_eq_false, false_implies, not_false_eq_true, implies_true, and_self,
      and_true, true_and]
  exact ends.ok ok

variable {history : List ChannelStep} {output : Except Status ChannelReply}

theorem splice_of_opensFunding (stepped : (channelMachine ctx).step s input = some (output, s'))
    (opens : opensFunding ⟨s, input, output⟩ = true) :
    ∃ env request setup, input = .call env request ∧ request.splices s = true
      ∧ setup.fundingOutpoint ≠ s.chan.setup.fundingOutpoint
      ∧ s' = { s with chan := s.chan.spliced setup } := by
  cases input with
  | others state => cases opens
  | call env request =>
    cases request with
    | setupSplice setup path =>
      cases output with
      | error status => cases opens
      | ok reply =>
        have compatible := opens
        exact ⟨env, _, setup, rfl, opens, moved_of_compatible compatible,
          setupSplice_ok compatible (perform_of_step stepped)⟩
    | _ => cases output <;> cases opens

theorem WindowKept.step (strict : ctx.validator.Strict) (kept : WindowKept history s)
    (once : SplicesOnce s input) (stepped : (channelMachine ctx).step s input = some (output, s')) :
    WindowKept (⟨s, input, output⟩ :: history) s' := by
  cases ends : endsWindow ⟨s, input, output⟩ with
  | true => exact .shut (by simp [beforeWindow, ends]) (by simp [retiredSetups, ends])
  | false =>
    cases opens : opensFunding ⟨s, input, output⟩ with
    | true =>
      obtain ⟨env, request, setup, rfl, splices, moved, rfl⟩ :=
        splice_of_opensFunding stepped opens
      cases kept with
      | shut opened retired =>
        refine .open s ?_ ?_ ⟨rfl, moved, rfl⟩
        · simp [beforeWindow, ends, opens, opened]
        · simp [retiredSetups, ends, opens, retired]
      | «open» original opened retired window =>
        cases window.prevSetup.symm.trans (once splices)
    | false =>
      have same : beforeWindow (⟨s, input, output⟩ :: history) = beforeWindow history := by
        simp [beforeWindow, ends, opens]
      have sameRetired :
          retiredSetups (⟨s, input, output⟩ :: history) = retiredSetups history := by
        simp [retiredSetups, ends, opens]
      cases kept with
      | shut opened retired => exact .shut (same.trans opened) (sameRetired.trans retired)
      | «open» original opened retired window =>
        refine .open original (same.trans opened) (sameRetired.trans retired) ?_
        exact window.step once ends (era_change strict (step_effect strict stepped))

end step

theorem setupForOutpoint_setup (chan : Channel) :
    chan.setupForOutpoint chan.setup.fundingOutpoint = .ok chan.setup := by
  simp [setupForOutpoint, views, Result.okOr]

theorem InWindow.resolves {original} {s : Locked} (window : InWindow original s.chan.eras) :
    s.chan.setupForOutpoint original.chan.setup.fundingOutpoint = .ok original.chan.setup := by
  have prevSetup : s.chan.prevSetup = _ := window.prevSetup
  have moved : s.chan.setup.fundingOutpoint ≠ _ := window.moved
  simp [setupForOutpoint, views, prevSetup, moved, Result.okOr]

theorem InWindow.reachable {ctx original} {s : Locked} (window : InWindow original s.chan.eras) :
    OriginalReachable ctx original s := by
  constructor
  · intro tx inputIndex input amount found spends value
    have prevSetup : s.chan.prevSetup = _ := window.prevSetup
    have moved : _ ≠ s.chan.setup.fundingOutpoint := window.moved.symm
    have view : s.chan.spliceView input.previousOutput = .ok original.chan.setup := by
      simp [spliceView, spends, prevSetup, moved]
    simp [signSpliceTx, found, Result.okOr, view, value, bind, Except.bind]
  · intro info signatures inSlot
    obtain ⟨snap, stored, kept⟩ := Option.map_eq_some_iff.mp window.snapshot
    simp only [RetiredSlots.mk.injEq] at kept
    exact .inl ⟨snap, stored, kept.1.trans inSlot.1, kept.2.1.trans inSlot.2⟩

/-- In a run that splices only channels with one funding, every funding since the last lock
    resolves to its setup, and the original one stays within reach. -/
theorem window_stays_reachable {ctx : Context} (strict : ctx.validator.Strict) {start s : Locked}
    {history : List ChannelStep} (run : (channelMachine ctx).Run start history s)
    (once : Machine.Meets (fun _ => SplicesOnce) history) :
    (∀ setup ∈ s.chan.setup :: retiredSetups history,
        s.chan.setupForOutpoint setup.fundingOutpoint = .ok setup)
      ∧ ∀ original ∈ beforeWindow history, OriginalReachable ctx original s := by
  have kept : WindowKept history s :=
    run.inv WindowKept once (.shut rfl rfl)
      fun _ _ _ _ _ kept once stepped => kept.step strict once stepped
  cases kept with
  | shut opened retired =>
    rw [opened, retired]
    refine ⟨?_, by simp⟩
    intro setup current
    obtain rfl := List.mem_singleton.mp current
    exact setupForOutpoint_setup s.chan
  | «open» original opened retired window =>
    rw [opened, retired]
    constructor
    · intro setup listed
      rcases List.mem_cons.mp listed with rfl | listed
      · exact setupForOutpoint_setup s.chan
      · obtain rfl := List.mem_singleton.mp listed
        exact window.resolves
    · intro original' here
      cases here
      exact window.reachable

def spends (outpoint : OutPoint) : Transaction := ⟨2, 0, [⟨outpoint, [], 0, []⟩], []⟩

def openAndSplice (fundings : List OutPoint) : List ChannelInput :=
  [Toy.validateHolder Toy.setup 0, Toy.activate] ++ fundings.map fun outpoint =>
    .call Toy.env (.setupSplice { Toy.setup with fundingOutpoint := outpoint } [])

theorem spliced_once_reachable :
    ∃ history s, (channelMachine Toy.ctx).Run Toy.start history s
      ∧ retiredSetups history = [Toy.setup]
      ∧ s.chan.setupForOutpoint Toy.setup.fundingOutpoint = .ok Toy.setup
      ∧ ∃ original ∈ beforeWindow history, OriginalReachable Toy.ctx original s := by
  obtain ⟨history, s, run, once, retired, opened⟩ :
      ∃ history s, (channelMachine Toy.ctx).Run Toy.start history s
        ∧ Machine.Meets (fun _ => SplicesOnce) history
        ∧ retiredSetups history = [Toy.setup] ∧ (beforeWindow history).isSome :=
    Machine.exists_run (openAndSplice [⟨2, 0⟩]) (by decide +kernel)
  obtain ⟨resolves, reachable⟩ := window_stays_reachable Toy.strict run once
  obtain ⟨original, here⟩ := Option.isSome_iff_exists.mp opened
  refine ⟨history, s, run, retired, resolves _ ?_, original, here, reachable original here⟩
  rw [retired]
  exact List.mem_cons_of_mem _ List.mem_cons_self

def Channel.hasCurrent (chan : Channel) : Bool :=
  chan.enforcementState.currentHolderCommitInfo.isSome
    && chan.enforcementState.currentCounterpartySignatures.isSome

/-- After three splices the original funding is out of reach: its setup is not found, no splice
    that spends it is signed, and the commitment that closes it is gone. -/
theorem original_out_of_reach :
    ∃ history s, (channelMachine Toy.ctx).Run Toy.start history s
      ∧ (s.chan.setupForOutpoint Toy.setup.fundingOutpoint).toOption.isNone = true
      ∧ ∃ original ∈ beforeWindow history, original.chan.setup = Toy.setup
        ∧ (s.chan.signSpliceTx Toy.ctx (spends Toy.setup.fundingOutpoint) 0
          Toy.setup.counterpartyPoints.fundingPubkey none).toOption.isNone = true
        ∧ original.chan.hasCurrent = true ∧ s.chan.hasCurrent = false
        ∧ (s.chan.enforcementState.retiredCurrent.bind (·.1)).isNone = true :=
  Machine.exists_run (openAndSplice [⟨2, 0⟩, ⟨3, 0⟩, ⟨4, 0⟩]) (by decide +kernel)

end Vls
