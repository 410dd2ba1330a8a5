import Vls.Channel.Frame

/-! # The record of the fundings

What a channel has on record of its fundings and of the commitments of both sides, and all that a
step can do to it. -/

namespace Vls

open Channel EnforcementState

inductive Side where
  | holder
  | counterparty

structure HolderSlots where
  next : U64
  current : Option CommitmentInfo2
  signatures : Option CommitmentSignatures
  waiting : Option (CommitmentInfo2 × CommitmentSignatures)
  funding : Option OutPoint

/-- What was current on a funding at its splice. -/
structure RetiredSlots where
  holder : Option CommitmentInfo2
  signatures : Option CommitmentSignatures
  counterparty : Option CommitmentInfo2

structure Eras where
  keys : VlsChannelSigner
  setup : ChannelSetup
  prevSetup : Option ChannelSetup
  prevPrevSetup : Option ChannelSetup
  locked : Option OutPoint
  holder : HolderSlots
  counterparty : CounterpartySide
  retired : Option RetiredSlots

def RetiredSlots.info (slots : RetiredSlots) : Side → Option CommitmentInfo2
  | .holder => slots.holder
  | .counterparty => slots.counterparty

def Eras.current (eras : Eras) : Side → Option CommitmentInfo2
  | .holder => eras.holder.current
  | .counterparty => eras.counterparty.currentCounterpartyCommitInfo

def Eras.tag (eras : Eras) : Side → Option OutPoint
  | .holder => eras.holder.funding
  | .counterparty => eras.counterparty.counterpartyCommitmentFunding

namespace Channel

def slots (chan : Channel) : HolderSlots where
  next := chan.enforcementState.nextHolderCommitNum
  current := chan.enforcementState.currentHolderCommitInfo
  signatures := chan.enforcementState.currentCounterpartySignatures
  waiting := chan.enforcementState.nextHolderCommitInfo
  funding := chan.enforcementState.holderCommitmentFunding

def eras (chan : Channel) : Eras where
  keys := chan.keys
  setup := chan.setup
  prevSetup := chan.prevSetup
  prevPrevSetup := chan.prevPrevSetup
  locked := chan.fundingLocked
  holder := chan.slots
  counterparty := chan.enforcementState.counterpartySide
  retired := chan.enforcementState.prevFundingCommitment.map fun snap =>
    ⟨snap.currentHolderInfo, snap.currentHolderSignatures, snap.currentCounterpartyInfo⟩

/-- What the lock of a funding puts in place of the current commitments. -/
def lockedInfo (chan : Channel) : Side → CommitmentInfo2
  | .holder => .new false chan.baselineSplit.2 chan.baselineSplit.1 [] [] 0
  | .counterparty => .new true chan.baselineSplit.1 chan.baselineSplit.2 [] [] 0

end Channel

theorem Fresh.eras {s : Locked} (fresh : Fresh s) :
    s.chan.eras = ⟨s.chan.keys, s.chan.setup, none, none, none, ⟨0, none, none, none, none⟩,
      ⟨0, 0, none, none, none, none, some .new⟩, none⟩ := by
  obtain ⟨value, new⟩ := fresh.enforcementState
  rw [Channel.eras, slots, new, fresh.prevSetup, fresh.prevPrevSetup, fresh.fundingLocked]
  rfl

def ChannelRequest.promotes (s : Locked) (request : ChannelRequest) : Bool :=
  match request with
  | .activateInitialCommitment =>
    s.chan.enforcementState.nextHolderCommitInfo.isSome
      && decide (s.chan.enforcementState.nextHolderCommitNum = 0)
  | _ => request.movesOn s

def ChannelRequest.reactivates (s : Locked) : ChannelRequest → Bool
  | .activateInitialCommitment =>
    s.chan.enforcementState.nextHolderCommitInfo.isSome
      && decide (s.chan.enforcementState.nextHolderCommitNum = 1)
      && s.chan.enforcementState.prevFundingCommitment.isSome
  | _ => false

def ChannelRequest.splices (s : Locked) : ChannelRequest → Bool
  | .setupSplice setup _ => s.chan.isSpliceCompatible setup
  | _ => false

theorem moved_of_compatible {chan : Channel} {setup}
    (compatible : chan.isSpliceCompatible setup = true) :
    setup.fundingOutpoint ≠ chan.setup.fundingOutpoint := by
  simp only [isSpliceCompatible, Bool.and_eq_true, decide_eq_true_eq] at compatible
  exact compatible.2

/-- No commitment is signed for the counterparty, and no splice window is closed. -/
def Quiet (events : List Event) : Prop :=
  signedCommitments events = [] ∧ .windowClosed ∉ events

inductive EraChange (ctx : Context) (s : Locked) : ChannelInput → List Event → Eras → Prop where
  | none {input events} (quiet : Quiet events) : EraChange ctx s input events s.chan.eras
  | dropped {input} : EraChange ctx s input [] { s.chan.eras with holder.waiting := .none }
  | promoted {env request events info2 signatures} (promotes : request.promotes s = true)
      (pending : s.chan.slots.waiting = some (info2, signatures)) (quiet : Quiet events) :
      EraChange ctx s (.call env request) events { s.chan.eras with
        holder := ⟨s.chan.slots.next + 1, info2, signatures, .none, s.chan.slots.funding⟩ }
  | reactivated {env request info2 signatures}
      (reactivates : request.reactivates s = true) (second : s.chan.slots.next = 1)
      (pending : s.chan.slots.waiting = some (info2, signatures)) :
      EraChange ctx s (.call env request) [] { s.chan.eras with
        holder := ⟨s.chan.slots.next, info2, signatures, .none, s.chan.slots.funding⟩ }
  | validated {env request commitment}
      (asked : request.holderCommitment ctx env s = some commitment)
      (checked : HolderChecked ctx env s commitment)
      (number : commitment.commitmentNumber = s.chan.slots.next) :
      EraChange ctx s (.call env request) [.holderValidated commitment] { s.chan.eras with
        holder.waiting := some (commitment.info2, commitment.signatures)
        holder.funding := some commitment.view.fundingOutpoint }
  | signed {env request commitment counterparty}
      (asked : request.counterpartyCommitment ctx env s = some commitment)
      (checked : CounterpartyChecked ctx env s commitment)
      (signed : Signed s.chan.eras.counterparty commitment counterparty) :
      EraChange ctx s (.call env request) [.counterpartySigned commitment]
        { s.chan.eras with counterparty }
  | revoked {input events revokeNum oldSecret counterpartySecrets num}
      (validated : ctx.validator.validateCounterpartyRevocation ctx.prims s.chan.enforcementState
        revokeNum oldSecret = .ok ())
      (stored : storeSecret ctx s.chan.enforcementState revokeNum oldSecret
        = .ok { s.chan.enforcementState with counterpartySecrets })
      (counter : num = s.chan.enforcementState.nextCounterpartyRevokeNum
        ∨ num = s.chan.enforcementState.nextCounterpartyRevokeNum + 1 ∧ num = revokeNum + 1
          ∧ num ≠ 0 ∧ ¬ num + 2 < s.chan.enforcementState.nextCounterpartyCommitNum
          ∧ ¬ num + 1 > s.chan.enforcementState.nextCounterpartyCommitNum)
      (quiet : Quiet events) :
      EraChange ctx s input events { s.chan.eras with
        counterparty.nextCounterpartyRevokeNum := num
        counterparty.counterpartySecrets := counterpartySecrets }
  | spliced {env request setup} (splices : request.splices s = true)
      (moved : setup.fundingOutpoint ≠ s.chan.setup.fundingOutpoint) :
      EraChange ctx s (.call env request) [] { s.chan.eras with
        setup
        prevSetup := s.chan.setup
        prevPrevSetup := s.chan.prevSetup
        holder := ⟨s.chan.slots.next, .none, .none, .none, s.chan.slots.funding⟩
        counterparty.currentCounterpartyCommitInfo := .none
        retired := some ⟨s.chan.slots.current, s.chan.slots.signatures,
          s.chan.eras.current .counterparty⟩ }
  | locked {env request} (closes : request.closesWindow s = true) :
      EraChange ctx s (.call env request) [.windowClosed] { s.chan.eras with
        prevSetup := .none
        prevPrevSetup := .none
        locked := s.chan.setup.fundingOutpoint
        holder.current := s.chan.lockedInfo .holder
        counterparty.currentCounterpartyCommitInfo := s.chan.lockedInfo .counterparty
        retired := .none }
  | settled {input} (shut : s.chan.prevSetup = .none ∧ s.chan.prevPrevSetup = .none) :
      EraChange ctx s input [] { s.chan.eras with
        prevSetup := .none
        prevPrevSetup := .none
        locked := s.chan.setup.fundingOutpoint
        retired := .none }

theorem storeHolderCommitment_eras {s : Locked} {commitment : HolderCommitment}
    (number : commitment.commitmentNumber ≠ s.chan.enforcementState.nextHolderCommitNum)
    (straggler : Bool) :
    (s.withEstate (storeHolderCommitment s.chan.enforcementState commitment straggler)).chan.eras
      = s.chan.eras := by
  rw [storeHolderCommitment, if_neg number]
  split
  · simp only [eras, slots, counterpartySide, Locked.withEstate, Option.map_map,
      Function.comp_def]
  · rfl

theorem quiet_nil : Quiet [] :=
  ⟨rfl, by simp⟩

theorem era_change {ctx : Context} (strict : ctx.validator.Strict) {s s' input events}
    (effect : StepEffect ctx s input events s') : EraChange ctx s input events s'.chan.eras := by
  cases effect with
  | others state => exact .none quiet_nil
  | call effect =>
    cases effect with
    | idle | fulfilled => exact .none quiet_nil
    | released => exact .none ⟨rfl, by simp⟩
    | closed _ _ disclosed =>
      refine .none ?_
      rcases disclosed with rfl | rfl <;> exact ⟨rfl, by simp⟩
    | dropped pending => exact .dropped
    | validated straggler asked checked =>
      rename_i commitment
      by_cases number : commitment.commitmentNumber = s.chan.enforcementState.nextHolderCommitNum
      · rw [storeHolderCommitment, if_pos number]
        exact .validated asked checked number
      · rw [storeHolderCommitment_eras number]
        exact .none ⟨rfl, by simp⟩
    | stalled pending =>
      refine .promoted ?_ pending quiet_nil
      simp [ChannelRequest.promotes, ChannelRequest.movesOn, pending]
    | advanced pending balances applied disclosed =>
      refine .promoted ?_ pending ?_
      · simp [ChannelRequest.promotes, ChannelRequest.movesOn, pending]
      · rcases disclosed with rfl | ⟨_, rfl⟩ <;> exact ⟨rfl, by simp⟩
    | activated pending first =>
      refine .promoted ?_ pending quiet_nil
      simp [ChannelRequest.promotes, pending, first]
    | reactivated pending second window =>
      refine .reactivated ?_ second pending
      simp [ChannelRequest.reactivates, pending, second, window]
    | signed asked checked signed =>
      have side := counterpartySigned_ok strict signed.advanced
      obtain ⟨_, _, _, _, same⟩ := counterpartySigned_eq strict signed.advanced
      rw [same] at side
      rw [signed.frame, same]
      exact .signed asked checked side
    | stored stored validated =>
      obtain ⟨_, same⟩ := storeSecret_eq strict stored
      rw [same] at stored ⊢
      exact .revoked validated stored (.inl rfl) quiet_nil
    | revoked validated stored advanced disclosed =>
      obtain ⟨_, same⟩ := storeSecret_eq strict stored
      rw [same] at stored advanced
      obtain ⟨nonzero, notBelow, notAbove, progression, _, rfl⟩ :=
        Validator.setNextCounterpartyRevokeNum_ok strict advanced
      refine .revoked validated stored ?_ ?_
      · exact progression.imp_right fun next => ⟨next, rfl, nonzero, notBelow, notAbove⟩
      · rcases disclosed with rfl | rfl <;> exact ⟨rfl, by simp⟩
    | spliced compatible => exact .spliced compatible (moved_of_compatible compatible)
    | locked unlocked current =>
      subst current
      by_cases window : s.chan.prevSetup.isSome ∨ s.chan.prevPrevSetup.isSome
      · have closes : ChannelRequest.closesWindow s
            (.confirmFundingLocked s.chan.setup.fundingOutpoint) = true :=
          decide_eq_true ⟨unlocked, rfl, window⟩
        simp only [eras, slots, fundingLockedState, if_pos window]
        exact .locked closes
      · simp only [eras, slots, fundingLockedState, if_neg window]
        exact .settled (by simpa using window)

end Vls
