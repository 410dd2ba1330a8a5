import Mathlib.Order.Bounds.Defs
import Vls.Channel.Fitting
import Vls.Channel.FundingTags
import Vls.Channel.SpliceWindow
import Vls.Node.Excess

/-! # The balance before a commitment

A new commitment is held against the holder's balance in the commitments that are on record for its
funding. In a splice window these are the current ones for the newest funding, and those that were
current at the splice for the retiring one. -/

namespace Vls

open Channel EnforcementState Option

/-- A commitment was checked for a funding, or put in place by the lock of that funding. -/
def MadeFor (ctx : Context) (history : List ChannelStep) (setup : ChannelSetup) (side : Side)
    (info : CommitmentInfo2) : Prop :=
  CheckedFor (trace ctx history) setup.fundingOutpoint info side
    ∨ ∃ step ∈ history, endsWindow step = true ∧ step.before.chan.setup = setup
      ∧ step.before.chan.lockedInfo side = info

namespace Eras

/-- What is on record for one of the two newest fundings. -/
def info (eras : Eras) (view : ChannelSetup) (side : Side) : Option CommitmentInfo2 :=
  if view.fundingOutpoint = eras.setup.fundingOutpoint then eras.current side
  else eras.retired.bind (·.info side)

def predecessor (eras : Eras) (view : ChannelSetup) : Option ChannelSetup :=
  if view.fundingOutpoint = eras.setup.fundingOutpoint then eras.prevSetup
  else eras.prevPrevSetup

end Eras

def eraClaim (s : Locked) (view : ChannelSetup) (side : Side) : Option U64 :=
  (s.chan.eras.info view side).bind fun info =>
    info.claimableBalance s.state.hasPreimage view.isOutbound view.channelValueSat

/-- No commitment was ever current on the funding or on the one before it. -/
def NeverStored (history : List ChannelStep) (eras : Eras) (view : ChannelSetup) : Prop :=
  ∀ step ∈ history, step.before.chan.setup = view
      ∨ eras.predecessor view = some step.before.chan.setup →
    ∀ side, step.before.chan.eras.current side = none

/-- The balance before a commitment is the least of the holder's claims on the commitments of its
    funding, or the value the channel started with where there never was one. -/
structure BalanceBefore (ctx : Context) (history : List ChannelStep) (s : Locked)
    (view : ChannelSetup) (before : U64) : Prop where
  made : ∀ side, ∀ info ∈ s.chan.eras.info view side,
    MadeFor ctx history view side info ∧ (eraClaim s view side).isSome
  least : IsLeast { balance | ∃ side, eraClaim s view side = some balance } before
    ∨ (∀ side, s.chan.eras.info view side = none) ∧ NeverStored history s.chan.eras view
      ∧ before = s.chan.enforcementState.initialHolderValue

/-- In a splice window a commitment of the funding is on record, unless there never was one. -/
def EraKnown (history : List ChannelStep) (eras : Eras) (view : ChannelSetup) : Prop :=
  eras.prevSetup.isSome → (∃ side, (eras.info view side).isSome) ∨ NeverStored history eras view

/-- In a splice window the commitments that are stored are for the newest funding, and the balances
    that the lock at its end puts in place are worth no more than that. -/
def KeepsEras (ctx : Context) (s : Locked) : ChannelInput → Prop
  | .others _ => True
  | .call env request =>
    (∀ commitment ∈ request.holderCommitment ctx env s,
      commitment.commitmentNumber = s.chan.enforcementState.nextHolderCommitNum →
      commitment.view = s.chan.setup)
    ∧ (∀ commitment ∈ request.counterpartyCommitment ctx env s,
      commitment.view = s.chan.setup
        -- The number is signed again before the newest funding has a commitment.
        ∨ s.chan.enforcementState.currentCounterpartyCommitInfo = none
          ∧ commitment.commitmentNumber + 1 = s.chan.enforcementState.nextCounterpartyCommitNum
          ∧ s.chan.enforcementState.nextCounterpartyCommitNum + 1 ≠ 0)
    ∧ (request.closesWindow s → s.chan.baselineSplit.1.toNat + s.chan.baselineSplit.2.toNat
      ≤ s.chan.setup.channelValueSat.toNat)

instance (ctx : Context) (s : Locked) : (input : ChannelInput) → Decidable (KeepsEras ctx s input)
  | .others _ | .call .. => by unfold KeepsEras; infer_instance

/-- A commitment of the newest funding, which its tag names while another funding is live. -/
structure Eras.Holds (eras : Eras) (ctx : Context) (history : List ChannelStep) (side : Side)
    (info : CommitmentInfo2) : Prop where
  made : MadeFor ctx history eras.setup side info
  fits : info.Fits eras.setup.channelValueSat
  tagged : eras.prevSetup.isSome → eras.tag side = some eras.setup.fundingOutpoint

structure ErasKept (ctx : Context) (history : List ChannelStep) (eras : Eras) : Prop where
  current : ∀ side, ∀ info ∈ eras.current side, eras.Holds ctx history side info
  waiting : ∀ next ∈ eras.holder.waiting, eras.Holds ctx history .holder next.1
  moved : ∀ prev ∈ eras.prevSetup, prev.fundingOutpoint ≠ eras.setup.fundingOutpoint
  retired : ∀ prev ∈ eras.prevSetup, ∃ slots ∈ eras.retired, ∀ side, ∀ info ∈ slots.info side,
    MadeFor ctx history prev side info ∧ info.Fits prev.channelValueSat
  unused : eras.prevSetup = none → (∀ side, eras.current side = none) →
    ∀ step ∈ history, ∀ side, step.before.chan.eras.current side = none

section step

variable {ctx : Context} {s : Locked} {input : ChannelInput} {output : Except Status ChannelReply}
  {history : List ChannelStep} {eras eras' : Eras} {side : Side} {info : CommitmentInfo2}

theorem MadeFor.later {setup} (made : MadeFor ctx history setup side info) (step : ChannelStep) :
    MadeFor ctx (step :: history) setup side info := by
  rcases made with checked | ⟨locked, member, rest⟩
  · left
    rw [trace_cons]
    exact checked.later _
  · exact .inr ⟨locked, .tail _ member, rest⟩

theorem Eras.Holds.later (holds : eras.Holds ctx history side info) (step : ChannelStep)
    (setup : eras'.setup = eras.setup) (prevSetup : eras'.prevSetup = eras.prevSetup)
    (tag : eras'.tag side = eras.tag side ∨ eras'.tag side = some eras.setup.fundingOutpoint) :
    eras'.Holds ctx (step :: history) side info := by
  obtain ⟨made, fits, tagged⟩ := holds
  refine ⟨?_, ?_, ?_⟩ <;> rw [setup]
  · exact made.later step
  · exact fits
  · rw [prevSetup]
    intro window
    rcases tag with same | tag
    · exact same.trans (tagged window)
    · exact tag

/-- The fundings stay, and each commitment that is now on record was there or holds. -/
theorem ErasKept.keep (kept : ErasKept ctx history s.chan.eras)
    (setup : eras'.setup = s.chan.setup) (prevSetup : eras'.prevSetup = s.chan.prevSetup)
    (retired : s.chan.prevSetup.isSome → eras'.retired = s.chan.eras.retired)
    (tagged : ∀ side, side = .holder ∨ (s.chan.eras.current side).isSome →
      eras'.tag side = s.chan.eras.tag side ∨ eras'.tag side = some s.chan.setup.fundingOutpoint)
    (held : ∀ side, ∀ info ∈ eras'.current side, info ∈ s.chan.eras.current side
      ∨ eras'.Holds ctx (⟨s, input, output⟩ :: history) side info)
    (next : ∀ next ∈ eras'.holder.waiting, next ∈ s.chan.slots.waiting
      ∨ eras'.Holds ctx (⟨s, input, output⟩ :: history) .holder next.1)
    (filled : ∀ side, eras'.current side = none → s.chan.eras.current side = none) :
    ErasKept ctx (⟨s, input, output⟩ :: history) eras' where
  current side info member := (held side info member).elim
    (fun there => (kept.current side info there).later _ setup prevSetup
      (tagged side (.inr (isSome_of_mem there)))) id
  waiting info member := (next info member).elim
    (fun there => (kept.waiting info there).later _ setup prevSetup (tagged .holder (.inl rfl))) id
  moved := by
    rw [setup, prevSetup]
    exact kept.moved
  retired prev window := by
    rw [prevSetup] at window
    obtain ⟨slots, stored, made⟩ := kept.retired prev window
    rw [retired (isSome_of_mem window)]
    exact ⟨slots, stored, fun side info member => (made side info member).imp_left (·.later _)⟩
  unused shut none := by
    have before : ∀ side, s.chan.eras.current side = Option.none :=
      fun side => filled side (none side)
    exact List.forall_mem_cons.mpr ⟨before, kept.unused (prevSetup.symm.trans shut) before⟩

theorem lockedInfo_fits {chan : Channel} (side : Side)
    (small : chan.baselineSplit.1.toNat + chan.baselineSplit.2.toNat
      ≤ chan.setup.channelValueSat.toNat) :
    (chan.lockedInfo side).Fits chan.setup.channelValueSat := by
  cases side <;>
    simp only [lockedInfo, CommitmentInfo2.Fits, CommitmentInfo2.outputTotal, CommitmentInfo2.new,
      htlcTotal, List.insertionSort_nil, List.map_nil, List.sum_nil] <;>
    omega

theorem ErasKept.sign {commitment counterparty} (kept : ErasKept ctx history s.chan.eras)
    (signed : Signed s.chan.eras.counterparty commitment counterparty)
    (view : commitment.view = s.chan.setup)
    (fits : commitment.info2.Fits s.chan.setup.channelValueSat)
    (disclosed : events ctx ⟨s, input, output⟩ = [.counterpartySigned commitment]) :
    ErasKept ctx (⟨s, input, output⟩ :: history) { s.chan.eras with counterparty } := by
  have tag := signed.tag
  rw [view] at tag
  refine kept.keep rfl rfl (fun _ => rfl) ?_ ?_ (fun _ => .inl) ?_
  · rintro (_ | _) _
    · exact .inl rfl
    · exact .inr tag
  · rintro (_ | _) info member
    · exact .inl member
    · rcases signed.stored with new | ⟨old, -⟩
      · cases new.symm.trans member
        refine .inr ⟨.inl ⟨commitment, ?_, congrArg _ view, rfl⟩, fits, fun _ => tag⟩
        rw [trace_cons, disclosed]
        exact List.mem_cons_self
      · exact .inl (old.symm.trans member)
  · rintro (_ | _) absent
    · exact absent
    · rcases signed.stored with new | ⟨old, -⟩
      · cases new.symm.trans absent
      · exact old.symm.trans absent

/-- A commitment that is signed again is not stored, whatever its funding. -/
theorem ErasKept.signAgain {commitment counterparty} (kept : ErasKept ctx history s.chan.eras)
    (signed : Signed s.chan.eras.counterparty commitment counterparty)
    (empty : s.chan.eras.current .counterparty = none)
    (again : commitment.commitmentNumber + 1 = s.chan.eras.counterparty.nextCounterpartyCommitNum)
    (notTop : s.chan.eras.counterparty.nextCounterpartyCommitNum + 1 ≠ 0) :
    ErasKept ctx (⟨s, input, output⟩ :: history) { s.chan.eras with counterparty } := by
  have absent : counterparty.currentCounterpartyCommitInfo = none := by
    cases signed.signing with
    | next number => bv_omega
    | again _ _ _ info => exact info.trans empty
    | againAtTop _ top => exact absurd top notTop
  refine kept.keep rfl rfl (fun _ => rfl) ?_ ?_ (fun _ => .inl) ?_
  · rintro (_ | _) occupied
    · exact .inl rfl
    · exact absurd empty (isSome_iff_ne_none.mp (occupied.resolve_left nofun))
  · rintro (_ | _) info member
    · exact .inl member
    · cases absent.symm.trans member
  · rintro (_ | _) none
    · exact none
    · exact empty

theorem ErasKept.step (kept : ErasKept ctx history s.chan.eras) (keeps : KeepsEras ctx s input)
    (change : EraChange ctx s input (events ctx ⟨s, input, output⟩) eras') :
    ErasKept ctx (⟨s, input, output⟩ :: history) eras' := by
  generalize disclosed : events ctx ⟨s, input, output⟩ = events at change
  cases change with
  | none | revoked =>
    refine kept.keep rfl rfl (fun _ => rfl) ?_ ?_ (fun _ => .inl) ?_
    · rintro (_ | _) _ <;> exact .inl rfl
    · rintro (_ | _) _ <;> exact .inl
    · rintro (_ | _) <;> exact id
  | settled shut =>
    exact kept.keep rfl shut.1.symm (by simp [shut]) (fun _ _ => .inl rfl) (fun _ _ => .inl)
      (fun _ => .inl) fun _ => id
  | dropped =>
    exact kept.keep rfl rfl (fun _ => rfl) (fun _ _ => .inl rfl) (fun _ _ => .inl)
      (by rintro _ ⟨⟩) fun _ => id
  | promoted _ pending _ | reactivated _ _ pending =>
    refine kept.keep rfl rfl (fun _ => rfl) (fun _ _ => .inl rfl) ?_ (by rintro _ ⟨⟩) ?_
    · rintro (_ | _) info member
      · cases member
        exact .inr ((kept.waiting _ pending).later _ rfl rfl (.inl rfl))
      · exact .inl member
    · rintro (_ | _) absent
      · cases absent
      · exact absent
  | validated asked checked number =>
    rename_i commitment
    have view := keeps.1 commitment asked number
    refine kept.keep rfl rfl (fun _ => rfl) ?_ (fun _ _ => .inl) ?_ fun _ => id
    · rw [view]
      rintro (_ | _) _
      · exact .inr rfl
      · exact .inl rfl
    · rintro _ ⟨⟩
      refine .inr ⟨.inl ⟨commitment, ?_, congrArg _ view, rfl⟩, view ▸ checked.fits, fun _ => ?_⟩
      · rw [trace_cons, disclosed]
        exact List.mem_cons_self
      · exact congrArg (some ·.fundingOutpoint) view
  | signed asked checked signed =>
    rcases keeps.2.1 _ asked with view | ⟨empty, again, notTop⟩
    · exact kept.sign signed view (view ▸ checked.fits) disclosed
    · exact kept.signAgain signed empty again notTop
  | spliced _ moved =>
    refine ⟨by rintro (_ | _) _ ⟨⟩, by rintro _ ⟨⟩, ?_, ?_, nofun⟩
    · rintro _ ⟨⟩
      exact moved.symm
    · rintro _ ⟨⟩
      refine ⟨_, rfl, fun side info member => ?_⟩
      have holds := kept.current side info (by cases side <;> exact member)
      exact ⟨holds.made.later _, holds.fits⟩
  | locked closes =>
    refine ⟨?_, ?_, nofun, nofun, fun _ absent => nomatch absent .holder⟩
    · intro side info member
      obtain rfl : s.chan.lockedInfo side = info := by cases side <;> exact some.inj member
      exact ⟨.inr ⟨_, .head _, closes, rfl, rfl⟩, lockedInfo_fits side (keeps.2.2 closes), nofun⟩
    · intro info member
      have holds := kept.waiting info member
      exact ⟨holds.made.later _, holds.fits, nofun⟩

end step

section balance

variable {hasPreimage : PaymentHash → Bool} {newHolder newCounterparty : Option CommitmentInfo2}
  {view : ChannelSetup} {delta : BalanceDelta} {ctx : Context} {history : List ChannelStep}
  {eras : Eras} {side : Side} {s : Locked}

theorem minOpt_isLeast {a b : Option U64} {least} (found : minOpt a b = some least) :
    IsLeast { balance | a = some balance ∨ b = some balance } least := by
  cases a <;> cases b <;> simp only [minOpt, some.injEq, reduceCtorEq] at found <;>
    simp only [IsLeast, lowerBounds, Set.mem_ofPred_eq, some.injEq, reduceCtorEq] <;> grind

theorem minOpt_eq_none {a b} : minOpt a b = none ↔ a = none ∧ b = none := by
  cases a <;> cases b <;> simp [minOpt]

theorem flattenOrErr_some {claim balance} (ok : flattenOrErr (some claim) = .ok balance) :
    ∃ value, claim = some value ∧ balance = some value := by
  match claim with
  | some value =>
    cases ok
    exact ⟨value, rfl, rfl⟩

/-- The claim that counts for a side before a new commitment. -/
def Eras.priorClaim (eras : Eras) (hasPreimage : PaymentHash → Bool) (view : ChannelSetup)
    (side : Side) : Option U64 :=
  let straggler := eras.prevSetup.any (·.fundingOutpoint = view.fundingOutpoint)
  let info := match straggler, eras.retired with
    | true, some slots => slots.info side
    | _, _ => eras.current side
  let value :=
    if straggler ∨ eras.tag side = some view.fundingOutpoint then view.channelValueSat
    else (eras.prevSetup.map (·.channelValueSat)).getD view.channelValueSat
  info.bind fun info => info.claimableBalance hasPreimage view.isOutbound value

theorem claimableBalances_ok {chan : Channel}
    (ok : chan.enforcementState.claimableBalances hasPreimage newHolder newCounterparty view
      chan.prevSetup = .ok delta) :
    delta.curBal = (minOpt (chan.eras.priorClaim hasPreimage view .holder)
        (chan.eras.priorClaim hasPreimage view .counterparty)).getD
          chan.enforcementState.initialHolderValue
      ∧ ∀ info, newHolder = some info ∨ newCounterparty = some info → ∃ balance,
        info.claimableBalance hasPreimage view.isOutbound view.channelValueSat = some balance
          ∧ delta.newBal ≤ balance := by
  cases newHolder <;> cases newCounterparty <;>
    simp only [claimableBalances, isNone_some, isSome_some, isNone_none, isSome_none, and_self,
      Bool.false_eq_true, and_false, and_true, false_and, if_false, if_true, map_some,
      Result.bind_eq_ok, Result.expect_eq_ok, Result.panic_ne_ok, Except.ok.injEq,
      exists_false] at ok
  all_goals
    obtain ⟨_, holder, _, counterparty, least, found, rfl⟩ := ok
    refine ⟨?_, ?_⟩
    · cases straggler : chan.prevSetup.any (·.fundingOutpoint = view.fundingOutpoint) <;>
        cases snap : chan.enforcementState.prevFundingCommitment <;>
        simp only [Eras.priorClaim, Eras.current, Eras.tag, RetiredSlots.info, eras, slots,
          counterpartySide, straggler, snap, map_some, map_none, if_true, Bool.false_eq_true,
          if_false, true_or, false_or]
    · intro info new
      simp only [some.injEq, reduceCtorEq, or_false, false_or] at new
      subst new
      obtain ⟨value, claimed, rfl⟩ := flattenOrErr_some ‹flattenOrErr (some _) = _›
      exact ⟨value, claimed, (minOpt_isLeast found).2 (by simp)⟩

section

variable (kept : ErasKept ctx history eras)
  (recent : view = eras.setup ∨ eras.prevSetup = some view)
include kept recent

theorem ErasKept.priorClaim_eq :
    eras.priorClaim hasPreimage view side = (eras.info view side).bind fun info =>
      info.claimableBalance hasPreimage view.isOutbound view.channelValueSat := by
  rcases recent with rfl | prev
  · cases window : eras.prevSetup with
    | none => simp [Eras.priorClaim, Eras.info, window]
    | some prev =>
      have moved := kept.moved prev window
      cases stored : eras.current side with
      | none => simp [Eras.priorClaim, Eras.info, window, moved, stored]
      | some info =>
        have tagged := (kept.current side info stored).tagged (by rw [window]; rfl)
        simp [Eras.priorClaim, Eras.info, window, moved, stored, tagged]
  · obtain ⟨slots, retired, _⟩ := kept.retired view prev
    simp [Eras.priorClaim, Eras.info, prev, kept.moved view prev, mem_def.mp retired]

theorem ErasKept.made {info} (member : info ∈ eras.info view side) :
    MadeFor ctx history view side info ∧ info.Fits view.channelValueSat := by
  rcases recent with rfl | prev
  · rw [Eras.info, if_pos rfl] at member
    have holds := kept.current side info member
    exact ⟨holds.made, holds.fits⟩
  · obtain ⟨slots, retired, made⟩ := kept.retired view prev
    rw [Eras.info, if_neg (kept.moved view prev), mem_def.mp retired] at member
    exact made side info member

end

theorem Side.exists {p : Side → Prop} : (∃ side, p side) ↔ p .holder ∨ p .counterparty :=
  ⟨fun | ⟨.holder, here⟩ => .inl here | ⟨.counterparty, here⟩ => .inr here,
    (·.elim (⟨_, ·⟩) (⟨_, ·⟩))⟩

variable (kept : ErasKept ctx history s.chan.eras)
  (recent : view = s.chan.setup ∨ s.chan.prevSetup = some view)
include kept recent

theorem ErasKept.before_iff
    (ok : s.chan.enforcementState.claimableBalances s.state.hasPreimage newHolder newCounterparty
      view s.chan.prevSetup = .ok delta) :
    BalanceBefore ctx history s view delta.curBal ↔ EraKnown history s.chan.eras view := by
  obtain ⟨before, -⟩ := claimableBalances_ok ok
  rw [kept.priorClaim_eq recent, kept.priorClaim_eq recent] at before
  have claims (side) (info) (member : info ∈ s.chan.eras.info view side) :
      MadeFor ctx history view side info ∧ (eraClaim s view side).isSome := by
    obtain ⟨made, fits⟩ := kept.made recent member
    obtain ⟨balance, claimed⟩ := fits.claimable s.state.hasPreimage view.isOutbound
    exact ⟨made, by rw [eraClaim, mem_def.mp member, bind_some, claimed]; rfl⟩
  cases found : minOpt (eraClaim s view .holder) (eraClaim s view .counterparty) with
  | some least =>
    have least : IsLeast { balance | ∃ side, eraClaim s view side = some balance } least := by
      simp only [Side.exists]
      exact minOpt_isLeast found
    obtain ⟨side, claimed⟩ := least.1
    obtain ⟨info, stored, _⟩ := bind_eq_some_iff.mp claimed
    refine iff_of_true ⟨claims, .inl ?_⟩ fun _ => .inl ⟨side, by rw [stored]; rfl⟩
    rw [before, ← eraClaim, ← eraClaim, found]
    exact least
  | none =>
    -- What is on record has a claim, so nothing is.
    have absent (side) : eraClaim s view side = none := by
      obtain ⟨holder, counterparty⟩ := minOpt_eq_none.mp found
      cases side <;> assumption
    have unrecorded (side) : s.chan.eras.info view side = none := by
      refine eq_none_iff_forall_not_mem.mpr fun info member => ?_
      have claimed := (claims side info member).2
      rw [absent side] at claimed
      cases claimed
    constructor
    · intro right _
      rcases right.least with ⟨⟨side, claimed⟩, _⟩ | ⟨_, never, _⟩
      · cases (absent side).symm.trans claimed
      · exact .inr never
    · intro known
      refine ⟨claims, .inr ⟨unrecorded, ?_, by rw [before, ← eraClaim, ← eraClaim, found]; rfl⟩⟩
      cases window : s.chan.prevSetup with
      | none =>
        obtain rfl : view = s.chan.setup := recent.resolve_right (by simp [window])
        have unused (side) : s.chan.eras.current side = none := by
          simpa [Eras.info, eras] using unrecorded side
        exact fun step member _ => kept.unused window unused step member
      | some prev =>
        refine (known (by rw [eras, window]; rfl)).resolve_left ?_
        rintro ⟨side, stored⟩
        rw [unrecorded side] at stored
        cases stored

/-- A commitment that is accepted lowers the holder's claim by no more than the excess. -/
def Affordable (ctx : Context) (history : List ChannelStep) (s : Locked) (view : ChannelSetup)
    (info2 : CommitmentInfo2) : Prop :=
  ctx.validator.enforceBalance = true → ∃ before claim,
    BalanceBefore ctx history s view before
      ∧ info2.claimableBalance s.state.hasPreimage view.isOutbound view.channelValueSat = some claim
      ∧ before.toNat ≤ s.state.excessAmount.toNat + claim.toNat

theorem ErasKept.affordable {info2 incoming outgoing} (known : EraKnown history s.chan.eras view)
    (new : newHolder = some info2 ∨ newCounterparty = some info2)
    (balances : s.chan.enforcementState.claimableBalances s.state.hasPreimage newHolder
      newCounterparty view s.chan.prevSetup = .ok delta)
    (payments : s.state.validatePayments s.chan.id0 incoming outgoing delta ctx.validator
      = .ok ()) : Affordable ctx history s view info2 := by
  intro enforced
  have covers := NodeState.covers_of_validatePayments payments enforced
  obtain ⟨claim, claimed, most⟩ := (claimableBalances_ok balances).2 info2 new
  refine ⟨_, claim, (kept.before_iff recent balances).mpr known, claimed, ?_⟩
  unfold NodeState.Covers at covers
  bv_omega

end balance

/-- In a run that keeps the fundings of a splice apart, the balance before a commitment on one of
    the two newest fundings is right exactly if the funding is known, and then none is accepted
    that lowers it by more than the excess. -/
theorem era_balance_enforced {ctx : Context} (strict : ctx.validator.Strict) {start s : Locked}
    {history : List ChannelStep} (fresh : Fresh start)
    (run : (channelMachine ctx).Run start history s)
    (keeps : Machine.Meets (fun _ => KeepsEras ctx) history) (view : ChannelSetup)
    (recent : view = s.chan.setup ∨ s.chan.prevSetup = some view) :
    (∀ newHolder newCounterparty delta,
      s.chan.enforcementState.claimableBalances s.state.hasPreimage newHolder newCounterparty view
        s.chan.prevSetup = .ok delta →
      (BalanceBefore ctx history s view delta.curBal ↔ EraKnown history s.chan.eras view))
    ∧ (EraKnown history s.chan.eras view → ∀ env (request : ChannelRequest),
      (∀ commitment ∈ request.holderCommitment ctx env s, commitment.view = view →
        Affordable ctx history s view commitment.info2)
      ∧ ∀ commitment ∈ request.counterpartyCommitment ctx env s, commitment.view = view →
        Affordable ctx history s view commitment.info2) := by
  have kept : ErasKept ctx history s.chan.eras := by
    refine run.inv (fun history s => ErasKept ctx history s.chan.eras) keeps ?_ ?_
    · rw [fresh.eras]
      exact ⟨by rintro (_ | _) _ ⟨⟩, by rintro _ ⟨⟩, nofun, nofun,
        fun _ _ => List.forall_mem_nil _⟩
    · intro history s input output s' kept keeps stepped
      exact kept.step keeps (era_change strict (step_effect strict stepped))
  refine ⟨fun _ _ _ balances => kept.before_iff recent balances, fun known env request => ⟨?_, ?_⟩⟩
  · rintro commitment asked rfl
    obtain ⟨delta, balances, payments⟩ := (holderChecked_of_asked asked).payments
    exact kept.affordable recent known (.inl rfl) balances payments
  · rintro commitment asked rfl
    have checked := counterpartyChecked_of_asked strict asked
    exact kept.affordable recent known (.inr rfl) checked.balances checked.payments

open Toy

/-- A straggler that is signed for the retiring funding after the splice. -/
def signStraggler : ChannelRequest :=
  .signCounterpartyCommitmentTxPhase2 Toy.setup.fundingOutpoint (key 22) 1
    ⟨1000, 999000, 0, [], []⟩

theorem straggler_affordable :
    ∃ history s, (channelMachine balancedNode.toContext).Run Toy.start history s
      ∧ s.chan.prevSetup = some Toy.setup
      ∧ ∃ commitment ∈ signStraggler.counterpartyCommitment balancedNode.toContext Toy.env s,
        commitment.view = Toy.setup
          ∧ Affordable balancedNode.toContext history s Toy.setup commitment.info2 := by
  obtain ⟨history, s, run, keeps, retiring, known, commitment, asked, view⟩ :
      ∃ history s, (channelMachine balancedNode.toContext).Run Toy.start history s
        ∧ Machine.Meets (fun _ => KeepsEras balancedNode.toContext) history
        ∧ s.chan.prevSetup = some Toy.setup ∧ (s.chan.eras.info Toy.setup .counterparty).isSome
        ∧ ∃ commitment ∈ signStraggler.counterpartyCommitment balancedNode.toContext Toy.env s,
          commitment.view = Toy.setup :=
    Machine.exists_run [signCounterparty Toy.setup 21 0 999000, splice] (by decide +kernel)
  have strict : balancedNode.validator.Strict := PolicyFilter.default_strict
  have enforced := (era_balance_enforced strict Toy.fresh run keeps Toy.setup (.inr retiring)).2
    fun _ => .inl ⟨_, known⟩
  exact ⟨history, s, run, retiring, commitment, asked, view, (enforced _ _).2 _ asked view⟩

def inboundSetup : ChannelSetup := { Toy.setup with isOutbound := false }

def spendGain : List NodeInput :=
  [createChannel 1, createChannel 2,
    ⟨Toy.env, .setupChannel (channelId 1) none inboundSetup []⟩, openChannel 2,
    sign 1 0 ⟨1000, 0, 999000, [], []⟩, sign 1 1 ⟨1000, 499000, 500000, [], []⟩,
    sign 2 0 ⟨1000, 499000, 500000, [], []⟩, sign 2 1 ⟨1000, 0, 999000, [], []⟩,
    ⟨Toy.env, .setupChannel (channelId 1) none
      { inboundSetup with fundingOutpoint := ⟨2, 0⟩ } []⟩]

def dropGain : ChannelRequest :=
  .signCounterpartyCommitmentTxPhase2 ⟨2, 0⟩ (key 22) 1 ⟨1000, 0, 999000, [], []⟩

def retiredClaim (s : Locked) : Option U64 := do
  let snap ← s.chan.enforcementState.prevFundingCommitment
  let info ← snap.currentCounterpartyInfo
  info.claimableBalance s.state.hasPreimage s.chan.setup.isOutbound s.chan.setup.channelValueSat

/-- A commitment is signed that takes from the holder all they could claim before the splice. -/
theorem gain_dropped_after_splice :
    ∃ history node, (nodeMachine balancedNode).Run nodeStart history node
      ∧ ∃ chan ∈ node.channelAt 2,
        retiredClaim ⟨chan, node.state⟩ = some 499000 ∧ node.state.excessAmount = 0
        ∧ ∃ commitment ∈ dropGain.counterpartyCommitment balancedNode.toContext Toy.env
            ⟨chan, node.state⟩,
          commitment.delta.curBal = chan.enforcementState.initialHolderValue
          ∧ commitment.info2.claimableBalance node.state.hasPreimage chan.setup.isOutbound
            chan.setup.channelValueSat = some 0 :=
  Machine.exists_run spendGain (by decide +kernel)

end Vls
