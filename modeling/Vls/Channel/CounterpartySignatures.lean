import Vls.Channel.Eras
import Vls.Channel.Toy

/-! # What was signed for the counterparty

A revoked commitment can be punished if it was built with the point of its secret; and what was
signed for a funding and a number must not be signed differently. Both rest on comparing a new
commitment with the last one, which is left out for another funding. -/

namespace Vls

open Channel EnforcementState Option

variable {ctx : Context} {s s' : Locked} {input : ChannelInput} {events earlier : List Event}
  {cstate : ChainState}

/-- A number that is signed again for another funding than the last one is signed with the point
    that is remembered for it. -/
def RepeatsPoint (ctx : Context) (s : Locked) : ChannelInput → Prop
  | .others _ => True
  | .call env request => ∀ commitment ∈ request.counterpartyCommitment ctx env s,
    commitment.commitmentNumber + 1 = s.chan.enforcementState.nextCounterpartyCommitNum →
    s.chan.enforcementState.counterpartyCommitmentFunding ≠ some commitment.view.fundingOutpoint →
    s.chan.enforcementState.currentCounterpartyPoint = some commitment.point

instance (ctx : Context) (s : Locked) :
    (input : ChannelInput) → Decidable (RepeatsPoint ctx s input)
  | .others _ | .call .. => by unfold RepeatsPoint; infer_instance

/-- The points that are remembered are those of all commitments signed with the last two
    numbers. -/
structure PointsKept (side : CounterpartySide) (signed : List CounterpartyCommitment) : Prop where
  below : ∀ commitment ∈ signed,
    commitment.commitmentNumber.toNat < side.nextCounterpartyCommitNum.toNat
  current : ∀ commitment ∈ signed,
    commitment.commitmentNumber + 1 = side.nextCounterpartyCommitNum →
    side.currentCounterpartyPoint = some commitment.point
  previous : ∀ commitment ∈ signed,
    commitment.commitmentNumber + 2 = side.nextCounterpartyCommitNum →
    ∀ point, side.previousCounterpartyPoint = some point → commitment.point = point

theorem PointsKept.sign {side side' signed} (kept : PointsKept side signed) {commitment}
    (repeats : commitment.commitmentNumber + 1 = side.nextCounterpartyCommitNum →
      side.currentCounterpartyPoint = some commitment.point)
    (accepted : Signed side commitment side') : PointsKept side' (commitment :: signed) := by
  obtain ⟨nonzero, commitNum, _, _, _, signing⟩ := accepted
  cases signing with
  | next number point previousPoint =>
    constructor
    · rintro other (_ | ⟨_, member⟩)
      · bv_omega
      · have := kept.below other member
        bv_omega
    · rintro other (_ | ⟨_, member⟩) last
      · exact point
      · have := kept.below other member
        bv_omega
    · rintro other (_ | ⟨_, member⟩) last old remembered
      · bv_omega
      · have last : other.commitmentNumber + 1 = side.nextCounterpartyCommitNum := by bv_omega
        rw [previousPoint, kept.current other member last] at remembered
        exact some.inj remembered
  | again number point previousPoint =>
    have same := commitNum.trans number
    constructor
    · rintro other (_ | ⟨_, member⟩)
      · bv_omega
      · exact same ▸ kept.below other member
    · rintro other (_ | ⟨_, member⟩) last
      · exact point.trans (repeats number)
      · exact point.trans (kept.current other member (last.trans same))
    · rintro other (_ | ⟨_, member⟩) last old remembered
      · bv_omega
      · exact kept.previous other member (last.trans same) old (previousPoint.symm.trans remembered)
  | againAtTop number top point previousPoint =>
    have same := repeats number
    constructor
    · rintro other (_ | ⟨_, member⟩)
      · bv_omega
      · have := kept.below other member
        bv_omega
    · rintro other (_ | ⟨_, member⟩) last
      · exact point
      · rw [point, ← same]
        exact kept.current other member (last.trans (commitNum.trans number))
    · intro other _ _ old remembered
      cases previousPoint.symm.trans remembered

theorem PointsKept.of_fresh {s} (fresh : Fresh s) : PointsKept s.chan.eras.counterparty [] := by
  rw [fresh.eras]
  exact ⟨by simp, by simp, by simp⟩

theorem PointsKept.step (strict : ctx.validator.Strict) {eras'}
    (kept : PointsKept s.chan.eras.counterparty (signedCommitments earlier))
    (repeats : RepeatsPoint ctx s input) (change : EraChange ctx s input events eras') :
    PointsKept eras'.counterparty (signedCommitments (events ++ earlier)) := by
  rw [signedCommitments_append]
  cases change with
  | signed asked checked signed =>
    rename_i commitment _
    refine kept.sign ?_ signed
    intro again
    -- on the funding signed last the validator compares the points itself
    by_cases here : s.chan.enforcementState.counterpartyCommitmentFunding
        = some commitment.view.fundingOutpoint
    · obtain ⟨_, retry⟩ :=
        Validator.validateCounterpartyCommitmentTx_ok strict checked.validated
      exact (retry again here).1
    · exact repeats commitment asked again here
  | none quiet | promoted _ _ quiet | revoked _ _ _ quiet =>
    rw [quiet.1]
    exact ⟨kept.below, kept.current, kept.previous⟩
  | _ => exact ⟨kept.below, kept.current, kept.previous⟩

theorem PointsKept.revoked {estate : EnforcementState} {signed}
    (points : PointsKept estate.counterpartySide signed) {revokeNum point}
    (previous : estate.getPreviousCounterpartyPoint revokeNum = some point) :
    (revokeNum + 1 = estate.nextCounterpartyCommitNum
        ∨ revokeNum + 2 = estate.nextCounterpartyCommitNum)
      ∧ ∀ commitment ∈ signed, commitment.commitmentNumber = revokeNum →
        commitment.point = point := by
  unfold getPreviousCounterpartyPoint at previous
  split at previous
  · rename_i last
    refine ⟨.inl last, ?_⟩
    rintro commitment member rfl
    exact some.inj ((points.current commitment member last).symm.trans previous)
  · split at previous
    · rename_i last
      refine ⟨.inr last, ?_⟩
      rintro commitment member rfl
      exact points.previous commitment member last _ previous
    · cases previous

theorem revocation_validated {env revokeNum oldSecret}
    (effect : Effect ctx env s (.validateCounterpartyRevocation revokeNum oldSecret)
      [.counterpartyRevoked revokeNum oldSecret] s') :
    ctx.validator.validateCounterpartyRevocation ctx.prims s.chan.enforcementState revokeNum
      oldSecret = .ok () := by
  cases effect with
  | revoked validated => exact validated
  | closed _ asked => cases asked

/-- In a run that repeats points, an accepted revocation gives up every commitment that was signed
    with its number, on whatever funding. -/
theorem revocation_covers_signed {ctx : Context} (strict : ctx.validator.Strict)
    {start s s' : Locked} {history : List ChannelStep} (fresh : Fresh start)
    (run : (channelMachine ctx).Run start history s)
    (repeats : Machine.Meets (fun _ => RepeatsPoint ctx) history) {env : Env} {revokeNum : U64}
    {oldSecret : SecretKey} {reply : ChannelReply}
    (accepted : (channelMachine ctx).step s
      (.call env (.validateCounterpartyRevocation revokeNum oldSecret)) = some (.ok reply, s'))
    {commitment : CounterpartyCommitment}
    (signed : .counterpartySigned commitment ∈ trace ctx history)
    (number : commitment.commitmentNumber = revokeNum) :
    commitment.point = ctx.prims.publicKey oldSecret := by
  have kept : PointsKept s.chan.eras.counterparty (signedCommitments (trace ctx history)) := by
    refine run_inv strict (fun _ => RepeatsPoint ctx) (fun events s =>
      PointsKept s.chan.eras.counterparty (signedCommitments events)) run repeats
      (.of_fresh fresh) ?_
    intro earlier s input events s' kept repeats effect
    exact kept.step strict repeats (era_change strict effect)
  cases step_effect strict accepted with
  | call effect =>
    obtain ⟨_, point⟩ := Validator.validateCounterpartyRevocation_ok strict
      (revocation_validated effect)
    exact (kept.revoked point).2 commitment (mem_signedCommitments.mpr signed) number

open Toy

/-- Two commitments on one funding, of which the first is then revoked. -/
theorem revocation_covers_first :
    ∃ history s commitment, (channelMachine Toy.ctx).Run Toy.start history s
      ∧ .counterpartySigned commitment ∈ trace Toy.ctx history
      ∧ commitment.commitmentNumber = 0
      ∧ commitment.point = prims.publicKey ⟨21⟩ := by
  obtain ⟨history, s, run, repeats, signed, accepted⟩ :
      ∃ history s, (channelMachine Toy.ctx).Run Toy.start history s
        ∧ Machine.Meets (fun _ => RepeatsPoint Toy.ctx) history
        ∧ (∃ commitment ∈ signedCommitments (trace Toy.ctx history),
          commitment.commitmentNumber = 0)
        ∧ ((channelMachine Toy.ctx).step s
          (.call Toy.env (.validateCounterpartyRevocation 0 ⟨21⟩))).any (·.1.toBool) :=
    Machine.exists_run [signCounterparty setup 21 0 999000,
      signCounterparty setup 22 1 999000] (by decide +kernel)
  obtain ⟨commitment, member, number⟩ := signed
  obtain ⟨⟨_ | reply, s'⟩, accepted, ok⟩ := (any_eq_true _ _).mp accepted
  · cases ok
  · have signed := mem_signedCommitments.mp member
    exact ⟨history, s, commitment, run, signed, number,
      revocation_covers_signed Toy.strict Toy.fresh run repeats accepted signed number⟩

/-- The first commitment is signed once more for the funding of a splice, with another point, and
    is revoked with the secret of the first point. -/
theorem revocation_misses_second_point :
    ∃ history s, (channelMachine Toy.ctx).Run Toy.start history s
      ∧ (trace Toy.ctx history).head? = some (.counterpartyRevoked 0 ⟨21⟩)
      ∧ ∃ commitment ∈ signedCommitments (trace Toy.ctx history),
        commitment.commitmentNumber = 0 ∧ commitment.point ≠ prims.publicKey ⟨21⟩ :=
  Machine.exists_run [signCounterparty setup 21 0 999000, splice,
    signCounterparty splicedSetup 22 0 999000,
    signCounterparty splicedSetup 23 1 999000,
    .call Toy.env (.validateCounterpartyRevocation 0 ⟨21⟩)] (by decide +kernel)

def closedSince (commitmentNumber : U64) : List Event → Bool
  | [] => false
  | .windowClosed :: earlier =>
    decide (∃ commitment ∈ signedCommitments earlier,
        commitment.commitmentNumber = commitmentNumber)
      || closedSince commitmentNumber earlier
  | _ :: earlier => closedSince commitmentNumber earlier

/-- All commitments signed with a number are for one funding. -/
def SignedFor (events : List Event) (commitmentNumber : U64) (outpoint : OutPoint) : Prop :=
  ∀ commitment ∈ signedCommitments events, commitment.commitmentNumber = commitmentNumber →
    commitment.view.fundingOutpoint = outpoint
  deriving Decidable

/-- A number is signed again for a funding only as long as it was signed for that funding alone
    and no splice was locked since. -/
def RetriesAlone (ctx : Context) (earlier : List Event) (s : Locked) : ChannelInput → Prop
  | .others _ => True
  | .call env request => ∀ commitment ∈ request.counterpartyCommitment ctx env s,
    (∃ other ∈ signedCommitments earlier,
      other.commitmentNumber = commitment.commitmentNumber
      ∧ other.view.fundingOutpoint = commitment.view.fundingOutpoint) →
    SignedFor earlier commitment.commitmentNumber commitment.view.fundingOutpoint
      ∧ closedSince commitment.commitmentNumber earlier = false

instance (ctx : Context) (earlier : List Event) (s : Locked) :
    (input : ChannelInput) → Decidable (RetriesAlone ctx earlier s input)
  | .others _ | .call .. => by unfold RetriesAlone; infer_instance

structure Remembered (eras : Eras) (commitment : CounterpartyCommitment) : Prop where
  point : eras.counterparty.currentCounterpartyPoint = some commitment.point
  slot : ∀ info, eras.current .counterparty = some info → info = commitment.info2
  retired : eras.current .counterparty = none → ∀ slots ∈ eras.retired, ∀ info,
    slots.counterparty = some info → info = commitment.info2

/-- What is remembered suffices to recognise a retry, as long as retries are alone. -/
structure RetriesKnown (eras : Eras) (events : List Event) : Prop where
  below : ∀ commitment ∈ signedCommitments events,
    commitment.commitmentNumber.toNat < eras.counterparty.nextCounterpartyCommitNum.toNat
  tagged : eras.counterparty.nextCounterpartyCommitNum ≠ 0 →
    ∃ commitment ∈ signedCommitments events,
      commitment.commitmentNumber + 1 = eras.counterparty.nextCounterpartyCommitNum
      ∧ eras.tag .counterparty = some commitment.view.fundingOutpoint
  remembered : ∀ commitment ∈ signedCommitments events,
    commitment.commitmentNumber + 1 = eras.counterparty.nextCounterpartyCommitNum →
    SignedFor events commitment.commitmentNumber commitment.view.fundingOutpoint →
    closedSince commitment.commitmentNumber events = false → Remembered eras commitment
  alike : ∀ commitment ∈ signedCommitments events, ∀ other ∈ signedCommitments events,
    commitment.commitmentNumber = other.commitmentNumber →
    commitment.view.fundingOutpoint = other.view.fundingOutpoint →
    commitment.point = other.point ∧ commitment.info2 = other.info2

theorem closedSince_append {number} (inWindow : .windowClosed ∉ events) :
    closedSince number (events ++ earlier) = closedSince number earlier := by
  induction events with
  | nil => rfl
  | cons event rest ih =>
    have rest := ih (fun member => inWindow (List.mem_cons_of_mem _ member))
    cases event with
    | windowClosed => exact absurd List.mem_cons_self inWindow
    | _ => exact rest

section retries

variable {ctx : Context} {chan : Channel} {eras eras' : Eras} {events events' : List Event}
  {commitment : CounterpartyCommitment}

/-- A commitment passes as a retry if it is what was kept, in the slot or for the retiring
    funding. -/
structure Retry (eras : Eras) (commitment : CounterpartyCommitment) : Prop where
  point : eras.counterparty.currentCounterpartyPoint = some commitment.point
  info : eras.current .counterparty = some commitment.info2
    ∨ eras.current .counterparty = none
      ∧ ∃ slots ∈ eras.retired, slots.counterparty = some commitment.info2

theorem Retry.of_validated (strict : ctx.validator.Strict)
    (validated : ctx.validator.validateCounterpartyCommitmentTx ctx.prims chan.enforcementState
      commitment.commitmentNumber commitment.point commitment.view cstate commitment.info2 = .ok ())
    (number : commitment.commitmentNumber + 1 = chan.enforcementState.nextCounterpartyCommitNum)
    (here : chan.eras.tag .counterparty = some commitment.view.fundingOutpoint) :
    Retry chan.eras commitment := by
  obtain ⟨_, retry⟩ := Validator.validateCounterpartyCommitmentTx_ok strict validated
  obtain ⟨point, kept⟩ := retry number here
  refine ⟨point, ?_⟩
  have slot : chan.enforcementState.getPreviousCounterpartyCommitInfo commitment.commitmentNumber
      = chan.eras.current .counterparty := by
    rw [getPreviousCounterpartyCommitInfo, if_pos number]
    rfl
  rw [SimplePolicy.prevCommitInfo, slot] at kept
  cases info : chan.eras.current .counterparty with
  | some info2 =>
    rw [info, if_pos ⟨here, rfl⟩] at kept
    exact .inl kept
  | none =>
    have empty : chan.enforcementState.currentCounterpartyCommitInfo = none := info
    simp only [info, empty, isSome_none, Bool.false_eq_true, and_false, if_false,
      counterpartyCommitInfoFor, Bool.and_false] at kept
    split at kept
    · rename_i prev retiring
      split at kept
      · exact .inr ⟨rfl, _, by rw [eras, retiring]; rfl, kept⟩
      · cases kept
    · cases kept

theorem Retry.remembered (retry : Retry eras commitment) : Remembered eras commitment where
  point := retry.point
  slot := by
    intro info slot
    rcases retry.info with same | ⟨empty, _⟩
    · exact some.inj (slot.symm.trans same)
    · cases slot.symm.trans empty
  retired := by
    intro empty slots retired info stored
    rcases retry.info with same | ⟨_, slots', retired', same⟩
    · cases empty.symm.trans same
    · obtain rfl := mem_unique retired retired'
      exact some.inj (stored.symm.trans same)

theorem Retry.same (retry : Retry eras commitment) {other} (remembered : Remembered eras other) :
    commitment.point = other.point ∧ commitment.info2 = other.info2 := by
  refine ⟨some.inj (retry.point.symm.trans remembered.point), ?_⟩
  rcases retry.info with slot | ⟨empty, slots, retired, stored⟩
  · exact remembered.slot _ slot
  · exact remembered.retired empty slots retired _ stored

theorem RetriesKnown.frame (known : RetriesKnown eras events)
    (commitNum : eras'.counterparty.nextCounterpartyCommitNum
      = eras.counterparty.nextCounterpartyCommitNum)
    (tag : eras'.tag .counterparty = eras.tag .counterparty)
    (signed : signedCommitments events' = signedCommitments events)
    (closed : ∀ number, closedSince number events' = false → closedSince number events = false)
    (keeps : ∀ commitment ∈ signedCommitments events, closedSince commitment.commitmentNumber
      events' = false → Remembered eras commitment → Remembered eras' commitment) :
    RetriesKnown eras' events' where
  below := by
    rw [signed, commitNum]
    exact known.below
  tagged := by
    rw [signed, commitNum, tag]
    exact known.tagged
  remembered := by
    intro commitment member last alone inWindow
    unfold SignedFor at alone
    rw [signed] at member alone
    rw [commitNum] at last
    exact keeps commitment member inWindow
      (known.remembered commitment member last alone (closed _ inWindow))
  alike := by
    rw [signed]
    exact known.alike

theorem RetriesKnown.sign_next (known : RetriesKnown eras events)
    (nonzero : commitment.commitmentNumber + 1 ≠ 0)
    (number : commitment.commitmentNumber = eras.counterparty.nextCounterpartyCommitNum)
    (commitNum : eras'.counterparty.nextCounterpartyCommitNum = commitment.commitmentNumber + 1)
    (tag : eras'.tag .counterparty = some commitment.view.fundingOutpoint)
    (point : eras'.counterparty.currentCounterpartyPoint = some commitment.point)
    (info : eras'.current .counterparty = some commitment.info2) :
    RetriesKnown eras' (.counterpartySigned commitment :: events) := by
  -- no commitment signed before has the new number
  have fresh : ∀ other ∈ signedCommitments events,
      other.commitmentNumber ≠ commitment.commitmentNumber := by
    intro other member
    have := known.below other member
    bv_omega
  constructor
  · rintro other (_ | ⟨_, member⟩)
    · bv_omega
    · have := known.below other member
      bv_omega
  · intro _
    exact ⟨commitment, List.mem_cons_self, commitNum.symm, tag⟩
  · rintro other (_ | ⟨_, member⟩) last _ _
    · refine ⟨point, ?_, ?_⟩
      · intro kept slot
        exact some.inj (slot.symm.trans info)
      · intro empty
        cases empty.symm.trans info
    · have := fresh other member
      bv_omega
  · rintro a (_ | ⟨_, memberA⟩) b (_ | ⟨_, memberB⟩) same funding
    · exact ⟨rfl, rfl⟩
    · exact absurd same.symm (fresh b memberB)
    · exact absurd same (fresh a memberA)
    · exact known.alike a memberA b memberB same funding

theorem RetriesKnown.sign_again (known : RetriesKnown eras events)
    (nonzero : commitment.commitmentNumber + 1 ≠ 0)
    (number : commitment.commitmentNumber + 1 = eras.counterparty.nextCounterpartyCommitNum)
    (commitNum : eras'.counterparty.nextCounterpartyCommitNum = commitment.commitmentNumber + 1)
    (tag : eras'.tag .counterparty = some commitment.view.fundingOutpoint)
    (retry : eras.tag .counterparty = some commitment.view.fundingOutpoint →
      Retry eras commitment)
    (alone : (∃ other ∈ signedCommitments events,
      other.commitmentNumber = commitment.commitmentNumber
      ∧ other.view.fundingOutpoint = commitment.view.fundingOutpoint) →
      SignedFor events commitment.commitmentNumber commitment.view.fundingOutpoint
      ∧ closedSince commitment.commitmentNumber events = false)
    (keeps : Retry eras commitment → ∀ other, Remembered eras other →
      Remembered eras' other) :
    RetriesKnown eras' (.counterpartySigned commitment :: events) := by
  -- a number signed for one funding only was signed for it last
  have here : SignedFor events commitment.commitmentNumber commitment.view.fundingOutpoint →
      Retry eras commitment := by
    intro only
    obtain ⟨latest, member, last, tagged⟩ := known.tagged (by bv_omega)
    have funding := only latest member (by bv_omega)
    exact retry (tagged.trans (congrArg some funding))
  have sameAs : ∀ other ∈ signedCommitments events,
      other.commitmentNumber = commitment.commitmentNumber →
      other.view.fundingOutpoint = commitment.view.fundingOutpoint →
      commitment.point = other.point ∧ commitment.info2 = other.info2 := by
    intro other member same funding
    obtain ⟨only, inWindow⟩ := alone ⟨other, member, same, funding⟩
    refine (here only).same (known.remembered other member ?_ ?_ ?_)
    · rw [same]
      exact number
    · rw [same, funding]
      exact only
    · rw [same]
      exact inWindow
  constructor
  · rintro other (_ | ⟨_, member⟩)
    · bv_omega
    · have := known.below other member
      bv_omega
  · intro _
    exact ⟨commitment, List.mem_cons_self, commitNum.symm, tag⟩
  · rintro other (_ | ⟨_, member⟩) last only inWindow
    · have retry := here (fun other member => only other (List.mem_cons_of_mem _ member))
      exact keeps retry _ retry.remembered
    · have same : commitment.commitmentNumber = other.commitmentNumber := by bv_omega
      have funding := only commitment List.mem_cons_self same
      have only := fun other member => only other (List.mem_cons_of_mem _ member)
      have retry := here (by rw [same, funding]; exact only)
      refine keeps retry _ (known.remembered other member ?_ only inWindow)
      rw [← same]
      exact number
  · rintro a (_ | ⟨_, memberA⟩) b (_ | ⟨_, memberB⟩) same funding
    · exact ⟨rfl, rfl⟩
    · exact sameAs b memberB same.symm funding.symm
    · obtain ⟨point, info⟩ := sameAs a memberA same funding
      exact ⟨point.symm, info.symm⟩
    · exact known.alike a memberA b memberB same funding

theorem RetriesKnown.sign (strict : ctx.validator.Strict) {counterparty}
    (known : RetriesKnown chan.eras events)
    (validated : ctx.validator.validateCounterpartyCommitmentTx ctx.prims chan.enforcementState
      commitment.commitmentNumber commitment.point commitment.view cstate commitment.info2
      = .ok ())
    (alone : (∃ other ∈ signedCommitments events,
      other.commitmentNumber = commitment.commitmentNumber
      ∧ other.view.fundingOutpoint = commitment.view.fundingOutpoint) →
      SignedFor events commitment.commitmentNumber commitment.view.fundingOutpoint
      ∧ closedSince commitment.commitmentNumber events = false)
    (signed : Signed chan.eras.counterparty commitment counterparty) :
    RetriesKnown { chan.eras with counterparty } (.counterpartySigned commitment :: events) := by
  obtain ⟨nonzero, commitNum, _, tag, _, signing⟩ := signed
  cases signing with
  | next number point _ info => exact known.sign_next nonzero number commitNum tag point info
  | again number point _ info =>
    refine known.sign_again nonzero number commitNum tag
      (Retry.of_validated strict validated number) alone ?_
    intro _ other remembered
    exact ⟨point.trans remembered.point,
      fun kept slot => remembered.slot kept (info.symm.trans slot),
      fun empty => remembered.retired (info.symm.trans empty)⟩
  | againAtTop number top point _ info =>
    refine known.sign_again nonzero number commitNum tag
      (Retry.of_validated strict validated number) alone ?_
    intro retry other remembered
    obtain ⟨samePoint, sameInfo⟩ := retry.same remembered
    refine ⟨point.trans (congrArg some samePoint), ?_, ?_⟩
    · intro kept slot
      exact (some.inj (slot.symm.trans info)).trans sameInfo
    · intro empty
      cases empty.symm.trans info

end retries

theorem RetriesKnown.step (strict : ctx.validator.Strict) {eras'}
    (known : RetriesKnown s.chan.eras earlier) (alone : RetriesAlone ctx earlier s input)
    (change : EraChange ctx s input events eras') : RetriesKnown eras' (events ++ earlier) := by
  cases change with
  | signed asked checked signed =>
    exact known.sign strict checked.validated (alone _ asked) signed
  | none quiet | promoted _ _ quiet | revoked _ _ _ quiet =>
    refine known.frame rfl rfl ?_ ?_ ?_
    · rw [signedCommitments_append, quiet.1, List.nil_append]
    · intro number
      rw [closedSince_append quiet.2]
      exact id
    · exact fun _ _ _ remembered => ⟨remembered.point, remembered.slot, remembered.retired⟩
  | spliced =>
    refine known.frame rfl rfl rfl (fun _ => id) ?_
    intro commitment _ _ remembered
    refine ⟨remembered.point, ?_, ?_⟩
    · intro info slot
      cases slot
    · rintro _ _ ⟨⟩
      exact remembered.slot
  | locked =>
    refine known.frame rfl rfl rfl ?_ ?_
    · intro number closed
      simp only [List.singleton_append, closedSince, Bool.or_eq_false_iff] at closed
      exact closed.2
    · intro commitment member closed
      simp only [List.singleton_append, closedSince, Bool.or_eq_false_iff,
        decide_eq_false_iff_not] at closed
      exact absurd ⟨commitment, member, rfl⟩ closed.1
  | settled =>
    refine known.frame rfl rfl rfl (fun _ => id) ?_
    exact fun _ _ _ remembered => ⟨remembered.point, remembered.slot, by rintro _ _ ⟨⟩⟩
  | dropped | reactivated | validated =>
    refine known.frame rfl rfl rfl (fun _ => id) ?_
    exact fun _ _ _ remembered => ⟨remembered.point, remembered.slot, remembered.retired⟩

/-- In a run whose retries are alone, any two commitments that were signed for one funding and one
    number are the same. -/
theorem signed_once {ctx : Context} (strict : ctx.validator.Strict)
    {start s : Locked} {history : List ChannelStep} (fresh : Fresh start)
    (run : (channelMachine ctx).Run start history s)
    (alone : Machine.Meets (fun history => RetriesAlone ctx (trace ctx history)) history)
    {commitment other : CounterpartyCommitment}
    (signed : .counterpartySigned commitment ∈ trace ctx history)
    (signed' : .counterpartySigned other ∈ trace ctx history)
    (number : commitment.commitmentNumber = other.commitmentNumber)
    (funding : commitment.view.fundingOutpoint = other.view.fundingOutpoint) :
    commitment.point = other.point ∧ commitment.info2 = other.info2 := by
  have known : RetriesKnown s.chan.eras (trace ctx history) := by
    refine run_inv strict (RetriesAlone ctx) (fun events s => RetriesKnown s.chan.eras events) run
      alone ?_ ?_
    · rw [fresh.eras]
      exact ⟨by simp [signedCommitments], fun nonzero => absurd rfl nonzero,
        by simp [signedCommitments], by simp [signedCommitments]⟩
    · intro earlier s input events s' known alone effect
      exact known.step strict alone (era_change strict effect)
  exact known.alike commitment (mem_signedCommitments.mpr signed) other
    (mem_signedCommitments.mpr signed') number funding

/-- A retry, in a splice window that was opened in between. -/
theorem retry_signed_once :
    ∃ history s commitment other, (channelMachine Toy.ctx).Run Toy.start history s
      ∧ signedCommitments (trace Toy.ctx history) = [commitment, other]
      ∧ commitment.point = other.point ∧ commitment.info2 = other.info2 := by
  obtain ⟨history, s, run, alone, count, number, funding⟩ :
      ∃ history s, (channelMachine Toy.ctx).Run Toy.start history s
        ∧ Machine.Meets (fun history => RetriesAlone Toy.ctx (trace Toy.ctx history)) history
        ∧ (signedCommitments (trace Toy.ctx history)).length = 2
        ∧ (signedCommitments (trace Toy.ctx history)).Pairwise
          (fun a b => a.commitmentNumber = b.commitmentNumber)
        ∧ (signedCommitments (trace Toy.ctx history)).Pairwise
          (fun a b => a.view.fundingOutpoint = b.view.fundingOutpoint) :=
    Machine.exists_run [signCounterparty setup 21 0 999000, splice,
      signCounterparty setup 21 0 999000] (by decide +kernel)
  obtain ⟨commitment, other, pair⟩ := List.length_eq_two.mp count
  have members : commitment ∈ signedCommitments (trace Toy.ctx history)
      ∧ other ∈ signedCommitments (trace Toy.ctx history) := by
    rw [pair]
    simp
  rw [pair, List.pairwise_pair] at number funding
  exact ⟨history, s, commitment, other, run, pair, signed_once Toy.strict Toy.fresh run alone
    (mem_signedCommitments.mp members.1) (mem_signedCommitments.mp members.2) number funding⟩

/-- In a splice window one number is signed for the old funding, for the new one, and then
    differently for the old one. -/
theorem signed_differently :
    ∃ history s, (channelMachine Toy.ctx).Run Toy.start history s
      ∧ ∃ commitment ∈ signedCommitments (trace Toy.ctx history),
        ∃ other ∈ signedCommitments (trace Toy.ctx history),
          commitment.commitmentNumber = other.commitmentNumber
          ∧ commitment.view.fundingOutpoint = other.view.fundingOutpoint
          ∧ commitment.info2 ≠ other.info2 :=
  Machine.exists_run [signCounterparty setup 21 0 999000, splice,
    signCounterparty splicedSetup 21 0 999000,
    signCounterparty setup 21 0 998000] (by decide +kernel)

end Vls
