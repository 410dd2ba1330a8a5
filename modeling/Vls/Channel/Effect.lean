import Vls.Channel.Checked
import Vls.Channel.Event

/-! # What a call can do

Every call of a channel has one of the effects listed here, and discloses what goes with it. The
list is proved complete once, against the calls themselves; whatever holds in every run is then
proved by going through the list. -/

namespace Vls

open Channel Locked
open ChannelRequest (holderCommitment counterpartyCommitment checkedCounterparty closesWindow)

variable {ctx : Context} {start : Locked} {history : List ChannelStep}

def EnforcementState.promoted (estate : EnforcementState) (info2 : CommitmentInfo2)
    (signatures : CommitmentSignatures) : EnforcementState :=
  { estate with
    nextHolderCommitNum := estate.nextHolderCommitNum + 1
    nextHolderCommitInfo := none
    currentHolderCommitInfo := some info2
    currentCounterpartySignatures := some signatures }

/-- The counterparty commitment is signed: the state moves on to it and its payments are
    recorded. -/
structure SignedTo (ctx : Context) (s : Locked) (commitment : CounterpartyCommitment)
    (s' : Locked) : Prop where
  advanced : counterpartySigned ctx s.chan.enforcementState commitment
    = .ok s'.chan.enforcementState
  applied : s.state.applyPayments s.chan.id0
    (s.chan.enforcementState.incomingPaymentsSummary none (some commitment.info2))
    (s.chan.enforcementState.paymentsSummary none (some commitment.info2)) commitment.delta
    ctx.validator commitment.info2 = .ok s'.state
  frame : s'.chan = { s.chan with enforcementState := s'.chan.enforcementState }

/-- What a request can do to the channel and to the node, with what it discloses then. -/
inductive Effect (ctx : Context) (env : Env) (s : Locked) :
    ChannelRequest → List Event → Locked → Prop where
  | idle {request} : Effect ctx env s request [] s
  | released {request commitmentNumber} (asked : request.secretNumber = some commitmentNumber)
      (gate : ¬ commitmentNumber + 2 > s.chan.enforcementState.nextHolderCommitNum) :
      Effect ctx env s request [.secretReleased (secretIndex commitmentNumber)] s
  | validated {request commitment} (straggler : Bool)
      (asked : request.holderCommitment ctx env s = some commitment)
      (checked : HolderChecked ctx env s commitment) :
      Effect ctx env s request [.holderValidated commitment]
        (s.withEstate (storeHolderCommitment s.chan.enforcementState commitment straggler))
  /-- The waiting commitment was taken and is lost, since its balances could not be computed. -/
  | dropped {waiting} (pending : s.chan.enforcementState.nextHolderCommitInfo = some waiting) :
      Effect ctx env s
        (.revokePreviousHolderCommitment s.chan.enforcementState.nextHolderCommitNum) []
        (s.withEstate (withoutNext s.chan.enforcementState))
  /-- The commitment became current, but its predecessor's secret was refused. -/
  | stalled {info2 signatures}
      (pending : s.chan.enforcementState.nextHolderCommitInfo = some (info2, signatures))
      (last : s.chan.enforcementState.nextHolderCommitNum + 2 = 0) :
      Effect ctx env s
        (.revokePreviousHolderCommitment s.chan.enforcementState.nextHolderCommitNum) []
        (s.withEstate (s.chan.enforcementState.promoted info2 signatures))
  | advanced {info2 signatures delta state events}
      (pending : s.chan.enforcementState.nextHolderCommitInfo = some (info2, signatures))
      (balances : s.chan.enforcementState.claimableBalances s.state.hasPreimage (some info2) none
        s.chan.setup s.chan.prevSetup = .ok delta)
      (applied : s.state.applyPayments s.chan.id0
        (s.chan.enforcementState.incomingPaymentsSummary (some info2) none)
        (s.chan.enforcementState.paymentsSummary (some info2) none) delta ctx.validator info2
        = .ok state)
      (disclosed : events = [] ∨ s.chan.enforcementState.nextHolderCommitNum ≥ 1
        ∧ events
          = [.secretReleased (secretIndex (s.chan.enforcementState.nextHolderCommitNum - 1))]) :
      Effect ctx env s
        (.revokePreviousHolderCommitment s.chan.enforcementState.nextHolderCommitNum) events
        { s.withEstate (s.chan.enforcementState.promoted info2 signatures) with state := state }
  | activated {info2 signatures}
      (pending : s.chan.enforcementState.nextHolderCommitInfo = some (info2, signatures))
      (first : s.chan.enforcementState.nextHolderCommitNum = 0) :
      Effect ctx env s .activateInitialCommitment []
        (s.withEstate (s.chan.enforcementState.promoted info2 signatures))
  /-- In a splice window the first commitment is activated once more, on the new funding. -/
  | reactivated {info2 signatures}
      (pending : s.chan.enforcementState.nextHolderCommitInfo = some (info2, signatures))
      (second : s.chan.enforcementState.nextHolderCommitNum = 1)
      (window : s.chan.enforcementState.prevFundingCommitment.isSome) :
      Effect ctx env s .activateInitialCommitment []
        (s.withEstate { s.chan.enforcementState with
          nextHolderCommitInfo := none
          currentHolderCommitInfo := some info2
          currentCounterpartySignatures := some signatures })
  /-- A commitment was to be signed for a close, which a dry run does not record. -/
  | closed {request closing events} (recorded : Bool)
      (asked : request.closing ctx s = some closing)
      (disclosed : events = [] ∨ events = [.holderSigned closing.commitmentNumber]) :
      Effect ctx env s request events (s.withEstate { s.chan.enforcementState with
        channelClosed := recorded || s.chan.enforcementState.channelClosed })
  | signed {request commitment s'}
      (asked : request.counterpartyCommitment ctx env s = some commitment)
      (checked : CounterpartyChecked ctx env s commitment) (signed : SignedTo ctx s commitment s') :
      Effect ctx env s request [.counterpartySigned commitment] s'
  /-- The secret was stored, but the counter was not moved. -/
  | stored {revokeNum oldSecret estate}
      (stored : storeSecret ctx s.chan.enforcementState revokeNum oldSecret = .ok estate)
      (validated : ctx.validator.validateCounterpartyRevocation ctx.prims s.chan.enforcementState
        revokeNum oldSecret = .ok ()) :
      Effect ctx env s (.validateCounterpartyRevocation revokeNum oldSecret) []
        (s.withEstate estate)
  | revoked {revokeNum oldSecret estate estate' events}
      (validated : ctx.validator.validateCounterpartyRevocation ctx.prims s.chan.enforcementState
        revokeNum oldSecret = .ok ())
      (stored : storeSecret ctx s.chan.enforcementState revokeNum oldSecret = .ok estate)
      (advanced : ctx.validator.setNextCounterpartyRevokeNum estate (revokeNum + 1) = .ok estate')
      (disclosed : events = [] ∨ events = [.counterpartyRevoked revokeNum oldSecret]) :
      Effect ctx env s (.validateCounterpartyRevocation revokeNum oldSecret) events
        (s.withEstate estate')
  | spliced {setup holderShutdownKeyPath} (compatible : s.chan.isSpliceCompatible setup = true) :
      Effect ctx env s (.setupSplice setup holderShutdownKeyPath) []
        { s with chan := s.chan.spliced setup }
  | locked {outpoint} (unlocked : s.chan.fundingLocked ≠ some outpoint)
      (current : outpoint = s.chan.setup.fundingOutpoint) :
      Effect ctx env s (.confirmFundingLocked outpoint)
        (if s.chan.prevSetup.isSome ∨ s.chan.prevPrevSetup.isSome then [.windowClosed] else [])
        { s with chan := s.chan.fundingLockedState outpoint }
  | fulfilled {preimages state}
      (applied : NodeState.htlcsFulfilled ctx.prims ctx.validator s.state preimages = .ok state) :
      Effect ctx env s (.htlcsFulfilled preimages) [] { s with state := state }

section complete

open Call

variable {ctx : Context} {env : Env} {s : Locked}

/-- The call a request makes has one of the effects of that request, unless it panics. -/
def Complies (ctx : Context) (env : Env) (s : Locked) (request : ChannelRequest) : Prop :=
  Ends (perform ctx env request) s
    (fun reply s' => Effect ctx env s request (request.events ctx env s (.ok reply)) s')
    (fun fault s' => ∀ status, fault = .err status →
      Effect ctx env s request (request.events ctx env s (.error status)) s')

theorem validateHolderCommitmentTxPhase2_complies (fundingOutpoint : OutPoint)
    (commitmentNumber : U64) (values : CommitmentValues) (signatures : CommitmentSignatures) :
    Complies ctx env s
      (.validateHolderCommitmentTxPhase2 fundingOutpoint commitmentNumber values signatures) := by
  simp only [Complies, perform, validateHolderCommitmentTxPhase2, ends_bind, ends_get, ends_lift,
    ends_modifyEstate, ends_pure, ChannelRequest.events]
  refine ⟨?_, ?_⟩
  · intro commitment checked
    have asked : holderCommitment ctx env s
        (.validateHolderCommitmentTxPhase2 fundingOutpoint commitmentNumber values signatures)
        = some commitment := by
      simp only [holderCommitment, checked, Except.toOption]
    rw [asked]
    have effect := Effect.validated (decide (s.chan.enforcementState.holderCommitmentFunding ≠
      some commitment.view.fundingOutpoint)) asked (checkHolderCommitmentTxPhase2_ok checked).1
    exact ⟨fun _ _ => effect, fun _ _ _ _ => effect⟩
  · intro fault refused status _
    have nothing : holderCommitment ctx env s
        (.validateHolderCommitmentTxPhase2 fundingOutpoint commitmentNumber values signatures)
        = none := by
      simp only [holderCommitment, refused, Except.toOption]
    rw [nothing]
    exact .idle

theorem validateHolderCommitmentTx_complies (tx : Transaction) (outputWitscripts : List Script)
    (commitmentNumber : U64) (feeratePerKw : U32) (offeredHtlcs receivedHtlcs : List HTLCInfo2)
    (signatures : CommitmentSignatures) :
    Complies ctx env s
      (.validateHolderCommitmentTx tx outputWitscripts commitmentNumber feeratePerKw offeredHtlcs
        receivedHtlcs signatures) := by
  simp only [Complies, perform, validateHolderCommitmentTx, ends_bind, ends_get, ends_lift,
    ends_modifyEstate, ends_pure, ChannelRequest.events]
  refine ⟨?_, ?_⟩
  · intro commitment checked
    have asked : holderCommitment ctx env s
        (.validateHolderCommitmentTx tx outputWitscripts commitmentNumber feeratePerKw offeredHtlcs
          receivedHtlcs signatures) = some commitment := by
      simp only [holderCommitment, checked, Except.toOption]
    rw [asked]
    have effect := Effect.validated (decide (commitment.view.fundingOutpoint ≠
      s.chan.setup.fundingOutpoint)) asked (checkHolderCommitmentTx_ok checked).1
    exact ⟨fun _ _ => effect, fun _ _ _ _ => effect⟩
  · intro fault refused status _
    have nothing : holderCommitment ctx env s
        (.validateHolderCommitmentTx tx outputWitscripts commitmentNumber feeratePerKw offeredHtlcs
          receivedHtlcs signatures) = none := by
      simp only [holderCommitment, refused, Except.toOption]
    rw [nothing]
    exact .idle

theorem getPerCommitmentSecret_complies (strict : ctx.validator.Strict) (commitmentNumber : U64) :
    Complies ctx env s (.getPerCommitmentSecret commitmentNumber) := by
  simp only [Complies, perform, ends_bind, ends_get, ends_lift, ends_pure, ChannelRequest.events,
    getPerCommitmentSecret_eq_ok strict]
  refine ⟨?_, fun _ _ _ _ => .idle⟩
  rintro secret ⟨gate, -⟩
  exact .released rfl gate

theorem getPerCommitmentSecretOrNone_complies (commitmentNumber : U64) :
    Complies ctx env s (.getPerCommitmentSecretOrNone commitmentNumber) := by
  simp only [Complies, perform, ends_bind, ends_get, ends_pure, ChannelRequest.events,
    getPerCommitmentSecretOrNone]
  by_cases gate : commitmentNumber + 2 > s.chan.enforcementState.nextHolderCommitNum
  · rw [if_pos gate]
    exact .idle
  · rw [if_neg gate]
    exact .released rfl gate

theorem setNextHolderCommitNum_succ (validator : Validator) (estate : EnforcementState)
    (info2 : CommitmentInfo2) (signatures : CommitmentSignatures) :
    validator.setNextHolderCommitNum (withoutNext estate) (estate.nextHolderCommitNum + 1) info2
      signatures = .ok (estate.promoted info2 signatures) := by
  simp [Validator.setNextHolderCommitNum, EnforcementState.setNextHolderCommitNum,
    PolicyFilter.refuseIf, withoutNext, EnforcementState.promoted, bind, Except.bind]

theorem advanceHolderCommitmentState_ends (info2 : CommitmentInfo2)
    (signatures : CommitmentSignatures) :
    Ends (advanceHolderCommitmentState ctx s.chan.enforcementState.nextHolderCommitNum info2
        signatures) (s.withEstate (withoutNext s.chan.enforcementState))
      (fun released s' => s' = s.withEstate (s.chan.enforcementState.promoted info2 signatures)
        ∧ s'.chan.releaseCommitmentSecret ctx s.chan.enforcementState.nextHolderCommitNum
          = .ok released)
      (fun fault s' => s' = s.withEstate (s.chan.enforcementState.promoted info2 signatures)
        ∧ s'.chan.releaseCommitmentSecret ctx s.chan.enforcementState.nextHolderCommitNum
          = .error fault) := by
  have promoted := setNextHolderCommitNum_succ ctx.validator s.chan.enforcementState info2
    signatures
  simp only [advanceHolderCommitmentState, ends_bind, ends_get]
  rw [ends_lift_validation, ends_lift]
  refine ⟨?_, ?_⟩
  · intro estate ok
    rw [liftM_eq_ok] at ok
    cases promoted.symm.trans ok
    rw [ends_modifyEstate]
    rw [ends_lift]
    exact ⟨fun _ ok => ⟨rfl, ok⟩, fun _ failed => ⟨rfl, failed⟩⟩
  · intro fault failed
    exact absurd (failed.symm.trans (liftM_eq_ok.mpr promoted)) (by simp)

theorem revokePreviousHolderCommitment_complies (strict : ctx.validator.Strict) (n : U64) :
    Complies ctx env s (.revokePreviousHolderCommitment n) := by
  simp only [Complies, perform, revokePreviousHolderCommitment, ends_bind, ends_get]
  by_cases current : n = s.chan.enforcementState.nextHolderCommitNum
  · rw [if_neg (not_not.mpr current)]
    subst current
    split
    · rename_i absent
      rw [ends_bind, ends_lift_validation, PolicyFilter.policyErrorWithFilter_strict strict]
      exact fun _ _ => .idle
    · rename_i info2 signatures pending
      rw [ends_bind, ends_modifyEstate, ends_bind, ends_get]
      refine Ends.lift (fun _ _ _ _ => .dropped pending) ?_
      intro delta balances
      rw [ends_bind]
      refine (advanceHolderCommitmentState_ends info2 signatures).mono ?_ ?_
      · rintro released _ ⟨rfl, ok⟩
        refine Ends.lift ?_ ?_
        · rintro fault failed status rfl
          obtain ⟨message, panicked⟩ := s.state.applyPayments_error failed
          cases panicked
        intro state applied
        simp only [ends_bind, ends_modify, ends_lift, ends_pure, ChannelRequest.events]
        refine ⟨fun _ _ => .advanced pending balances applied ?_,
          fun _ _ _ _ => .advanced pending balances applied (.inl rfl)⟩
        rcases releaseCommitmentSecret_ok strict ok with ⟨_, none⟩ | ⟨positive, _, some⟩
        · rw [none]
          exact .inl rfl
        · have asked := BitVec.checkedSub_eq_some.mpr ⟨positive, rfl⟩
          simp only [some, ChannelRequest.secretNumber, asked]
          exact .inr ⟨positive, rfl⟩
      · rintro fault _ ⟨rfl, failed⟩ _ _
        exact .stalled pending (last_of_releaseCommitmentSecret ctx failed rfl)
  · rw [if_pos current]
    simp only [ends_lift, ends_pure, ChannelRequest.events]
    refine ⟨?_, fun _ _ _ _ => .idle⟩
    intro released ok
    rcases releaseCommitmentSecret_ok strict ok with ⟨_, none⟩ | ⟨positive, gate, some⟩
    · rw [none]
      exact .idle
    · have asked := BitVec.checkedSub_eq_some.mpr ⟨positive, rfl⟩
      simp only [some, ChannelRequest.secretNumber, asked]
      exact .released asked gate

theorem activateInitialCommitment_complies : Complies ctx env s .activateInitialCommitment := by
  simp only [Complies, perform, activateInitialCommitment, ends_bind, ends_get]
  split
  · exact fun _ _ => .idle
  · rename_i early
    split
    · exact fun _ _ => .idle
    · rename_i info2 signatures pending
      by_cases first : s.chan.enforcementState.nextHolderCommitNum = 0
      · have promoted : (withoutNext s.chan.enforcementState).setNextHolderCommitNum (ε := Status) 1
            info2 signatures = .ok (s.chan.enforcementState.promoted info2 signatures) := by
          simp [EnforcementState.setNextHolderCommitNum, EnforcementState.promoted, withoutNext,
            first]
        rw [if_pos first, promoted]
        refine Ends.lift (fun _ failed => by cases failed) ?_
        rintro _ ⟨⟩
        simp only [ends_bind, ends_lift, ends_modifyEstate, ends_pure]
        exact ⟨fun _ _ => .activated pending first, fun _ _ _ _ => .activated pending first⟩
      · have second : s.chan.enforcementState.nextHolderCommitNum = 1 := by
          by_contra other
          exact early (.inl (by bv_omega))
        have window : s.chan.enforcementState.prevFundingCommitment.isSome := by
          rw [Option.isSome_iff_ne_none, ne_eq, ← Option.isNone_iff_eq_none]
          exact fun absent => early (.inr ⟨second, absent⟩)
        simp only [if_neg first, ends_bind, ends_lift, ends_modifyEstate, ends_pure]
        exact ⟨fun _ _ => .reactivated pending second window,
          fun _ _ _ _ => .reactivated pending second window⟩

theorem signHolderCommitmentTxPhase2_complies (n : U64) :
    Complies ctx env s (.signHolderCommitmentTxPhase2 n) := by
  simp only [Complies, perform, signHolderCommitmentTxPhase2, ends_bind, ends_get, ends_lift,
    ends_modifyEstate, ends_pure, ChannelRequest.events]
  refine ⟨?_, fun _ _ _ _ => .idle⟩
  intro closing ok
  have asked : ChannelRequest.closing ctx s (.signHolderCommitmentTxPhase2 n) = some closing := by
    simp only [ChannelRequest.closing, ok, Except.toOption]
  rw [asked]
  refine ⟨?_, fun _ _ _ _ => .idle⟩
  intro _ _
  exact ⟨fun _ _ => .closed true asked (.inr rfl), fun _ _ _ _ => .closed true asked (.inl rfl)⟩

theorem signHolderCommitmentTxForRecovery_complies (spent : List Bool) (persistClose : Bool)
    (height : Option U32) :
    Complies ctx env s (.signHolderCommitmentTxForRecovery spent persistClose height) := by
  simp only [Complies, perform, signHolderCommitmentTxForRecoveryInner, ends_bind, ends_get,
    ends_lift, ends_pure, ChannelRequest.events]
  refine ⟨?_, fun _ _ _ _ => .idle⟩
  intro closing ok
  have asked : ChannelRequest.closing ctx s
      (.signHolderCommitmentTxForRecovery spent persistClose height) = some closing := by
    simp only [ChannelRequest.closing, ok, Except.toOption]
  rw [asked]
  refine ⟨?_, fun _ _ _ _ => .idle⟩
  intro _ _
  refine ⟨?_, fun _ _ _ _ => .idle⟩
  intro _ _
  cases persistClose with
  | false =>
    simp only [Bool.false_eq_true, if_false, ends_bind, ends_lift, ends_pure]
    exact ⟨fun _ _ => .closed false asked (.inr rfl), fun _ _ _ _ => .idle⟩
  | true =>
    simp only [if_true, ends_bind, ends_modifyEstate, ends_lift]
    refine ⟨?_, fun _ _ _ _ => .closed true asked (.inl rfl)⟩
    intro _ _
    exact ⟨fun _ _ => .closed true asked (.inr rfl), fun _ _ _ _ => .closed true asked (.inl rfl)⟩

theorem advanceCounterpartyCommitment_ends (commitment : CounterpartyCommitment) :
    Ends (advanceCounterpartyCommitment ctx env commitment) s
      (fun _ s' => SignedTo ctx s commitment s')
      (fun fault s' => SignedTo ctx s commitment s'
        ∨ (∃ refusal, counterpartySigned ctx s.chan.enforcementState commitment = .error refusal)
          ∧ s' = s
        ∨ ∃ message, fault = .panic message) := by
  simp only [advanceCounterpartyCommitment, ends_bind, ends_get]
  rw [ends_lift_validation, ends_lift]
  refine ⟨?_, ?_⟩
  · intro estate ok
    rw [liftM_eq_ok] at ok
    rw [ends_modifyEstate]
    rw [ends_lift]
    refine ⟨?_, fun _ failed => .inr (.inr (NodeState.applyPayments_error _ failed))⟩
    · intro state applied
      simp only [ends_modify, ends_lift]
      have signed : SignedTo ctx s commitment { s.withEstate estate with state := state } :=
        ⟨ok, applied, rfl⟩
      exact ⟨fun _ _ => signed, fun _ _ => .inl signed⟩
  · intro fault failed
    refine .inr (.inl ⟨?_, rfl⟩)
    cases refused : counterpartySigned ctx s.chan.enforcementState commitment with
    | ok estate => rw [refused] at failed; cases failed
    | error refusal => exact ⟨refusal, rfl⟩

theorem counterpartyCommitment_eq_some {request : ChannelRequest} {commitment} :
    request.counterpartyCommitment ctx env s = some commitment ↔
      request.checkedCounterparty ctx env s = some commitment
      ∧ ∃ estate, counterpartySigned ctx s.chan.enforcementState commitment = .ok estate := by
  rw [counterpartyCommitment, Option.filter_eq_some_iff]
  refine and_congr_right fun _ => ?_
  cases counterpartySigned ctx s.chan.enforcementState commitment with
  | ok estate => simp [Except.toOption]
  | error fault => simp [Except.toOption]

theorem advanceCounterpartyCommitment_complies {request : ChannelRequest} {commitment}
    (asked : request.checkedCounterparty ctx env s = some commitment)
    (checked : CounterpartyChecked ctx env s commitment)
    (events : ∀ output,
      request.events ctx env s output
      = (request.counterpartyCommitment ctx env s).toList.map .counterpartySigned) :
    Ends (advanceCounterpartyCommitment ctx env commitment) s
      (fun _ s' => ∀ output, Effect ctx env s request (request.events ctx env s output) s')
      (fun fault s' => ∀ status, fault = .err status →
        Effect ctx env s request (request.events ctx env s (.error status)) s') := by
  have effect : ∀ s', SignedTo ctx s commitment s' → ∀ output,
      Effect ctx env s request (request.events ctx env s output) s' := by
    intro s' signed output
    have moved := counterpartyCommitment_eq_some.mpr ⟨asked, _, signed.advanced⟩
    rw [events, moved]
    exact .signed moved checked signed
  refine (advanceCounterpartyCommitment_ends commitment).mono ?_ ?_
  · intro _ s' signed
    exact effect s' signed
  · rintro fault s' (signed | ⟨⟨refusal, refused⟩, rfl⟩ | ⟨message, rfl⟩) status err
    · exact effect s' signed _
    · have nothing : request.counterpartyCommitment ctx env s' = none := by
        rw [Option.eq_none_iff_forall_ne_some]
        intro other some
        obtain ⟨same, estate, ok⟩ := counterpartyCommitment_eq_some.mp some
        cases asked.symm.trans same
        cases ok.symm.trans refused
      rw [events, nothing]
      exact .idle
    · cases err

theorem signCounterpartyCommitmentTxPhase2_complies (fundingOutpoint : OutPoint)
    (remotePerCommitmentPoint : PublicKey) (commitmentNumber : U64) (values : CommitmentValues) :
    Complies ctx env s (.signCounterpartyCommitmentTxPhase2 fundingOutpoint
      remotePerCommitmentPoint commitmentNumber values) := by
  simp only [Complies, perform, signCounterpartyCommitmentTxPhase2, ends_bind, ends_get, ends_pure,
    ends_lift]
  refine ⟨?_, ?_⟩
  · intro commitment checked
    refine (advanceCounterpartyCommitment_complies ?_
      (checkCounterpartyCommitmentTxPhase2_ok checked) (fun _ => rfl)).mono
      (fun _ _ effect => effect _) (fun _ _ effect => effect)
    simp only [checkedCounterparty, checked, Except.toOption]
  · intro fault refused _ _
    have nothing : counterpartyCommitment ctx env s
        (.signCounterpartyCommitmentTxPhase2 fundingOutpoint remotePerCommitmentPoint
          commitmentNumber values) = none := by
      simp only [counterpartyCommitment, checkedCounterparty, refused,
        Except.toOption, Option.filter_none]
    rw [ChannelRequest.events, nothing]
    exact .idle

theorem signCounterpartyCommitmentTx_complies (strict : ctx.validator.Strict) (tx : Transaction)
    (outputWitscripts : List Script) (remotePerCommitmentPoint : PublicKey) (commitmentNumber : U64)
    (feeratePerKw : U32) (offeredHtlcs receivedHtlcs : List HTLCInfo2) :
    Complies ctx env s (.signCounterpartyCommitmentTx tx outputWitscripts remotePerCommitmentPoint
      commitmentNumber feeratePerKw offeredHtlcs receivedHtlcs) := by
  simp only [Complies, perform, signCounterpartyCommitmentTx, ends_bind, ends_get, ends_pure,
    ends_lift]
  refine ⟨?_, ?_⟩
  · intro checkedTx ok
    obtain ⟨commitment, rfl, checked⟩ := checkCounterpartyCommitmentTx_ok strict ok
    rw [ends_bind]
    refine (advanceCounterpartyCommitment_complies ?_ checked (fun _ => rfl)).mono
      (fun _ _ effect => effect _) (fun _ _ effect => effect)
    simp only [checkedCounterparty, ok]
  · intro fault refused _ _
    have nothing : counterpartyCommitment ctx env s
        (.signCounterpartyCommitmentTx tx outputWitscripts remotePerCommitmentPoint
          commitmentNumber feeratePerKw offeredHtlcs receivedHtlcs) = none := by
      simp [counterpartyCommitment, checkedCounterparty, refused]
    rw [ChannelRequest.events, nothing]
    exact .idle

theorem validateCounterpartyRevocation_complies (revokeNum : U64) (oldSecret : SecretKey) :
    Complies ctx env s (.validateCounterpartyRevocation revokeNum oldSecret) := by
  simp only [Complies, perform, validateCounterpartyRevocation, ends_bind, ends_get]
  rw [ends_lift_validation, ends_lift]
  refine ⟨?_, fun _ _ _ _ => .idle⟩
  intro _ validated
  rw [ends_lift_validation, ends_lift]
  refine ⟨?_, fun _ _ _ _ => .idle⟩
  intro estate stored
  rw [ends_modifyEstate, ends_lift_validation, ends_lift]
  rw [liftM_eq_ok] at validated stored
  refine ⟨?_, fun _ _ _ _ => .stored stored validated⟩
  intro estate' advanced
  rw [liftM_eq_ok] at advanced
  simp only [ends_modifyEstate, ends_lift, ends_pure]
  exact ⟨fun _ _ => .revoked validated stored advanced (.inr rfl),
    fun _ _ _ _ => .revoked validated stored advanced (.inl rfl)⟩

theorem setupSplice_complies (setup : ChannelSetup) (holderShutdownKeyPath : DerivationPath) :
    Complies ctx env s (.setupSplice setup holderShutdownKeyPath) := by
  simp only [Complies, perform, setupSplice, ends_bind, ends_get, ends_ite, ends_pure, ends_throw,
    ends_modify]
  refine ⟨fun _ => .idle, fun _ => ⟨fun _ _ _ => .idle, ?_⟩⟩
  intro compatible
  refine ⟨fun _ _ _ => .idle, fun _ => ?_⟩
  have effect : Effect ctx env s (.setupSplice setup holderShutdownKeyPath) []
      { s with chan := s.chan.spliced setup } :=
    .spliced (Bool.of_not_eq_false compatible)
  rw [ends_lift_validation, ends_lift]
  refine ⟨fun _ _ => ⟨fun _ _ _ => effect, fun _ => ?_⟩, fun _ _ _ _ => effect⟩
  rw [ends_lift]
  exact ⟨fun _ _ => effect, fun _ _ _ _ => effect⟩

theorem confirmFundingLocked_complies (outpoint : OutPoint) :
    Complies ctx env s (.confirmFundingLocked outpoint) := by
  have skipped : closesWindow s (.confirmFundingLocked outpoint) = false →
      Effect ctx env s (.confirmFundingLocked outpoint)
        (if closesWindow s (.confirmFundingLocked outpoint) then [.windowClosed]
          else []) s := by
    intro skipped
    rw [skipped]
    exact .idle
  simp only [Complies, perform, confirmFundingLocked, ends_bind, ends_get, ends_ite, ends_pure,
    ends_throw, ends_modify, ends_lift, ChannelRequest.events]
  refine ⟨fun locked => skipped ?_, fun unlocked =>
    ⟨fun other _ _ => skipped ?_, fun current => ?_⟩⟩
  · simp [closesWindow, locked]
  · simp [closesWindow, other]
  · have current := not_not.mp current
    have closes : closesWindow s (.confirmFundingLocked outpoint)
        = decide (s.chan.prevSetup.isSome ∨ s.chan.prevPrevSetup.isSome) := by
      simp only [closesWindow, decide_eq_decide]
      exact ⟨fun window => window.2.2, fun window => ⟨unlocked, current, window⟩⟩
    have effect : Effect ctx env s (.confirmFundingLocked outpoint)
        (if closesWindow s (.confirmFundingLocked outpoint) then [.windowClosed]
          else []) { s with chan := s.chan.fundingLockedState outpoint } := by
      simp only [closes, decide_eq_true_eq]
      exact .locked unlocked current
    exact ⟨fun _ _ => effect, fun _ _ _ _ => effect⟩

theorem htlcsFulfilled_complies (preimages : List PaymentPreimage) :
    Complies ctx env s (.htlcsFulfilled preimages) := by
  simp only [Complies, perform, fulfillHtlcs, ends_bind, ends_get, ends_pure, ends_modify,
    ends_lift]
  exact ⟨fun _ applied => .fulfilled applied, fun _ _ _ _ => .idle⟩

theorem perform_complies (strict : ctx.validator.Strict) (request : ChannelRequest) :
    Complies ctx env s request := by
  cases request with
  | validateHolderCommitmentTx => exact validateHolderCommitmentTx_complies ..
  | validateHolderCommitmentTxPhase2 => exact validateHolderCommitmentTxPhase2_complies ..
  | revokePreviousHolderCommitment => exact revokePreviousHolderCommitment_complies strict _
  | activateInitialCommitment => exact activateInitialCommitment_complies
  | signHolderCommitmentTxPhase2 => exact signHolderCommitmentTxPhase2_complies _
  | signHolderCommitmentTxForRecovery => exact signHolderCommitmentTxForRecovery_complies ..
  | getPerCommitmentSecret => exact getPerCommitmentSecret_complies strict _
  | getPerCommitmentSecretOrNone => exact getPerCommitmentSecretOrNone_complies _
  | signCounterpartyCommitmentTx => exact signCounterpartyCommitmentTx_complies strict ..
  | signCounterpartyCommitmentTxPhase2 => exact signCounterpartyCommitmentTxPhase2_complies ..
  | validateCounterpartyRevocation => exact validateCounterpartyRevocation_complies ..
  | setupSplice => exact setupSplice_complies ..
  | confirmFundingLocked => exact confirmFundingLocked_complies _
  | htlcsFulfilled => exact htlcsFulfilled_complies _

end complete

inductive StepEffect (ctx : Context) (s : Locked) :
    ChannelInput → List Event → Locked → Prop where
  | others (state : NodeState) : StepEffect ctx s (.others state) [] { s with state := state }
  | call {env request events s'} (effect : Effect ctx env s request events s') :
      StepEffect ctx s (.call env request) events s'

section

variable (strict : ctx.validator.Strict)
include strict

theorem step_effect {s s' input output}
    (stepped : (channelMachine ctx).step s input = some (output, s')) :
    StepEffect ctx s input (events ctx ⟨s, input, output⟩) s' := by
  cases input with
  | others state =>
    simp only [channelMachine, Option.some.injEq, Prod.mk.injEq] at stepped
    obtain ⟨rfl, rfl⟩ := stepped
    exact .others state
  | call env request =>
    have complies : Complies ctx env s request := perform_complies strict request
    simp only [channelMachine] at stepped
    split at stepped
    · rename_i reply _ ok
      cases stepped
      exact .call (complies.ok ok)
    · rename_i status _ err
      cases stepped
      exact .call (complies.error err status rfl)
    · cases stepped

theorem run_inv (condition : List Event → Locked → ChannelInput → Prop)
    (Inv : List Event → Locked → Prop) {s} (run : (channelMachine ctx).Run start history s)
    (meets : Machine.Meets (fun history => condition (trace ctx history)) history)
    (initially : Inv [] start)
    (kept : ∀ earlier s input events s', Inv earlier s → condition earlier s input →
      StepEffect ctx s input events s' → Inv (events ++ earlier) s') :
    Inv (trace ctx history) s := by
  refine run.inv (fun history s => Inv (trace ctx history) s) meets initially ?_
  intro history s input output s' inv condition stepped
  rw [trace_cons]
  exact kept _ _ _ _ _ inv condition (step_effect strict stepped)

theorem run_always (Inv : List Event → Locked → Prop) {s}
    (run : (channelMachine ctx).Run start history s) (initially : Inv [] start)
    (kept : ∀ earlier s input events s', Inv earlier s → StepEffect ctx s input events s' →
      Inv (events ++ earlier) s'): Inv (trace ctx history) s := by
  refine run.always (fun history s => Inv (trace ctx history) s) initially ?_
  intro history s input output s' inv stepped
  rw [trace_cons]
  exact kept _ _ _ _ _ inv (step_effect strict stepped)

theorem closing_spec {s} {request : ChannelRequest} {closing : ClosableHolderCommitment}
    (asked : request.closing ctx s = some closing) :
    closing.commitmentNumber = s.chan.enforcementState.nextHolderCommitNum
        ∧ s.chan.enforcementState.nextHolderCommitInfo
          = some (closing.info, closing.counterpartySignatures)
      ∨ closing.commitmentNumber + 1 = s.chan.enforcementState.nextHolderCommitNum
        ∧ s.chan.enforcementState.currentHolderCommitInfo = some closing.info
        ∧ s.chan.enforcementState.currentCounterpartySignatures
          = some closing.counterpartySignatures := by
  cases request <;>
    simp only [ChannelRequest.closing, reduceCtorEq, Result.toOption_eq_some] at asked
  · exact getHolderCommitmentForClose_ok strict asked
  · simp only [getLatestHolderCommitmentForClose] at asked
    split at asked
    · exact getHolderCommitmentForClose_ok strict asked
    · obtain ⟨number, _, ok⟩ := Result.bind_eq_ok.mp asked
      exact getHolderCommitmentForClose_ok strict ok

end

theorem holderChecked_of_asked {env s} {request : ChannelRequest} {commitment : HolderCommitment}
    (asked : request.holderCommitment ctx env s = some commitment) :
    HolderChecked ctx env s commitment := by
  cases request with
  | validateHolderCommitmentTx tx witscripts number feerate offered received signatures =>
    exact (checkHolderCommitmentTx_ok (Result.toOption_eq_some.mp asked)).1
  | validateHolderCommitmentTxPhase2 outpoint number values signatures =>
    exact (checkHolderCommitmentTxPhase2_ok (Result.toOption_eq_some.mp asked)).1
  | _ => cases asked

theorem counterpartyChecked_of_asked (strict : ctx.validator.Strict) {env : Env} {s : Locked}
    {request : ChannelRequest} {commitment : CounterpartyCommitment}
    (asked : request.counterpartyCommitment ctx env s = some commitment) :
    CounterpartyChecked ctx env s commitment := by
  have checked := (counterpartyCommitment_eq_some.mp asked).1
  cases request with
  | signCounterpartyCommitmentTx tx witscripts point number feerate offered received =>
    simp only [checkedCounterparty] at checked
    split at checked
    · rename_i other ok
      cases checked
      obtain ⟨_, same, passed⟩ := checkCounterpartyCommitmentTx_ok strict ok
      cases same
      exact passed
    · cases checked
  | signCounterpartyCommitmentTxPhase2 outpoint point number values =>
    exact checkCounterpartyCommitmentTxPhase2_ok (Result.toOption_eq_some.mp checked)
  | _ => cases checked

end Vls
