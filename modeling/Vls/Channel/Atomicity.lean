import Vls.Channel.Effect
import Vls.Channel.Toy

/-! # What a failed call leaves behind

A call should succeed or leave everything as it was. Two calls give something up before their last
check: a revocation of the holder takes the waiting commitment, one of the counterparty stores the
secret. -/

namespace Vls

open Result Call EnforcementState Channel

variable {fault : Fault Status} {message function tag : String} {s' : Locked}
  {request : ChannelRequest} {α : Type} {point : PublicKey} {commitmentNumber revokeNum : U64}
  {estate : EnforcementState} {hasPreimage : PaymentHash → Bool} {info2 : CommitmentInfo2}
  {setup : ChannelSetup} {prevSetup : Option ChannelSetup} {secret oldSecret : SecretKey}
  {filter : PolicyFilter} {violated : Prop} {call : ChannelCall α} {reply : α → ChannelReply}

namespace ChannelRequest

def isTransition : ChannelRequest → Bool
  | .validateHolderCommitmentTx .. => true
  | .validateHolderCommitmentTxPhase2 .. => true
  | .revokePreviousHolderCommitment _ => true
  | .signCounterpartyCommitmentTx .. => true
  | .signCounterpartyCommitmentTxPhase2 .. => true
  | .validateCounterpartyRevocation .. => true
  | _ => false

end ChannelRequest

structure Unchanged (s s' : Locked) : Prop where
  enforcementState : s'.chan.enforcementState = s.chan.enforcementState
  payments : s'.state.payments = s.state.payments
  invoices : s'.state.invoices = s.state.invoices
  excessAmount : s'.state.excessAmount = s.state.excessAmount

theorem Unchanged.refl (s : Locked) : Unchanged s s := ⟨rfl, rfl, rfl, rfl⟩

def persistFailed : Status := .internal "persist failed"

/-- A request that is refused leaves nothing changed, unless it was the store that refused it. -/
def Atomic (ctx : Context) (env : Env) (s : Locked) (request : ChannelRequest) : Prop :=
  ∀ status s', perform ctx env request s = .error (.err status) s' →
    status ≠ persistFailed → Unchanged s s'

namespace Channel

variable {ctx : Context} {env : Env} {s : Locked}

def Spares (s : Locked) (fault : Fault Status) (s' : Locked) : Prop :=
  ∀ status, fault = .err status → status ≠ persistFailed → Unchanged s s'

theorem spares_same : Spares s fault s :=
  fun _ _ _ => Unchanged.refl s

theorem spares_panic : Spares s (.panic message) s' := by
  intro status same
  cases same

theorem spares_persist (failed : persist env = .error fault) : Spares s fault s' := by
  rintro status rfl other
  unfold persist at failed
  split at failed
  · cases failed
  · cases failed
    exact absurd rfl other

theorem atomic_iff_ends :
    Atomic ctx env s request ↔ Ends (perform ctx env request) s (fun _ _ => True) (Spares s) := by
  unfold Atomic Ends
  cases perform ctx env request s with
  | ok reply s' => simp
  | error fault s' =>
    constructor
    · intro atomic status same
      exact atomic status s' (by rw [same])
    · intro spares status s'' same
      cases same
      exact spares status rfl

theorem ends_store {check : Result Status α} {f : α → EnforcementState → EnforcementState} :
    Ends (do
      let a ← check
      Locked.modifyEstate (f a)
      persist env : ChannelCall Unit) s (fun _ _ => True) (Spares s) := by
  refine Ends.lift (fun fault _ => spares_same) ?_
  intro a _
  rw [ends_bind, Locked.ends_modifyEstate, ends_lift]
  exact ⟨fun _ _ => trivial, fun fault failed => spares_persist failed⟩

theorem advanceCounterpartyCommitment_spares {commitment} :
    Ends (advanceCounterpartyCommitment ctx env commitment) s (fun _ _ => True) (Spares s) := by
  simp only [advanceCounterpartyCommitment, ends_bind, ends_get, ends_lift_validation]
  rw [ends_lift]
  refine ⟨?_, fun fault _ => spares_same⟩
  intro estate _
  simp only [Locked.ends_modifyEstate, ends_lift, ends_modify, implies_true, true_and]
  refine ⟨?_, ?_⟩
  · intro state _ fault failed
    exact spares_persist failed
  · -- what cannot be recorded at this point panics
    intro fault failed
    obtain ⟨message, rfl⟩ := s.state.applyPayments_error failed
    exact spares_panic

theorem signCounterpartyCommitmentTxPhase2_spares {outpoint values} :
    Ends (signCounterpartyCommitmentTxPhase2 ctx env outpoint point commitmentNumber values) s
      (fun _ _ => True) (Spares s) := by
  simp only [signCounterpartyCommitmentTxPhase2, ends_bind, ends_get, ends_lift]
  refine ⟨?_, fun fault _ => spares_same⟩
  intro commitment _
  exact advanceCounterpartyCommitment_spares.mono (fun _ _ _ => trivial) fun _ _ spares => spares

theorem signCounterpartyCommitmentTx_spares {tx witscripts feerate offered received} :
    Ends (signCounterpartyCommitmentTx ctx env tx witscripts point commitmentNumber feerate offered
      received) s (fun _ _ => True) (Spares s) := by
  simp only [signCounterpartyCommitmentTx, ends_bind, ends_get, ends_lift]
  refine ⟨?_, fun fault _ => spares_same⟩
  intro checked _
  cases checked with
  | verbatim sig => trivial
  | recomposed commitment =>
    rw [ends_bind]
    exact advanceCounterpartyCommitment_spares.mono (fun _ _ _ => trivial)
      fun _ _ spares => spares

theorem claimableBalances_of_some {balance fault}
    (found : info2.claimableBalance hasPreimage setup.isOutbound setup.channelValueSat
      = some balance) :
    estate.claimableBalances hasPreimage (some info2) none setup prevSetup ≠ .error fault := by
  have lower : ∀ other, ∃ least, minOpt (some balance) other = some least := by
    intro other
    cases other <;> exact ⟨_, rfl⟩
  obtain ⟨least, least_eq⟩ := lower ((estate.counterpartyCommitInfoFor setup.fundingOutpoint).bind
    fun tx => tx.claimableBalance hasPreimage setup.isOutbound setup.channelValueSat)
  simp [claimableBalances, flattenOrErr, found, bind, Except.bind, expect, least_eq]

theorem toStatus_ne_persistFailed (error : ValidationError) : error.toStatus ≠ persistFailed := by
  unfold ValidationError.toStatus persistFailed
  split <;> simp [Status.temporary, Status.failedPrecondition, Status.internal]

theorem err_of_liftM {x : Result ValidationError α} {status}
    (failed : (liftM x : Result Status α) = .error (.err status)) :
    ∃ error, x = .err error ∧ status = error.toStatus := by
  cases x with
  | ok a => cases failed
  | error fault =>
    cases fault with
    | err error =>
      cases failed
      exact ⟨error, rfl, rfl⟩
    | panic message => cases failed

def Leaves (s : Locked) : Fault Status → Locked → Prop
  | .err status, s' =>
    status ≠ persistFailed ∧ s'.chan.enforcementState ≠ s.chan.enforcementState
  | .panic _, _ => False

instance {fault : Fault Status} {s' : Locked} : Decidable (Leaves s fault s') := by
  unfold Leaves
  split <;> infer_instance

theorem not_atomic_of_leaves
    (leaves : Ends (perform ctx env request) s (fun _ _ => False) (Leaves s)) :
    ¬ Atomic ctx env s request := by
  intro atomic
  rw [atomic_iff_ends] at atomic
  unfold Ends at leaves atomic
  split at leaves
  · exact leaves
  · rename_i fault s' ended
    rw [ended] at atomic
    cases fault with
    | err status =>
      obtain ⟨other, changed⟩ := leaves
      exact changed (atomic status rfl other).enforcementState
    | panic message => exact leaves

theorem revokePreviousHolderCommitment_spares
    (fits : commitmentNumber = s.chan.enforcementState.nextHolderCommitNum →
      ∀ next ∈ s.chan.enforcementState.nextHolderCommitInfo,
      (next.1.claimableBalance s.state.hasPreimage s.chan.setup.isOutbound
      s.chan.setup.channelValueSat).isSome ∧ commitmentNumber + 2 ≠ 0) :
    Ends (revokePreviousHolderCommitment ctx env commitmentNumber) s (fun _ _ => True)
      (Spares s) := by
  simp only [revokePreviousHolderCommitment, ends_bind, ends_get]
  split
  · rw [ends_lift]
    exact ⟨fun _ _ => trivial, fun _ _ => spares_same⟩
  · rename_i due
    split
    · simp only [ends_bind, ends_lift_validation, ends_lift, ends_pure, implies_true, true_and]
      exact ⟨fun _ _ _ _ => spares_same, fun _ _ => spares_same⟩
    · rename_i info2 signatures pending
      obtain rfl := not_not.mp due
      obtain ⟨fits, goesOn⟩ := fits rfl _ pending
      obtain ⟨balance, found⟩ := Option.isSome_iff_exists.mp fits
      rw [ends_bind, Locked.ends_modifyEstate, ends_bind, ends_get]
      refine Ends.lift (fun _ failed => absurd failed (claimableBalances_of_some found)) ?_
      intro delta balances
      rw [ends_bind]
      refine (advanceHolderCommitmentState_ends info2 signatures).mono ?_ ?_
      · intro released s' _
        refine Ends.lift ?_ ?_
        · intro fault failed
          obtain ⟨message, rfl⟩ := s.state.applyPayments_error failed
          exact spares_panic
        · intro state applied
          simp only [ends_bind, ends_modify, ends_lift, ends_pure, implies_true, true_and]
          exact fun fault failed => spares_persist failed
      · rintro fault _ ⟨rfl, failed⟩
        exact absurd (last_of_releaseCommitmentSecret ctx failed rfl) goesOn

theorem revokePreviousHolderCommitment_leaves {signatures}
    (pending : s.chan.enforcementState.nextHolderCommitInfo = some (info2, signatures))
    (unfit : info2.claimableBalance s.state.hasPreimage s.chan.setup.isOutbound
      s.chan.setup.channelValueSat = none ∨ s.chan.enforcementState.nextHolderCommitNum + 2 = 0) :
    Ends (revokePreviousHolderCommitment ctx env s.chan.enforcementState.nextHolderCommitNum) s
      (fun _ _ => False) (Leaves s) := by
  simp only [revokePreviousHolderCommitment, ends_bind, ends_get]
  rw [if_neg (not_not.mpr rfl), pending]
  have taken : withoutNext s.chan.enforcementState ≠ s.chan.enforcementState := by
    intro same
    have := congrArg nextHolderCommitInfo same
    rw [pending] at this
    cases this
  rw [ends_bind, Locked.ends_modifyEstate, ends_bind, ends_get]
  cases found : info2.claimableBalance s.state.hasPreimage s.chan.setup.isOutbound
      s.chan.setup.channelValueSat with
  | none =>
    -- the waiting commitment does not fit the funding, and is gone
    have refused : (withoutNext s.chan.enforcementState).claimableBalances s.state.hasPreimage
        (some info2) none s.chan.setup s.chan.prevSetup
        = .err (Status.invalidArgument "commitment totals exceed the funding value") :=
      by simp [claimableBalances, flattenOrErr, found]
    refine Ends.lift ?_ ?_
    · intro fault failed
      cases refused.symm.trans failed
      exact ⟨by decide, taken⟩
    · intro delta balances
      exact absurd (refused.symm.trans balances) err_ne_ok
  | some balance =>
    -- the commitment is current, but the secret of its predecessor is not handed out
    have last := unfit.resolve_left (by simp [found])
    have promoted : (s.withEstate (s.chan.enforcementState.promoted info2
        signatures)).chan.enforcementState.nextHolderCommitNum
        = s.chan.enforcementState.nextHolderCommitNum + 1 := rfl
    obtain ⟨error, refused⟩ := releaseCommitmentSecret_of_last ctx promoted last
    refine Ends.lift (fun _ failed => absurd failed (claimableBalances_of_some found)) ?_
    intro delta balances
    rw [ends_bind]
    refine (advanceHolderCommitmentState_ends info2 signatures).mono ?_ ?_
    · rintro released _ ⟨rfl, ok⟩
      exact absurd (refused.symm.trans ok) err_ne_ok
    · rintro fault _ ⟨rfl, failed⟩
      cases refused.symm.trans failed
      refine ⟨toStatus_ne_persistFailed error, ?_⟩
      intro same
      have := congrArg nextHolderCommitInfo same
      rw [pending] at this
      cases this

theorem storeSecret_ok {estate'} (stored : storeSecret ctx estate revokeNum secret = .ok estate') :
    estate' = estate ∨ ∃ secrets ∈ estate.counterpartySecrets, ∃ secrets',
      secrets.provideSecret ctx.prims (initialCommitmentNumber - revokeNum) secret.bytes
        = some secrets'
      ∧ estate' = { estate with counterpartySecrets := some secrets' } := by
  unfold storeSecret at stored
  split at stored
  · exact .inl (Except.ok.inj stored).symm
  · rename_i secrets kept
    cases provided : secrets.provideSecret ctx.prims (initialCommitmentNumber - revokeNum)
        secret.bytes with
    | some secrets' =>
      rw [provided] at stored
      exact .inr ⟨secrets, kept, secrets', provided, (Except.ok.inj stored).symm⟩
    | none =>
      rw [provided] at stored
      obtain ⟨_, _, same⟩ := bind_eq_ok.mp stored
      exact .inl (Except.ok.inj same).symm

theorem storeSecret_of_provided {secrets secrets'}
    (kept : estate.counterpartySecrets = some secrets)
    (provided : secrets.provideSecret ctx.prims (initialCommitmentNumber - revokeNum) secret.bytes
      = some secrets') :
    storeSecret ctx estate revokeNum secret
      = .ok { estate with counterpartySecrets := some secrets' } := by
  unfold storeSecret
  split
  · rename_i missing
    rw [missing] at kept
    cases kept
  · rename_i stored same
    rw [same] at kept
    cases kept
    rw [provided]
    rfl

def CounterFits (validator : Validator) (estate : EnforcementState) (num : U64) : Prop :=
  (validator.filter.filter "policy-other" = .error → num ≠ 0)
  ∧ (validator.filter.filter "policy-commitment-previous-revoked" = .error →
    ¬ num + 2 < estate.nextCounterpartyCommitNum
    ∧ ¬ num + 1 > estate.nextCounterpartyCommitNum
    ∧ (num = estate.nextCounterpartyRevokeNum ∨ num = estate.nextCounterpartyRevokeNum + 1))

theorem exists_bind_eq_err {ε β : Type} {x} {f : α → Result ε β} :
    (∃ error, x >>= f = .err error) ↔
      (∃ error, x = .err error) ∨ ∃ a, x = .ok a ∧ ∃ error, f a = .err error := by
  simp only [err, bind_eq_error]
  grind

theorem refuseIf_eq_ok_iff [Decidable violated] {u} :
    filter.refuseIf violated function tag message = .ok u ↔
      ¬ (filter.filter tag = .error ∧ violated) := by
  unfold PolicyFilter.refuseIf PolicyFilter.policyErrorWithFilter
  by_cases minds : filter.filter tag = .error <;> by_cases bad : violated <;> simp [minds, bad]

theorem refuseIf_eq_err [Decidable violated] :
    (∃ error, filter.refuseIf violated function tag message = .err error) ↔
      filter.filter tag = .error ∧ violated := by
  unfold PolicyFilter.refuseIf PolicyFilter.policyErrorWithFilter
  by_cases minds : filter.filter tag = .error <;> by_cases bad : violated <;>
    simp [minds, bad, err]

theorem setNextCounterpartyRevokeNum_refused {validator : Validator} {num : U64}
    {secrets : Option CounterpartyCommitmentSecrets} :
    (∃ error, validator.setNextCounterpartyRevokeNum
        { estate with counterpartySecrets := secrets } num = .err error) ↔
      ¬ CounterFits validator estate num := by
  have set : ∀ error : ValidationError, setNextCounterpartyRevokeNum
      { estate with counterpartySecrets := secrets } num ≠ .err error := by
    intro error
    unfold setNextCounterpartyRevokeNum
    split <;> exact nofun
  simp only [Validator.setNextCounterpartyRevokeNum, exists_bind_eq_err, refuseIf_eq_err,
    refuseIf_eq_ok_iff, set, CounterFits]
  grind

def RevocationStands (ctx : Context) (s : Locked) (revokeNum : U64) (oldSecret : SecretKey) :
    Prop :=
  ctx.validator.validateCounterpartyRevocation ctx.prims s.chan.enforcementState revokeNum
      oldSecret = .ok () →
    ∀ secrets ∈ s.chan.enforcementState.counterpartySecrets,
      ∀ secrets' ∈ secrets.provideSecret ctx.prims (initialCommitmentNumber - revokeNum)
        oldSecret.bytes,
      secrets' ≠ secrets → CounterFits ctx.validator s.chan.enforcementState (revokeNum + 1)

theorem validateCounterpartyRevocation_spares
    (stands : RevocationStands ctx s revokeNum oldSecret) :
    Ends (validateCounterpartyRevocation ctx env revokeNum oldSecret) s (fun _ _ => True)
      (Spares s) := by
  simp only [validateCounterpartyRevocation, ends_bind, ends_get, ends_lift_validation]
  rw [ends_lift]
  refine ⟨?_, fun _ _ => spares_same⟩
  intro _ validated
  rw [ends_lift]
  refine ⟨?_, fun _ _ => spares_same⟩
  intro estate stored
  rw [Locked.ends_modifyEstate, ends_lift]
  refine ⟨?_, ?_⟩
  · intro estate' _
    rw [Locked.ends_modifyEstate, ends_lift]
    exact ⟨fun _ _ => trivial, fun _ failed => spares_persist failed⟩
  · rintro fault failed status rfl _
    obtain rfl | ⟨secrets, kept, secrets', provided, rfl⟩ := storeSecret_ok (liftM_eq_ok.mp stored)
    · exact Unchanged.refl s
    · by_cases same : secrets' = secrets
      · rw [same, ← Option.mem_def.mp kept]
        exact Unchanged.refl s
      · obtain ⟨error, refused, _⟩ := err_of_liftM failed
        have fits := stands (liftM_eq_ok.mp validated) secrets kept secrets' provided same
        exact absurd fits (setNextCounterpartyRevokeNum_refused.mp ⟨error, refused⟩)

theorem validateCounterpartyRevocation_leaves
    (falls : ¬ RevocationStands ctx s revokeNum oldSecret) :
    Ends (validateCounterpartyRevocation ctx env revokeNum oldSecret) s (fun _ _ => False)
      (Leaves s) := by
  unfold RevocationStands at falls
  push Not at falls
  obtain ⟨validated, secrets, kept, secrets', provided, changed, unfit⟩ := falls
  rw [Option.mem_def] at kept provided
  let withSecret := { s.chan.enforcementState with counterpartySecrets := some secrets' }
  have stored := storeSecret_of_provided kept provided
  obtain ⟨error, refused⟩ : ∃ error,
      ctx.validator.setNextCounterpartyRevokeNum withSecret (revokeNum + 1) = .err error :=
    setNextCounterpartyRevokeNum_refused.mpr unfit
  have leaves : Leaves s (.err error.toStatus) (s.withEstate withSecret) := by
    refine ⟨toStatus_ne_persistFailed error, ?_⟩
    intro same
    have := congrArg counterpartySecrets same
    rw [kept] at this
    exact changed (Option.some.inj this)
  simp only [validateCounterpartyRevocation, ends_bind, ends_get, ends_lift_validation]
  rw [ends_lift]
  refine ⟨?_, fun _ failed => absurd ((liftM_eq_ok.mpr validated).symm.trans failed) (by simp)⟩
  intro _ _
  rw [ends_lift]
  refine ⟨?_, fun _ failed => absurd ((liftM_eq_ok.mpr stored).symm.trans failed) (by simp)⟩
  intro estate same
  cases (liftM_eq_ok.mpr stored).symm.trans same
  rw [Locked.ends_modifyEstate, ends_lift, refused]
  refine ⟨fun _ accepted => absurd (liftM_eq_ok.mp accepted) err_ne_ok, ?_⟩
  intro fault same
  cases same
  exact leaves

/-- The request gives nothing up before its last check. -/
def LosesNothing (ctx : Context) (s : Locked) : ChannelRequest → Prop
  | .revokePreviousHolderCommitment commitmentNumber =>
    commitmentNumber = s.chan.enforcementState.nextHolderCommitNum →
      ∀ next ∈ s.chan.enforcementState.nextHolderCommitInfo,
        (next.1.claimableBalance s.state.hasPreimage s.chan.setup.isOutbound
          s.chan.setup.channelValueSat).isSome ∧ commitmentNumber + 2 ≠ 0
  | .validateCounterpartyRevocation revokeNum oldSecret =>
    RevocationStands ctx s revokeNum oldSecret
  | _ => True

theorem atomic_of_spares (spares : Ends call s (fun _ _ => True) (Spares s)) :
    Ends (do let a ← call; return reply a) s (fun _ _ => True) (Spares s) := by
  rw [ends_bind]
  exact spares.mono (fun _ _ _ => trivial) fun _ _ spares => spares

theorem leaves_bind (leaves : Ends call s (fun _ _ => False) (Leaves s)) :
    Ends (do let a ← call; return reply a) s (fun _ _ => False) (Leaves s) := by
  rw [ends_bind]
  exact leaves.mono (fun _ _ impossible => impossible.elim) fun _ _ leaves => leaves

theorem revokePreviousHolderCommitment_atomic_iff :
    Atomic ctx env s (.revokePreviousHolderCommitment commitmentNumber) ↔
      LosesNothing ctx s (.revokePreviousHolderCommitment commitmentNumber) := by
  constructor
  · intro atomic
    rintro rfl ⟨info2, signatures⟩ pending
    by_contra unfit
    refine not_atomic_of_leaves ?_ atomic
    refine leaves_bind (revokePreviousHolderCommitment_leaves pending ?_)
    rw [not_and_or, not_not] at unfit
    exact unfit.imp_left Option.not_isSome_iff_eq_none.mp
  · intro fits
    rw [atomic_iff_ends]
    exact atomic_of_spares (revokePreviousHolderCommitment_spares fits)

theorem validateCounterpartyRevocation_atomic_iff :
    Atomic ctx env s (.validateCounterpartyRevocation revokeNum oldSecret) ↔
      LosesNothing ctx s (.validateCounterpartyRevocation revokeNum oldSecret) := by
  constructor
  · intro atomic
    by_contra falls
    refine not_atomic_of_leaves ?_ atomic
    exact leaves_bind (validateCounterpartyRevocation_leaves falls)
  · intro stands
    rw [atomic_iff_ends]
    exact atomic_of_spares (validateCounterpartyRevocation_spares stands)

end Channel

/-- A transition is atomic exactly if it gives nothing up before its last check. -/
theorem transition_atomic_iff {ctx : Context} {env : Env} {s : Locked} {request : ChannelRequest}
    (transition : request.isTransition = true) :
    Atomic ctx env s request ↔ Channel.LosesNothing ctx s request := by
  have always : ∀ {request}, Ends (perform ctx env request) s (fun _ _ => True)
      (Channel.Spares s) → (Atomic ctx env s request ↔ True) := by
    intro request spares
    exact iff_true_intro (atomic_iff_ends.mpr spares)
  cases request with
  | validateHolderCommitmentTx => exact always (atomic_of_spares ends_store)
  | validateHolderCommitmentTxPhase2 => exact always (atomic_of_spares ends_store)
  | revokePreviousHolderCommitment => exact revokePreviousHolderCommitment_atomic_iff
  | signCounterpartyCommitmentTx =>
    exact always (atomic_of_spares signCounterpartyCommitmentTx_spares)
  | signCounterpartyCommitmentTxPhase2 =>
    exact always (atomic_of_spares signCounterpartyCommitmentTxPhase2_spares)
  | validateCounterpartyRevocation => exact validateCounterpartyRevocation_atomic_iff
  | _ => cases transition

/-- A commitment that waits and fits is revoked all or nothing. -/
theorem waiting_commitment_atomic :
    ∃ history s, (channelMachine Toy.ctx).Run Toy.start history s
      ∧ s.chan.enforcementState.nextHolderCommitInfo.isSome
      ∧ Atomic Toy.ctx Toy.env s (.revokePreviousHolderCommitment 1) := by
  obtain ⟨history, s, run, waiting, fits⟩ :
      ∃ history s, (channelMachine Toy.ctx).Run Toy.start history s
        ∧ s.chan.enforcementState.nextHolderCommitInfo.isSome
        ∧ ∀ next ∈ s.chan.enforcementState.nextHolderCommitInfo,
          (next.1.claimableBalance s.state.hasPreimage s.chan.setup.isOutbound
            s.chan.setup.channelValueSat).isSome :=
    Machine.exists_run
      [Toy.validateHolder Toy.setup 0, Toy.activate, Toy.validateHolder Toy.setup 1]
      (by decide +kernel)
  refine ⟨history, s, run, waiting, (transition_atomic_iff rfl).mpr ?_⟩
  intro _ next pending
  exact ⟨fits next pending, by decide⟩

/-- The counterparty's latest commitment is signed, and its secret is revealed: the secret is
    refused, and is stored. -/
theorem refused_secret_stored :
    ∃ history s, (channelMachine Toy.ctx).Run Toy.start history s
      ∧ ¬ Atomic Toy.ctx Toy.env s (.validateCounterpartyRevocation 0 ⟨21⟩) := by
  obtain ⟨history, s, run, leaves⟩ :
      ∃ history s, (channelMachine Toy.ctx).Run Toy.start history s
        ∧ Ends (perform Toy.ctx Toy.env (.validateCounterpartyRevocation 0 ⟨21⟩)) s
          (fun _ _ => False) (Channel.Leaves s) :=
    Machine.exists_run [Toy.signCounterparty Toy.setup 21 0 999000] (by decide +kernel)
  exact ⟨history, s, run, not_atomic_of_leaves leaves⟩

end Vls
