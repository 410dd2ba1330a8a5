import Vls.Channel.Machine
import Vls.Policy.Within

/-! # Channels under a validator that accepts less

A call under a validator that stays within another stays within the call under the other. -/

namespace Vls

variable {ctx : Context} {validator' : Validator}

variable {hash : PaymentHash} {number : U64} {txkeys : TxCreationKeys} {feerate : U32}
  {txid : BitVec 256} {sigs : List Signature} {setup : ChannelSetup} {point : PublicKey}
  {signatures : CommitmentSignatures} {tx : Transaction} {outpoint : OutPoint}
  {values : CommitmentValues} {witscripts : List Script} {offered received : List HTLCInfo2}
  {estate : EnforcementState} {commitment : CounterpartyCommitment} {secret : SecretKey}
  {spent : List Bool} {height : Option U32}

namespace NodeState

variable {validator : Validator} {state : NodeState} {channelId : ChannelId}
  {incoming outgoing : Map PaymentHash U64} {delta : BalanceDelta} {info : CommitmentInfo2}

variable (within : validator.Within validator')
include within

theorem validateRecordedCltv_within :
    (state.validateRecordedCltv validator hash).Within
      (state.validateRecordedCltv validator' hash) := by
  unfold validateRecordedCltv
  split
  · exact within.validatePaymentCltv _ _
  · exact .refl _

theorem unbalanced_of_within
    (unbalanced : state.unbalanced validator' channelId incoming outgoing hash = true) :
    state.unbalanced validator channelId incoming outgoing hash = true := by
  unfold NodeState.unbalanced at unbalanced ⊢
  simp only at unbalanced ⊢
  split
  · rename_i balanced
    rw [within.validatePaymentBalance _ _ _ _ balanced] at unbalanced
    exact unbalanced
  · split at unbalanced
    · cases unbalanced
    · exact unbalanced

theorem preflight_within {hashes found}
    (ended : state.preflight validator channelId incoming outgoing hashes = .ok found) :
    ∃ fewer, state.preflight validator' channelId incoming outgoing hashes = .ok fewer
      ∧ fewer.Sublist found := by
  induction hashes generalizing found with
  | nil => exact ⟨[], rfl, List.nil_sublist _⟩
  | cons hash rest ih =>
    simp only [preflight, Result.bind_eq_ok] at ended ⊢
    obtain ⟨_, cltv, foundRest, endedRest, ended⟩ := ended
    obtain ⟨fewer, endedRest', sub⟩ := ih endedRest
    have cltv' := validateRecordedCltv_within within _ cltv
    by_cases unbalanced : state.unbalanced validator' channelId incoming outgoing hash = true
    · rw [if_pos (unbalanced_of_within within unbalanced)] at ended
      cases ended
      exact ⟨hash :: fewer, ⟨(), cltv', fewer, endedRest', if_pos unbalanced⟩, sub.cons_cons hash⟩
    · refine ⟨fewer, ⟨(), cltv', fewer, endedRest', if_neg unbalanced⟩, ?_⟩
      split at ended
      · cases ended
        exact sub.cons hash
      · cases ended
        exact sub

theorem validatePayments_within :
    (state.validatePayments channelId incoming outgoing delta validator).Within
      (state.validatePayments channelId incoming outgoing delta validator') := by
  intro u validated
  obtain ⟨found, ended, validated⟩ := Result.bind_eq_ok.mp validated
  obtain ⟨_, balanced, enforced⟩ := Result.bind_eq_ok.mp validated
  obtain ⟨fewer, ended', sub⟩ := preflight_within within ended
  have remain : fewer ≠ [] → found ≠ [] := by
    rintro some rfl
    exact some (List.eq_nil_of_sublist_nil sub)
  rw [within.enforceBalance] at enforced
  exact Result.bind_eq_ok.mpr ⟨fewer, ended', Result.bind_eq_ok.mpr
    ⟨_, PolicyFilter.refuseIf_within within.filter remain _ balanced, enforced⟩⟩

theorem applyPayments_congr :
    state.applyPayments channelId incoming outgoing delta validator info
      = state.applyPayments channelId incoming outgoing delta validator' info := by
  simp only [applyPayments, adjustedExcess, appliedPayments, preparedPayments,
    within.enforceBalance]

theorem htlcsFulfilled_congr {prims preimages} :
    htlcsFulfilled prims validator state preimages
      = htlcsFulfilled prims validator' state preimages := by
  induction preimages generalizing state with
  | nil => rfl
  | cons preimage rest ih =>
    simp only [htlcsFulfilled, htlcFulfilled, settledExcess, within.enforceBalance, ih]

end NodeState

namespace Channel

variable {chan : Channel} {env : Env} {state : NodeState} {s : Locked}

variable (within : ctx.validator.Within validator')
include within

theorem getPerCommitmentSecret_within :
    (chan.getPerCommitmentSecret ctx number).Within
      (chan.getPerCommitmentSecret { ctx with validator := validator' } number) :=
  .bind (.mapErr within.filter.refuseIf) fun _ _ => .refl _

theorem releaseCommitmentSecret_within :
    (chan.releaseCommitmentSecret ctx number).Within
      (chan.releaseCommitmentSecret { ctx with validator := validator' } number) := by
  refine .bind (.refl _) fun _ _ => ?_
  refine .ite (fun _ => ?_) fun _ => .refl _
  exact .bind (getPerCommitmentSecret_within within) fun _ _ => .refl _

omit within in
theorem checkHtlcSignatures_congr {key htlcs ndx} :
    chan.checkHtlcSignatures { ctx with validator := validator' } txkeys feerate txid key sigs
      htlcs ndx = chan.checkHtlcSignatures ctx txkeys feerate txid key sigs htlcs ndx := by
  induction htlcs generalizing ndx with
  | nil => rfl
  | cons htlc rest ih => simp only [checkHtlcSignatures, ih]

omit within in
theorem checkHolderTxSignatures_congr {tx} :
    chan.checkHolderTxSignatures { ctx with validator := validator' } setup point txkeys feerate
      signatures tx
        = chan.checkHolderTxSignatures ctx setup point txkeys feerate signatures tx := by
  simp only [checkHolderTxSignatures, checkHtlcSignatures_congr]
  rfl

theorem checkHolderCommitmentTxPhase2_within :
    (chan.checkHolderCommitmentTxPhase2 ctx env state outpoint number values signatures).Within
      (chan.checkHolderCommitmentTxPhase2 { ctx with validator := validator' } env state outpoint
        number values signatures) := by
  refine .bind (.refl _) fun view _ => ?_
  refine .bind (.refl _) fun point _ => ?_
  refine .bind (.refl _) fun delta _ => ?_
  refine .bind (.mapErr (within.validateHolderCommitmentTx _ _ _ _ _ _)) fun _ _ => ?_
  refine .bind (.of_eq checkHolderTxSignatures_congr.symm) fun _ _ => ?_
  exact .bind (.mapErr (NodeState.validatePayments_within within)) fun _ _ => .refl _

theorem checkHolderCommitmentTx_within :
    (chan.checkHolderCommitmentTx ctx env state tx witscripts number feerate offered received
      signatures).Within
      (chan.checkHolderCommitmentTx { ctx with validator := validator' } env state tx witscripts
        number feerate offered received signatures) := by
  refine .bind (.refl _) fun point _ => ?_
  refine .ite (fun _ => ?_) fun _ => ?_
  · exact .skip fun _ refused => absurd refused Result.err_ne_ok
  refine .bind (.mapErr (within.validateChannelValue _)) fun _ _ => ?_
  refine .bind (.refl _) fun info _ => ?_
  refine .bind (.mapErr (within.validateHolderCommitmentTx _ _ _ _ _ _)) fun _ _ => ?_
  refine .bind (.mapErr within.filter.refuseIf) fun _ _ => ?_
  refine .bind (.refl _) fun delta _ => ?_
  refine .bind (.of_eq checkHolderTxSignatures_congr.symm) fun _ _ => ?_
  exact .bind (.mapErr (NodeState.validatePayments_within within)) fun _ _ => .refl _

theorem checkCounterpartyCommitmentTxPhase2_within :
    (chan.checkCounterpartyCommitmentTxPhase2 ctx env state outpoint point number values).Within
      (chan.checkCounterpartyCommitmentTxPhase2 { ctx with validator := validator' } env state
        outpoint point number values) := by
  refine .bind (.refl _) fun view _ => ?_
  refine .bind (.mapErr (within.validateChannelValue _)) fun _ _ => ?_
  refine .bind (.refl _) fun delta _ => ?_
  refine .bind (.mapErr (within.validateCounterpartyCommitmentTx _ _ _ _ _ _ _)) fun _ _ => ?_
  refine .bind (.refl _) fun sigs _ => ?_
  exact .bind (.mapErr (NodeState.validatePayments_within within)) fun _ _ => .refl _

theorem checkCounterpartyCommitmentTx_within :
    (chan.checkCounterpartyCommitmentTx ctx env state tx witscripts point number feerate offered
      received).Within
      (chan.checkCounterpartyCommitmentTx { ctx with validator := validator' } env state tx
        witscripts point number feerate offered received) := by
  refine .ite (fun _ => ?_) fun _ => ?_
  · exact .skip fun _ refused => absurd refused Result.err_ne_ok
  refine .bind (.mapErr (within.validateChannelValue _)) fun _ _ => ?_
  refine .bind (.refl _) fun info _ => ?_
  refine .bind (.refl _) fun delta _ => ?_
  refine .bind (.mapErr (within.validateCounterpartyCommitmentTx _ _ _ _ _ _ _)) fun _ _ => ?_
  refine .ite (fun _ => ?_) fun _ => ?_
  · exact .bind (.mapErr (PolicyFilter.policyErrorWithFilter_within within.filter))
      fun _ _ => .refl _
  · exact .bind (.mapErr (NodeState.validatePayments_within within)) fun _ _ => .refl _

theorem getHolderCommitmentForClose_within :
    (chan.getHolderCommitmentForClose ctx number).Within
      (chan.getHolderCommitmentForClose { ctx with validator := validator' } number) := by
  unfold getHolderCommitmentForClose
  simp only
  split
  · exact .refl _
  · exact .bind (.mapErr within.getCurrentHolderCommitmentInfo) fun _ _ => .refl _

theorem getLatestHolderCommitmentForClose_within :
    (chan.getLatestHolderCommitmentForClose ctx).Within
      (chan.getLatestHolderCommitmentForClose { ctx with validator := validator' }) := by
  refine .ite (fun _ => getHolderCommitmentForClose_within within) fun _ => ?_
  exact .bind (.refl _) fun _ _ => getHolderCommitmentForClose_within within

theorem replaceSecrets_within {replacement} :
    (replaceSecrets ctx estate replacement).Within
      (replaceSecrets { ctx with validator := validator' } estate replacement) := by
  cases replacement with
  | some secrets => exact .refl _
  | none => exact .bind (PolicyFilter.policyErrorWithFilter_within within.filter) fun _ _ => .refl _

theorem storeSecret_within :
    (storeSecret ctx estate number secret).Within
      (storeSecret { ctx with validator := validator' } estate number secret) := by
  unfold storeSecret
  cases estate.counterpartySecrets with
  | none => exact .refl _
  | some secrets => exact replaceSecrets_within within

theorem advanceHolderCommitmentState_within {info} :
    Call.Within (advanceHolderCommitmentState ctx number info signatures)
      (advanceHolderCommitmentState { ctx with validator := validator' } number info signatures)
      s := by
  refine .after fun s₀ _ _ => ?_
  refine .bind (within_lift_validation within.setNextHolderCommitNum) fun estate _ _ => ?_
  refine .after fun _ _ _ => ?_
  exact .after fun s₁ _ _ => .lift (releaseCommitmentSecret_within within)

theorem revokePreviousHolderCommitment_within :
    Call.Within (revokePreviousHolderCommitment ctx env number)
      (revokePreviousHolderCommitment { ctx with validator := validator' } env number) s := by
  refine .after fun s₀ _ _ => ?_
  refine .ite (fun _ => .lift (releaseCommitmentSecret_within within)) fun _ => ?_
  cases s₀.chan.enforcementState.nextHolderCommitInfo with
  | none =>
    exact .bind
      (within_lift_validation (PolicyFilter.policyErrorWithFilter_within within.filter))
      fun _ _ _ => .refl _ _
  | some waiting =>
    refine .after fun _ _ _ => ?_
    refine .after fun s₁ _ _ => ?_
    refine .after fun delta _ _ => ?_
    refine .bind (advanceHolderCommitmentState_within within) fun released _ _ => ?_
    exact .bind (.lift (.of_eq (NodeState.applyPayments_congr within))) fun _ _ _ => .refl _ _

theorem advanceCounterpartyCommitment_within :
    Call.Within (advanceCounterpartyCommitment ctx env commitment)
      (advanceCounterpartyCommitment { ctx with validator := validator' } env commitment) s := by
  refine .after fun s₀ _ _ => ?_
  refine .bind (within_lift_validation (.bind within.setNextCounterpartyCommitNum
    fun _ _ => .refl _)) fun estate _ _ => ?_
  refine .after fun _ _ _ => ?_
  exact .bind (.lift (.of_eq (NodeState.applyPayments_congr within))) fun _ _ _ => .refl _ _

theorem signCounterpartyCommitmentTx_within :
    Call.Within
      (signCounterpartyCommitmentTx ctx env tx witscripts point number feerate offered received)
      (signCounterpartyCommitmentTx { ctx with validator := validator' } env tx witscripts point
        number feerate offered received) s := by
  refine .after fun s₀ _ _ => ?_
  refine .bind (.lift (checkCounterpartyCommitmentTx_within within)) fun checked _ _ => ?_
  cases checked with
  | verbatim sig => exact .refl _ _
  | recomposed commitment =>
    exact .bind (advanceCounterpartyCommitment_within within) fun _ _ _ => .refl _ _

theorem validateCounterpartyRevocation_within :
    Call.Within (validateCounterpartyRevocation ctx env number secret)
      (validateCounterpartyRevocation { ctx with validator := validator' } env number secret)
      s := by
  refine .after fun s₀ _ _ => ?_
  refine .bind (within_lift_validation (within.validateCounterpartyRevocation _ _ _ _))
    fun _ _ _ => ?_
  refine .bind (within_lift_validation (storeSecret_within within)) fun estate _ _ => ?_
  refine .after fun _ _ _ => ?_
  exact .bind (within_lift_validation within.setNextCounterpartyRevokeNum) fun _ _ _ => .refl _ _

theorem setupSplice_within {path} :
    Call.Within (setupSplice ctx env setup path)
      (setupSplice { ctx with validator := validator' } env setup path) s := by
  refine .after fun s₀ _ _ => ?_
  refine .ite (fun _ => .refl _ _) fun _ => ?_
  refine .ite (fun _ => .after fun _ _ returned => absurd returned Call.throw_ok) fun _ => ?_
  refine .ite (fun _ => .after fun _ _ returned => absurd returned Call.throw_ok) fun _ => ?_
  refine .after fun _ _ _ => ?_
  exact .bind (within_lift_validation (within.validateSetupChannel _ _ _)) fun _ _ _ => .refl _ _

omit within in
theorem signHtlcInputs_congr {parts signing i} :
    chan.signHtlcInputs { ctx with validator := validator' } parts signing i tx
      = chan.signHtlcInputs ctx parts signing i tx := by
  induction signing generalizing i tx with
  | nil => rfl
  | cons sd rest ih => exact ih

theorem signHolderCommitmentTxForRecoveryInner_within {persistClose} :
    Call.Within (signHolderCommitmentTxForRecoveryInner ctx env spent persistClose height)
      (signHolderCommitmentTxForRecoveryInner { ctx with validator := validator' } env spent
        persistClose height) s := by
  refine .after fun s₀ _ _ => ?_
  refine .bind (.lift (getLatestHolderCommitmentForClose_within within)) fun commitment _ _ => ?_
  refine .after fun recomposed _ _ => ?_
  refine .bind (.lift (.of_eq ?_)) fun _ _ _ => .refl _ _
  simp only [signHolderHtlcTxsForRecovery, buildAndSignBatchedHtlcTx, signHtlcInputs_congr]
  rfl

theorem perform_within (request : ChannelRequest) :
    Call.Within (perform ctx env request)
      (perform { ctx with validator := validator' } env request) s := by
  cases request with
  | validateHolderCommitmentTx =>
    refine .bind (.after fun s₀ _ _ => ?_) fun _ _ _ => .refl _ _
    exact .bind (.lift (checkHolderCommitmentTx_within within)) fun _ _ _ => .refl _ _
  | validateHolderCommitmentTxPhase2 =>
    refine .bind (.after fun s₀ _ _ => ?_) fun _ _ _ => .refl _ _
    exact .bind (.lift (checkHolderCommitmentTxPhase2_within within)) fun _ _ _ => .refl _ _
  | revokePreviousHolderCommitment =>
    exact .bind (revokePreviousHolderCommitment_within within) fun _ _ _ => .refl _ _
  | activateInitialCommitment => exact .refl _ _
  | signHolderCommitmentTxPhase2 =>
    refine .bind (.after fun s₀ _ _ => ?_) fun _ _ _ => .refl _ _
    exact .bind (.lift (getHolderCommitmentForClose_within within)) fun _ _ _ => .refl _ _
  | signHolderCommitmentTxForRecovery =>
    exact .bind (signHolderCommitmentTxForRecoveryInner_within within) fun _ _ _ => .refl _ _
  | getPerCommitmentSecret =>
    refine .after fun s₀ _ _ => ?_
    exact .bind (.lift (getPerCommitmentSecret_within within)) fun _ _ _ => .refl _ _
  | getPerCommitmentSecretOrNone => exact .refl _ _
  | signCounterpartyCommitmentTx =>
    exact .bind (signCounterpartyCommitmentTx_within within) fun _ _ _ => .refl _ _
  | signCounterpartyCommitmentTxPhase2 =>
    refine .bind (.after fun s₀ _ _ => ?_) fun _ _ _ => .refl _ _
    refine .bind (.lift (checkCounterpartyCommitmentTxPhase2_within within)) fun _ _ _ => ?_
    exact .bind (advanceCounterpartyCommitment_within within) fun _ _ _ => .refl _ _
  | validateCounterpartyRevocation =>
    exact .bind (validateCounterpartyRevocation_within within) fun _ _ _ => .refl _ _
  | setupSplice => exact .bind (setupSplice_within within) fun _ _ _ => .refl _ _
  | confirmFundingLocked => exact .refl _ _
  | htlcsFulfilled =>
    refine .bind (.after fun s₀ _ _ => ?_) fun _ _ _ => .refl _ _
    exact .bind (.lift (.of_eq (NodeState.htlcsFulfilled_congr within))) fun _ _ _ => .refl _ _

end Channel

end Vls
