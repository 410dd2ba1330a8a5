import Vls.Channel.Checked
import Vls.Channel.Event
import Vls.Channel.Panics

/-! # The balance accounting of a channel

The excess is what the holder's channels gained beyond what they owe. Recording a commitment and
settling a routed payment take from it what they cost, and panic if there is not enough of it. -/

namespace Vls

open Result

variable {delta : BalanceDelta} {channelId : ChannelId} {incoming outgoing : Map PaymentHash U64}
  {prims : Primitives} {commitment : CounterpartyCommitment} {point : PublicKey}
  {commitmentNumber : U64} {tx : Transaction} {witscripts : List Script} {feerate : U32}
  {offered received : List HTLCInfo2}

namespace NodeState

variable {state : NodeState} {validator : Validator}

def Covers (state : NodeState) (delta : BalanceDelta) : Prop :=
  delta.curBal.toNat ≤ state.excessAmount.toNat + delta.newBal.toNat
  deriving Decidable

theorem adjustedExcess_avoids (covers : validator.enforceBalance = true → state.Covers delta) :
    Avoids accountingPanics (state.adjustedExcess delta validator) := by
  simp only [adjustedExcess, avoids_ite, avoids_bind, avoids_expect, mem_accountingPanics,
    avoids_ok, implies_true, and_true]
  intro enforced
  refine ⟨by simp, ?_⟩
  intro sum added _
  have total := BitVec.toNat_of_checkedAdd (expect_eq_ok.mp added)
  have enough : delta.curBal ≤ sum := by
    rw [BitVec.le_def, total]
    exact covers enforced
  simp [BitVec.checkedSub, enough]

theorem applyPayments_avoids {info}
    (covers : validator.enforceBalance = true → state.Covers delta) :
    Avoids accountingPanics
      (state.applyPayments channelId incoming outgoing delta validator info) := by
  simp [applyPayments, avoids_bind, adjustedExcess_avoids covers, avoids_ok]

theorem covers_of_validatePayments
    (validated : state.validatePayments channelId incoming outgoing delta validator = .ok ())
    (enforced : validator.enforceBalance = true) : state.Covers delta := by
  simp only [validatePayments, bind_eq_ok, if_pos enforced, expect_eq_ok] at validated
  obtain ⟨_, _, _, _, sum, added, rest⟩ := validated
  have total := BitVec.toNat_of_checkedAdd added
  split at rest
  · rename_i excess subtracted
    have left := BitVec.toNat_of_checkedSub subtracted
    unfold Covers
    omega
  · cases rest

def Affords (state : NodeState) (hash : PaymentHash) : Prop :=
  ∀ payment ∈ state.payments.lookup hash, payment.preimage = none →
    state.invoices.lookup hash = none →
    payment.incomingOutgoing.2.toNat
      ≤ state.excessAmount.toNat + payment.incomingOutgoing.1.toNat
  deriving Decidable

def AffordsAll (prims : Primitives) (validator : Validator) :
    NodeState → List PaymentPreimage → Prop
  | _, [] => True
  | state, preimage :: rest => state.Affords ⟨prims.sha256 preimage.bytes⟩
    ∧ ∀ settled ∈ (state.htlcFulfilled prims preimage validator).toOption,
      AffordsAll prims validator settled rest

instance instDecidableAffordsAll (prims : Primitives) (validator : Validator) :
    (state : NodeState) → (preimages : List PaymentPreimage) →
      Decidable (AffordsAll prims validator state preimages)
  | _, [] => .isTrue trivial
  | state, preimage :: rest => by
    have (settled : NodeState) := instDecidableAffordsAll prims validator settled rest
    unfold AffordsAll
    infer_instance

theorem htlcFulfilled_avoids {preimage}
    (affords : validator.enforceBalance = true → state.Affords ⟨prims.sha256 preimage.bytes⟩) :
    Avoids accountingPanics (state.htlcFulfilled prims preimage validator) := by
  simp only [htlcFulfilled]
  split
  · simp
  · rename_i payment found
    split
    · simp
    · rename_i unsettled
      have unsettled : payment.preimage = none := by simpa using unsettled
      simp only [settledExcess, avoids_bind, avoids_ite, avoids_expect, mem_accountingPanics,
        avoids_ok, implies_true, and_true]
      rintro ⟨uninvoiced, enforced⟩
      refine ⟨by simp, ?_⟩
      intro sum added _
      have total := BitVec.toNat_of_checkedAdd (expect_eq_ok.mp added)
      have afforded := affords enforced payment found unsettled (by simpa using uninvoiced)
      have enough : payment.incomingOutgoing.2 ≤ sum := by
        rw [BitVec.le_def, total]
        exact afforded
      simp [BitVec.checkedSub, enough]

theorem htlcsFulfilled_avoids {preimages}
    (affords : validator.enforceBalance = true → AffordsAll prims validator state preimages) :
    Avoids accountingPanics (htlcsFulfilled prims validator state preimages) := by
  induction preimages generalizing state with
  | nil => simp [htlcsFulfilled]
  | cons preimage rest ih =>
    simp only [htlcsFulfilled, avoids_bind]
    refine ⟨htlcFulfilled_avoids fun enforced => (affords enforced).1, ?_⟩
    intro settled fulfilled
    refine ih fun enforced => (affords enforced).2 settled ?_
    rw [Option.mem_def, toOption_eq_some]
    exact fulfilled

end NodeState

namespace Channel

variable {ctx : Context} {env : Env} {s : Locked}

theorem advanceCounterpartyCommitment_avoids
    (covers : ctx.validator.enforceBalance = true → s.state.Covers commitment.delta) :
    Call.Avoids accountingPanics (advanceCounterpartyCommitment ctx env commitment) s := by
  have signed : Avoids accountingPanics
      (counterpartySigned ctx s.chan.enforcementState commitment) := by
    simp [counterpartySigned, Validator.setNextCounterpartyCommitNum,
      EnforcementState.setNextCounterpartyCommitNum]
  simp [advanceCounterpartyCommitment, signed, NodeState.applyPayments_avoids covers]

theorem signCounterpartyCommitmentTxPhase2_avoids {outpoint values} :
    Call.Avoids accountingPanics (signCounterpartyCommitmentTxPhase2 ctx env outpoint point
      commitmentNumber values) s := by
  simp only [signCounterpartyCommitmentTxPhase2, Call.avoids_get_bind, Call.avoids_lift_bind,
    checkCounterpartyCommitmentTxPhase2_avoids, true_and]
  intro commitment checked
  have payments := (checkCounterpartyCommitmentTxPhase2_ok checked).payments
  have advanced : Call.Avoids accountingPanics
      (advanceCounterpartyCommitment ctx env commitment) s :=
    advanceCounterpartyCommitment_avoids (NodeState.covers_of_validatePayments payments)
  simpa using advanced

theorem signCounterpartyCommitmentTx_avoids (decodes : ctx.DecodesOnly) :
    Call.Avoids accountingPanics (signCounterpartyCommitmentTx ctx env tx witscripts point
      commitmentNumber feerate offered received) s := by
  simp only [signCounterpartyCommitmentTx, Call.avoids_get_bind, Call.avoids_lift_bind,
    checkCounterpartyCommitmentTx_avoids decodes, true_and]
  intro outcome checked
  cases outcome with
  | verbatim sig => simp
  | recomposed commitment =>
    have payments := (checkCounterpartyCommitmentTx_recomposed checked).1.payments
    have advanced : Call.Avoids accountingPanics
        (advanceCounterpartyCommitment ctx env commitment) s :=
      advanceCounterpartyCommitment_avoids (NodeState.covers_of_validatePayments payments)
    simpa using advanced

def pendingDelta (s : Locked) : Option BalanceDelta :=
  s.chan.enforcementState.nextHolderCommitInfo.bind fun next =>
    ((withoutNext s.chan.enforcementState).claimableBalances s.state.hasPreimage (some next.1)
      none s.chan.setup s.chan.prevSetup).toOption

theorem revokePreviousHolderCommitment_avoids
    (covers : ctx.validator.enforceBalance = true →
      commitmentNumber = s.chan.enforcementState.nextHolderCommitNum → ∀ delta ∈ pendingDelta s,
      s.state.Covers delta) :
    Call.Avoids accountingPanics (revokePreviousHolderCommitment ctx env commitmentNumber) s := by
  simp only [revokePreviousHolderCommitment, Call.avoids_get_bind]
  split
  · simp
  · rename_i due
    split
    · simp
    · rename_i info2 signatures pending
      simp only [avoids_modifyEstate_bind, Call.avoids_get_bind, Call.avoids_lift_bind,
        claimableBalances_avoids, true_and]
      intro delta balances
      rw [Call.avoids_bind]
      refine ⟨by simp [advanceHolderCommitmentState, Validator.setNextHolderCommitNum,
        EnforcementState.setNextHolderCommitNum], ?_⟩
      intro released s' _
      have covered : ctx.validator.enforceBalance = true → s.state.Covers delta := by
        intro enforced
        refine covers enforced (not_not.mp due) delta ?_
        rw [pendingDelta, pending, Option.mem_def, Option.bind_some, toOption_eq_some]
        exact balances
      simp [NodeState.applyPayments_avoids covered]

end Channel

namespace ChannelRequest

def preimages : ChannelRequest → List PaymentPreimage
  | .htlcsFulfilled preimages => preimages
  | _ => []

/-- A request keeps within the excess: a commitment that becomes current is still covered by it,
    and payments that are settled are. -/
def KeepsExcess (ctx : Context) (s : Locked) (request : ChannelRequest) : Prop :=
  (request.movesOn s = true → ∀ delta ∈ Channel.pendingDelta s, s.state.Covers delta)
    ∧ NodeState.AffordsAll ctx.prims ctx.validator s.state request.preimages
  deriving Decidable

end ChannelRequest

namespace Channel

variable {ctx : Context} {env : Env} {s : Locked}

theorem perform_avoids (decodes : ctx.DecodesOnly) {request}
    (keeps : ctx.validator.enforceBalance = true → request.KeepsExcess ctx s) :
    Call.Avoids accountingPanics (perform ctx env request) s := by
  cases request with
  | validateHolderCommitmentTx => simpa [perform] using validateHolderCommitmentTx_avoids decodes
  | validateHolderCommitmentTxPhase2 =>
    simp [perform, validateHolderCommitmentTxPhase2, checkHolderCommitmentTxPhase2]
  | revokePreviousHolderCommitment commitmentNumber =>
    have revoked : Call.Avoids accountingPanics
        (revokePreviousHolderCommitment ctx env commitmentNumber) s := by
      refine revokePreviousHolderCommitment_avoids ?_
      intro enforced due delta pending
      refine (keeps enforced).1 ?_ delta pending
      cases waiting : s.chan.enforcementState.nextHolderCommitInfo with
      | none => simp [pendingDelta, waiting] at pending
      | some next => simp [ChannelRequest.movesOn, due, waiting]
    simpa [perform] using revoked
  | activateInitialCommitment => simpa [perform] using activateInitialCommitment_avoids
  | signHolderCommitmentTxPhase2 =>
    simp [perform, signHolderCommitmentTxPhase2, getHolderCommitmentForClose_avoids,
      recomposeHolderCommitmentTx]
  | signHolderCommitmentTxForRecovery =>
    simpa [perform] using signHolderCommitmentTxForRecoveryInner_avoids
  | getPerCommitmentSecret => simp [perform, getPerCommitmentSecret]
  | getPerCommitmentSecretOrNone => trivial
  | signCounterpartyCommitmentTx =>
    simpa [perform] using signCounterpartyCommitmentTx_avoids decodes
  | signCounterpartyCommitmentTxPhase2 =>
    simpa [perform] using signCounterpartyCommitmentTxPhase2_avoids
  | validateCounterpartyRevocation => simpa [perform] using validateCounterpartyRevocation_avoids
  | setupSplice => simp [perform, setupSplice, Validator.validateSetupChannel]
  | confirmFundingLocked => simp [perform, confirmFundingLocked]
  | htlcsFulfilled preimages =>
    have fulfilled : Avoids accountingPanics
        (NodeState.htlcsFulfilled ctx.prims ctx.validator s.state preimages) :=
      NodeState.htlcsFulfilled_avoids fun enforced => (keeps enforced).2
    simp [perform, fulfillHtlcs, fulfilled]

end Channel

end Vls
