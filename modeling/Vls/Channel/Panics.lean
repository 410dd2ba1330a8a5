import Vls.Channel.Machine
import Vls.Lib.Panic

/-! # Where the balance accounting can panic

Two panics belong to the balance accounting: a commitment is recorded that lowers the holder's
balance by more than the excess, and a routed payment is settled that cost more than the excess.
Every other part of a call avoids them. -/

namespace Vls

open Result EnforcementState

variable {message tag name : String} {α : Type} {x : Result ValidationError α}
  {filter : PolicyFilter} {height feerate : U32} {setup : ChannelSetup} {path : DerivationPath}
  {estate : EnforcementState} {point : PublicKey} {panics : Set String}
  {commitmentNumber revokeNum : U64} {outpoint : OutPoint} {txkeys : TxCreationKeys}
  {txid : BitVec 256} {sigs : List Signature} {signatures : CommitmentSignatures} {tx : Transaction}
  {values : CommitmentValues} {witscripts : List Script} {offered received : List HTLCInfo2}
  {spent : List Bool} {secret : SecretKey}

def accountingPanics : Set String := {"validation didn't catch underflow", "underflow"}

@[simp]
theorem mem_accountingPanics :
    message ∈ accountingPanics ↔
      message = "validation didn't catch underflow" ∨ message = "underflow" := Iff.rfl

section policy

variable {panics : Set String}

@[simp]
theorem avoids_liftM : Avoids panics (liftM x : Result Status α) ↔ x.Avoids panics :=
  avoids_mapErr

@[simp]
theorem PolicyFilter.policyErrorWithFilter_avoids :
    Avoids panics (filter.policyErrorWithFilter tag message) := by
  simp [policyErrorWithFilter]

@[simp]
theorem PolicyFilter.temporaryPolicyErrorWithFilter_avoids :
    Avoids panics (filter.temporaryPolicyErrorWithFilter tag message) := by
  simp [temporaryPolicyErrorWithFilter]

@[simp]
theorem PolicyFilter.refuseIf_avoids {violated : Prop} [Decidable violated] {function} :
    Avoids panics (filter.refuseIf violated function tag message) := by
  simp [refuseIf]

namespace SimplePolicy

variable {policy : SimplePolicy} {prims : Primitives}

@[simp]
theorem validateExpiry_avoids {expiry} :
    Avoids panics (policy.validateExpiry name expiry height) := by
  simp [validateExpiry]

@[simp]
theorem validateHtlcs_avoids {dustLimit htlcs sum} :
    Avoids panics (policy.validateHtlcs name dustLimit height htlcs sum) := by
  induction htlcs generalizing sum with
  | nil => simp [validateHtlcs]
  | cons htlc rest ih => simp [validateHtlcs, ih]

@[simp]
theorem validateSetupChannel_avoids {wallet} :
    Avoids panics (policy.validateSetupChannel wallet setup path) := by
  simp only [validateSetupChannel, validateDelay, avoids_bind, PolicyFilter.refuseIf_avoids,
    true_and, implies_true]
  intro _ _ _ _ _ _
  split
  · simp
  · split <;> simp

@[simp]
theorem validateCommitmentTx_avoids {commitNum cstate info} :
    Avoids panics (policy.validateCommitmentTx prims estate commitNum setup cstate info) := by
  simp [validateCommitmentTx, validateFee]

@[simp]
theorem validatePaymentCltv_avoids {incoming outgoing} :
    Avoids panics (policy.validatePaymentCltv incoming outgoing) := by
  simp [validatePaymentCltv]

end SimplePolicy

namespace Validator

variable {validator : Validator} {prims : Primitives} {estate : EnforcementState}
  {commitNum : U64} {setup : ChannelSetup} {cstate : ChainState} {info2 : CommitmentInfo2}

@[simp]
theorem ensureFundingBuriedAndUnspent_avoids :
    Avoids panics (validator.ensureFundingBuriedAndUnspent commitNum cstate) := by
  simp [ensureFundingBuriedAndUnspent]

@[simp]
theorem validateHolderCommitmentTx_avoids :
    Avoids panics (validator.validateHolderCommitmentTx prims estate commitNum setup cstate
      info2) := by
  cases validator <;> simp [validateHolderCommitmentTx, SimplePolicy.validateHolderCommitmentTx]

@[simp]
theorem validateCounterpartyCommitmentTx_avoids :
    Avoids panics (validator.validateCounterpartyCommitmentTx prims estate commitNum point setup
      cstate info2) := by
  cases validator <;>
    simp [validateCounterpartyCommitmentTx, SimplePolicy.validateCounterpartyCommitmentTx]

end Validator

end policy

/-- The decoder of transactions keeps no balances. -/
structure Context.DecodesOnly (ctx : Context) : Prop where
  avoids : ∀ keys setup isCounterparty tx witscripts,
    (ctx.decodeCommitmentTx keys setup isCounterparty tx witscripts).Avoids accountingPanics

@[simp]
theorem flattenOrErr_avoids {balance} : Avoids panics (flattenOrErr balance) := by
  unfold flattenOrErr
  split <;> simp

@[simp]
theorem claimableBalances_avoids {hasPreimage newHolderTx newCounterpartyTx prevSetup} :
    Avoids accountingPanics (estate.claimableBalances hasPreimage newHolderTx newCounterpartyTx
      setup prevSetup) := by
  simp [claimableBalances]

namespace NodeState

variable {state : NodeState} {validator : Validator} {channelId : ChannelId}
  {incoming outgoing : Map PaymentHash U64}

@[simp]
theorem preflight_avoids {hashes} :
    Avoids panics (state.preflight validator channelId incoming outgoing hashes) := by
  induction hashes with
  | nil => simp [preflight]
  | cons hash rest ih =>
    have recorded : Avoids panics (state.validateRecordedCltv validator hash) := by
      unfold validateRecordedCltv
      split <;> simp [Validator.validatePaymentCltv]
    simp [preflight, ih, recorded]

@[simp]
theorem validatePayments_avoids {delta} :
    Avoids accountingPanics
      (state.validatePayments channelId incoming outgoing delta validator) := by
  simp only [validatePayments, avoids_bind, preflight_avoids, PolicyFilter.refuseIf_avoids,
    true_and]
  intro _ _ _ _
  split
  · simp only [avoids_bind, avoids_expect]
    refine ⟨by simp, ?_⟩
    intro sum _
    split <;> simp
  · simp

end NodeState

namespace Channel

variable {ctx : Context} {chan : Channel} {env : Env} {state : NodeState} {panics : Set String}

@[simp]
theorem persist_avoids : Avoids panics (persist env) := by simp [persist]

@[simp]
theorem getPerCommitmentPoint_avoids :
    Avoids panics (chan.getPerCommitmentPoint ctx commitmentNumber) := by
  simp [getPerCommitmentPoint]

@[simp]
theorem releaseCommitmentSecret_avoids :
    Avoids panics (chan.releaseCommitmentSecret ctx commitmentNumber) := by
  simp [releaseCommitmentSecret, getPerCommitmentSecret]

@[simp]
theorem setupForOutpoint_avoids : Avoids panics (chan.setupForOutpoint outpoint) := by
  simp [setupForOutpoint]

@[simp]
theorem checkHtlcSignatures_avoids {key htlcs ndx} :
    Avoids accountingPanics
      (chan.checkHtlcSignatures ctx txkeys feerate txid key sigs htlcs ndx) := by
  induction htlcs generalizing ndx with
  | nil => simp [checkHtlcSignatures]
  | cons htlc rest ih => simp [checkHtlcSignatures, ih]

@[simp]
theorem checkHolderTxSignatures_avoids {tx} :
    Avoids accountingPanics
      (chan.checkHolderTxSignatures ctx setup point txkeys feerate signatures tx) := by
  simp [checkHolderTxSignatures]

theorem checkCounterpartyCommitmentTxPhase2_avoids :
    Avoids accountingPanics (chan.checkCounterpartyCommitmentTxPhase2 ctx env state outpoint point
      commitmentNumber values) := by
  simp [checkCounterpartyCommitmentTxPhase2, Validator.validateChannelValue,
    SimplePolicy.validateChannelValue]

theorem checkCounterpartyCommitmentTx_avoids (decodes : ctx.DecodesOnly) :
    Avoids accountingPanics (chan.checkCounterpartyCommitmentTx ctx env state tx witscripts point
      commitmentNumber feerate offered received) := by
  simp [checkCounterpartyCommitmentTx, decodes.avoids, Validator.validateChannelValue,
    SimplePolicy.validateChannelValue]

@[simp]
theorem avoids_lift_validation {σ β : Type} {s next} :
    Call.Avoids panics (liftM x >>= next : Call Status σ β) s ↔
      x.Avoids panics ∧ ∀ a, x = .ok a → Call.Avoids panics (next a) s := by
  have lifted : Call.Avoids panics (liftM (liftM x : Result Status α) >>= next) s ↔ _ :=
    Call.avoids_lift_bind
  simp only [avoids_liftM, liftM_eq_ok] at lifted
  exact lifted

section calls

variable {s : Locked}

@[simp]
theorem avoids_modifyEstate_bind {f} {next : Unit → ChannelCall α} :
    Call.Avoids panics (Locked.modifyEstate f >>= next) s ↔
      Call.Avoids panics (next ()) (s.withEstate (f s.chan.enforcementState)) := Iff.rfl

theorem validateHolderCommitmentTx_avoids (decodes : ctx.DecodesOnly) :
    Call.Avoids accountingPanics (validateHolderCommitmentTx ctx env tx witscripts
      commitmentNumber feerate offered received signatures) s := by
  simp [validateHolderCommitmentTx, checkHolderCommitmentTx, decodes.avoids,
    Validator.validateChannelValue, SimplePolicy.validateChannelValue]

theorem activateInitialCommitment_avoids :
    Call.Avoids accountingPanics (activateInitialCommitment ctx env) s := by
  simp only [activateInitialCommitment, Call.avoids_get_bind]
  split
  · simp
  · split <;> simp [setNextHolderCommitNum]

theorem getHolderCommitmentForClose_avoids :
    Avoids accountingPanics (chan.getHolderCommitmentForClose ctx commitmentNumber) := by
  simp only [getHolderCommitmentForClose]
  split
  · simp
  · simp [Validator.getCurrentHolderCommitmentInfo]

theorem signHolderHtlcTxsForRecovery_avoids {tx height} :
    Avoids accountingPanics (chan.signHolderHtlcTxsForRecovery ctx env state tx txid txkeys sigs
      spent height) := by
  have built : ∀ parts batch lockTime, Avoids accountingPanics
      (chan.buildAndSignBatchedHtlcTx ctx parts batch lockTime) := by
    intro parts batch lockTime
    have data : Avoids accountingPanics (batch.mapM (chan.htlcSigningData ctx parts)) := by
      refine Avoids.mapM fun claim _ => ?_
      simp [htlcSigningData]
    simp [buildAndSignBatchedHtlcTx, data]
  have all : ∀ (batches : List (List ClaimableHtlc × U32)) parts, Avoids accountingPanics
      (batches.mapM fun batch => chan.buildAndSignBatchedHtlcTx ctx parts batch.1 batch.2) :=
    fun batches parts => Avoids.mapM fun batch _ => built parts batch.1 batch.2
  simp [signHolderHtlcTxsForRecovery, all]

theorem signHolderCommitmentTxForRecoveryInner_avoids {persistClose} {height : Option U32} :
    Call.Avoids accountingPanics
      (signHolderCommitmentTxForRecoveryInner ctx env spent persistClose height) s := by
  have latest : Avoids accountingPanics (s.chan.getLatestHolderCommitmentForClose ctx) := by
    simp [getLatestHolderCommitmentForClose, getHolderCommitmentForClose_avoids]
  cases persistClose <;> simp [signHolderCommitmentTxForRecoveryInner, latest,
    recomposeHolderCommitmentTx, signHolderHtlcTxsForRecovery_avoids]

theorem replaceSecrets_avoids {secrets : Option CounterpartyCommitmentSecrets} :
    Avoids panics (replaceSecrets ctx estate secrets) := by
  cases secrets <;> simp [replaceSecrets]

theorem storeSecret_avoids : Avoids panics (storeSecret ctx estate revokeNum secret) := by
  unfold storeSecret
  split
  · exact avoids_ok
  · exact replaceSecrets_avoids

theorem validateCounterpartyRevocation_avoids :
    Call.Avoids accountingPanics (validateCounterpartyRevocation ctx env revokeNum secret) s := by
  simp [validateCounterpartyRevocation, Validator.validateCounterpartyRevocation,
    SimplePolicy.validateCounterpartyRevocation, storeSecret_avoids,
    Validator.setNextCounterpartyRevokeNum, setNextCounterpartyRevokeNum]

end calls

end Channel

end Vls
