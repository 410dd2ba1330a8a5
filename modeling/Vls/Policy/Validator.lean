import Vls.Policy.SimpleValidator

/-! # Validators

A node runs the simple validator or the on-chain validator. The latter wraps the former, whose
filter it copies, and requires in addition that the funding is buried and unspent. -/

namespace Vls

open PolicyFilter Result

variable {info : CommitmentInfo2} {point : PublicKey}

inductive Validator where
  | simple (policy : SimplePolicy)
  | onchain (inner : SimplePolicy)

namespace Validator

variable (validator : Validator)

def policy : Validator → SimplePolicy
  | simple policy => policy
  | onchain inner => inner

def filter : PolicyFilter := validator.policy.filter

def Strict : Prop := validator.filter.Strict

/-- Only the simple validator answers from its policy; the wrapper keeps the default. -/
def enforceBalance : Validator → Bool
  | simple policy => policy.enforceBalance
  | onchain _ => false

def minFundingDepth : U32 := 1

def minimumInitialBalance (holderValueMsat : U64) : U64 := holderValueMsat / 1000

def ensureFundingBuriedAndUnspent (commitNum : U64) (cstate : ChainState) :
    Result ValidationError Unit := do
  let function := "ensure_funding_buried_and_unspent"
  if commitNum > 0 ∧ cstate.splicePending = false then
    if cstate.fundingDepth < minFundingDepth then
      validator.filter.temporaryPolicyErrorWithFilter "policy-commitment-spends-active-utxo"
        (s!"{function}: tried commitment {commitNum.toNat} when funding is not buried " ++
          s!"at depth {cstate.fundingDepth.toNat}, our height {cstate.currentHeight.toNat}")
    validator.filter.refuseIf (cstate.closingDepth > 0)
      function "policy-commitment-spends-active-utxo"
      (s!"tried commitment {commitNum.toNat} after closed on-chain " ++
        s!"at depth {cstate.closingDepth.toNat}")

def validateSetupChannel (wallet : Wallet) (setup : ChannelSetup)
    (holderShutdownKeyPath : DerivationPath) : Result ValidationError Unit :=
  validator.policy.validateSetupChannel wallet setup holderShutdownKeyPath

def validateChannelValue (setup : ChannelSetup) : Result ValidationError Unit :=
  validator.policy.validateChannelValue setup

def validatePaymentBalance (incomingMsat outgoingMsat : U64) (invoicedAmountMsat : Option U64) :
    Result ValidationError Unit :=
  validator.policy.validatePaymentBalance incomingMsat outgoingMsat invoicedAmountMsat

def validatePaymentCltv (incomingCltv outgoingCltv : U32) : Result ValidationError Unit :=
  validator.policy.validatePaymentCltv incomingCltv outgoingCltv

section commitments

variable (prims : Primitives) (estate : EnforcementState)

def validateCounterpartyCommitmentTx (commitNum : U64) (commitmentPoint : PublicKey)
    (setup : ChannelSetup) (cstate : ChainState) (info2 : CommitmentInfo2) :
    Result ValidationError Unit := do
  match validator with
  | simple _ => pure ()
  | onchain _ => validator.ensureFundingBuriedAndUnspent commitNum cstate
  validator.policy.validateCounterpartyCommitmentTx prims estate commitNum commitmentPoint setup
    cstate info2

def validateHolderCommitmentTx (commitNum : U64) (setup : ChannelSetup) (cstate : ChainState)
    (info2 : CommitmentInfo2) : Result ValidationError Unit := do
  match validator with
  | simple _ => pure ()
  | onchain _ =>
    if estate.nextHolderCommitNum ≤ commitNum then
      validator.ensureFundingBuriedAndUnspent commitNum cstate
  validator.policy.validateHolderCommitmentTx prims estate commitNum setup cstate info2

def validateCounterpartyRevocation (revokeNum : U64) (commitmentSecret : SecretKey) :
    Result ValidationError Unit :=
  validator.policy.validateCounterpartyRevocation prims estate revokeNum commitmentSecret

end commitments

/-! ## Moving the counters

These are not overridden by either validator. -/

section counters

variable (estate : EnforcementState)

def setNextHolderCommitNum (num : U64) (currentCommitmentInfo : CommitmentInfo2)
    (counterpartySignatures : CommitmentSignatures) :
    Result ValidationError EnforcementState := do
  let current := estate.nextHolderCommitNum
  validator.filter.refuseIf (num ≠ current ∧ num ≠ current + 1)
    "set_next_holder_commit_num" "policy-revoke-new-commitment-signed"
    s!"invalid progression: {current.toNat} to {num.toNat}"
  estate.setNextHolderCommitNum num currentCommitmentInfo counterpartySignatures

def getCurrentHolderCommitmentInfo (commitmentNumber : U64) :
    Result ValidationError CommitmentInfo2 := do
  validator.filter.refuseIf (commitmentNumber + 1 ≠ estate.nextHolderCommitNum)
    "get_current_holder_commitment_info" "policy-other"
    (s!"invalid next holder commitment number: " ++
      s!"{(commitmentNumber + 1).toNat} != {estate.nextHolderCommitNum.toNat}")
  -- a number that was validated is taken to have left its commitment in the slot
  expect "called unwrap on a None value" estate.currentHolderCommitInfo

def setNextCounterpartyCommitNum (num : U64) (currentPoint : PublicKey)
    (currentCommitmentInfo : CommitmentInfo2) (fundingChanged : Bool) :
    Result ValidationError EnforcementState := do
  let function := "set_next_counterparty_commit_num"
  validator.filter.refuseIf (num = 0) function "policy-other" "can't set next to 0"
  -- the first commitment of a funding may advance although nothing of it is revoked
  let delta : U64 := if num = 1 ∨ fundingChanged = true then 1 else 2
  validator.filter.refuseIf (num < estate.nextCounterpartyRevokeNum + delta)
    function "policy-commitment-previous-revoked"
    (s!"{num.toNat} too small relative to next_counterparty_revoke_num " ++
      s!"{estate.nextCounterpartyRevokeNum.toNat}")
  let current := estate.nextCounterpartyCommitNum
  validator.filter.refuseIf (num ≠ current ∧ num ≠ current + 1)
    function "policy-commitment-previous-revoked"
    s!"invalid progression: {current.toNat} to {num.toNat}"
  estate.setNextCounterpartyCommitNum num currentPoint currentCommitmentInfo

def setNextCounterpartyRevokeNum (num : U64) : Result ValidationError EnforcementState := do
  let function := "set_next_counterparty_revoke_num"
  let tag := "policy-commitment-previous-revoked"
  validator.filter.refuseIf (num = 0) function "policy-other" "can't set next to 0"
  validator.filter.refuseIf (num + 2 < estate.nextCounterpartyCommitNum) function tag
    (s!"{num.toNat} too small relative to next_counterparty_commit_num " ++
      s!"{estate.nextCounterpartyCommitNum.toNat}")
  validator.filter.refuseIf (num + 1 > estate.nextCounterpartyCommitNum) function tag
    (s!"{num.toNat} too large relative to next_counterparty_commit_num " ++
      s!"{estate.nextCounterpartyCommitNum.toNat}")
  let current := estate.nextCounterpartyRevokeNum
  validator.filter.refuseIf (num ≠ current ∧ num ≠ current + 1) function tag
    s!"invalid progression: {current.toNat} to {num.toNat}"
  estate.setNextCounterpartyRevokeNum num

end counters

section strict

variable {validator} {estate estate' : EnforcementState} {num : U64}

theorem getCurrentHolderCommitmentInfo_eq_ok (strict : validator.Strict) :
    validator.getCurrentHolderCommitmentInfo estate num = .ok info ↔
      num + 1 = estate.nextHolderCommitNum ∧ estate.currentHolderCommitInfo = some info := by
  simp [getCurrentHolderCommitmentInfo, bind_eq_ok, refuseIf_eq_ok strict, expect_eq_ok]

theorem setNextCounterpartyCommitNum_ok (strict : validator.Strict) {changed}
    (accepted : validator.setNextCounterpartyCommitNum estate num point info changed
      = .ok estate') :
    num ≠ 0 ∧ ¬ num < estate.nextCounterpartyRevokeNum + (if num = 1 ∨ changed = true then 1 else 2)
      ∧ (num = estate.nextCounterpartyCommitNum ∨ num = estate.nextCounterpartyCommitNum + 1)
      ∧ estate.setNextCounterpartyCommitNum num point info
        = .ok (ε := Fault ValidationError) estate' := by
  simp only [setNextCounterpartyCommitNum, bind_eq_ok, refuseIf_eq_ok strict] at accepted
  obtain ⟨_, nonzero, _, notBelow, _, progression, set⟩ := accepted
  refine ⟨nonzero, notBelow, ?_, set⟩
  tauto

theorem setNextCounterpartyRevokeNum_ok (strict : validator.Strict)
    (accepted : validator.setNextCounterpartyRevokeNum estate num = .ok estate') :
    num ≠ 0 ∧ ¬ num + 2 < estate.nextCounterpartyCommitNum
      ∧ ¬ num + 1 > estate.nextCounterpartyCommitNum
      ∧ (num = estate.nextCounterpartyRevokeNum ∨ num = estate.nextCounterpartyRevokeNum + 1)
      ∧ ∃ previousInfo, estate' = { estate with
        previousCounterpartyCommitInfo := previousInfo
        nextCounterpartyRevokeNum := num } := by
  simp only [setNextCounterpartyRevokeNum, bind_eq_ok, refuseIf_eq_ok strict] at accepted
  obtain ⟨_, nonzero, _, notBelow, _, notAbove, _, progression, set⟩ := accepted
  rw [EnforcementState.setNextCounterpartyRevokeNum, if_neg nonzero] at set
  cases set
  refine ⟨nonzero, notBelow, notAbove, ?_, _, rfl⟩
  tauto

section commitments

variable {prims : Primitives} {commitNum : U64} {setup : ChannelSetup} {cstate : ChainState}
  {info2 : CommitmentInfo2}

theorem validateCounterpartyCommitmentTx_policy
    (validated : validator.validateCounterpartyCommitmentTx prims estate commitNum point setup
      cstate info2 = .ok ()) :
    validator.policy.validateCounterpartyCommitmentTx prims estate commitNum point setup cstate
      info2 = .ok () := by
  cases validator with
  | simple policy => exact validated
  | onchain inner =>
    obtain ⟨_, _, inner⟩ := bind_eq_ok.mp validated
    exact inner

theorem validateHolderCommitmentTx_policy
    (validated : validator.validateHolderCommitmentTx prims estate commitNum setup cstate info2
      = .ok ()) :
    validator.policy.validateHolderCommitmentTx prims estate commitNum setup cstate info2
      = .ok () := by
  cases validator with
  | simple policy => exact validated
  | onchain inner =>
    simp only [validateHolderCommitmentTx] at validated
    split at validated
    · obtain ⟨_, _, inner⟩ := bind_eq_ok.mp validated
      exact inner
    · exact validated

/-- A commitment is signed for the counterparty if it is at most one ahead of those revoked, and
    one that is signed again on the funding signed last is the same as before. -/
theorem validateCounterpartyCommitmentTx_ok (strict : validator.Strict)
    (validated : validator.validateCounterpartyCommitmentTx prims estate commitNum point setup
      cstate info2 = .ok ()) :
    ¬ commitNum > estate.nextCounterpartyRevokeNum + 1
      ∧ (commitNum + 1 = estate.nextCounterpartyCommitNum →
          estate.counterpartyCommitmentFunding = some setup.fundingOutpoint →
          estate.currentCounterpartyPoint = some point
          ∧ SimplePolicy.prevCommitInfo estate commitNum setup = some info2) := by
  have strict : validator.policy.filter.Strict := strict
  have validated := validateCounterpartyCommitmentTx_policy validated
  simp only [SimplePolicy.validateCounterpartyCommitmentTx, bind_eq_ok,
    refuseIf_eq_ok strict] at validated
  obtain ⟨_, _, _, reach, retry⟩ := validated
  refine ⟨reach, ?_⟩
  intro again here
  rw [if_pos ⟨again, here⟩] at retry
  simp only [bind_eq_ok, refuseIf_eq_ok strict, not_not] at retry
  obtain ⟨_, point, info⟩ := retry
  exact ⟨point, info.symm⟩

/-- A revocation is accepted for the number it is due for, or once more for the one before, with
    the secret of the point that is remembered. -/
theorem validateCounterpartyRevocation_ok (strict : validator.Strict) {revokeNum secret}
    (validated : validator.validateCounterpartyRevocation prims estate revokeNum secret = .ok ()) :
    (revokeNum = estate.nextCounterpartyRevokeNum
        ∨ revokeNum + 1 = estate.nextCounterpartyRevokeNum)
      ∧ estate.getPreviousCounterpartyPoint revokeNum = some (prims.publicKey secret) := by
  have strict : validator.policy.filter.Strict := strict
  simp only [validateCounterpartyRevocation, SimplePolicy.validateCounterpartyRevocation,
    bind_eq_ok, refuseIf_eq_ok strict, not_not] at validated
  obtain ⟨_, due, point⟩ := validated
  refine ⟨?_, point⟩
  tauto

end commitments

end strict

end Validator

end Vls
