import Vls.Lib.Within
import Vls.Policy.Validator

/-! # Validators that accept less

A validator stays within another if it consults the same limits and lets pass no more than the other
does, method by method. Demoting rules goes one way, wrapping a validator in checks of its own the
other. -/

namespace Vls

theorem within_lift_validation {σ α : Type} {s} {x y : Result ValidationError α}
    (within : x.Within y) : Call.Within (liftM x : Call Status σ α) (liftM y) s :=
  .lift (.mapErr within)

namespace PolicyFilter

/-- Every rule that the first demotes, the second demotes as well. -/
def Within (filter filter' : PolicyFilter) : Prop :=
  ∀ tag, filter.filter tag = .warn → filter'.filter tag = .warn

theorem Within.refl (filter : PolicyFilter) : filter.Within filter := fun _ demoted => demoted

theorem merge_within (filter other : PolicyFilter) : filter.Within (filter.merge other) := by
  intro tag demoted
  unfold PolicyFilter.filter at demoted ⊢
  cases first : filter.rules.find? (·.matches tag) with
  | none => simp [first] at demoted
  | some rule => simpa [merge, first] using demoted

variable {filter filter' : PolicyFilter} {tag message : String}

theorem policyErrorWithFilter_within (within : filter.Within filter') :
    (filter.policyErrorWithFilter tag message).Within
      (filter'.policyErrorWithFilter tag message) := by
  unfold policyErrorWithFilter
  cases action : filter.filter tag with
  | error => simp
  | warn => simp [within tag action, Result.Within]

theorem temporaryPolicyErrorWithFilter_within (within : filter.Within filter') :
    (filter.temporaryPolicyErrorWithFilter tag message).Within
      (filter'.temporaryPolicyErrorWithFilter tag message) := by
  unfold temporaryPolicyErrorWithFilter
  cases action : filter.filter tag with
  | error => simp
  | warn => simp [within tag action, Result.Within]

theorem refuseIf_within (within : filter.Within filter') {violated violated' : Prop}
    [Decidable violated] [Decidable violated'] {function message'} (fewer : violated' → violated) :
    (filter.refuseIf violated function tag message).Within
      (filter'.refuseIf violated' function tag message') := by
  intro u passed
  unfold refuseIf at passed ⊢
  by_cases raised : violated'
  · rw [if_pos (fewer raised)] at passed
    rw [if_pos raised]
    unfold policyErrorWithFilter at passed ⊢
    cases action : filter.filter tag with
    | error => simp [action] at passed
    | warn => simp [within tag action]
  · rw [if_neg raised]

theorem Within.refuseIf (within : filter.Within filter') {violated : Prop} [Decidable violated]
    {function} :
    (filter.refuseIf violated function tag message).Within
      (filter'.refuseIf violated function tag message) :=
  refuseIf_within within id

end PolicyFilter

namespace Validator

/-- Method by method, whatever the first lets pass the second lets pass. -/
structure Within (validator validator' : Validator) : Prop where
  enforceBalance : validator.enforceBalance = validator'.enforceBalance
  maxChannels : validator.policy.maxChannels = validator'.policy.maxChannels
  maxInvoices : validator.policy.maxInvoices = validator'.policy.maxInvoices
  filter : validator.filter.Within validator'.filter
  validateSetupChannel : ∀ wallet setup path,
    (validator.validateSetupChannel wallet setup path).Within
      (validator'.validateSetupChannel wallet setup path)
  validateChannelValue : ∀ setup,
    (validator.validateChannelValue setup).Within (validator'.validateChannelValue setup)
  validatePaymentBalance : ∀ incoming outgoing invoiced,
    (validator.validatePaymentBalance incoming outgoing invoiced).Within
      (validator'.validatePaymentBalance incoming outgoing invoiced)
  validatePaymentCltv : ∀ incoming outgoing,
    (validator.validatePaymentCltv incoming outgoing).Within
      (validator'.validatePaymentCltv incoming outgoing)
  validateCounterpartyCommitmentTx : ∀ prims estate commitNum point setup cstate info2,
    (validator.validateCounterpartyCommitmentTx prims estate commitNum point setup cstate
      info2).Within
      (validator'.validateCounterpartyCommitmentTx prims estate commitNum point setup cstate info2)
  validateHolderCommitmentTx : ∀ prims estate commitNum setup cstate info2,
    (validator.validateHolderCommitmentTx prims estate commitNum setup cstate info2).Within
      (validator'.validateHolderCommitmentTx prims estate commitNum setup cstate info2)
  validateCounterpartyRevocation : ∀ prims estate revokeNum secret,
    (validator.validateCounterpartyRevocation prims estate revokeNum secret).Within
      (validator'.validateCounterpartyRevocation prims estate revokeNum secret)

theorem onchain_within {inner} (unenforced : inner.enforceBalance = false) :
    (onchain inner).Within (simple inner) where
  enforceBalance := unenforced.symm
  maxChannels := rfl
  maxInvoices := rfl
  filter := .refl _
  validateSetupChannel _ _ _ := .refl _
  validateChannelValue _ := .refl _
  validatePaymentBalance _ _ _ := .refl _
  validatePaymentCltv _ _ := .refl _
  validateCounterpartyCommitmentTx _ _ _ _ _ _ _ := fun _ =>
    validateCounterpartyCommitmentTx_policy
  validateHolderCommitmentTx _ _ _ _ _ _ := fun _ => validateHolderCommitmentTx_policy
  validateCounterpartyRevocation _ _ _ _ := .refl _

section

variable {validator validator' : Validator} {estate : EnforcementState} {num : U64}

variable (within : validator.Within validator')
include within

theorem Within.setNextHolderCommitNum {info signatures} :
    (validator.setNextHolderCommitNum estate num info signatures).Within
      (validator'.setNextHolderCommitNum estate num info signatures) :=
  .bind within.filter.refuseIf fun _ _ => .refl _

theorem Within.getCurrentHolderCommitmentInfo :
    (validator.getCurrentHolderCommitmentInfo estate num).Within
      (validator'.getCurrentHolderCommitmentInfo estate num) :=
  .bind within.filter.refuseIf fun _ _ => .refl _

theorem Within.setNextCounterpartyCommitNum {point info changed} :
    (validator.setNextCounterpartyCommitNum estate num point info changed).Within
      (validator'.setNextCounterpartyCommitNum estate num point info changed) := by
  refine .bind within.filter.refuseIf fun _ _ => ?_
  refine .bind within.filter.refuseIf fun _ _ => ?_
  exact .bind within.filter.refuseIf fun _ _ => .refl _

theorem Within.setNextCounterpartyRevokeNum :
    (validator.setNextCounterpartyRevokeNum estate num).Within
      (validator'.setNextCounterpartyRevokeNum estate num) := by
  refine .bind within.filter.refuseIf fun _ _ => ?_
  refine .bind within.filter.refuseIf fun _ _ => ?_
  refine .bind within.filter.refuseIf fun _ _ => ?_
  exact .bind within.filter.refuseIf fun _ _ => .refl _

end

end Validator

end Vls
