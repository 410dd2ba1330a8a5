import Vls.Policy.Within

/-! # Demoting rules

A rule that is demoted is passed over with a warning where it is violated. Every check of a
validator is raised through the filter or not at all, so a filter that demotes more lets more
pass. -/

namespace Vls

open SimplePolicy

variable {name : String} {height : U32} {setup : ChannelSetup} {number : U64} {cstate : ChainState}
  {info : CommitmentInfo2} {filter : PolicyFilter}

def SimplePolicy.withFilter (policy : SimplePolicy) (filter : PolicyFilter) : SimplePolicy :=
  { policy with filter := filter }

/-- The same validator under another filter. The wrapper copies the filter of what it wraps. -/
def Validator.withFilter (validator : Validator) (filter : PolicyFilter) : Validator :=
  match validator with
  | simple policy => .simple (policy.withFilter filter)
  | onchain inner => .onchain (inner.withFilter filter)

namespace SimplePolicy

variable {policy : SimplePolicy} {filter : PolicyFilter} (more : policy.filter.Within filter)
  {prims : Primitives} {estate : EnforcementState}

include more

theorem validateDelay_within {delay} :
    (policy.validateDelay name delay).Within
      ((policy.withFilter filter).validateDelay name delay) :=
  .bind more.refuseIf fun _ _ => more.refuseIf

theorem validateExpiry_within {expiry} :
    (policy.validateExpiry name expiry height).Within
      ((policy.withFilter filter).validateExpiry name expiry height) := by
  refine .bind more.refuseIf fun _ _ => ?_
  refine .ite (fun _ => ?_) fun _ => .refl _
  exact .bind more.refuseIf fun _ _ => more.refuseIf

theorem validateSetupChannel_within {wallet path} :
    (policy.validateSetupChannel wallet setup path).Within
      ((policy.withFilter filter).validateSetupChannel wallet setup path) := by
  refine .bind more.refuseIf fun _ _ => ?_
  refine .bind (validateDelay_within more) fun _ _ => ?_
  refine .bind (validateDelay_within more) fun _ _ => ?_
  cases setup.holderShutdownScript with
  | none => exact .refl _
  | some script =>
    simp only
    cases wallet.canSpend path script with
    | error error => exact .refl _
    | ok spendable => exact more.refuseIf

theorem validateHtlcs_within {dustLimit htlcs sum} :
    (policy.validateHtlcs name dustLimit height htlcs sum).Within
      ((policy.withFilter filter).validateHtlcs name dustLimit height htlcs sum) := by
  induction htlcs generalizing sum with
  | nil => exact .refl _
  | cons htlc rest ih =>
    refine .bind (validateExpiry_within more) fun _ _ => ?_
    refine .bind (.refl _) fun sum _ => ?_
    exact .bind more.refuseIf fun _ _ => ih

theorem validateCommitmentTx_within :
    (policy.validateCommitmentTx prims estate number setup cstate info).Within
      ((policy.withFilter filter).validateCommitmentTx prims estate number setup cstate info) := by
  refine .bind more.refuseIf fun _ _ => ?_
  refine .bind more.refuseIf fun _ _ => ?_
  refine .bind more.refuseIf fun _ _ => ?_
  refine .bind (validateHtlcs_within more) fun offered _ => ?_
  refine .bind (validateHtlcs_within more) fun total _ => ?_
  refine .bind more.refuseIf fun _ _ => ?_
  refine .bind (.refl _) fun _ _ => ?_
  refine .bind (.refl _) fun _ _ => ?_
  refine .bind (.mapErr (.bind (.refl _) fun fee _ => .bind more.refuseIf fun _ _ =>
    more.refuseIf)) fun _ _ => ?_
  refine .ite (fun _ => ?_) fun _ => .refl _
  refine .bind more.refuseIf fun _ _ => ?_
  exact .ite (fun _ => more.refuseIf) fun _ => .refl _

theorem validateCounterpartyCommitmentTx_within {point} :
    (policy.validateCounterpartyCommitmentTx prims estate number point setup cstate info).Within
      ((policy.withFilter filter).validateCounterpartyCommitmentTx prims estate number point setup
        cstate info) := by
  refine .bind (.mapErr (validateCommitmentTx_within more)) fun _ _ => ?_
  refine .bind more.refuseIf fun _ _ => ?_
  refine .ite (fun _ => ?_) fun _ => .refl _
  exact .bind more.refuseIf fun _ _ => more.refuseIf

theorem validateHolderCommitmentTx_within :
    (policy.validateHolderCommitmentTx prims estate number setup cstate info).Within
      ((policy.withFilter filter).validateHolderCommitmentTx prims estate number setup cstate
        info) := by
  refine .bind (.mapErr (validateCommitmentTx_within more)) fun _ _ => ?_
  refine .ite (fun _ => .refl _) fun _ => ?_
  refine .bind more.refuseIf fun _ _ => ?_
  exact .bind more.refuseIf fun _ _ => more.refuseIf

theorem validateCounterpartyRevocation_within {secret} :
    (policy.validateCounterpartyRevocation prims estate number secret).Within
      ((policy.withFilter filter).validateCounterpartyRevocation prims estate number secret) :=
  .bind more.refuseIf fun _ _ => more.refuseIf

theorem validatePaymentBalance_within {incoming outgoing invoiced} :
    (policy.validatePaymentBalance incoming outgoing invoiced).Within
      ((policy.withFilter filter).validatePaymentBalance incoming outgoing invoiced) := by
  refine .bind more.refuseIf fun _ _ => ?_
  cases invoiced with
  | none => exact .refl _
  | some amount =>
    refine .ite (fun _ => .refl _) fun _ => ?_
    exact .ite (fun _ => more.refuseIf) fun _ => .refl _

theorem validatePaymentCltv_within {incoming outgoing} :
    (policy.validatePaymentCltv incoming outgoing).Within
      ((policy.withFilter filter).validatePaymentCltv incoming outgoing) :=
  .bind more.refuseIf fun _ _ => more.refuseIf

end SimplePolicy

namespace Validator

theorem ensureFundingBuriedAndUnspent_within {inner} (more : inner.filter.Within filter) :
    ((onchain inner).ensureFundingBuriedAndUnspent number cstate).Within
      ((onchain (inner.withFilter filter)).ensureFundingBuriedAndUnspent number cstate) := by
  refine .ite (fun _ => ?_) fun _ => .refl _
  refine .ite (fun _ => ?_) fun _ => more.refuseIf
  exact .bind (PolicyFilter.temporaryPolicyErrorWithFilter_within more) fun _ _ => more.refuseIf

theorem withFilter_within {validator : Validator} (more : validator.filter.Within filter) :
    validator.Within (validator.withFilter filter) where
  enforceBalance := by cases validator <;> rfl
  maxChannels := by cases validator <;> rfl
  maxInvoices := by cases validator <;> rfl
  filter := by cases validator <;> exact more
  validateSetupChannel _ _ _ := by cases validator <;> exact validateSetupChannel_within more
  validateChannelValue _ := by cases validator <;> exact more.refuseIf
  validatePaymentBalance _ _ _ := by cases validator <;> exact validatePaymentBalance_within more
  validatePaymentCltv _ _ := by cases validator <;> exact validatePaymentCltv_within more
  validateCounterpartyCommitmentTx _ _ _ _ _ _ _ := by
    cases validator with
    | simple policy => exact validateCounterpartyCommitmentTx_within more
    | onchain inner =>
      exact .bind (ensureFundingBuriedAndUnspent_within more) fun _ _ =>
        validateCounterpartyCommitmentTx_within more
  validateHolderCommitmentTx _ _ _ _ _ _ := by
    cases validator with
    | simple policy => exact validateHolderCommitmentTx_within more
    | onchain inner =>
      unfold validateHolderCommitmentTx
      refine .ite (fun _ => ?_) fun _ => validateHolderCommitmentTx_within more
      exact .bind (ensureFundingBuriedAndUnspent_within more) fun _ _ =>
        validateHolderCommitmentTx_within more
  validateCounterpartyRevocation _ _ _ _ := by
    cases validator <;> exact validateCounterpartyRevocation_within more

end Validator

end Vls
