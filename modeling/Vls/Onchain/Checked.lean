import Vls.Onchain.Withdrawal

/-! # What a signed withdrawal has passed

Under a strict policy every check that was made has held. Which checks were made depends on
whether there are unknown outputs: the validator looks at all outputs in any case, and at the fee
only where every output is known. -/

namespace Vls

open Result Call PolicyFilter

variable {sum value inputs weight fee : U64} {which tag message : String} {output : TxOut}
  {chan : Channel} {found found' : U64 × List Nat} {item : ProposedOutput × Nat}
  {outputs : List ProposedOutput} {proposed : ProposedOutput} {tx : Transaction}
  {segwitFlags : List Bool} {valuesSat : List U64} {error : ValidationError} {indices : List Nat}

/-- No check is demoted, nor switched off by a developer. -/
structure OnchainContext.Strict (ctx : OnchainContext) : Prop where
  filter : ctx.validator.Strict
  checked : ctx.disableBeneficialBalanceChecks = false

structure FundsChannel (prims : Primitives) (output : TxOut) (chan : Channel) : Prop where
  value : output.value = chan.setup.channelValueSat
  script : output.scriptPubkey = SimplePolicy.fundingScript prims chan
  countersigned : chan.enforcementState.nextHolderCommitNum = 1
  outbound : chan.setup.isOutbound = true
  unpushed : chan.setup.pushValueMsat / 1000 = 0

namespace ProposedOutput

def Unknown (wallet : Wallet) (proposed : ProposedOutput) : Prop :=
  proposed.opath = [] ∧ wallet.allowlistContains proposed.output.scriptPubkey [] = false ∧
    proposed.channel = none
  deriving Decidable

/-- What is asked of an output: one with a path belongs to the wallet or to an allowlisted key, and
    one that is only known by a channel can fund it. -/
def Conforms (prims : Primitives) (wallet : Wallet) (proposed : ProposedOutput) : Prop :=
  if proposed.opath ≠ [] then
    wallet.canSpend proposed.opath proposed.output.scriptPubkey = .ok true ∨
      wallet.canSpend proposed.opath proposed.output.scriptPubkey = .ok false ∧
        wallet.allowlistContains proposed.output.scriptPubkey proposed.opath = true
  else wallet.allowlistContains proposed.output.scriptPubkey [] = true ∨
    ∀ chan, proposed.channel = some chan → FundsChannel prims proposed.output chan

def total (p : ProposedOutput → Prop) [DecidablePred p] (outputs : List ProposedOutput) : Nat :=
  ((outputs.filter fun proposed => p proposed).map (·.output.value.toNat)).sum

theorem total_append {p : ProposedOutput → Prop} [DecidablePred p]
    (outputs outputs' : List ProposedOutput) :
    total p (outputs ++ outputs') = total p outputs + total p outputs' := by
  simp [total]

end ProposedOutput

open ProposedOutput

namespace SimplePolicy

variable {policy : SimplePolicy} {prims : Primitives} {wallet : Wallet}

theorem addBeneficialOutput_ok {sum'} (added : addBeneficialOutput sum value which = .ok sum') :
    sum'.toNat = sum.toNat + value.toNat :=
  BitVec.toNat_of_checkedAdd (okOr_eq_ok.mp added)

theorem validateFunding_ok (strict : policy.filter.Strict)
    (valid : policy.validateFunding prims output chan = .ok value) :
    FundsChannel prims output chan ∧ value = output.value := by
  simp only [validateFunding, bind_eq_ok, refuseIf_eq_ok strict] at valid
  obtain ⟨-, matched, -, script, -, countersigned, -, outbound, -, unpushed, left⟩ := valid
  have matched := not_not.mp matched
  have noPush : chan.setup.pushValueMsat / 1000 = 0 := by simpa using unpushed
  refine ⟨⟨matched, not_not.mp script, not_not.mp countersigned, by simpa using outbound, noPush⟩,
    ?_⟩
  rw [noPush] at left
  have := (BitVec.checkedSub_eq_some.mp (okOr_eq_ok.mp left)).2
  rw [matched, ← this]
  simp

structure Seen (prims : Primitives) (wallet : Wallet) (found : U64 × List Nat)
    (proposed : ProposedOutput) (found' : U64 × List Nat) : Prop where
  conforms : proposed.Conforms prims wallet
  unknown : proposed.Unknown wallet → found'.1 = found.1 ∧ found'.2 ≠ []
  known : ¬ proposed.Unknown wallet →
    found'.1.toNat = found.1.toNat + proposed.output.value.toNat ∧ found'.2 = found.2

theorem validateOutput_ok (strict : policy.filter.Strict)
    (valid : policy.validateOutput prims wallet found item = .ok found') :
    Seen prims wallet found item.1 found' := by
  obtain ⟨proposed, outndx⟩ := item
  simp only [validateOutput] at valid
  split at valid
  · rename_i path
    have known : ¬ proposed.Unknown wallet := fun unknown => path unknown.1
    split at valid
    · cases valid
    · rename_i spendable
      obtain ⟨sum, added, valid⟩ := bind_eq_ok.mp valid
      cases valid
      exact ⟨by simp [Conforms, path, spendable], fun unknown => absurd unknown known,
        fun _ => ⟨addBeneficialOutput_ok added, rfl⟩⟩
    · rename_i foreign
      split at valid
      · rename_i allowed
        obtain ⟨sum, added, valid⟩ := bind_eq_ok.mp valid
        cases valid
        exact ⟨by simp [Conforms, path, foreign, allowed], fun unknown => absurd unknown known,
          fun _ => ⟨addBeneficialOutput_ok added, rfl⟩⟩
      · rw [policyErrorWithFilter_strict strict] at valid
        cases valid
  · rename_i noPath
    split at valid
    · rename_i allowed
      obtain ⟨sum, added, valid⟩ := bind_eq_ok.mp valid
      cases valid
      exact ⟨by simp [Conforms, noPath, allowed], by simp [Unknown, allowed],
        fun _ => ⟨addBeneficialOutput_ok added, rfl⟩⟩
    · rename_i notAllowed
      split at valid
      · rename_i chan funded
        obtain ⟨value, funds, valid⟩ := bind_eq_ok.mp valid
        obtain ⟨sum, added, valid⟩ := bind_eq_ok.mp valid
        cases valid
        obtain ⟨able, rfl⟩ := validateFunding_ok strict funds
        exact ⟨by simp [Conforms, noPath, funded, able], by simp [Unknown, funded],
          fun _ => ⟨addBeneficialOutput_ok added, rfl⟩⟩
      · rename_i unfunded
        cases valid
        exact ⟨by simp [Conforms, noPath, unfunded], by simp,
          fun known => absurd ⟨not_not.mp noPath, by simpa using notAllowed, unfunded⟩ known⟩

structure OutputsSeen (prims : Primitives) (wallet : Wallet) (outputs : List ProposedOutput)
    (found : U64 × List Nat) : Prop where
  conform : ∀ proposed ∈ outputs, proposed.Conforms prims wallet
  beneficial : found.1.toNat = total (fun proposed => ¬ proposed.Unknown wallet) outputs
  unknowns : found.2 = [] ↔ ∀ proposed ∈ outputs, ¬ proposed.Unknown wallet

theorem OutputsSeen.step (before : OutputsSeen prims wallet outputs found)
    (seen : Seen prims wallet found proposed found') :
    OutputsSeen prims wallet (outputs ++ [proposed]) found' := by
  have conform : ∀ p ∈ outputs ++ [proposed], p.Conforms prims wallet := by
    simpa [or_imp, forall_and] using ⟨before.conform, seen.conforms⟩
  refine ⟨conform, ?_, ?_⟩
  · rw [total_append, ← before.beneficial]
    by_cases unknown : proposed.Unknown wallet
    · simp [(seen.unknown unknown).1, total, unknown]
    · simp [(seen.known unknown).1, total, unknown]
  · by_cases unknown : proposed.Unknown wallet
    · simp [(seen.unknown unknown).2, unknown, or_imp, forall_and]
    · simp [(seen.known unknown).2, unknown, before.unknowns, or_imp, forall_and]

/-- The rules for the transaction as a whole. -/
structure TxConforms (tx : Transaction) (outputs : List ProposedOutput)
    (segwitFlags : List Bool) : Prop where
  version : tx.version = 2
  size : tx.baseSize ≤ maxOnchainTxSize
  nonMalleable : (∃ proposed ∈ outputs, proposed.channel.isSome) → ∀ flag ∈ segwitFlags, flag = true

theorem validateOutputs_ok (strict : policy.filter.Strict)
    (valid : policy.validateOutputs prims wallet tx outputs segwitFlags = .ok found) :
    TxConforms tx outputs segwitFlags ∧ OutputsSeen prims wallet outputs found := by
  simp only [validateOutputs, bind_eq_ok, refuseIf_eq_ok strict] at valid
  obtain ⟨-, version, -, size, nonMalleable, flags, -, isNonMalleable, looped⟩ := valid
  refine ⟨⟨not_not.mp version, not_lt.mp size, ?_⟩, ?_⟩
  · rintro ⟨proposed, mem, funded⟩
    have any : outputs.any (·.channel.isSome) = true := List.any_eq_true.mpr ⟨_, mem, funded⟩
    rw [fundingNonMalleable, if_pos any, isTxNonMalleable] at flags
    split at flags
    · cases flags
    · cases flags
      simpa using isNonMalleable
  · have kept := foldlM_inv
      (fun done found => OutputsSeen prims wallet (done.map Prod.fst) found)
      ⟨by simp, by simp [total], by simp⟩
      (fun done item rest b b' _ here stepped => by
        simpa using here.step (validateOutput_ok strict stepped)) looped
    simpa using kept

theorem sumInputs_ok (summed : sumInputs valuesSat = .ok sum) :
    sum.toNat = (valuesSat.map BitVec.toNat).sum := by
  refine foldlM_inv (fun done sum => sum.toNat = (done.map BitVec.toNat).sum) rfl ?_ summed
  intro done value rest sum sum' _ here added
  have := BitVec.toNat_of_checkedAdd (okOr_eq_ok.mp added)
  simp [this, here]

theorem validateBeneficialValue_ok (strict : policy.filter.Strict) {outputs}
    (valid : policy.validateBeneficialValue false inputs outputs weight = .ok fee) :
    fee.toNat + outputs.toNat = inputs.toNat ∧
      estimateFeeratePerKw fee weight ≤ policy.maxFeeratePerKw := by
  simp only [validateBeneficialValue, bind_eq_ok, okOr_eq_ok,
    refuseIf_eq_ok strict, true_and, gt_iff_lt, BitVec.not_lt, Except.ok.injEq] at valid
  obtain ⟨fee, left, -, within, rfl⟩ := valid
  exact ⟨BitVec.toNat_of_checkedSub left, within⟩

/-- A violation of the policy, as opposed to unknown outputs. -/
def IsViolation (error : ValidationError) : Prop := ∃ message, error.kind = .policy message

theorem isViolation_policyError : IsViolation (policyError tag message) :=
  ⟨message, rfl⟩

theorem refuseIf_raises {filter : PolicyFilter} {violated : Prop} [Decidable violated] {function} :
    Result.Raises IsViolation (filter.refuseIf violated function tag message) := by
  unfold refuseIf policyErrorWithFilter
  split
  · split
    · exact raises_err.mpr isViolation_policyError
    · exact raises_ok
  · exact raises_ok

theorem validateFunding_raises :
    Result.Raises IsViolation (policy.validateFunding prims output chan) :=
  refuseIf_raises.bind fun _ => refuseIf_raises.bind fun _ => refuseIf_raises.bind fun _ =>
    refuseIf_raises.bind fun _ => refuseIf_raises.bind fun _ =>
      raises_okOr isViolation_policyError

theorem validateOutput_raises :
    Result.Raises IsViolation (policy.validateOutput prims wallet found item) := by
  have add : ∀ (sum value : U64) (which : String) (unknowns : List Nat), Result.Raises IsViolation
      (do let sum ← addBeneficialOutput sum value which; .ok (sum, unknowns)) :=
    fun _ _ _ _ => (raises_okOr isViolation_policyError).bind fun _ => raises_ok
  unfold validateOutput
  simp only
  split
  · split
    · exact raises_err.mpr isViolation_policyError
    · exact add _ _ _ _
    · split
      · exact add _ _ _ _
      · unfold policyErrorWithFilter
        split
        · exact raises_err.mpr isViolation_policyError
        · exact raises_ok
  · split
    · exact add _ _ _ _
    · split
      · exact validateFunding_raises.bind fun _ => add _ _ _ _
      · exact raises_ok

theorem validateOutputs_raises :
    Result.Raises IsViolation (policy.validateOutputs prims wallet tx outputs segwitFlags) := by
  have malleability :
      Result.Raises IsViolation (fundingNonMalleable tx outputs segwitFlags) := by
    unfold fundingNonMalleable isTxNonMalleable
    split
    · split <;> simp
    · simp
  exact refuseIf_raises.bind fun _ => refuseIf_raises.bind fun _ => malleability.bind fun _ =>
    refuseIf_raises.bind fun _ => Result.Raises.foldlM (fun _ _ => validateOutput_raises) _ _

theorem sumInputs_raises : Result.Raises IsViolation (sumInputs valuesSat) :=
  Result.Raises.foldlM (fun _ _ => raises_okOr isViolation_policyError) _ _

theorem validateBeneficialValue_raises {disabled : Bool} {outputs} :
    Result.Raises IsViolation (mapErr (·.prependMsg "validate_onchain_tx: ")
      (policy.validateBeneficialValue disabled inputs outputs weight)) := by
  have inner : Result.Raises IsViolation
      (policy.validateBeneficialValue disabled inputs outputs weight) :=
    (raises_okOr isViolation_policyError).bind fun _ => refuseIf_raises.bind fun _ =>
      raises_ok
  exact inner.mapErr fun error violation => by
    obtain ⟨message, kind⟩ := violation
    exact ⟨"validate_onchain_tx: " ++ message, by simp [ValidationError.prependMsg, kind]⟩

variable {disabled : Bool} {tx : Transaction} {outputs : List ProposedOutput}
  {segwitFlags : List Bool} {valuesSat : List U64} {weight : U64}

theorem validateOnchainTx_ok
    (valid : policy.validateOnchainTx prims disabled wallet tx outputs segwitFlags valuesSat
      weight = .ok fee) :
    ∃ found sum, policy.validateOutputs prims wallet tx outputs segwitFlags = .ok found ∧
      found.2 = [] ∧ sumInputs valuesSat = .ok sum ∧
      policy.validateBeneficialValue disabled sum found.1 weight = .ok fee := by
  obtain ⟨found, looked, valid⟩ := bind_eq_ok.mp valid
  simp only at valid
  split at valid
  · cases valid
  · rename_i known
    obtain ⟨sum, summed, valid⟩ := bind_eq_ok.mp valid
    exact ⟨found, sum, looked, not_not.mp known, summed, mapErr_eq_ok.mp valid⟩

/-- The error for unknown outputs comes after all outputs have been looked at, and before the
    fee. -/
theorem validateOnchainTx_unknown
    (failed : policy.validateOnchainTx prims disabled wallet tx outputs segwitFlags valuesSat
      weight = .err error)
    (kind : error.kind = .unknownDestinations message indices) :
    ∃ found, policy.validateOutputs prims wallet tx outputs segwitFlags = .ok found ∧
      found.2 ≠ [] := by
  have notViolation : ¬ IsViolation error := by
    rintro ⟨_, policyKind⟩
    rw [kind] at policyKind
    cases policyKind
  obtain failed | ⟨found, looked, failed⟩ := bind_eq_error.mp failed
  · exact absurd (validateOutputs_raises error failed) notViolation
  · refine ⟨found, looked, fun known => notViolation ?_⟩
    simp only [known, ne_eq, not_true_eq_false, if_false] at failed
    exact (sumInputs_raises.bind fun _ => validateBeneficialValue_raises) error failed

end SimplePolicy

namespace OnchainNode

open SimplePolicy

variable {ctx : OnchainContext} {env : OnchainEnv} {tx : Transaction} {segwitFlags : List Bool}
  {inputs : List ProposedInput} {opaths : List DerivationPath} {s s' : OnchainNode}

/-- The fee that was found and charged. -/
structure FeeCharged (ctx : OnchainContext) (env : OnchainEnv) (tx : Transaction)
    (inputs : List ProposedInput) (beneficial : U64) (fee : U64) (s s' : OnchainNode) : Prop where
  balance : fee.toNat + beneficial.toNat = (inputs.map (·.prevOut.value.toNat)).sum
  within : estimateFeeratePerKw fee (.ofNat 64 (weightLowerBound tx inputs))
    ≤ ctx.validator.policy.maxFeeratePerKw
  charged : s'.feesCharged = s.feesCharged ++ [(.ofNat 64 env.now.asSecs, fee * 1000)]

theorem checkOnchainTx_ok (strict : ctx.Strict)
    (checked : checkOnchainTx ctx env tx segwitFlags inputs opaths s = .ok () s') :
    ∃ found fee, ctx.validator.policy.validateOutputs ctx.prims env.wallet tx
        (s.node.proposedOutputs ctx.prims tx opaths) segwitFlags = .ok found ∧
      found.2 = [] ∧ FeeCharged ctx env tx inputs found.1 fee s s' := by
  simp only [checkOnchainTx, bind_ok, get_ok, lift_ok, modify_ok] at checked
  obtain ⟨_, _, ⟨rfl, rfl⟩, fee, _, ⟨returned, rfl⟩, _, _, rfl, unrefused, rfl⟩ := checked
  obtain ⟨found, sum, looked, known, summed, beneficial⟩ := validateOnchainTx_ok returned
  have accepted := (refuseIf_eq_ok strict.filter).mp unrefused
  rw [strict.checked] at beneficial
  obtain ⟨balance, within⟩ := validateBeneficialValue_ok strict.filter beneficial
  refine ⟨found, fee, looked, known, ?_, within, ?_⟩
  · rw [balance, sumInputs_ok summed, List.map_map]
    rfl
  · rw [Bool.not_eq_false] at accepted
    simp only [if_pos accepted]

theorem checkOnchainTx_unknown
    (failed : checkOnchainTx ctx env tx segwitFlags inputs opaths s = .error (.err error) s')
    (kind : error.kind = .unknownDestinations message indices) :
    s' = s ∧ ∃ found, ctx.validator.policy.validateOutputs ctx.prims env.wallet tx
        (s.node.proposedOutputs ctx.prims tx opaths) segwitFlags = .ok found ∧ found.2 ≠ [] := by
  simp only [checkOnchainTx, bind_error, get_ok, get_error, lift_ok,
    lift_error, modify_ok, modify_error, false_or] at failed
  obtain ⟨_, _, ⟨rfl, rfl⟩, ⟨raised, rfl⟩ | ⟨fee, _, -, _, _, -, raised, -⟩⟩ := failed
  · exact ⟨rfl, validateOnchainTx_unknown raised kind⟩
  · -- what is raised after the fee has been found is a violation
    obtain ⟨_, violation⟩ := refuseIf_raises error raised
    rw [kind] at violation
    cases violation

theorem handleProposedOnchain_approved (strict : ctx.Strict)
    (approved : handleProposedOnchain ctx env tx segwitFlags inputs opaths s = .ok true s') :
    ∃ found, ctx.validator.policy.validateOutputs ctx.prims env.wallet tx
        (s.node.proposedOutputs ctx.prims tx opaths) segwitFlags = .ok found ∧
      (found.2 = [] ∧ (∃ fee, FeeCharged ctx env tx inputs found.1 fee s s') ∨
        found.2 ≠ [] ∧ s' = s) := by
  simp only [handleProposedOnchain] at approved
  split at approved
  · rename_i checked
    cases approved
    obtain ⟨found, fee, looked, known, charged⟩ := checkOnchainTx_ok strict checked
    exact ⟨found, looked, .inl ⟨known, fee, charged⟩⟩
  · rename_i failed
    split at approved
    · rename_i kind
      obtain ⟨same, found, looked, unknown⟩ := checkOnchainTx_unknown failed kind
      obtain ⟨-, rfl⟩ := EStateM.Result.ok.inj approved
      exact ⟨found, looked, .inr ⟨unknown, same⟩⟩
    · cases approved
  · cases approved

theorem fundingSigned_keeps {u} (told : fundingSigned env tx proposed s = .ok u s') :
    s'.feesCharged = s.feesCharged := by
  cases funded : proposed.channel with
  | none =>
    rw [fundingSigned, funded] at told
    obtain ⟨-, rfl⟩ := pure_ok.mp told
    rfl
  | some chan =>
    rw [fundingSigned, funded] at told
    obtain ⟨_, _, modified, told⟩ := bind_ok.mp told
    obtain rfl := modify_ok.mp modified
    split at told
    · exact absurd told throw_ok
    · obtain ⟨-, rfl⟩ := pure_ok.mp told
      rfl

theorem forM_fundingSigned_keeps {u} (told : outputs.forM (fundingSigned env tx) s = .ok u s') :
    s'.feesCharged = s.feesCharged := by
  induction outputs generalizing s with
  | nil =>
    obtain ⟨-, rfl⟩ := pure_ok.mp told
    rfl
  | cons proposed rest ih =>
    obtain ⟨_, _, first, others⟩ := bind_ok.mp told
    exact (ih others).trans (fundingSigned_keeps first)

theorem uncheckedSignOnchainTx_ok {witvec}
    (signed : uncheckedSignOnchainTx ctx env tx inputs opaths s = .ok witvec s') :
    signInputs ctx tx inputs = .ok witvec ∧ s'.feesCharged = s.feesCharged := by
  simp only [uncheckedSignOnchainTx, bind_ok, get_ok, lift_ok] at signed
  obtain ⟨_, _, ⟨rfl, rfl⟩, _, _, ⟨signatures, rfl⟩, _, _, told, signed⟩ := signed
  have kept := forM_fundingSigned_keeps told
  split at signed
  · obtain ⟨_, _, thrown, -⟩ := bind_ok.mp signed
    exact absurd thrown throw_ok
  · obtain ⟨rfl, rfl⟩ := pure_ok.mp signed
    exact ⟨signatures, kept⟩

theorem signWithdrawal_ok {streamed utxos reply}
    (signed : signWithdrawal ctx env streamed utxos s = .ok reply s') :
    ∃ proposal checked, propose ctx s.node streamed utxos = .ok proposal ∧
      handleProposedOnchain ctx env streamed.psbt.unsignedTx streamed.segwitFlags proposal.inputs
        proposal.opaths s = .ok true checked ∧
      signInputs ctx streamed.psbt.unsignedTx proposal.inputs = .ok reply.2 ∧
      s'.feesCharged = checked.feesCharged := by
  simp only [signWithdrawal, bind_ok, get_ok, lift_ok] at signed
  obtain ⟨_, _, ⟨rfl, rfl⟩, proposal, _, ⟨proposed, rfl⟩, approved, checked, handled, signed⟩ :=
    signed
  split at signed
  · obtain ⟨_, _, thrown, -⟩ := bind_ok.mp signed
    exact absurd thrown throw_ok
  · rename_i approval
    obtain ⟨witvec, _, witnesses, signed⟩ := bind_ok.mp signed
    obtain ⟨rfl, rfl⟩ := pure_ok.mp signed
    obtain ⟨signatures, kept⟩ := uncheckedSignOnchainTx_ok witnesses
    rw [Bool.not_eq_false] at approval
    exact ⟨proposal, checked, proposed, approval ▸ handled, signatures, kept⟩

end OnchainNode

end Vls
