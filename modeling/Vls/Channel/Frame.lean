import Vls.Channel.Effect

/-! # What the operations leave alone

The enforcement state has a part for each side. Operations on one side leave the other alone;
what signing for the counterparty does to the counterparty's part is worked out here as well. -/

namespace Vls

open Channel

variable {ε : Type} {num revokeNum : U64} {commitment : CounterpartyCommitment}
  {oldSecret : SecretKey} {estate'' : EnforcementState}

namespace EnforcementState

structure CounterpartySide where
  nextCounterpartyCommitNum : U64
  nextCounterpartyRevokeNum : U64
  currentCounterpartyPoint : Option PublicKey
  previousCounterpartyPoint : Option PublicKey
  currentCounterpartyCommitInfo : Option CommitmentInfo2
  counterpartyCommitmentFunding : Option OutPoint
  counterpartySecrets : Option CounterpartyCommitmentSecrets

def counterpartySide (estate : EnforcementState) : CounterpartySide where
  nextCounterpartyCommitNum := estate.nextCounterpartyCommitNum
  nextCounterpartyRevokeNum := estate.nextCounterpartyRevokeNum
  currentCounterpartyPoint := estate.currentCounterpartyPoint
  previousCounterpartyPoint := estate.previousCounterpartyPoint
  currentCounterpartyCommitInfo := estate.currentCounterpartyCommitInfo
  counterpartyCommitmentFunding := estate.counterpartyCommitmentFunding
  counterpartySecrets := estate.counterpartySecrets

end EnforcementState

open EnforcementState

variable {ctx : Context} {estate estate' : EnforcementState}

theorem storeHolderCommitment_eq (estate : EnforcementState) (commitment : HolderCommitment)
    (straggler : Bool) : ∃ waiting funding retiring,
      storeHolderCommitment estate commitment straggler = { estate with
        nextHolderCommitInfo := waiting
        holderCommitmentFunding := funding
        prevFundingCommitment := retiring } := by
  unfold storeHolderCommitment
  split
  · exact ⟨_, _, _, rfl⟩
  · split <;> exact ⟨_, _, _, rfl⟩

theorem counterpartySigned_eq (strict : ctx.validator.Strict)
    (ok : counterpartySigned ctx estate commitment = .ok estate') :
    ∃ point previousPoint info previousInfo, estate' = { estate with
      nextCounterpartyCommitNum := commitment.commitmentNumber + 1
      currentCounterpartyPoint := point
      previousCounterpartyPoint := previousPoint
      currentCounterpartyCommitInfo := info
      previousCounterpartyCommitInfo := previousInfo
      counterpartyCommitmentFunding := some commitment.view.fundingOutpoint } := by
  obtain ⟨moved, accepted, done⟩ := Result.bind_eq_ok.mp ok
  cases done
  obtain ⟨nonzero, _, _, set⟩ := Validator.setNextCounterpartyCommitNum_ok strict accepted
  simp only [setNextCounterpartyCommitNum, if_neg nonzero, Except.ok.injEq] at set
  subst set
  simp only [recordCurrent, shiftPrevious]
  split_ifs <;> exact ⟨_, _, _, _, rfl⟩

inductive Signing (side : CounterpartySide) (commitment : CounterpartyCommitment)
    (side' : CounterpartySide) : Prop where
  | next (number : commitment.commitmentNumber = side.nextCounterpartyCommitNum)
      (point : side'.currentCounterpartyPoint = some commitment.point)
      (previousPoint : side'.previousCounterpartyPoint = side.currentCounterpartyPoint)
      (info : side'.currentCounterpartyCommitInfo = some commitment.info2)
  | again (number : commitment.commitmentNumber + 1 = side.nextCounterpartyCommitNum)
      (point : side'.currentCounterpartyPoint = side.currentCounterpartyPoint)
      (previousPoint : side'.previousCounterpartyPoint = side.previousCounterpartyPoint)
      (info : side'.currentCounterpartyCommitInfo = side.currentCounterpartyCommitInfo)
  /-- The highest number is taken for a later one when it is signed again. -/
  | againAtTop (number : commitment.commitmentNumber + 1 = side.nextCounterpartyCommitNum)
      (top : side.nextCounterpartyCommitNum + 1 = 0)
      (point : side'.currentCounterpartyPoint = some commitment.point)
      (previousPoint : side'.previousCounterpartyPoint = none)
      (info : side'.currentCounterpartyCommitInfo = some commitment.info2)

/-- What a strict policy lets a signature do: the number is the next one or the last one, the tag
    names the funding, and the rest is as described. -/
structure Signed (side : CounterpartySide) (commitment : CounterpartyCommitment)
    (side' : CounterpartySide) : Prop where
  nonzero : commitment.commitmentNumber + 1 ≠ 0
  commitNum : side'.nextCounterpartyCommitNum = commitment.commitmentNumber + 1
  revokeNum : side'.nextCounterpartyRevokeNum = side.nextCounterpartyRevokeNum
  tag : side'.counterpartyCommitmentFunding = some commitment.view.fundingOutpoint
  secrets : side'.counterpartySecrets = side.counterpartySecrets
  signing : Signing side commitment side'

theorem Signed.stored {side side'} (signed : Signed side commitment side') :
    side'.currentCounterpartyCommitInfo = some commitment.info2
      ∨ side'.currentCounterpartyCommitInfo = side.currentCounterpartyCommitInfo
        ∧ commitment.commitmentNumber + 1 = side.nextCounterpartyCommitNum := by
  cases signed.signing with
  | next number point previousPoint info => exact .inl info
  | again number point previousPoint info => exact .inr ⟨info, number⟩
  | againAtTop number top point previousPoint info => exact .inl info

section signing

variable (estate) (point : PublicKey) (info : CommitmentInfo2)

theorem setNextCounterpartyCommitNum_next (nonzero : estate.nextCounterpartyCommitNum + 1 ≠ 0) :
    estate.setNextCounterpartyCommitNum (estate.nextCounterpartyCommitNum + 1) point info
      = .ok (ε := Fault ε) { estate with
        previousCounterpartyPoint := estate.currentCounterpartyPoint
        previousCounterpartyCommitInfo := estate.currentCounterpartyCommitInfo
        currentCounterpartyPoint := some point
        currentCounterpartyCommitInfo := some info
        nextCounterpartyCommitNum := estate.nextCounterpartyCommitNum + 1 } := by
  simp only [setNextCounterpartyCommitNum, if_neg nonzero, shiftPrevious, if_true, recordCurrent,
    ge_iff_le, BitVec.le_refl]

theorem setNextCounterpartyCommitNum_again (nonzero : estate.nextCounterpartyCommitNum ≠ 0)
    (notTop : estate.nextCounterpartyCommitNum + 1 ≠ 0) :
    estate.setNextCounterpartyCommitNum estate.nextCounterpartyCommitNum point info
      = .ok (ε := Fault ε) estate := by
  have different : estate.nextCounterpartyCommitNum ≠ estate.nextCounterpartyCommitNum + 1 := by
    bv_omega
  have inRange : ¬ (estate.nextCounterpartyCommitNum > estate.nextCounterpartyCommitNum + 1
      ∨ estate.nextCounterpartyCommitNum < estate.nextCounterpartyCommitNum) := by
    bv_omega
  have below : ¬ estate.nextCounterpartyCommitNum ≥ estate.nextCounterpartyCommitNum + 1 := by
    bv_omega
  simp only [setNextCounterpartyCommitNum, if_neg nonzero, shiftPrevious, if_neg different,
    if_neg inRange, recordCurrent, if_neg below]

theorem setNextCounterpartyCommitNum_againAtTop (nonzero : estate.nextCounterpartyCommitNum ≠ 0)
    (top : estate.nextCounterpartyCommitNum + 1 = 0) :
    estate.setNextCounterpartyCommitNum estate.nextCounterpartyCommitNum point info
      = .ok (ε := Fault ε) { estate with
        previousCounterpartyPoint := none
        previousCounterpartyCommitInfo := none
        currentCounterpartyPoint := some point
        currentCounterpartyCommitInfo := some info } := by
  have different : estate.nextCounterpartyCommitNum ≠ estate.nextCounterpartyCommitNum + 1 := by
    bv_omega
  have outOfRange : estate.nextCounterpartyCommitNum > estate.nextCounterpartyCommitNum + 1
      ∨ estate.nextCounterpartyCommitNum < estate.nextCounterpartyCommitNum := by
    bv_omega
  have above : estate.nextCounterpartyCommitNum ≥ estate.nextCounterpartyCommitNum + 1 := by
    bv_omega
  simp only [setNextCounterpartyCommitNum, if_neg nonzero, shiftPrevious, if_neg different,
    if_pos outOfRange, recordCurrent, if_pos above]

end signing

section

variable (strict : ctx.validator.Strict)
include strict

theorem counterpartySigned_ok (ok : counterpartySigned ctx estate commitment = .ok estate') :
    Signed estate.counterpartySide commitment estate'.counterpartySide := by
  obtain ⟨moved, accepted, done⟩ := Result.bind_eq_ok.mp ok
  cases done
  obtain ⟨nonzero, _, progression, set⟩ :=
    Validator.setNextCounterpartyCommitNum_ok strict accepted
  rcases progression with again | next
  · rw [again] at set
    by_cases top : estate.nextCounterpartyCommitNum + 1 = 0
    · rw [setNextCounterpartyCommitNum_againAtTop _ _ _ (again ▸ nonzero) top] at set
      cases set
      exact ⟨nonzero, again.symm, rfl, rfl, rfl, .againAtTop again top rfl rfl rfl⟩
    · rw [setNextCounterpartyCommitNum_again _ _ _ (again ▸ nonzero) top] at set
      cases set
      exact ⟨nonzero, again.symm, rfl, rfl, rfl, .again again rfl rfl rfl⟩
  · have number : commitment.commitmentNumber = estate.nextCounterpartyCommitNum := by bv_omega
    rw [next] at set
    rw [setNextCounterpartyCommitNum_next _ _ _ (next ▸ nonzero)] at set
    cases set
    exact ⟨nonzero, next.symm, rfl, rfl, rfl, .next number rfl rfl rfl⟩

theorem storeSecret_eq (ok : storeSecret ctx estate revokeNum oldSecret = .ok estate') :
    ∃ secrets, estate' = { estate with counterpartySecrets := secrets } := by
  unfold storeSecret at ok
  split at ok
  · cases ok
    exact ⟨_, rfl⟩
  · generalize CounterpartyCommitmentSecrets.provideSecret .. = provided at ok
    cases provided with
    | some secrets =>
      cases ok
      exact ⟨some secrets, rfl⟩
    | none =>
      simp only [replaceSecrets, PolicyFilter.policyErrorWithFilter_strict strict,
        Result.err_bind, Result.err_ne_ok] at ok

theorem revoked_eq (stored : storeSecret ctx estate revokeNum oldSecret = .ok estate')
    (advanced : ctx.validator.setNextCounterpartyRevokeNum estate' num = .ok estate'') :
    (num ≠ 0 ∧ ¬ num + 2 < estate.nextCounterpartyCommitNum
      ∧ ¬ num + 1 > estate.nextCounterpartyCommitNum
      ∧ (num = estate.nextCounterpartyRevokeNum ∨ num = estate.nextCounterpartyRevokeNum + 1))
      ∧ ∃ secrets previousInfo, estate'' = { estate with
        counterpartySecrets := secrets
        previousCounterpartyCommitInfo := previousInfo
        nextCounterpartyRevokeNum := num } := by
  obtain ⟨secrets, rfl⟩ := storeSecret_eq strict stored
  obtain ⟨nonzero, notBelow, notAbove, progression, previousInfo, rfl⟩ :=
    Validator.setNextCounterpartyRevokeNum_ok strict advanced
  exact ⟨⟨nonzero, notBelow, notAbove, progression⟩, secrets, previousInfo, rfl⟩

end

theorem fundingLockedState_eq (chan : Channel) (outpoint : OutPoint) :
    ∃ holder counterparty, (chan.fundingLockedState outpoint).enforcementState =
      { chan.enforcementState with
        currentHolderCommitInfo := holder
        currentCounterpartyCommitInfo := counterparty
        prevFundingCommitment := none } := by
  simp only [fundingLockedState]
  split <;> exact ⟨_, _, rfl⟩

end Vls
