import Vls.Channel.Counterparty

/-! # What the checks of a commitment establish

A commitment can be given by its values or by its transaction. The two forms run the same checks
in a different order; what follows from passing them is stated once for both. -/

namespace Vls

open Result

variable {commitmentNumber : U64} {outpoint fundingOutpoint : OutPoint} {view : ChannelSetup}
  {s : Locked} {values : CommitmentValues} {signatures : CommitmentSignatures}
  {commitment : HolderCommitment} {tx : Transaction} {outputWitscripts : List Script}
  {feeratePerKw : U32} {offeredHtlcs receivedHtlcs : List HTLCInfo2}
  {remotePerCommitmentPoint : PublicKey}

namespace Channel

variable {ctx : Context} {chan : Channel} {env : Env}

theorem getPerCommitmentPoint_eq_ok {point} :
    chan.getPerCommitmentPoint ctx commitmentNumber = .ok point ↔
      ¬ commitmentNumber > chan.enforcementState.nextHolderCommitNum + 1
        ∧ chan.getPerCommitmentPointUnchecked ctx commitmentNumber = point := by
  simp [getPerCommitmentPoint, ite_err_eq_ok]

theorem getPerCommitmentSecret_eq_ok (strict : ctx.validator.Strict) {secret} :
    chan.getPerCommitmentSecret ctx commitmentNumber = .ok secret ↔
      ¬ commitmentNumber + 2 > chan.enforcementState.nextHolderCommitNum
        ∧ chan.commitmentSecret ctx commitmentNumber = secret := by
  simp [getPerCommitmentSecret, bind_eq_ok, liftM_eq_ok, PolicyFilter.refuseIf_eq_ok strict]

theorem releaseCommitmentSecret_ok (strict : ctx.validator.Strict) {released}
    (ok : chan.releaseCommitmentSecret ctx commitmentNumber = .ok released) :
    ¬ commitmentNumber ≥ 1 ∧ released.2 = none ∨ commitmentNumber ≥ 1
        ∧ ¬ commitmentNumber - 1 + 2 > chan.enforcementState.nextHolderCommitNum
        ∧ released.2 = some (chan.commitmentSecret ctx (commitmentNumber - 1)) := by
  simp only [releaseCommitmentSecret, bind_eq_ok] at ok
  obtain ⟨nextPoint, _, rest⟩ := ok
  split at rest
  · rename_i positive
    simp only [bind_eq_ok, getPerCommitmentSecret_eq_ok strict, Except.ok.injEq] at rest
    obtain ⟨_, ⟨gate, rfl⟩, rfl⟩ := rest
    exact .inr ⟨positive, gate, rfl⟩
  · rename_i zero
    simp only [Except.ok.injEq] at rest
    exact .inl ⟨zero, by rw [← rest]⟩

section promoted

variable (ctx) {commitmentNumber : U64}

theorem last_of_releaseCommitmentSecret {fault}
    (failed : chan.releaseCommitmentSecret ctx commitmentNumber = .error fault)
    (promoted : chan.enforcementState.nextHolderCommitNum = commitmentNumber + 1) :
    commitmentNumber + 2 = 0 := by
  by_contra goesOn
  have point : chan.getPerCommitmentPoint ctx (commitmentNumber + 1)
      = .ok (chan.getPerCommitmentPointUnchecked ctx (commitmentNumber + 1)) := by
    have reached : ¬ commitmentNumber + 1 > commitmentNumber + 1 + 1 := by bv_omega
    rw [getPerCommitmentPoint, promoted, if_neg reached]
  have secret : chan.getPerCommitmentSecret ctx (commitmentNumber - 1)
      = .ok (chan.commitmentSecret ctx (commitmentNumber - 1)) := by
    have passed : ¬ commitmentNumber - 1 + 2 > commitmentNumber + 1 := by bv_omega
    simp only [getPerCommitmentSecret, promoted, PolicyFilter.refuseIf, if_neg passed]
    rfl
  simp only [releaseCommitmentSecret, point, secret, bind, Except.bind] at failed
  split at failed <;> cases failed

theorem releaseCommitmentSecret_of_last
    (promoted : chan.enforcementState.nextHolderCommitNum = commitmentNumber + 1)
    (last : commitmentNumber + 2 = 0) :
    ∃ error : ValidationError,
      chan.releaseCommitmentSecret ctx commitmentNumber = .err error.toStatus := by
  have ahead : commitmentNumber + 1 > commitmentNumber + 1 + 1 := by bv_omega
  simp only [releaseCommitmentSecret, getPerCommitmentPoint, promoted, if_pos ahead, err_bind]
  exact ⟨_, rfl⟩

end promoted

theorem setupForOutpoint_eq_ok :
    chan.setupForOutpoint outpoint = .ok view ↔
      chan.views.find? (·.fundingOutpoint = outpoint) = some view :=
  okOr_eq_ok

def IsView (chan : Channel) (view : ChannelSetup) : Prop :=
  chan.views.find? (·.fundingOutpoint = view.fundingOutpoint) = some view

theorem isView_of_find (found : chan.views.find? (·.fundingOutpoint = outpoint) = some view) :
    chan.IsView view := by
  have same : view.fundingOutpoint = outpoint := by simpa using List.find?_some found
  rw [IsView, same]
  exact found

theorem isView_setupForTx (tx : Transaction) : chan.IsView (chan.setupForTx tx) := by
  unfold setupForTx
  cases found : tx.input.findSome? fun input =>
      chan.views.find? (·.fundingOutpoint = input.previousOutput) with
  | none => simp [IsView, views]
  | some view =>
    obtain ⟨input, _, here⟩ := List.exists_of_findSome?_eq_some found
    exact isView_of_find here

theorem IsView.eq_setup (isView : chan.IsView view)
    (same : view.fundingOutpoint = chan.setup.fundingOutpoint) : view = chan.setup := by
  rw [IsView, same, views, List.find?_cons_of_pos (by simp)] at isView
  exact (Option.some.inj isView).symm

/-- What holds of a holder commitment that passed its checks, in whichever form it was given. -/
structure HolderChecked (ctx : Context) (env : Env) (s : Locked)
    (commitment : HolderCommitment) : Prop where
  isView : s.chan.IsView commitment.view
  reach : ¬ commitment.commitmentNumber > s.chan.enforcementState.nextHolderCommitNum + 1
  validated : ctx.validator.validateHolderCommitmentTx ctx.prims s.chan.enforcementState
    commitment.commitmentNumber commitment.view (s.chan.getChainState env) commitment.info2 = .ok ()
  signed : s.chan.checkHolderTxSignatures ctx commitment.view
    (s.chan.getPerCommitmentPointUnchecked ctx commitment.commitmentNumber)
    (s.chan.makeHolderTxKeys ctx
      (s.chan.getPerCommitmentPointUnchecked ctx commitment.commitmentNumber))
    commitment.info2.feeratePerKw commitment.signatures
    (s.chan.makeHolderCommitmentTxWithSetup ctx commitment.view commitment.commitmentNumber
      (s.chan.getPerCommitmentPointUnchecked ctx commitment.commitmentNumber)
      commitment.info2.feeratePerKw commitment.info2.toBroadcasterValueSat
      commitment.info2.toCountersignerValueSat
      (htlcsInfo2ToOic commitment.info2.offeredHtlcs commitment.info2.receivedHtlcs)) = .ok ()
  payments : ∃ delta,
    s.chan.enforcementState.claimableBalances s.state.hasPreimage (some commitment.info2) none
      commitment.view s.chan.prevSetup = .ok delta
    ∧ s.state.validatePayments s.chan.id0
      (s.chan.enforcementState.incomingPaymentsSummary (some commitment.info2) none)
      (s.chan.enforcementState.paymentsSummary (some commitment.info2) none) delta ctx.validator
      = .ok ()

theorem checkHolderCommitmentTxPhase2_ok
    (checked : s.chan.checkHolderCommitmentTxPhase2 ctx env s.state fundingOutpoint
      commitmentNumber values signatures = .ok commitment) :
    HolderChecked ctx env s commitment ∧ commitment.commitmentNumber = commitmentNumber := by
  simp only [checkHolderCommitmentTxPhase2, bind_eq_ok, setupForOutpoint_eq_ok,
    getPerCommitmentPoint_eq_ok, liftM_eq_ok, Except.ok.injEq] at checked
  obtain ⟨view, found, _, ⟨reach, rfl⟩, delta, balances, _, validated, _, signed, _, payments,
    rfl⟩ := checked
  exact ⟨⟨isView_of_find found, reach, validated, signed, delta, balances, payments⟩, rfl⟩

theorem checkHolderCommitmentTx_ok
    (checked : s.chan.checkHolderCommitmentTx ctx env s.state tx outputWitscripts
      commitmentNumber feeratePerKw offeredHtlcs receivedHtlcs signatures = .ok commitment) :
    HolderChecked ctx env s commitment ∧ commitment.commitmentNumber = commitmentNumber := by
  simp only [checkHolderCommitmentTx, bind_eq_ok, getPerCommitmentPoint_eq_ok, liftM_eq_ok,
    err_bind, ite_err_eq_ok, Except.ok.injEq] at checked
  obtain ⟨_, ⟨reach, rfl⟩, _, _, _, info, _, _, validated, _, _, delta, balances, _, signed, _,
    payments, rfl⟩ := checked
  exact ⟨⟨isView_setupForTx tx, reach, validated, signed, delta, balances, payments⟩, rfl⟩

theorem getHolderCommitmentForClose_ok (strict : ctx.validator.Strict) {closing}
    (ok : chan.getHolderCommitmentForClose ctx commitmentNumber = .ok closing) :
    closing.commitmentNumber = chan.enforcementState.nextHolderCommitNum
        ∧ chan.enforcementState.nextHolderCommitInfo
          = some (closing.info, closing.counterpartySignatures)
      ∨ closing.commitmentNumber + 1 = chan.enforcementState.nextHolderCommitNum
        ∧ chan.enforcementState.currentHolderCommitInfo = some closing.info
        ∧ chan.enforcementState.currentCounterpartySignatures
          = some closing.counterpartySignatures := by
  simp only [getHolderCommitmentForClose] at ok
  split at ok
  · rename_i info signatures pending
    cases ok
    by_cases next : commitmentNumber = chan.enforcementState.nextHolderCommitNum
    · rw [if_pos next] at pending
      exact .inl ⟨next, pending⟩
    · rw [if_neg next] at pending
      cases pending
  · simp only [bind_eq_ok, liftM_eq_ok, okOr_eq_ok, Except.ok.injEq,
      Validator.getCurrentHolderCommitmentInfo_eq_ok strict] at ok
    obtain ⟨info, ⟨current, slot⟩, signatures, signed, rfl⟩ := ok
    exact .inr ⟨current, slot, signed⟩

/-- What holds of a counterparty commitment that passed its checks, in whichever form it was
    given. -/
structure CounterpartyChecked (ctx : Context) (env : Env) (s : Locked)
    (commitment : CounterpartyCommitment) : Prop where
  isView : s.chan.IsView commitment.view
  validated : ctx.validator.validateCounterpartyCommitmentTx ctx.prims s.chan.enforcementState
    commitment.commitmentNumber commitment.point commitment.view (s.chan.getChainState env)
    commitment.info2 = .ok ()
  balances : s.chan.enforcementState.claimableBalances s.state.hasPreimage none
    (some commitment.info2) commitment.view s.chan.prevSetup = .ok commitment.delta
  payments : s.state.validatePayments s.chan.id0
    (s.chan.enforcementState.incomingPaymentsSummary none (some commitment.info2))
    (s.chan.enforcementState.paymentsSummary none (some commitment.info2)) commitment.delta
    ctx.validator = .ok ()

theorem checkCounterpartyCommitmentTxPhase2_ok {commitment}
    (checked : s.chan.checkCounterpartyCommitmentTxPhase2 ctx env s.state fundingOutpoint
      remotePerCommitmentPoint commitmentNumber values = .ok commitment) :
    CounterpartyChecked ctx env s commitment := by
  simp only [checkCounterpartyCommitmentTxPhase2, bind_eq_ok, setupForOutpoint_eq_ok,
    liftM_eq_ok, Except.ok.injEq] at checked
  obtain ⟨view, found, _, _, delta, balances, _, validated, _, _, _, payments, rfl⟩ := checked
  exact ⟨isView_of_find found, validated, balances, payments⟩

theorem checkCounterpartyCommitmentTx_recomposed {commitment}
    (checked : s.chan.checkCounterpartyCommitmentTx ctx env s.state tx outputWitscripts
      remotePerCommitmentPoint commitmentNumber feeratePerKw offeredHtlcs receivedHtlcs
      = .ok (.recomposed commitment)) :
    CounterpartyChecked ctx env s commitment
      ∧ commitment.commitmentNumber = commitmentNumber := by
  simp only [checkCounterpartyCommitmentTx, bind_eq_ok,
    liftM_eq_ok, err_bind, ite_err_eq_ok] at checked
  obtain ⟨_, _, _, info, _, delta, balances, _, validated, last⟩ := checked
  split at last
  · simp [bind_eq_ok] at last
  · simp only [bind_eq_ok, liftM_eq_ok, Except.ok.injEq, CheckedTx.recomposed.injEq] at last
    obtain ⟨_, payments, rfl⟩ := last
    have number : initialCommitmentNumber - (initialCommitmentNumber - commitmentNumber)
        = commitmentNumber := by
      bv_omega
    refine ⟨⟨isView_setupForTx tx, ?_, balances, payments⟩, number⟩
    simpa [makeCounterpartyCommitmentTxWithSetup, Primitives.newCommitmentTransaction,
      Primitives.txCreationKeys, number] using validated

theorem checkCounterpartyCommitmentTx_ok (strict : ctx.validator.Strict) {checkedTx}
    (checked : s.chan.checkCounterpartyCommitmentTx ctx env s.state tx outputWitscripts
      remotePerCommitmentPoint commitmentNumber feeratePerKw offeredHtlcs receivedHtlcs
      = .ok checkedTx) :
    ∃ commitment, checkedTx = .recomposed commitment
      ∧ CounterpartyChecked ctx env s commitment := by
  cases checkedTx with
  | recomposed commitment =>
    exact ⟨commitment, rfl, (checkCounterpartyCommitmentTx_recomposed checked).1⟩
  | verbatim sig =>
    -- under a strict policy a transaction that cannot be recomposed is not signed as it is
    simp only [checkCounterpartyCommitmentTx, bind_eq_ok,
      liftM_eq_ok, err_bind, ite_err_eq_ok] at checked
    obtain ⟨_, _, _, _, _, _, _, _, _, last⟩ := checked
    split at last
    · simp [PolicyFilter.policyErrorWithFilter_strict strict, bind_eq_ok, liftM_eq_ok] at last
    · simp [bind_eq_ok] at last
end Channel

end Vls
