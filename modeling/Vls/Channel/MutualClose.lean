import Vls.Channel.Holder
import Vls.Policy.MutualClose

/-! # Mutual closes

A channel is closed by agreement, with a transaction that pays out both sides. What an accepted
close pays is near what the current commitments pay, on the side that does not pay the fee. -/

namespace Vls

open Result

namespace Channel

variable (ctx : Context) (env : Env)

def signMutualCloseTxPhase2 (args : ValidateArgs) : ChannelCall Signature := do
  let s ← get
  ctx.validator.policy.validateMutualCloseTx ctx.prims env.wallet s.chan.setup
    s.chan.enforcementState args
  let sig := s.chan.keys.signClosingTransaction ctx.prims (s.chan.makeChannelParameters ctx)
    (args.closingTransaction ctx.prims s.chan.setup)
  Locked.modifyEstate fun estate => { estate with channelClosed := true }
  persist env
  return sig

def signMutualCloseTx (tx : Transaction) (opaths : List DerivationPath) :
    ChannelCall Signature := do
  let s ← get
  if opaths.length ≠ tx.output.length then
    throw (.err (Status.invalidArgument (s!"sign_mutual_close_tx: bad opath len {opaths.length} " ++
      s!"with tx.output len {tx.output.length}")))
  let closingTx ← ctx.validator.policy.decodeAndValidateMutualCloseTx ctx.prims env.wallet
    s.chan.setup s.chan.enforcementState tx opaths
  let sig := s.chan.keys.signClosingTransaction ctx.prims (s.chan.makeChannelParameters ctx)
    closingTx
  Locked.modifyEstate fun estate => { estate with channelClosed := true }
  persist env
  return sig

end Channel

def Near (margin a b : U64) : Prop :=
  a.toNat ≤ b.toNat + margin.toNat ∧ b.toNat ≤ a.toNat + margin.toNat

/-- A close by agreement that may be signed, given the current commitments. -/
structure ClosePasses (policy : SimplePolicy) (setup : ChannelSetup)
    (holderInfo counterpartyInfo : CommitmentInfo2) (toHolder toCounterparty : U64) : Prop where
  noHtlcs : holderInfo.htlcsIsEmpty = true ∧ counterpartyInfo.htlcsIsEmpty = true
  fits : toHolder.toNat + toCounterparty.toNat ≤ setup.channelValueSat.toNat
  outbound : setup.isOutbound = true →
    Near policy.epsilonSat toCounterparty counterpartyInfo.toBroadcasterValueSat
      ∧ Near policy.epsilonSat toCounterparty holderInfo.toCountersignerValueSat
  inbound : setup.isOutbound = false →
    Near policy.epsilonSat toHolder holderInfo.toBroadcasterValueSat
      ∧ Near policy.epsilonSat toHolder counterpartyInfo.toCountersignerValueSat

namespace SimplePolicy

variable {policy : SimplePolicy} {prims : Primitives} {wallet : Wallet} {setup : ChannelSetup}
  {estate : EnforcementState}

theorem validateMutualValue_ok (strict : policy.filter.Strict) {output source value expected}
    (ok : policy.validateMutualValue output value source expected = .ok ()) :
    Near policy.epsilonSat value expected := by
  unfold Near
  by_cases larger : value > expected
  · simp only [validateMutualValue, outsideEpsilonRange, if_pos larger,
      PolicyFilter.refuseIf_eq_ok strict, decide_eq_true_eq] at ok
    bv_omega
  · simp only [validateMutualValue, outsideEpsilonRange, if_neg larger,
      PolicyFilter.refuseIf_eq_ok strict, decide_eq_true_eq] at ok
    bv_omega

theorem validateMutualCloseTx_ok (strict : policy.filter.Strict) {args}
    (ok : policy.validateMutualCloseTx prims wallet setup estate args = .ok ()) :
    ∃ holderInfo counterpartyInfo, estate.currentHolderCommitInfo = some holderInfo
      ∧ estate.currentCounterpartyCommitInfo = some counterpartyInfo
      ∧ ClosePasses policy setup holderInfo counterpartyInfo args.toHolderValueSat
        args.toCounterpartyValueSat := by
  simp only [validateMutualCloseTx, bind_eq_ok, okOr_eq_ok,
    PolicyFilter.refuseIf_eq_ok strict, mapErr_eq_ok] at ok
  obtain ⟨holderInfo, holder, counterpartyInfo, counterparty, _, _, _, _, _, _, _, noHtlcs, sum,
    added, _, paid, rest⟩ := ok
  refine ⟨holderInfo, counterpartyInfo, holder, counterparty, ?_, ?_, ?_, ?_⟩
  · simpa using noHtlcs
  · have total := BitVec.toNat_of_checkedAdd added
    obtain ⟨fee, left, _⟩ := validateFee_ok strict paid
    omega
  · intro outbound
    simp only [outbound, if_true, bind_eq_ok] at rest
    obtain ⟨_, first, _, second, _⟩ := rest
    exact ⟨validateMutualValue_ok strict first, validateMutualValue_ok strict second⟩
  · intro inbound
    simp only [inbound, Bool.false_eq_true, if_false, bind_eq_ok] at rest
    obtain ⟨_, first, _, second, _⟩ := rest
    exact ⟨validateMutualValue_ok strict first, validateMutualValue_ok strict second⟩

theorem passingReading_ok {likely unlikely good}
    (ok : policy.passingReading prims wallet setup estate likely unlikely = .ok good) :
    policy.validateMutualCloseTx prims wallet setup estate good = .ok () := by
  simp only [passingReading] at ok
  split at ok
  · rename_i passed
    cases ok
    exact passed
  · cases ok
  · split at ok
    · rename_i passed
      cases ok
      exact passed
    · cases ok
    · cases ok

theorem decodeAndValidateMutualCloseTx_ok (strict : policy.filter.Strict) {tx walletPaths closingTx}
    (ok : policy.decodeAndValidateMutualCloseTx prims wallet setup estate tx walletPaths
      = .ok closingTx) :
    ∃ args, policy.validateMutualCloseTx prims wallet setup estate args = .ok ()
      ∧ closingTx = args.closingTransaction prims setup ∧ closingTx.built = tx := by
  simp only [decodeAndValidateMutualCloseTx, err_bind, ite_err_eq_ok] at ok
  obtain ⟨_, ok⟩ := ok
  split at ok
  · simp [bind_eq_ok] at ok
  · simp only [bind_eq_ok, PolicyFilter.refuseIf_eq_ok strict, Except.ok.injEq] at ok
    obtain ⟨_, _, _, _, ⟨likely, unlikely⟩, _, good, passed, _, same, rfl⟩ := ok
    exact ⟨good, passingReading_ok passed, rfl, not_not.mp same⟩

end SimplePolicy

namespace Channel

open Call

variable {ctx : Context} {env : Env} {s s' : Locked} {sig : Signature}

theorem signMutualCloseTxPhase2_ok {args}
    (signed : signMutualCloseTxPhase2 ctx env args s = .ok sig s') :
    ctx.validator.policy.validateMutualCloseTx ctx.prims env.wallet s.chan.setup
      s.chan.enforcementState args = .ok () := by
  have ends : Ends (signMutualCloseTxPhase2 ctx env args) s
      (fun _ _ => ctx.validator.policy.validateMutualCloseTx ctx.prims env.wallet s.chan.setup
        s.chan.enforcementState args = .ok ()) (fun _ _ => True) := by
    simp only [signMutualCloseTxPhase2, ends_bind, ends_get, ends_lift_validation, ends_lift,
      liftM_eq_ok, Locked.ends_modifyEstate, ends_pure, implies_true, and_true]
    intro _ passed _ _
    exact passed
  exact ends.ok signed

theorem signMutualCloseTx_ok (strict : ctx.validator.Strict) {tx opaths}
    (signed : signMutualCloseTx ctx env tx opaths s = .ok sig s') :
    ∃ args, ctx.validator.policy.validateMutualCloseTx ctx.prims env.wallet s.chan.setup
        s.chan.enforcementState args = .ok ()
      ∧ (args.closingTransaction ctx.prims s.chan.setup).built = tx := by
  have ends : Ends (signMutualCloseTx ctx env tx opaths) s
      (fun _ _ => ∃ closingTx, ctx.validator.policy.decodeAndValidateMutualCloseTx ctx.prims
        env.wallet s.chan.setup s.chan.enforcementState tx opaths = .ok closingTx)
      (fun _ _ => True) := by
    simp only [signMutualCloseTx, ends_bind, ends_get, ends_ite, ends_throw, ends_pure,
      ends_lift_validation, ends_lift, liftM_eq_ok, Locked.ends_modifyEstate, implies_true,
      and_true, true_and]
    intro _ closingTx passed _ _
    exact ⟨closingTx, passed⟩
  obtain ⟨closingTx, passed⟩ := ends.ok signed
  obtain ⟨args, valid, rfl, same⟩ :=
    SimplePolicy.decodeAndValidateMutualCloseTx_ok strict passed
  exact ⟨args, valid, same⟩

end Channel

end Vls
