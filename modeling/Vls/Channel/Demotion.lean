import Vls.Channel.Accounting
import Vls.Channel.Toy
import Vls.Channel.Within
import Vls.Node.Records
import Vls.Policy.Conserved
import Vls.Policy.Demotion

/-! # What stands behind a check that is demoted

What follows a demoted check runs without it: an unwrap of a slot that may be empty, an assertion,
arithmetic. Here is said which of them a request can reach, and what else keeps it from them. -/

namespace Vls

open Result Channel PolicyFilter EnforcementState NodeState List Option

variable {estate : EnforcementState} {hasPreimage : PaymentHash → Bool} {info : CommitmentInfo2}
  {setup : ChannelSetup} {prevSetup : Option ChannelSetup} {channelId : ChannelId}
  {validator : Validator} {txkeys : TxCreationKeys} {feerate : U32} {toHolder toCounterparty : U64}
  {htlcs : List HTLCOutputInCommitment} {offered received : List HTLCInfo2}
  {commitment : CounterpartyCommitment} {witscripts : List Script} {height : Option U32}
  {spent : List Bool} {claim : ClaimableHtlc}

/-- A commitment transaction has outputs for some of the HTLCs it is built from. -/
structure Primitives.TrimsHtlcs (prims : Primitives) : Prop where
  nondust : ∀ parts, (prims.buildCommitment parts).2.length ≤ parts.htlcs.length

/-- The decoder of transactions refuses what it cannot read. -/
structure Context.DecodesSafely (ctx : Context) : Prop where
  decode : ∀ keys setup isCounterparty tx witscripts,
    NeverPanics (ctx.decodeCommitmentTx keys setup isCounterparty tx witscripts)

section checks

variable {ctx : Context} {chan : Channel} {env : Env} {state : NodeState}

theorem minOpt_isSome {a b} (known : a.isSome ∨ b.isSome) : (minOpt a b).isSome := by
  cases a <;> cases b <;> simp_all [minOpt]

theorem flattenOrErr_isSome {balance flat}
    (ok : flattenOrErr (some balance) = .ok flat) : flat.isSome := by
  cases balance with
  | none => cases ok
  | some value =>
    cases ok
    rfl

theorem claimableBalances_neverPanics :
    NeverPanics (estate.claimableBalances hasPreimage (some info) none setup prevSetup)
      ∧ NeverPanics (estate.claimableBalances hasPreimage none (some info) setup prevSetup) := by
  simp only [claimableBalances, isNone_some, isNone_none, isSome_some,
    isSome_none, Bool.false_eq_true, and_false, if_false, if_true, map_some,
    avoids_bind, flattenOrErr_avoids, avoids_ok, true_and, avoids_expect, implies_true, and_true]
  constructor
  · intro holder flat counterparty _ _
    exact minOpt_isSome (.inl (flattenOrErr_isSome flat))
  · intro holder _ counterparty flat _
    exact minOpt_isSome (.inr (flattenOrErr_isSome flat))

def NodeState.Adds (state : NodeState) (delta : BalanceDelta) : Prop :=
  state.excessAmount.toNat + delta.newBal.toNat < 2 ^ 64

theorem NodeState.Adds.checkedAdd {delta} (adds : state.Adds delta) :
    (state.excessAmount.checkedAdd delta.newBal).isSome := by
  have fits : state.excessAmount.toNat + delta.newBal.toNat < 2 ^ 64 := adds
  simp only [BitVec.checkedAdd, if_pos fits, isSome_some]

theorem validatePayments_neverPanics {incoming outgoing delta}
    (adds : validator.enforceBalance = true → state.Adds delta) :
    NeverPanics (state.validatePayments channelId incoming outgoing delta validator) := by
  simp only [validatePayments, avoids_bind, preflight_avoids, refuseIf_avoids, true_and]
  intro _ _ _ _
  split
  · rename_i enforced
    simp only [avoids_bind, avoids_expect]
    refine ⟨fun _ => (adds enforced).checkedAdd, ?_⟩
    intro sum _
    split <;> simp
  · simp

theorem adds_of_validatePayments {incoming outgoing delta}
    (validated : state.validatePayments channelId incoming outgoing delta validator = .ok ())
    (enforced : validator.enforceBalance = true) : state.Adds delta := by
  simp only [validatePayments, bind_eq_ok, if_pos enforced, expect_eq_ok] at validated
  obtain ⟨_, _, _, _, sum, added, _⟩ := validated
  have total := BitVec.toNat_of_checkedAdd added
  have below := sum.isLt
  unfold NodeState.Adds
  omega

theorem applyPayments_neverPanics {incoming outgoing delta}
    (adds : validator.enforceBalance = true → state.Adds delta)
    (covers : validator.enforceBalance = true → state.Covers delta) :
    NeverPanics (state.applyPayments channelId incoming outgoing delta validator info) := by
  simp only [applyPayments, adjustedExcess, avoids_bind, avoids_ite,
    avoids_expect, avoids_ok, implies_true, and_true]
  intro enforced
  refine ⟨fun _ => (adds enforced).checkedAdd, ?_⟩
  intro sum added _
  have total := BitVec.toNat_of_checkedAdd (expect_eq_ok.mp added)
  have enough : delta.curBal ≤ sum := by
    rw [BitVec.le_def, total]
    exact covers enforced
  simp [BitVec.checkedSub, enough]

theorem checkHtlcSignatures_neverPanics {txkeys feerate txid key sigs htlcs ndx}
    (enough : ndx + htlcs.length ≤ sigs.length) :
    NeverPanics (chan.checkHtlcSignatures ctx txkeys feerate txid key sigs htlcs ndx) := by
  induction htlcs generalizing ndx with
  | nil => simp [checkHtlcSignatures]
  | cons htlc rest ih =>
    simp only [length_cons] at enough
    have found : ndx < sigs.length := by omega
    have later := @ih (ndx + 1) (by omega)
    simp [checkHtlcSignatures, later, found]

theorem checkHolderTxSignatures_neverPanics {point signatures tx}
    (enough : tx.nondustHtlcs.length ≤ signatures.htlcSigs.length) :
    NeverPanics (chan.checkHolderTxSignatures ctx setup point txkeys feerate signatures tx) := by
  have htlcs := @checkHtlcSignatures_neverPanics ctx chan txkeys feerate
    (ctx.prims.computeTxid tx.transaction)
  simp only [checkHolderTxSignatures, err_bind, avoids_ite, avoids_err, implies_true,
    avoids_bind, avoids_okOr, true_and]
  intro _ key _
  apply htlcs
  omega

end checks

/-- A new commitment, of the holder or of the counterparty, with the setup of its funding. -/
structure NewCommitment where
  view : ChannelSetup
  number : U64
  holder : Option CommitmentInfo2
  counterparty : Option CommitmentInfo2
  deriving DecidableEq

namespace NewCommitment

variable (s : Locked) (new : NewCommitment)

def delta : Option BalanceDelta :=
  (s.chan.enforcementState.claimableBalances s.state.hasPreimage new.holder new.counterparty
    new.view s.chan.prevSetup).toOption

def incoming : Map PaymentHash U64 :=
  s.chan.enforcementState.incomingPaymentsSummary new.holder new.counterparty

def outgoing : Map PaymentHash U64 :=
  s.chan.enforcementState.paymentsSummary new.holder new.counterparty

def touched : List PaymentHash := summaryHashes (new.incoming s) (new.outgoing s)

def Unwrapped (prims : Primitives) : Prop :=
  ∀ info ∈ new.holder.or new.counterparty,
    SimplePolicy.Unwrapped prims s.chan.enforcementState new.number new.view info

/-- What comes in and goes out for a payment can be added up and compared in 64 bits. -/
structure Computes (policy : SimplePolicy) (hash : PaymentHash) (incomingSat outgoingSat : U64) :
    Prop where
  sums : ∀ payment ∈ s.state.payments.lookup hash,
    payment.incomingTotal + ((new.incoming s).getD hash 0).toNat < 2 ^ 64
      ∧ payment.outgoingTotal + ((new.outgoing s).getD hash 0).toNat < 2 ^ 64
  incoming : incomingSat.toNat * 1000 < 2 ^ 64
  outgoing : outgoingSat.toNat * 1000 < 2 ^ 64
  invoiced : ∀ invoice ∈ s.state.invoices.lookup hash,
    incomingSat.toNat * 1000 + (invoice.amountMsat.toNat + policy.maxRoutingFeeMsat.toNat) < 2 ^ 64
  issued : ∀ invoice ∈ s.state.issuedInvoices.lookup hash,
    outgoingSat.toNat + invoice.amountMsat.toNat / 1000 < 2 ^ 64

def ComputesAll (policy : SimplePolicy) : Prop :=
  ∀ hash ∈ new.touched s,
    let (incomingSat, outgoingSat) :=
      s.state.updatedTotals s.chan.id0 (new.incoming s) (new.outgoing s) hash
    new.Computes s policy hash incomingSat outgoingSat

end NewCommitment

namespace ChannelRequest

variable (ctx : Context) (s : Locked)

/-- The commitment that a request brings. -/
def brought : ChannelRequest → Option NewCommitment
  | .validateHolderCommitmentTx tx witscripts number feeratePerKw offeredHtlcs receivedHtlcs _ =>
    let view := s.chan.setupForTx tx
    (ctx.decodeCommitmentTx s.chan.keys view false tx witscripts).toOption.map fun info =>
      ⟨view, number, some (buildHolderCommitmentInfo info.toBroadcasterValueSat
        info.toCountersignerValueSat offeredHtlcs receivedHtlcs feeratePerKw), none⟩
  | .validateHolderCommitmentTxPhase2 fundingOutpoint number values _ =>
    (s.chan.setupForOutpoint fundingOutpoint).toOption.map fun view =>
      ⟨view, number, some (buildHolderCommitmentInfo values.toHolderValueSat
        values.toCounterpartyValueSat values.offeredHtlcs values.receivedHtlcs
        values.feeratePerKw), none⟩
  | .signCounterpartyCommitmentTx tx witscripts _ number feeratePerKw offeredHtlcs receivedHtlcs =>
    let decoded := ctx.decodeCommitmentTx s.chan.keys s.chan.setup true tx witscripts
    decoded.toOption.map fun info =>
      ⟨s.chan.setupForTx tx, number, none, some (buildCounterpartyCommitmentInfo
        info.toCountersignerValueSat info.toBroadcasterValueSat offeredHtlcs receivedHtlcs
        feeratePerKw)⟩
  | .signCounterpartyCommitmentTxPhase2 fundingOutpoint _ number values =>
    (s.chan.setupForOutpoint fundingOutpoint).toOption.map fun view =>
      ⟨view, number, none, some (buildCounterpartyCommitmentInfo values.toHolderValueSat
        values.toCounterpartyValueSat values.offeredHtlcs values.receivedHtlcs
        values.feeratePerKw)⟩
  | _ => none

/-- The commitment that a request brings or makes current. -/
def applied (request : ChannelRequest) : Option NewCommitment :=
  if request.movesOn s then
    s.chan.enforcementState.nextHolderCommitInfo.map fun next =>
      ⟨s.chan.setup, s.chan.enforcementState.nextHolderCommitNum, some next.1, none⟩
  else request.brought ctx s

def SignsHtlcs : ChannelRequest → Prop
  | .validateHolderCommitmentTx _ _ _ _ offeredHtlcs receivedHtlcs signatures =>
    offeredHtlcs.length + receivedHtlcs.length ≤ signatures.htlcSigs.length
  | .validateHolderCommitmentTxPhase2 _ _ values signatures =>
    values.offeredHtlcs.length + values.receivedHtlcs.length ≤ signatures.htlcSigs.length
  | _ => True

/-- The commitment to close with is there: the waiting one is asked for, or the slot of the current
    one is filled, or the number is refused. -/
def FindsCommitment : ChannelRequest → Prop
  | .signHolderCommitmentTxPhase2 commitmentNumber =>
    let estate := s.chan.enforcementState
    (commitmentNumber = estate.nextHolderCommitNum ∧ estate.nextHolderCommitInfo.isSome)
      ∨ estate.currentHolderCommitInfo.isSome
      ∨ ctx.validator.filter.filter "policy-other" = .error
        ∧ commitmentNumber + 1 ≠ estate.nextHolderCommitNum
  | .signHolderCommitmentTxForRecovery .. =>
    let estate := s.chan.enforcementState
    estate.nextHolderCommitInfo.isSome ∨ estate.currentHolderCommitInfo.isSome
      ∨ estate.nextHolderCommitNum = 0
  | _ => True

/-- The transactions that claim the HTLCs of the commitment to close with can be built. -/
def BuildsHtlcTxs : ChannelRequest → Prop
  | .signHolderCommitmentTxForRecovery .. =>
    ∀ commitment recomposed, s.chan.getLatestHolderCommitmentForClose ctx = .ok commitment →
      s.chan.recomposeHolderCommitmentTx ctx commitment.commitmentNumber commitment.info
        = .ok recomposed →
      ∀ htlc ∈ recomposed.1.nondustHtlcs, ∀ txid feerate delayedKey revocationKey, ∃ tx ∈
        ctx.prims.buildHtlcTransaction txid feerate s.chan.setup.counterpartySelectedContestDelay
          htlc s.chan.setup.features delayedKey revocationKey,
        tx.input ≠ [] ∧ tx.output ≠ []
  | _ => True

def bounds (hash : PaymentHash) : Option (U32 × U32) :=
  (s.state.payments.lookup hash).bind (·.getCltvBounds)

def number : ChannelRequest → Option U64
  | .getPerCommitmentSecret commitmentNumber => some commitmentNumber
  | .revokePreviousHolderCommitment newCurrentCommitmentNumber => some newCurrentCommitmentNumber
  | .signCounterpartyCommitmentTx _ _ _ commitmentNumber _ _ _ => some commitmentNumber
  | .signCounterpartyCommitmentTxPhase2 _ _ commitmentNumber _ => some commitmentNumber
  | .validateCounterpartyRevocation revokeNum _ => some revokeNum
  | _ => none

def OnCommitments : ChannelRequest → Prop
  | .htlcsFulfilled _ => False
  | _ => True

/-- A request that needs no check that could be demoted. -/
structure Careful (request : ChannelRequest) : Prop where
  signsHtlcs : request.SignsHtlcs
  findsCommitment : request.FindsCommitment ctx s
  buildsHtlcTxs : request.BuildsHtlcTxs ctx s
  number : ∀ number ∈ request.number, number ≤ initialCommitmentNumber
  excess : ctx.validator.enforceBalance = true → request.KeepsExcess ctx s
    ∧ ∀ new ∈ request.applied ctx s, ∀ delta ∈ new.delta s, s.state.Adds delta
  unwrapped : ∀ new ∈ request.brought ctx s, new.Unwrapped s ctx.prims
  cltv : ∀ new ∈ request.brought ctx s, ∀ hash ∈ new.touched s, ∀ bound ∈ bounds s hash,
    ctx.validator.filter.filter "policy-routing-cltv-delta" = .error ∨ bound.2 ≤ bound.1
  computes : ∀ new ∈ request.applied ctx s, new.ComputesAll s ctx.validator.policy

/-- A step of arithmetic goes below zero or beyond its word. A check that stands before it was
    passed, or it was violated and let the request go on. -/
inductive Wraps : ChannelRequest → Prop where
  | cltv {request : ChannelRequest} {new : NewCommitment} {hash : PaymentHash}
      {incoming outgoing : U32} :
      request.brought ctx s = some new → hash ∈ new.touched s →
      bounds s hash = some (incoming, outgoing) →
      ctx.validator.filter.Passes "policy-routing-cltv-delta" (incoming ≤ outgoing) →
      incoming < outgoing → Wraps request
  | commitment {request : ChannelRequest} {new : NewCommitment} :
      request.brought ctx s = some new → ¬ new.Unwrapped s ctx.prims → Wraps request
  | payment {request : ChannelRequest} {new : NewCommitment} :
      request.applied ctx s = some new → ¬ new.ComputesAll s ctx.validator.policy → Wraps request
  | secret {commitmentNumber : U64} :
      ctx.validator.filter.Passes "policy-revoke-new-commitment-signed"
        (commitmentNumber + 2 > s.chan.enforcementState.nextHolderCommitNum) →
      initialCommitmentNumber < commitmentNumber →
      Wraps (.getPerCommitmentSecret commitmentNumber)
  | revoked {newCurrentCommitmentNumber : U64} :
      newCurrentCommitmentNumber ≥ 1 →
      initialCommitmentNumber < newCurrentCommitmentNumber - 1 →
      Wraps (.revokePreviousHolderCommitment newCurrentCommitmentNumber)
  | signedTx {tx : Transaction} {outputWitscripts : List Script} {point : PublicKey}
      {commitmentNumber : U64} {feeratePerKw : U32} {offeredHtlcs receivedHtlcs : List HTLCInfo2} :
      ctx.validator.filter.Passes "policy-commitment-previous-revoked"
        (commitmentNumber > s.chan.enforcementState.nextCounterpartyRevokeNum + 1) →
      initialCommitmentNumber < commitmentNumber →
      Wraps (.signCounterpartyCommitmentTx tx outputWitscripts point commitmentNumber
        feeratePerKw offeredHtlcs receivedHtlcs)
  | signed {outpoint : OutPoint} {point : PublicKey} {commitmentNumber : U64}
      {values : Channel.CommitmentValues} :
      ctx.validator.filter.Passes "policy-commitment-previous-revoked"
        (commitmentNumber > s.chan.enforcementState.nextCounterpartyRevokeNum + 1) →
      initialCommitmentNumber < commitmentNumber →
      Wraps (.signCounterpartyCommitmentTxPhase2 outpoint point commitmentNumber values)
  | counterpartyRevoked {revokeNum : U64} {secret : SecretKey} :
      ctx.validator.filter.Passes "policy-commitment-previous-revoked"
        (revokeNum ≠ s.chan.enforcementState.nextCounterpartyRevokeNum
          ∧ revokeNum + 1 ≠ s.chan.enforcementState.nextCounterpartyRevokeNum) →
      initialCommitmentNumber < revokeNum →
      Wraps (.validateCounterpartyRevocation revokeNum secret)

theorem Careful.not_wraps {ctx} {s : Locked} {request : ChannelRequest}
    (careful : request.Careful ctx s) : ¬ request.Wraps ctx s := by
  intro wraps
  cases wraps with
  | cltv brings touches recorded passes below =>
    rcases careful.cltv _ brings _ touches _ recorded with strict | ordered
    · have demoted := passes (BitVec.le_of_lt below)
      rw [strict] at demoted
      cases demoted
    · exact absurd below (BitVec.not_lt.mpr ordered)
  | commitment brings wraps => exact wraps (careful.unwrapped _ brings)
  | payment applies wraps => exact wraps (careful.computes _ applies)
  | secret _ below => exact absurd below (BitVec.not_lt.mpr (careful.number _ rfl))
  | revoked positive below =>
    have within := careful.number _ rfl
    have : (1 : U64) ≤ _ := positive
    bv_omega
  | signedTx _ below => exact absurd below (BitVec.not_lt.mpr (careful.number _ rfl))
  | signed _ below => exact absurd below (BitVec.not_lt.mpr (careful.number _ rfl))
  | counterpartyRevoked _ below => exact absurd below (BitVec.not_lt.mpr (careful.number _ rfl))

theorem Careful.payments_neverPanic {ctx s} {request : ChannelRequest}
    {incoming outgoing : Map PaymentHash U64} {delta : BalanceDelta}
    (careful : request.Careful ctx s) (new : NewCommitment) (stays : request.movesOn s = false)
    (brings : request.brought ctx s = some new) (balances : new.delta s = some delta) :
    NeverPanics (s.state.validatePayments channelId incoming outgoing delta ctx.validator) := by
  apply validatePayments_neverPanics
  intro enforced
  refine (careful.excess enforced).2 new ?_ delta balances
  simpa [applied, stays] using brings

end ChannelRequest

namespace Channel

variable {ctx : Context} {chan : Channel} {env : Env} {state : NodeState} {s : Locked}

theorem nondustHtlcs_holder (trims : ctx.prims.TrimsHtlcs) {number point} :
    (chan.makeHolderCommitmentTxWithSetup ctx setup number point feerate toHolder toCounterparty
      htlcs).nondustHtlcs.length ≤ htlcs.length :=
  trims.nondust _

theorem length_htlcsInfo2ToOic :
    (htlcsInfo2ToOic
        (buildHolderCommitmentInfo toHolder toCounterparty offered received feerate).offeredHtlcs
        (buildHolderCommitmentInfo toHolder toCounterparty offered received
          feerate).receivedHtlcs).length
      = offered.length + received.length := by
  simp [htlcsInfo2ToOic, buildHolderCommitmentInfo, CommitmentInfo2.new]

theorem checkHolderCommitmentTxPhase2_neverPanics (trims : ctx.prims.TrimsHtlcs)
    {outpoint : OutPoint} {number : U64} {values : CommitmentValues}
    {signatures : CommitmentSignatures}
    (careful : (ChannelRequest.validateHolderCommitmentTxPhase2 outpoint number values
      signatures).Careful ctx s) :
    NeverPanics (s.chan.checkHolderCommitmentTxPhase2 ctx env s.state outpoint number values
      signatures) := by
  simp only [checkHolderCommitmentTxPhase2, avoids_bind, avoids_liftM, setupForOutpoint_avoids,
    getPerCommitmentPoint_avoids, claimableBalances_neverPanics,
    Validator.validateHolderCommitmentTx_avoids, true_and, avoids_ok, implies_true, and_true]
  intro view found point _ delta balances _ _
  refine ⟨checkHolderTxSignatures_neverPanics ?_, fun _ _ => ?_⟩
  · apply le_trans (nondustHtlcs_holder trims)
    rw [length_htlcsInfo2ToOic]
    exact careful.signsHtlcs
  · exact careful.payments_neverPanic ⟨view, number, some _, none⟩ rfl
      (by simp [ChannelRequest.brought, found, Except.toOption]) (toOption_eq_some.mpr balances)

theorem checkHolderCommitmentTx_neverPanics (trims : ctx.prims.TrimsHtlcs)
    (decodes : ctx.DecodesSafely) {tx : Transaction} {witscripts : List Script} {number : U64}
    {feerate : U32} {offered received : List HTLCInfo2} {signatures : CommitmentSignatures}
    (careful : (ChannelRequest.validateHolderCommitmentTx tx witscripts number feerate offered
      received signatures).Careful ctx s) :
    NeverPanics (s.chan.checkHolderCommitmentTx ctx env s.state tx witscripts number feerate
      offered received signatures) := by
  simp only [checkHolderCommitmentTx, err_bind, avoids_bind, avoids_liftM, avoids_ite, avoids_err,
    getPerCommitmentPoint_avoids, claimableBalances_neverPanics, decodes.decode,
    Validator.validateChannelValue, SimplePolicy.validateChannelValue, refuseIf_avoids,
    Validator.validateHolderCommitmentTx_avoids, true_and, avoids_ok, implies_true, and_true]
  intro point _ _ _ _ info decoded _ _ _ _ delta balances
  refine ⟨checkHolderTxSignatures_neverPanics ?_, fun _ _ => ?_⟩
  · apply le_trans (nondustHtlcs_holder trims)
    rw [length_htlcsInfo2ToOic]
    exact careful.signsHtlcs
  · have decoded := liftM_eq_ok.mp decoded
    exact careful.payments_neverPanic ⟨s.chan.setupForTx tx, number, some _, none⟩ rfl
      (by simp [ChannelRequest.brought, decoded, Except.toOption]) (toOption_eq_some.mpr balances)

theorem counterpartySigned_neverPanics {estate commitment}
    (proper : commitment.commitmentNumber + 1 ≠ 0) :
    NeverPanics (counterpartySigned ctx estate commitment) := by
  simp only [counterpartySigned, Validator.setNextCounterpartyCommitNum,
    setNextCounterpartyCommitNum, if_neg proper, avoids_bind,
    refuseIf_avoids, avoids_ok, implies_true, and_self]

theorem advanceCounterpartyCommitment_neverPanics (proper : commitment.commitmentNumber + 1 ≠ 0)
    (payments : s.state.validatePayments s.chan.id0
      (s.chan.enforcementState.incomingPaymentsSummary none (some commitment.info2))
      (s.chan.enforcementState.paymentsSummary none (some commitment.info2)) commitment.delta
      ctx.validator = .ok ()) :
    Call.NeverPanics (advanceCounterpartyCommitment ctx env commitment) s := by
  have signed := @counterpartySigned_neverPanics ctx s.chan.enforcementState commitment proper
  have applied : NeverPanics (s.state.applyPayments s.chan.id0
      (s.chan.enforcementState.incomingPaymentsSummary none (some commitment.info2))
      (s.chan.enforcementState.paymentsSummary none (some commitment.info2)) commitment.delta
      ctx.validator commitment.info2) :=
    applyPayments_neverPanics (adds_of_validatePayments payments)
      (covers_of_validatePayments payments)
  simp [advanceCounterpartyCommitment, signed, applied]

theorem number_proper {number} (within : number ≤ initialCommitmentNumber) : number + 1 ≠ 0 := by
  have : number.toNat ≤ 0xffffffffffff := within
  bv_omega

theorem signCounterpartyCommitmentTxPhase2_neverPanics {outpoint : OutPoint} {point : PublicKey}
    {number : U64} {values : CommitmentValues}
    (careful : (ChannelRequest.signCounterpartyCommitmentTxPhase2 outpoint point number
      values).Careful ctx s) :
    Call.NeverPanics (signCounterpartyCommitmentTxPhase2 ctx env outpoint point number values)
      s := by
  have checks : NeverPanics (s.chan.checkCounterpartyCommitmentTxPhase2 ctx env s.state outpoint
      point number values) := by
    simp only [checkCounterpartyCommitmentTxPhase2, avoids_bind, avoids_liftM,
      setupForOutpoint_avoids, Validator.validateChannelValue, SimplePolicy.validateChannelValue,
      refuseIf_avoids, claimableBalances_neverPanics,
      Validator.validateCounterpartyCommitmentTx_avoids, avoids_okOr, true_and, avoids_ok,
      implies_true, and_true]
    intro view found _ _ delta balances _ _ _ _
    exact careful.payments_neverPanic ⟨view, number, none, some _⟩ rfl
      (by simp [ChannelRequest.brought, found, Except.toOption]) (toOption_eq_some.mpr balances)
  simp only [signCounterpartyCommitmentTxPhase2, Call.avoids_get_bind, Call.avoids_lift_bind,
    checks, true_and]
  intro commitment checked
  have same : commitment.commitmentNumber = number := by
    simp only [checkCounterpartyCommitmentTxPhase2, bind_eq_ok, Except.ok.injEq] at checked
    obtain ⟨_, _, _, _, _, _, _, _, _, _, _, _, rfl⟩ := checked
    rfl
  have advanced : Call.NeverPanics (advanceCounterpartyCommitment ctx env commitment) s := by
    apply advanceCounterpartyCommitment_neverPanics
    · rw [same]
      exact number_proper (careful.number _ rfl)
    · exact (checkCounterpartyCommitmentTxPhase2_ok checked).payments
  simpa using advanced

theorem signCounterpartyCommitmentTx_neverPanics (decodes : ctx.DecodesSafely)
    {tx : Transaction} {point : PublicKey} {number : U64}
    (careful : (ChannelRequest.signCounterpartyCommitmentTx tx witscripts point number feerate
      offered received).Careful ctx s) :
    Call.NeverPanics (signCounterpartyCommitmentTx ctx env tx witscripts point number feerate
      offered received) s := by
  have checks : NeverPanics (s.chan.checkCounterpartyCommitmentTx ctx env s.state tx witscripts
      point number feerate offered received) := by
    simp only [checkCounterpartyCommitmentTx, err_bind, avoids_bind, avoids_ite, avoids_err,
      avoids_liftM, Validator.validateChannelValue, SimplePolicy.validateChannelValue,
      refuseIf_avoids, decodes.decode, claimableBalances_neverPanics,
      Validator.validateCounterpartyCommitmentTx_avoids, true_and, avoids_ok,
      policyErrorWithFilter_avoids, implies_true, and_true]
    intro _ _ _ info decoded delta balances _ _ _
    have decoded := liftM_eq_ok.mp decoded
    exact careful.payments_neverPanic ⟨s.chan.setupForTx tx, number, none, some _⟩ rfl
      (by simp [ChannelRequest.brought, decoded, Except.toOption]) (toOption_eq_some.mpr balances)
  simp only [signCounterpartyCommitmentTx, Call.avoids_get_bind, Call.avoids_lift_bind, checks,
    true_and]
  intro outcome checked
  cases outcome with
  | verbatim sig => simp
  | recomposed commitment =>
    have advanced : Call.NeverPanics (advanceCounterpartyCommitment ctx env commitment) s := by
      apply advanceCounterpartyCommitment_neverPanics
      · rw [(checkCounterpartyCommitmentTx_recomposed checked).2]
        exact number_proper (careful.number _ rfl)
      · exact (checkCounterpartyCommitmentTx_recomposed checked).1.payments
    simpa using advanced

theorem validateCounterpartyRevocation_neverPanics {number secret} (proper : number + 1 ≠ 0) :
    Call.NeverPanics (validateCounterpartyRevocation ctx env number secret) s := by
  have set : ∀ estate : EnforcementState,
      NeverPanics (ctx.validator.setNextCounterpartyRevokeNum estate (number + 1)) := by
    intro estate
    simp only [Validator.setNextCounterpartyRevokeNum, setNextCounterpartyRevokeNum, if_neg proper,
      avoids_bind, refuseIf_avoids, avoids_ok, implies_true, and_self]
  simp only [validateCounterpartyRevocation, Call.avoids_get_bind, avoids_lift_validation,
    Validator.validateCounterpartyRevocation, SimplePolicy.validateCounterpartyRevocation,
    avoids_bind, refuseIf_avoids, storeSecret_avoids, avoids_modifyEstate_bind,
    Call.avoids_lift, set, persist_avoids, implies_true, and_self]

theorem revokePreviousHolderCommitment_neverPanics {number}
    (careful : (ChannelRequest.revokePreviousHolderCommitment number).Careful ctx s) :
    Call.NeverPanics (revokePreviousHolderCommitment ctx env number) s := by
  simp only [revokePreviousHolderCommitment, Call.avoids_get_bind]
  split
  · simp
  · rename_i due
    have due := not_not.mp due
    split
    · simp
    · rename_i info2 signatures waiting
      simp only [avoids_modifyEstate_bind, Call.avoids_get_bind, Call.avoids_lift_bind,
        claimableBalances_neverPanics, true_and]
      intro delta balances
      rw [Call.avoids_bind]
      constructor
      · -- the waiting commitment has the next number, so the counter moves by one
        simp [advanceHolderCommitmentState, Validator.setNextHolderCommitNum,
          setNextHolderCommitNum, due, Locked.withEstate, withoutNext]
      · intro released s' _
        have moves : (ChannelRequest.revokePreviousHolderCommitment number).movesOn s := by
          simp [ChannelRequest.movesOn, due, waiting]
        have pending : delta ∈ pendingDelta s := by
          rw [pendingDelta, waiting, mem_def, bind_some, toOption_eq_some]
          exact balances
        have applied : NeverPanics (s.state.applyPayments s.chan.id0
            ((withoutNext s.chan.enforcementState).incomingPaymentsSummary (some info2) none)
            ((withoutNext s.chan.enforcementState).paymentsSummary (some info2) none) delta
            ctx.validator info2) := by
          apply applyPayments_neverPanics
          · intro enforced
            refine (careful.excess enforced).2 ⟨s.chan.setup,
              s.chan.enforcementState.nextHolderCommitNum, some info2, none⟩ ?_ delta ?_
            · simp [ChannelRequest.applied, moves, waiting]
            · exact toOption_eq_some.mpr balances
          · exact fun enforced => (careful.excess enforced).1.1 moves delta pending
        simpa [Locked.withEstate] using applied

theorem activateInitialCommitment_neverPanics :
    Call.NeverPanics (activateInitialCommitment ctx env) s := by
  simp only [activateInitialCommitment, Call.avoids_get_bind]
  split
  · simp
  · split
    · simp
    · simp only [avoids_modifyEstate_bind, Call.avoids_lift_bind, Call.avoids_ite]
      constructor
      · intro first
        simp [setNextHolderCommitNum, withoutNext, first]
      · simp

theorem getHolderCommitmentForClose_neverPanics {number}
    (finds : (ChannelRequest.signHolderCommitmentTxPhase2 number).FindsCommitment ctx s) :
    NeverPanics (s.chan.getHolderCommitmentForClose ctx number) := by
  simp only [getHolderCommitmentForClose]
  split
  · simp
  · rename_i elsewhere
    simp only [avoids_bind, avoids_liftM, Validator.getCurrentHolderCommitmentInfo, refuseIf_avoids,
      avoids_expect, avoids_okOr, avoids_ok, true_and, implies_true, and_true, refuseIf_passes]
    intro _ passes _
    rcases finds with ⟨waits, filled⟩ | filled | ⟨strict, other⟩
    · rw [if_pos waits] at elsewhere
      simp [elsewhere] at filled
    · exact filled
    · have demoted := passes other
      rw [strict] at demoted
      cases demoted

theorem mem_claimable {height} (claimed : claim ∈ claimable state height spent htlcs) :
    claim.htlc ∈ htlcs := by
  simp only [claimable, mem_filterMap] at claimed
  obtain ⟨⟨htlc, idx⟩, member, found⟩ := claimed
  have listed : htlc ∈ htlcs := (mem_zipIdx member).2.2 ▸ getElem_mem _
  split at found
  · cases found
  · split at found
    · split at found
      · cases found
      · cases found
        exact listed
    · split at found
      · cases found
      · cases found
        exact listed

theorem mem_of_mem_batches {claims batch} (listed : batch ∈ chan.batches claims)
    (member : claim ∈ batch.1) : claim ∈ claims := by
  unfold batches at listed
  simp only at listed
  split at listed
  · rcases mem_append.mp listed with received | offered
    · split at received
      · cases received
      · obtain rfl := mem_singleton.mp received
        exact (mem_filter.mp member).1
    · obtain ⟨cltv, _, rfl⟩ := mem_map.mp offered
      exact (mem_filter.mp (mem_filter.mp member).1).1
  · rcases mem_append.mp listed with received | offered
    · obtain ⟨single, kept, rfl⟩ := mem_map.mp received
      obtain rfl := mem_singleton.mp member
      exact (mem_filter.mp kept).1
    · obtain ⟨cltv, _, singles⟩ := mem_flatMap.mp offered
      obtain ⟨single, kept, rfl⟩ := mem_map.mp singles
      obtain rfl := mem_singleton.mp member
      exact (mem_filter.mp (mem_filter.mp kept).1).1

theorem signHolderHtlcTxsForRecovery_neverPanics {holderTx txid sigs}
    (builds : ∀ htlc ∈ holderTx.nondustHtlcs, ∀ txid feerate delayedKey revocationKey,
      ∃ tx ∈ ctx.prims.buildHtlcTransaction txid feerate chan.setup.counterpartySelectedContestDelay
      htlc chan.setup.features delayedKey revocationKey, tx.input ≠ [] ∧ tx.output ≠ []) :
    NeverPanics (chan.signHolderHtlcTxsForRecovery ctx env state holderTx txid txkeys sigs spent
      height) := by
  have data : ∀ parts (claim : ClaimableHtlc), claim.htlc ∈ holderTx.nondustHtlcs →
      NeverPanics (chan.htlcSigningData ctx parts claim) := by
    intro parts claim listed
    obtain ⟨tx, built, inputs, outputs⟩ := builds claim.htlc listed parts.commitmentTxid
      parts.feeratePerKw parts.txkeys.broadcasterDelayedPaymentKey parts.txkeys.revocationKey
    have input : 0 < tx.input.length := length_pos_of_ne_nil inputs
    have output : 0 < tx.output.length := length_pos_of_ne_nil outputs
    rw [mem_def] at built
    simp [htlcSigningData, built, input, output]
  have batched : ∀ parts batch lockTime,
      (∀ claim ∈ batch, claim.htlc ∈ holderTx.nondustHtlcs) →
      NeverPanics (chan.buildAndSignBatchedHtlcTx ctx parts batch lockTime) := by
    intro parts batch lockTime listed
    have all := Avoids.mapM fun claim member => data parts claim (listed claim member)
    simp [buildAndSignBatchedHtlcTx, all]
  simp only [signHolderHtlcTxsForRecovery, err_bind, avoids_bind, getPerCommitmentPoint_avoids,
    avoids_ite, avoids_err, true_and, implies_true]
  intro point _ _
  apply Avoids.mapM
  intro batch member
  apply batched
  intro claim claimed
  exact mem_claimable (mem_of_mem_batches member claimed)

theorem signHolderCommitmentTxForRecoveryInner_neverPanics {persistClose}
    (careful : (ChannelRequest.signHolderCommitmentTxForRecovery spent persistClose height).Careful
      ctx s) :
    Call.NeverPanics (signHolderCommitmentTxForRecoveryInner ctx env spent persistClose height)
      s := by
  have latest : NeverPanics (s.chan.getLatestHolderCommitmentForClose ctx) := by
    simp only [getLatestHolderCommitmentForClose, avoids_ite, avoids_bind, avoids_okOr, true_and]
    constructor
    · intro waits
      exact getHolderCommitmentForClose_neverPanics (.inl ⟨rfl, waits⟩)
    · intro nothing number before
      rcases careful.findsCommitment with waits | filled | zero
      · exact absurd waits nothing
      · exact getHolderCommitmentForClose_neverPanics (.inr (.inl filled))
      · rw [okOr_eq_ok, zero] at before
        cases before
  simp only [signHolderCommitmentTxForRecoveryInner,
    Call.avoids_get_bind, Call.avoids_lift_bind, latest, true_and]
  intro commitment closes
  have recomposes : NeverPanics (s.chan.recomposeHolderCommitmentTx ctx
      commitment.commitmentNumber commitment.info) := by
    simp [recomposeHolderCommitmentTx]
  simp only [recomposes, true_and]
  intro recomposed same
  have htlcTxs := careful.buildsHtlcTxs commitment recomposed closes same
  cases persistClose <;> simp [signHolderHtlcTxsForRecovery_neverPanics htlcTxs]

theorem perform_neverPanics (trims : ctx.prims.TrimsHtlcs) (decodes : ctx.DecodesSafely)
    {request : ChannelRequest} (concerns : request.OnCommitments)
    (careful : request.Careful ctx s) : Call.NeverPanics (perform ctx env request) s := by
  cases request with
  | validateHolderCommitmentTx =>
    have checks := @checkHolderCommitmentTx_neverPanics ctx env s trims decodes
    simp [perform, validateHolderCommitmentTx, checks careful]
  | validateHolderCommitmentTxPhase2 =>
    have checks := @checkHolderCommitmentTxPhase2_neverPanics ctx env s trims
    simp [perform, validateHolderCommitmentTxPhase2, checks careful]
  | revokePreviousHolderCommitment =>
    simpa [perform] using revokePreviousHolderCommitment_neverPanics careful
  | activateInitialCommitment => simpa [perform] using activateInitialCommitment_neverPanics
  | signHolderCommitmentTxPhase2 =>
    have found := getHolderCommitmentForClose_neverPanics careful.findsCommitment
    simp [perform, signHolderCommitmentTxPhase2, found, recomposeHolderCommitmentTx]
  | signHolderCommitmentTxForRecovery =>
    simpa [perform] using signHolderCommitmentTxForRecoveryInner_neverPanics careful
  | getPerCommitmentSecret => simp [perform, getPerCommitmentSecret]
  | getPerCommitmentSecretOrNone => trivial
  | signCounterpartyCommitmentTx =>
    simpa [perform] using signCounterpartyCommitmentTx_neverPanics decodes careful
  | signCounterpartyCommitmentTxPhase2 =>
    simpa [perform] using signCounterpartyCommitmentTxPhase2_neverPanics careful
  | validateCounterpartyRevocation =>
    have proper := number_proper (careful.number _ rfl)
    simpa [perform] using validateCounterpartyRevocation_neverPanics proper
  | setupSplice => simp [perform, setupSplice, Validator.validateSetupChannel]
  | confirmFundingLocked => simp [perform, confirmFundingLocked]
  | htlcsFulfilled => exact concerns.elim

end Channel

/-- A request comes to no harm: it is answered, no arithmetic behind a check wraps, and what it
    returns it returns as well if more rules are demoted. -/
structure ChannelRequest.Unharmed (ctx : Context) (env : Env) (s : Locked)
    (request : ChannelRequest) : Prop where
  answered : Call.NeverPanics (perform ctx env request) s
  noWrap : ¬ request.Wraps ctx s
  grows : ∀ filter, ctx.validator.filter.Within filter → Call.Within (perform ctx env request)
      (perform { ctx with validator := ctx.validator.withFilter filter } env request) s

namespace ChannelInput

variable (ctx : Context) (s : Locked)

def Careful : ChannelInput → Prop
  | .others _ => True
  | .call _ request => request.Careful ctx s

def Unharmed : ChannelInput → Prop
  | .others _ => True
  | .call env request => request.OnCommitments → request.Unharmed ctx env s

end ChannelInput

def warningCtx : Context :=
  { Toy.ctx with validator := Toy.ctx.validator.withFilter .newPermissive }

theorem warningCtx_trims : warningCtx.prims.TrimsHtlcs := ⟨fun _ => Nat.le_refl _⟩

theorem warningCtx_decodes : warningCtx.DecodesSafely := by
  constructor
  intro keys setup isCounterparty tx witscripts
  exact avoids_ok

def lateValues : Channel.CommitmentValues :=
  ⟨1000, 979000, 0, [⟨10000, ⟨1⟩, 100⟩], [⟨10000, ⟨1⟩, 200⟩]⟩

def signLate (commitmentNumber : U64) : ChannelRequest :=
  .signCounterpartyCommitmentTxPhase2 Toy.setup.fundingOutpoint (Toy.key 21) commitmentNumber
    lateValues

def lateCommitment (commitmentNumber : U64) : NewCommitment :=
  ⟨Toy.setup, commitmentNumber, none, some (buildCounterpartyCommitmentInfo 979000 0
    [⟨10000, ⟨1⟩, 100⟩] [⟨10000, ⟨1⟩, 200⟩] 1000)⟩

end Vls
