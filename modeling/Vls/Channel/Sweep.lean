import Vls.Channel.Toy
import Vls.Policy.Sweep

/-! # Signing sweeps

A sweep is signed one input at a time, and the caller says which. The checks on the transaction as
a whole hold for any of its inputs. The sequence is a matter of each input, and the checks look
at that of the first. -/

namespace Vls

open Result

/-- The input of a transaction that is to be signed, and what is said about the output it spends. -/
structure SweepInput where
  tx : Transaction
  input : Nat
  redeemscript : Script
  amountSat : U64
  walletPath : DerivationPath

namespace Channel

section sign

variable (ctx : Context) (env : Env) (chan : Channel) (sweep : SweepInput)

def signSweep (function : String) (privkey : Result Status SecretKey)
    (valid : Result ValidationError Unit) : Result Status Signature := do
  if sweep.input ≥ sweep.tx.input.length then
    .err (Status.invalidArgument
      s!"{function}: bad input index: {sweep.input} >= {sweep.tx.input.length}")
  let privkey ← privkey
  valid
  .ok (ctx.prims.signEcdsa (ctx.prims.p2wshSignatureHash sweep.tx sweep.input sweep.redeemscript
    sweep.amountSat .all) privkey)

def signDelayedSweep (commitmentNumber : U64) : Result Status Signature :=
  signSweep ctx sweep "sign_delayed_sweep"
    (do
      let point ← chan.getPerCommitmentPoint ctx commitmentNumber
      .ok (ctx.prims.derivePrivateKey point chan.keys.delayedPaymentBaseKey))
    (ctx.validator.policy.validateDelayedSweep ctx.prims env.wallet chan.setup
      (chan.getChainState env) sweep.tx sweep.amountSat sweep.walletPath)

def signCounterpartyHtlcSweep (reader : ScriptReader) (remotePerCommitmentPoint : PublicKey) :
    Result Status Signature :=
  signSweep ctx sweep "sign_counterparty_htlc_sweep"
    (.ok (ctx.prims.derivePrivateKey remotePerCommitmentPoint chan.keys.htlcBaseKey))
    (ctx.validator.policy.validateCounterpartyHtlcSweep ctx.prims reader env.wallet chan.setup
      (chan.getChainState env) sweep.tx sweep.redeemscript sweep.amountSat sweep.walletPath)

def signJusticeSweep (derivePrivateRevocationKey : SecretKey → SecretKey → SecretKey)
    (revocationSecret : SecretKey) : Result Status Signature :=
  signSweep ctx sweep "sign_justice_sweep"
    (.ok (derivePrivateRevocationKey revocationSecret chan.keys.revocationBaseKey))
    (ctx.validator.policy.validateJusticeSweep ctx.prims env.wallet (chan.getChainState env)
      sweep.tx sweep.amountSat sweep.walletPath)

end sign

inductive SweepKind where
  | delayed (commitmentNumber : U64)
  | counterpartyHtlc (reader : ScriptReader) (remotePerCommitmentPoint : PublicKey)
  | justice (derivePrivateRevocationKey : SecretKey → SecretKey → SecretKey)
      (revocationSecret : SecretKey)

namespace SweepKind

def sign (ctx : Context) (env : Env) (chan : Channel) (sweep : SweepInput) :
    SweepKind → Result Status Signature
  | delayed number => chan.signDelayedSweep ctx env sweep number
  | counterpartyHtlc reader point => chan.signCounterpartyHtlcSweep ctx env sweep reader point
  | justice derive secret => chan.signJusticeSweep ctx env sweep derive secret

def sequences (setup : ChannelSetup) : SweepKind → List U32
  | delayed _ => [setup.counterpartySelectedContestDelay.zeroExtend 32]
  | counterpartyHtlc _ _ => if setup.isAnchors then anchorSeqs else nonAnchorSeqs
  | justice _ _ => nonAnchorSeqs

/-- The locktime is reached soon, or is not after the expiry of an HTLC that we offered. -/
def LockTime (setup : ChannelSetup) (height : U32) (sweep : SweepInput) : SweepKind → Prop
  | counterpartyHtlc reader _ =>
    match reader.parseReceivedHtlcScript sweep.redeemscript setup.isAnchors with
    | some htlc => sweep.tx.lockTime.toNat ≤ htlc.cltvExpiry
    | none => (reader.parseOfferedHtlcScript sweep.redeemscript setup.isAnchors).isSome
        ∧ isSatisfiedBy sweep.tx.lockTime (height + maxChainLag) = true
  | _ => isSatisfiedBy sweep.tx.lockTime (height + maxChainLag) = true

def SequenceAt (setup : ChannelSetup) (tx : Transaction) (place : Nat) (kind : SweepKind) : Prop :=
  ∃ input, tx.input[place]? = some input ∧ input.sequence ∈ kind.sequences setup

/-- The rules for a sweep hold for the input that is signed. -/
structure Constrained (env : Env) (chan : Channel) (sweep : SweepInput) (kind : SweepKind) :
    Prop where
  version : sweep.tx.version = 2
  lockTime : kind.LockTime chan.setup env.monitorState.currentHeight sweep
  sequence : kind.SequenceAt chan.setup sweep.tx sweep.input
  destinations : ∀ output ∈ sweep.tx.output,
    env.wallet.canSpend sweep.walletPath output.scriptPubkey = .ok true
      ∨ env.wallet.allowlistContains output.scriptPubkey sweep.walletPath = true

end SweepKind

end Channel

namespace SimplePolicy

variable {policy : SimplePolicy} {prims : Primitives} {wallet : Wallet} {tx : Transaction}
  {amountSat : U64} {walletPath : DerivationPath} {function : String} {cstate : ChainState}

theorem validateSweepOutputs_ok (strict : policy.filter.Strict) {outputs : List TxOut}
    (valid : outputs.forM (policy.validateSweepOutput wallet walletPath) = .ok ()) :
    ∀ output ∈ outputs, wallet.canSpend walletPath output.scriptPubkey = .ok true
      ∨ wallet.allowlistContains output.scriptPubkey walletPath = true := by
  induction outputs with
  | nil => simp
  | cons output rest ih =>
    obtain ⟨_, first, others⟩ := bind_eq_ok.mp valid
    refine List.forall_mem_cons.mpr ⟨?_, ih others⟩
    unfold validateSweepOutput at first
    split at first
    · cases first
    · rename_i spendable answer
      rw [PolicyFilter.refuseIf_eq_ok strict] at first
      cases spendable with
      | true => exact .inl answer
      | false => exact .inr (by simpa using first)

theorem validateSweep_ok (strict : policy.filter.Strict) {msg : ValidationError → ValidationError}
    (valid : (policy.validateSweep prims wallet tx amountSat walletPath).mapErr msg = .ok ()) :
    tx.version = 2 ∧ ∀ output ∈ tx.output,
      wallet.canSpend walletPath output.scriptPubkey = .ok true
        ∨ wallet.allowlistContains output.scriptPubkey walletPath = true := by
  rw [mapErr_eq_ok, validateSweep] at valid
  split at valid
  · cases valid
  · rename_i version
    obtain ⟨_, -, outputs⟩ := bind_eq_ok.mp valid
    exact ⟨not_not.mp version, validateSweepOutputs_ok strict outputs⟩

theorem validateSweepLockTime_ok (valid : validateSweepLockTime function cstate tx = .ok ()) :
    isSatisfiedBy tx.lockTime (cstate.currentHeight + maxChainLag) = true := by
  by_contra late
  simp only [validateSweepLockTime] at valid
  split at valid
  · cases valid
  · rw [if_pos (Bool.eq_false_of_not_eq_true late)] at valid
    cases valid

theorem validateSweepSequence_ok {seqs} (valid : validateSweepSequence function tx seqs = .ok ()) :
    ∃ input, tx.input[0]? = some input ∧ input.sequence ∈ seqs := by
  obtain ⟨input, first, valid⟩ := bind_eq_ok.mp valid
  refine ⟨input, expect_eq_ok.mp first, ?_⟩
  by_contra bad
  simp [bad] at valid

end SimplePolicy

namespace Channel

open SimplePolicy

variable {ctx : Context} {env : Env} {chan : Channel} {sweep : SweepInput} {kind : SweepKind}
  {sig : Signature}

theorem signSweep_ok {function privkey valid}
    (signed : signSweep ctx sweep function privkey valid = .ok sig) : valid = .ok () := by
  unfold signSweep at signed
  split at signed
  · cases signed
  · obtain ⟨_, -, signed⟩ := bind_eq_ok.mp signed
    obtain ⟨_, valid, -⟩ := bind_eq_ok.mp signed
    exact mapErr_eq_ok.mp valid

namespace SweepKind

theorem htlcLockTime_ok {reader} {point : PublicKey}
    (valid : validateHtlcSweepLockTime reader chan.setup (chan.getChainState env) sweep.tx
      sweep.redeemscript = .ok ()) :
    (counterpartyHtlc reader point).LockTime chan.setup env.monitorState.currentHeight sweep := by
  simp only [validateHtlcSweepLockTime, LockTime] at valid ⊢
  cases parsed : reader.parseReceivedHtlcScript sweep.redeemscript chan.setup.isAnchors with
  | some htlc =>
    simp only [parsed] at valid ⊢
    split at valid
    · cases valid
    · split at valid
      · cases valid
      · rename_i early
        rw [BitVec.not_lt, BitVec.le_def, BitVec.toNat_ofInt] at early
        omega
  | none =>
    simp only [parsed] at valid ⊢
    split at valid
    · rename_i offered
      exact ⟨offered, validateSweepLockTime_ok valid⟩
    · cases valid

theorem sign_ok (strict : ctx.validator.Strict) (signed : kind.sign ctx env chan sweep = .ok sig) :
    Constrained env chan { sweep with input := 0 } kind := by
  cases kind with
  | delayed number =>
    have valid := signSweep_ok signed
    simp only [validateDelayedSweep, bind_eq_ok, expect_eq_ok] at valid
    obtain ⟨_, common, _, lockTime, input, first, valid⟩ := valid
    obtain ⟨version, destinations⟩ := validateSweep_ok strict common
    refine ⟨version, validateSweepLockTime_ok lockTime, ⟨input, first, ?_⟩, destinations⟩
    by_contra bad
    rw [sequences, List.mem_singleton] at bad
    simp [bad] at valid
  | counterpartyHtlc reader point =>
    have valid := signSweep_ok signed
    simp only [validateCounterpartyHtlcSweep, bind_eq_ok] at valid
    obtain ⟨_, common, _, lockTime, valid⟩ := valid
    obtain ⟨version, destinations⟩ := validateSweep_ok strict common
    exact ⟨version, htlcLockTime_ok lockTime, validateSweepSequence_ok valid, destinations⟩
  | justice derive secret =>
    have valid := signSweep_ok signed
    simp only [validateJusticeSweep, bind_eq_ok] at valid
    obtain ⟨_, common, _, lockTime, valid⟩ := valid
    obtain ⟨version, destinations⟩ := validateSweep_ok strict common
    exact ⟨version, validateSweepLockTime_ok lockTime, validateSweepSequence_ok valid, destinations⟩

/-- The rules hold for the input that is signed exactly if that is the first one, or its sequence
    would have been accepted as well. -/
theorem constrained_iff (strict : ctx.validator.Strict)
    (signed : kind.sign ctx env chan sweep = .ok sig) :
    Constrained env chan sweep kind
      ↔ sweep.input = 0 ∨ kind.SequenceAt chan.setup sweep.tx sweep.input := by
  have first := sign_ok strict signed
  constructor
  · intro constrained
    exact .inr constrained.sequence
  · rintro (isFirst | sequence)
    · exact ⟨first.version, first.lockTime, isFirst ▸ first.sequence, first.destinations⟩
    · exact ⟨first.version, first.lockTime, sequence, first.destinations⟩

end SweepKind

end Channel

namespace Toy

def delayedSweep (input : Nat) : SweepInput :=
  ⟨⟨2, 0, [⟨⟨8, 0⟩, [], 10, []⟩, ⟨⟨9, 0⟩, [], 0, []⟩], [⟨1000, []⟩]⟩, input, [], 2000, []⟩

end Toy

open Channel.SweepKind Toy

theorem delayedSweep_constrained : ∃ sig, (delayed 0).sign ctx env chan (delayedSweep 0) = .ok sig
    ∧ Constrained env chan (delayedSweep 0) (delayed 0) :=
  ⟨_, rfl, (constrained_iff strict rfl).mpr (.inl rfl)⟩

/-- The second input is signed although it does not wait. -/
theorem delayedSweep_unconstrained : ctx.validator.Strict
    ∧ (∃ sig, (delayed 0).sign ctx env chan (delayedSweep 1) = .ok sig)
    ∧ ¬ Constrained env chan (delayedSweep 1) (delayed 0) := by
  refine ⟨strict, ⟨_, rfl⟩, fun constrained => ?_⟩
  obtain ⟨input, found, allowed⟩ := constrained.sequence
  cases found
  revert allowed
  decide

end Vls
