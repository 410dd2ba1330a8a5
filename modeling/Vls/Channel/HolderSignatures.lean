import Vls.Channel.Toy
import Vls.Lib.Panic

/-! # The counterparty's signatures on a holder commitment

The signatures on HTLC transactions are taken from their list by position: a list that is too short
is read beyond its end, the rest of one that is too long is not looked at. The signature on the
commitment is checked against the script of the view and the key of the current funding. -/

namespace Vls.Channel

open Result

section

variable (ctx : Context) (chan : Channel) (txkeys : TxCreationKeys) (feerate : U32)
  (txid : BitVec 256)

def htlcSighash (htlc : HTLCOutputInCommitment) : Option (BitVec 256) :=
  (ctx.prims.buildHtlcTransaction txid
      (if chan.setup.isZeroFeeHtlc then 0 else feerate)
      chan.setup.counterpartySelectedContestDelay htlc chan.setup.features
      txkeys.broadcasterDelayedPaymentKey txkeys.revocationKey).map fun htlcTx =>
    ctx.prims.p2wshSignatureHash htlcTx 0
      (ctx.prims.getHtlcRedeemscript htlc chan.setup.features txkeys) (htlc.amountMsat / 1000)
      (if chan.setup.isAnchors then .singlePlusAnyoneCanPay else .all)

def HtlcSigned (key : PublicKey) (htlc : HTLCOutputInCommitment) (sig : Signature) : Prop :=
  ∃ sighash ∈ chan.htlcSighash ctx txkeys feerate txid htlc,
    ctx.prims.verifyEcdsa sighash sig key = true

def PairsSigned (key : PublicKey) (htlcs : List HTLCOutputInCommitment)
    (sigs : List Signature) : Prop :=
  ∀ pair ∈ htlcs.zip sigs,
    chan.HtlcSigned ctx txkeys feerate txid key pair.1 pair.2

end

variable {ctx : Context} {chan : Channel} {txkeys : TxCreationKeys} {feerate : U32}
  {txid : BitVec 256} {key : PublicKey} {sigs : List Signature}
  {htlcs : List HTLCOutputInCommitment} {ndx : Nat}

theorem checkHtlcSignatures_cons {htlc} :
    chan.checkHtlcSignatures ctx txkeys feerate txid key sigs (htlc :: htlcs)
        ndx
      = (do
        let sighash ← okOr (Status.internal "build_htlc_transaction panic")
          (chan.htlcSighash ctx txkeys feerate txid htlc)
        let sig ← expect "index out of bounds" sigs[ndx]?
        if ctx.prims.verifyEcdsa sighash sig key then
          chan.checkHtlcSignatures ctx txkeys feerate txid key sigs htlcs
            (ndx + 1)
        else
          .err (policyError "policy-revoke-new-commitment-signed"
            s!"commit sig verify failed for htlc {ndx}").toStatus) := by
  simp only [checkHtlcSignatures, htlcSighash]
  cases ctx.prims.buildHtlcTransaction txid
      (if chan.setup.isZeroFeeHtlc then 0 else feerate)
      chan.setup.counterpartySelectedContestDelay htlc chan.setup.features
      txkeys.broadcasterDelayedPaymentKey txkeys.revocationKey <;> rfl

/-- The loop over the HTLCs succeeds if each has its signature, and runs off the list if the
    signatures that are there are right and there is an HTLC left. -/
theorem checkHtlcSignatures_ends :
    (chan.checkHtlcSignatures ctx txkeys feerate txid key sigs htlcs ndx = .ok ()
        ↔ chan.PairsSigned ctx txkeys feerate txid key htlcs (sigs.drop ndx)
          ∧ htlcs.length ≤ (sigs.drop ndx).length)
      ∧ (NeverPanics (chan.checkHtlcSignatures ctx txkeys feerate txid key
          sigs htlcs ndx)
        ↔ (chan.PairsSigned ctx txkeys feerate txid key htlcs
          (sigs.drop ndx) → ∀ htlc ∈ htlcs[(sigs.drop ndx).length]?,
            chan.htlcSighash ctx txkeys feerate txid htlc = none)) := by
  induction htlcs generalizing ndx with
  | nil => simp [checkHtlcSignatures, PairsSigned]
  | cons htlc rest ih =>
    have head : sigs[ndx]? = (sigs.drop ndx)[0]? := by simp
    have later := @ih (ndx + 1)
    rw [← List.tail_drop] at later
    rw [checkHtlcSignatures_cons, head]
    cases there : sigs.drop ndx with
    | nil =>
      cases sighash : chan.htlcSighash ctx txkeys feerate txid htlc <;>
        simp [bind_eq_ok, okOr_eq_ok, expect_eq_ok, PairsSigned, sighash]
    | cons sig tail =>
      have pairs : chan.PairsSigned ctx txkeys feerate txid key (htlc :: rest) (sig :: tail)
          ↔ chan.HtlcSigned ctx txkeys feerate txid key htlc sig
            ∧ chan.PairsSigned ctx txkeys feerate txid key rest tail := by
        simp [PairsSigned]
      rw [pairs, HtlcSigned]
      cases sighash : chan.htlcSighash ctx txkeys feerate txid htlc with
      | none => simp [bind_eq_ok, okOr_eq_ok]
      | some message =>
        cases verified : ctx.prims.verifyEcdsa message sig key with
        | false => simp [bind_eq_ok, okOr_eq_ok, expect_eq_ok, verified]
        | true =>
          rw [there] at later
          simpa [bind_eq_ok, okOr_eq_ok, expect_eq_ok, verified] using later

section

variable (ctx) (chan) (view : ChannelSetup) (point : PublicKey) (txkeys) (feerate)
  (signatures : CommitmentSignatures) (tx : CommitmentTransaction)

/-- The signature on the commitment verifies under the script of the view and some key. -/
abbrev CommitmentSigned (fundingPubkey : PublicKey) : Prop :=
  ctx.prims.verifyEcdsa (chan.commitmentSighash ctx view tx.transaction) signatures.commitmentSig
    fundingPubkey = true

/-- The check takes the commitment exactly if its signature verifies under the script and the key
    of the view and there is one valid signature for each HTLC, in order; and it does not panic. -/
def ChecksSignatures : Prop :=
  (chan.checkHolderTxSignatures ctx view point txkeys feerate signatures tx = .ok ()
      ↔ chan.CommitmentSigned ctx view signatures tx view.counterpartyPoints.fundingPubkey
        ∧ ∃ key ∈ ctx.prims.derivePublicKey point chan.setup.counterpartyPoints.htlcBasepoint,
          List.Forall₂ (chan.HtlcSigned ctx txkeys feerate (ctx.prims.computeTxid tx.transaction)
            key) tx.nondustHtlcs signatures.htlcSigs)
    ∧ NeverPanics (chan.checkHolderTxSignatures ctx view point txkeys feerate signatures tx)

/-- If no HTLC has a wrong signature at its position: with as many signatures as HTLCs, that of the
    commitment verifies under the key of the current funding exactly if it does under the key of
    the view; with more or fewer, not under the first, or the transaction of the first HTLC that
    lacks a signature cannot be built. -/
def SignaturesFit : Prop :=
  ∀ key ∈ ctx.prims.derivePublicKey point chan.setup.counterpartyPoints.htlcBasepoint,
    chan.PairsSigned ctx txkeys feerate (ctx.prims.computeTxid tx.transaction) key tx.nondustHtlcs
      signatures.htlcSigs →
    if tx.nondustHtlcs.length = signatures.htlcSigs.length then
      (chan.CommitmentSigned ctx view signatures tx chan.setup.counterpartyPoints.fundingPubkey
        ↔ chan.CommitmentSigned ctx view signatures tx view.counterpartyPoints.fundingPubkey)
    else
      chan.CommitmentSigned ctx view signatures tx chan.setup.counterpartyPoints.fundingPubkey →
        ∃ htlc ∈ tx.nondustHtlcs[signatures.htlcSigs.length]?, chan.htlcSighash ctx txkeys feerate
          (ctx.prims.computeTxid tx.transaction) htlc = none

end

variable {view : ChannelSetup} {point : PublicKey} {signatures : CommitmentSignatures}
  {tx : CommitmentTransaction}

theorem forall₂_htlcSigned :
    List.Forall₂ (chan.HtlcSigned ctx txkeys feerate txid key) htlcs sigs
      ↔ htlcs.length = sigs.length ∧ chan.PairsSigned ctx txkeys feerate txid key htlcs sigs := by
  simp [List.forall₂_iff_zip, PairsSigned]

/-- The signatures of a holder commitment are checked exactly, and without a panic, if and only if
    they fit what is looked at. -/
theorem checksSignatures_iff :
    chan.ChecksSignatures ctx txkeys feerate view point signatures tx
      ↔ chan.SignaturesFit ctx txkeys feerate view point signatures tx := by
  simp only [ChecksSignatures, SignaturesFit, checkHolderTxSignatures, CommitmentSigned,
    forall₂_htlcSigned, err_bind, ite_err_eq_ok, bind_eq_ok, okOr_eq_ok, avoids_ite, avoids_err,
    avoids_bind, avoids_okOr, implies_true, true_and, Bool.not_eq_false, Option.mem_def]
  cases derived : ctx.prims.derivePublicKey point chan.setup.counterpartyPoints.htlcBasepoint with
  | none => simp
  | some key =>
    obtain ⟨accepted, safe⟩ := @checkHtlcSignatures_ends ctx chan txkeys feerate
      (ctx.prims.computeTxid tx.transaction) key signatures.htlcSigs tx.nondustHtlcs 0
    simp only [List.drop_zero, Option.mem_def] at accepted safe
    simp only [Option.some.injEq, exists_eq_left', forall_eq', accepted, safe]
    rcases Nat.lt_trichotomy signatures.htlcSigs.length tx.nondustHtlcs.length with
      short | equal | surplus
    · simp only [List.getElem?_eq_getElem short, Option.some.injEq, forall_eq', exists_eq_left',
        short.ne', short.not_ge, if_false, and_false, false_and]
      tauto
    · simp only [equal, List.getElem?_eq_none le_rfl, le_refl, if_true, reduceCtorEq, false_implies,
        implies_true, and_true, true_and]
      tauto
    · simp only [List.getElem?_eq_none surplus.le, surplus.ne, surplus.le, if_false, reduceCtorEq,
        false_implies, implies_true, and_true, false_and, and_false, exists_false, iff_false]
      tauto

def commitmentWith (htlcs : List HTLCOutputInCommitment) : CommitmentTransaction :=
  ⟨0, 1000, Toy.chan.makeHolderTxKeys Toy.ctx (Toy.key 21), htlcs, ⟨2, 0xffffffff, [], []⟩, false⟩

def checkWith (view : ChannelSetup) (htlcs : List HTLCOutputInCommitment)
    (htlcSigs : List Signature) : Result Status Unit :=
  Toy.chan.checkHolderTxSignatures Toy.ctx view (Toy.key 21) (commitmentWith htlcs).keys 1000
    (Toy.signatures 0 view.channelValueSat htlcSigs) (commitmentWith htlcs)

def rotatedSetup : ChannelSetup :=
  { Toy.setup with
    counterpartyPoints := { Toy.setup.counterpartyPoints with fundingPubkey := Toy.key 9 } }

/-- An HTLC without a signature stops the signer, a signature without an HTLC is taken, and so is
    a signature by the key of the current funding on a commitment to the other view. -/
theorem signatures_miscounted :
    checkWith Toy.setup [⟨true, 5000000, 100, ⟨0⟩, none⟩] [] = .panic "index out of bounds"
      ∧ checkWith Toy.setup [] [⟨0⟩] = .ok ()
      ∧ checkWith rotatedSetup [] [] = .ok ()
      ∧ ¬ Toy.chan.CommitmentSigned Toy.ctx rotatedSetup (Toy.signatures 0 1000000 [])
        (commitmentWith []) rotatedSetup.counterpartyPoints.fundingPubkey := by
  decide +kernel

end Vls.Channel
