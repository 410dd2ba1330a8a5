import Vls.Channel.Toy
import Vls.Policy.HtlcTx

/-! # The feerate of a second-stage transaction

The estimated feerate need not be the one that the builder used, but it comes to the same fee, and
the builder looks at nothing else. So what the builder produces is recomposed exactly. -/

namespace Vls

open BitVec

def htlcOutputValue (prims : Primitives) (feeratePerKw : U32) (htlc : HTLCOutputInCommitment)
    (features : ChannelTypeFeatures) : Option U64 :=
  if features.anchorsZeroFeeHtlcTxOptional && !features.anchorsNonzeroFeeHtlcTxOptional then
    some (htlc.amountMsat / 1000)
  else
    (htlc.amountMsat / 1000).checkedSub
      (feeratePerKw.zeroExtend 64 * SimplePolicy.htlcTxWeight prims htlc.offered features / 1000)

def htlcTransaction (prims : Primitives) (commitmentTxid : BitVec 256) (feeratePerKw : U32)
    (contestDelay : U16) (htlc : HTLCOutputInCommitment) (features : ChannelTypeFeatures)
    (broadcasterDelayedPaymentKey revocationKey : PublicKey) : Option Transaction := do
  let vout ← htlc.transactionOutputIndex
  let value ← htlcOutputValue prims feeratePerKw htlc features
  some
    { version := 2
      lockTime := if htlc.offered then htlc.cltvExpiry else 0
      input := [⟨⟨commitmentTxid, vout⟩, [],
        if features.anchorsZeroFeeHtlcTxOptional then 1 else 0, []⟩]
      output := [⟨value, prims.toP2wsh (prims.getRevokeableRedeemscript revocationKey contestDelay
        broadcasterDelayedPaymentKey)⟩] }

def Primitives.BuildsHtlcTxs (prims : Primitives) : Prop :=
  prims.buildHtlcTransaction = htlcTransaction prims

theorem estimateFeeratePerKw_toNat {fee weight} (fits : fee.toNat * 1000 + 999 < 2 ^ 64) :
    (estimateFeeratePerKw fee weight).toNat
      = Rate.highest 1000 weight.toNat fee.toNat % 2 ^ 32 := by
  have numerator : (fee * 1000 + 999 : U64).toNat = fee.toNat * 1000 + 999 := by
    rw [toNat_add, toNat_mul]
    simp only [ofNat_eq_ofNat, toNat_ofNat]
    omega
  rw [estimateFeeratePerKw, truncate_eq_setWidth, toNat_setWidth, toNat_udiv,
    numerator, Rate.highest]

def feeAt (weight : U64) (feerate : U32) : U64 := feerate.zeroExtend 64 * weight / 1000

/-- The fee of a feerate fits where the highest feerate for it is computed, and so does that. -/
structure Recoverable (weight : U64) (feerate : U32) : Prop where
  weighs : 1 ≤ weight.toNat
  numerator : Rate.fee 1000 weight.toNat feerate.toNat * 1000 + 999 < 2 ^ 64
  quotient : Rate.highest 1000 weight.toNat (Rate.fee 1000 weight.toNat feerate.toNat) < 2 ^ 32

section rounding

variable {weight : U64} {feerate : U32}

theorem feeAt_toNat (fits : feerate.toNat * weight.toNat < 2 ^ 64) :
    (feeAt weight feerate).toNat = Rate.fee 1000 weight.toNat feerate.toNat := by
  have product : (feerate.zeroExtend 64 * weight).toNat = feerate.toNat * weight.toNat := by
    rw [toNat_mul, zeroExtend, toNat_setWidth,
      Nat.mod_eq_of_lt (by omega : feerate.toNat < 2 ^ 64), Nat.mod_eq_of_lt fits]
  rw [feeAt, toNat_udiv, product, Rate.fee]
  rfl

namespace Recoverable

variable (recoverable : Recoverable weight feerate)

include recoverable

theorem product : feerate.toNat * weight.toNat < 2 ^ 64 := by
  have whole := Nat.div_add_mod (feerate.toNat * weight.toNat) 1000
  have rest := Nat.mod_lt (feerate.toNat * weight.toNat) (by omega : 0 < 1000)
  have := recoverable.numerator
  unfold Rate.fee at this
  omega

theorem feeAt_toNat : (feeAt weight feerate).toNat = Rate.fee 1000 weight.toNat feerate.toNat :=
  Vls.feeAt_toNat recoverable.product

theorem estimate_toNat : (estimateFeeratePerKw (feeAt weight feerate) weight).toNat
    = Rate.highest 1000 weight.toNat (Rate.fee 1000 weight.toNat feerate.toNat) := by
  have fits : (feeAt weight feerate).toNat * 1000 + 999 < 2 ^ 64 := by
    rw [recoverable.feeAt_toNat]
    exact recoverable.numerator
  rw [estimateFeeratePerKw_toNat fits, recoverable.feeAt_toNat,
    Nat.mod_eq_of_lt recoverable.quotient]

theorem le_estimate : feerate ≤ estimateFeeratePerKw (feeAt weight feerate) weight := by
  rw [le_def, recoverable.estimate_toNat]
  exact (Rate.galoisConnection (by omega) recoverable.weighs).le_u_l _

theorem feeAt_estimate :
    feeAt weight (estimateFeeratePerKw (feeAt weight feerate) weight) = feeAt weight feerate := by
  have again : Rate.fee 1000 weight.toNat
      (estimateFeeratePerKw (feeAt weight feerate) weight).toNat
        = Rate.fee 1000 weight.toNat feerate.toNat := by
    rw [recoverable.estimate_toNat]
    exact Rate.fee_highest_fee (by omega) recoverable.weighs _
  have fits : (estimateFeeratePerKw (feeAt weight feerate) weight).toNat * weight.toNat
      < 2 ^ 64 := by
    have bound := recoverable.numerator
    rw [← again] at bound
    unfold Rate.fee at bound
    omega
  apply eq_of_toNat_eq
  rw [Vls.feeAt_toNat fits, again, recoverable.feeAt_toNat]

end Recoverable

end rounding

def ScriptReader.Pushes (reader : ScriptReader) (pushInt : Nat → Instruction) : Prop :=
  ∀ n < 2 ^ 31, reader.readNumber (pushInt n) = some (n : Int)

inductive HtlcRedeemscript (reader : ScriptReader) (pushInt : Nat → Instruction)
    (isAnchors : Bool) (htlc : HTLCOutputInCommitment) (redeemscript : Script) : Prop where
  | offered (fill : ScriptReader.OfferedHtlc) (direction : htlc.offered = true)
      (template : reader.instructions redeemscript
        = (fill.instructions isAnchors (pushInt 32)).map some)
  | received (fill : ScriptReader.ReceivedHtlc) (direction : htlc.offered = false)
      (expiry : fill.cltvExpiry = htlc.cltvExpiry.toNat)
      (template : reader.instructions redeemscript
        = (fill.instructions isAnchors (pushInt 32) (pushInt htlc.cltvExpiry.toNat)).map some)

theorem HtlcRedeemscript.redeemscriptOffered {reader pushInt isAnchors htlc redeemscript}
    (pushes : reader.Pushes pushInt) (expires : htlc.cltvExpiry ≤ maxCltvExpiry)
    (script : HtlcRedeemscript reader pushInt isAnchors htlc redeemscript) :
    SimplePolicy.redeemscriptOffered reader redeemscript isAnchors = .ok htlc.offered := by
  have number := pushes 32 (by omega)
  cases script with
  | offered fill direction template =>
    simp [SimplePolicy.redeemscriptOffered, direction,
      ScriptReader.parseOfferedHtlcScript_eq fill number template]
  | received fill direction expiry template =>
    have small : htlc.cltvExpiry.toNat < 2 ^ 31 := by
      unfold maxCltvExpiry at expires
      bv_omega
    obtain ⟨received, offered⟩ := ScriptReader.parseReceivedHtlcScript_eq fill number
      (expiry ▸ pushes _ small) template
    simp [SimplePolicy.redeemscriptOffered, direction, received, offered]

def HTLCOutputInCommitment.decoded (htlc : HTLCOutputInCommitment) : HTLCOutputInCommitment :=
  { htlc with
    amountMsat := htlc.amountMsat / 1000 * 1000
    cltvExpiry := if htlc.offered then htlc.cltvExpiry else 0
    paymentHash := ⟨0⟩ }

theorem decoded_amount (htlc : HTLCOutputInCommitment) :
    htlc.decoded.amountMsat / 1000 = htlc.amountMsat / 1000 := by
  apply eq_of_toNat_eq
  simp only [HTLCOutputInCommitment.decoded, toNat_udiv, toNat_mul,
    show (1000 : U64).toNat = 1000 from rfl]
  omega

theorem features_zeroFee (setup : ChannelSetup) :
    (setup.features.anchorsZeroFeeHtlcTxOptional
      && !setup.features.anchorsNonzeroFeeHtlcTxOptional) = setup.isZeroFeeHtlc := by
  cases kind : setup.commitmentType <;>
    simp [ChannelSetup.features, ChannelSetup.isAnchors, ChannelSetup.isZeroFeeHtlc, kind]

section recomposition

variable {prims : Primitives} {setup : ChannelSetup} {htlc : HTLCOutputInCommitment}
  {feerate : U32} {value : U64}

theorem htlcOutputValue_estimate
    (recoverable : setup.isZeroFeeHtlc = false →
      Recoverable (SimplePolicy.htlcTxWeight prims htlc.offered setup.features) feerate)
    (pays : htlcOutputValue prims feerate htlc setup.features = some value) :
    ∃ totalFee, (htlc.amountMsat / 1000).checkedSub value = some totalFee ∧
      htlcOutputValue prims (SimplePolicy.htlcBuildFeerate prims setup htlc.offered totalFee)
        htlc.decoded setup.features = some value := by
  have direction : htlc.decoded.offered = htlc.offered := rfl
  unfold htlcOutputValue at pays ⊢
  rw [features_zeroFee] at pays ⊢
  cases zeroFee : setup.isZeroFeeHtlc with
  | true =>
    simp only [zeroFee, if_true, Option.some.injEq] at pays
    refine ⟨0, ?_, ?_⟩
    · rw [checkedSub_eq_some, pays]
      exact ⟨BitVec.le_refl _, BitVec.sub_self _⟩
    · rw [if_pos rfl, decoded_amount, pays]
  | false =>
    simp only [zeroFee, Bool.false_eq_true, if_false] at pays ⊢
    obtain ⟨affordable, rfl⟩ := checkedSub_eq_some.mp pays
    set weight := SimplePolicy.htlcTxWeight prims htlc.offered setup.features with weighed
    have again := (recoverable zeroFee).feeAt_estimate
    unfold feeAt at again
    refine ⟨feerate.zeroExtend 64 * weight / 1000, ?_, ?_⟩
    · rw [checkedSub_eq_some]
      generalize feerate.zeroExtend 64 * weight / 1000 = fee at affordable
      bv_omega
    · rw [decoded_amount, direction, SimplePolicy.htlcBuildFeerate, zeroFee, ← weighed]
      simp only [Bool.false_eq_true, if_false]
      rw [again, pays]

open SimplePolicy (toSelfDelay)

variable {reader : ScriptReader} {isCounterparty : Bool} {txkeys : TxCreationKeys}
  {txid : BitVec 256} {redeemscript : Script} {tx : Transaction}

theorem decodeAndValidateHtlcTx_built (builds : prims.BuildsHtlcTxs)
    (direction : SimplePolicy.redeemscriptOffered reader redeemscript setup.isAnchors
      = .ok htlc.offered)
    (recoverable : setup.isZeroFeeHtlc = false →
      Recoverable (SimplePolicy.htlcTxWeight prims htlc.offered setup.features) feerate)
    (built : prims.buildHtlcTransaction txid feerate (toSelfDelay isCounterparty setup) htlc
      setup.features txkeys.broadcasterDelayedPaymentKey txkeys.revocationKey = some tx) :
    ∃ decoded, decoded.htlc = htlc.decoded
      ∧ SimplePolicy.decodeAndValidateHtlcTx prims reader isCounterparty setup txkeys tx
          redeemscript (htlc.amountMsat / 1000) = .ok decoded
      ∧ prims.buildHtlcTransaction txid decoded.buildFeerate (toSelfDelay isCounterparty setup)
          decoded.htlc setup.features txkeys.broadcasterDelayedPaymentKey txkeys.revocationKey
        = some tx := by
  rw [builds] at built ⊢
  simp only [htlcTransaction, Option.bind_eq_bind, Option.bind_eq_some_iff, Option.some.injEq]
    at built
  obtain ⟨vout, indexed, value, pays, shape⟩ := built
  obtain ⟨totalFee, left, again⟩ := htlcOutputValue_estimate recoverable pays
  have recomposed : htlcTransaction prims txid
      (SimplePolicy.htlcBuildFeerate prims setup htlc.offered totalFee)
      (toSelfDelay isCounterparty setup) htlc.decoded setup.features
      txkeys.broadcasterDelayedPaymentKey txkeys.revocationKey = some tx := by
    rw [htlcTransaction, again, ← shape]
    simp only [HTLCOutputInCommitment.decoded, indexed, Option.bind_eq_bind, Option.bind_some]
    cases htlc.offered <;> rfl
  have read : htlc.decoded = SimplePolicy.htlcOfTx tx
      ⟨⟨txid, vout⟩, [], if setup.features.anchorsZeroFeeHtlcTxOptional then 1 else 0, []⟩
      htlc.offered (htlc.amountMsat / 1000) := by
    rw [← shape, HTLCOutputInCommitment.decoded, SimplePolicy.htlcOfTx, indexed]
    cases htlc.offered <;> rfl
  refine ⟨⟨_, htlc.decoded, prims.p2wshSignatureHash tx 0 redeemscript (htlc.amountMsat / 1000)
    (htlcSighashType setup), htlcSighashType setup⟩, rfl, ?_, recomposed⟩
  rw [SimplePolicy.decodeAndValidateHtlcTx_eq_ok]
  exact ⟨{
    input := _
    output := _
    totalFee := totalFee
    recomposedTx := tx
    hasInput := by rw [← shape]; rfl
    hasOutput := by rw [← shape]; rfl
    direction := direction
    left := left
    feerate := rfl
    htlc := read
    built := by rw [builds]; exact recomposed
    sighash := rfl
    same := rfl
    sighashType := rfl }⟩

end recomposition

namespace Toy

def reader : ScriptReader where
  instructions script :=
    if script = [0] then (⟨[], [], [], []⟩ : ScriptReader.OfferedHtlc).instructions false
      (.op (.pushnum 32)) |>.map some
    else (⟨[], [], [], [], 700⟩ : ScriptReader.ReceivedHtlc).instructions false (.op (.pushnum 32))
      (.op (.pushnum 700)) |>.map some
  readScriptint _ := none
  toAsmString _ := ""

theorem reader_pushes : reader.Pushes fun n => .op (.pushnum n) := fun _ _ => rfl

def builder : Primitives :=
  { prims with
    buildHtlcTransaction := htlcTransaction prims
    p2wshSignatureHash := fun tx _ _ _ _ =>
      match tx.output[0]? with
      | some output => output.value.zeroExtend 256
      | none => 18446744073709551616 }

theorem builder_builds : builder.BuildsHtlcTxs := rfl

def receivedHtlc : HTLCOutputInCommitment := ⟨false, 5000999, 700, ⟨0⟩, some 1⟩

def receivedKeys : TxCreationKeys := ⟨key 1, key 2, key 3, key 4, key 5⟩

end Toy

end Vls
