import Vls.Lib.Rate
import Vls.Policy.HtlcScript
import Vls.Policy.Validator

/-! # The checks on second-stage HTLC transactions

What a second-stage transaction is built from is read off the transaction, it is built again from
that, and the two must have the same digest. The feerate is not written in the transaction, so it
is estimated from the fee. -/

namespace Vls

def htlcSighashType (setup : ChannelSetup) : EcdsaSighashType :=
  if setup.isAnchors then .singlePlusAnyoneCanPay else .all

/-- What is read off a second-stage transaction. -/
structure DecodedHtlcTx where
  buildFeerate : U32
  htlc : HTLCOutputInCommitment
  sighash : BitVec 256
  sighashType : EcdsaSighashType

namespace SimplePolicy

variable (policy : SimplePolicy) (prims : Primitives) (reader : ScriptReader)

def redeemscriptOffered (redeemscript : Script) (isAnchors : Bool) : Result ValidationError Bool :=
  if (reader.parseOfferedHtlcScript redeemscript isAnchors).isSome then .ok true
  else if (reader.parseReceivedHtlcScript redeemscript isAnchors).isSome then .ok false
  else .err (policyError "policy-commitment-scripts" "invalid redeemscript")

def htlcTxWeight (offered : Bool) (features : ChannelTypeFeatures) : U64 :=
  if offered then prims.htlcTimeoutTxWeight features else prims.htlcSuccessTxWeight features

def htlcBuildFeerate (setup : ChannelSetup) (offered : Bool) (totalFee : U64) : U32 :=
  if setup.isZeroFeeHtlc then 0
  else estimateFeeratePerKw totalFee (htlcTxWeight prims offered setup.features)

/-- The HTLC that a second-stage transaction is for, as far as the transaction shows it. -/
def htlcOfTx (tx : Transaction) (input : TxIn) (offered : Bool) (htlcAmountSat : U64) :
    HTLCOutputInCommitment where
  offered := offered
  amountMsat := htlcAmountSat * 1000
  cltvExpiry := if offered then tx.lockTime else 0
  paymentHash := ⟨0⟩
  transactionOutputIndex := some input.previousOutput.vout

def toSelfDelay (isCounterparty : Bool) (setup : ChannelSetup) : U16 :=
  if isCounterparty then setup.holderSelectedContestDelay
  else setup.counterpartySelectedContestDelay

def decodeAndValidateHtlcTx (isCounterparty : Bool) (setup : ChannelSetup)
    (txkeys : TxCreationKeys) (tx : Transaction) (redeemscript : Script) (htlcAmountSat : U64) :
    Result ValidationError DecodedHtlcTx := do
  let sighashType := htlcSighashType setup
  let input ← Result.okOr
    (policyError "policy-commitment-other" "could not compute sighash on provided HTLC tx")
    tx.input[0]?
  let originalTxSighash :=
    prims.p2wshSignatureHash tx 0 redeemscript htlcAmountSat sighashType
  let offered ← redeemscriptOffered reader redeemscript setup.isAnchors
  let output ← Result.expect "index out of bounds" tx.output[0]?
  let totalFee ← Result.okOr (policyError "policy-commitment-fee-range" "fee underflow")
    (htlcAmountSat.checkedSub output.value)
  let buildFeerate := htlcBuildFeerate prims setup offered totalFee
  let htlc := htlcOfTx tx input offered htlcAmountSat
  let recomposedTx ← Result.expect "build_htlc_transaction"
    (prims.buildHtlcTransaction input.previousOutput.txid buildFeerate
      (toSelfDelay isCounterparty setup) htlc setup.features txkeys.broadcasterDelayedPaymentKey
      txkeys.revocationKey)
  let recomposedTxSighash :=
    prims.p2wshSignatureHash recomposedTx 0 redeemscript htlcAmountSat sighashType
  if recomposedTxSighash ≠ originalTxSighash then
    .err (policyError "policy-htlc-other" "sighash mismatch")
  .ok { buildFeerate, htlc, sighash := recomposedTxSighash, sighashType }

def validateHtlcTx (setup : ChannelSetup) (htlc : HTLCOutputInCommitment) (feeratePerKw : U32) :
    Result ValidationError Unit := do
  policy.filter.refuseIf (htlc.offered ∧ htlc.cltvExpiry = 0) "validate_htlc_tx"
    "policy-htlc-locktime" "offered lock_time must be non-zero"
  policy.filter.refuseIf
    (setup.isZeroFeeHtlc = false ∧ feeratePerKw < policy.minFeeratePerKw) "validate_htlc_tx"
    "policy-htlc-fee-range"
    (s!"feerate_per_kw of {feeratePerKw.toNat} is smaller than the minimum of " ++
      s!"{policy.minFeeratePerKw.toNat}")
  policy.filter.refuseIf (feeratePerKw > policy.maxFeeratePerKw) "validate_htlc_tx"
    "policy-htlc-fee-range"
    (s!"feerate_per_kw of {feeratePerKw.toNat} is larger than the maximum of " ++
      s!"{policy.maxFeeratePerKw.toNat}")

/-- What is read off a transaction that is accepted, and what is built from it. -/
structure Recomposed (isCounterparty : Bool) (setup : ChannelSetup) (txkeys : TxCreationKeys)
    (tx : Transaction) (redeemscript : Script) (htlcAmountSat : U64) (decoded : DecodedHtlcTx) where
  input : TxIn
  output : TxOut
  totalFee : U64
  recomposedTx : Transaction
  hasInput : tx.input[0]? = some input
  hasOutput : tx.output[0]? = some output
  direction : redeemscriptOffered reader redeemscript setup.isAnchors = .ok decoded.htlc.offered
  left : htlcAmountSat.checkedSub output.value = some totalFee
  feerate : decoded.buildFeerate = htlcBuildFeerate prims setup decoded.htlc.offered totalFee
  htlc : decoded.htlc = htlcOfTx tx input decoded.htlc.offered htlcAmountSat
  built : prims.buildHtlcTransaction input.previousOutput.txid decoded.buildFeerate
    (toSelfDelay isCounterparty setup) decoded.htlc setup.features
    txkeys.broadcasterDelayedPaymentKey txkeys.revocationKey = some recomposedTx
  sighash : decoded.sighash
    = prims.p2wshSignatureHash tx 0 redeemscript htlcAmountSat (htlcSighashType setup)
  same : prims.p2wshSignatureHash recomposedTx 0 redeemscript htlcAmountSat (htlcSighashType setup)
    = decoded.sighash
  sighashType : decoded.sighashType = htlcSighashType setup

variable {prims reader} {isCounterparty : Bool} {setup : ChannelSetup} {txkeys : TxCreationKeys}
  {tx : Transaction} {redeemscript : Script} {htlcAmountSat : U64} {decoded : DecodedHtlcTx}

theorem decodeAndValidateHtlcTx_eq_ok :
    decodeAndValidateHtlcTx prims reader isCounterparty setup txkeys tx redeemscript htlcAmountSat
      = .ok decoded ↔ Nonempty (Recomposed prims reader isCounterparty setup txkeys tx redeemscript
        htlcAmountSat decoded) := by
  unfold decodeAndValidateHtlcTx
  simp only [Result.bind_eq_ok, Result.okOr_eq_ok, Result.expect_eq_ok]
  constructor
  · rintro ⟨input, hasInput, offered, direction, output, hasOutput, totalFee, left, recomposedTx,
      built, ended⟩
    split at ended
    · simp at ended
    · next same =>
      cases ended
      have same := not_not.mp same
      exact ⟨⟨input, output, totalFee, recomposedTx, hasInput, hasOutput, direction, left, rfl, rfl,
        built, same, rfl, rfl⟩⟩
  · rintro ⟨found⟩
    refine ⟨found.input, found.hasInput, decoded.htlc.offered, found.direction, found.output,
      found.hasOutput, found.totalFee, found.left, found.recomposedTx, ?_, ?_⟩
    · rw [← found.feerate, ← found.htlc]
      exact found.built
    · rw [if_neg (not_not.mpr (found.same.trans found.sighash)), found.same, ← found.feerate,
        ← found.htlc, ← found.sighashType]

end SimplePolicy

end Vls
