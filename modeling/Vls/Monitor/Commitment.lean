import Vls.Policy.Error
import Vls.Primitives

/-! # Recognizing commitment transactions

A transaction that spends the funding output is a commitment transaction if its sequence and lock
time have the form that carries a commitment number. Its outputs are told apart by their scripts. -/

namespace Vls

def Script.isP2wsh (script : Script) : Bool :=
  script.length == 34 && script.take 2 == [0x00, 0x20]

def anchorOutputValueSatoshi : U64 := 330

def decodeCommitmentNumber (prims : Primitives) (tx : Transaction)
    (params : ChannelTransactionParameters) : Option U64 :=
  let obscureFactor := prims.getCommitmentTransactionNumberObscureFactor
    params.holderPubkeys.paymentPoint params.counterpartyPubkeys.paymentPoint
    params.isOutboundFromHolder
  match tx.input with
  | [input] =>
    if (input.sequence >>> 24).truncate 8 ≠ (0x80 : U8)
        ∨ (tx.lockTime >>> 24).truncate 8 ≠ (0x20 : U8) then none
    else
      let sequence : U64 := input.sequence.zeroExtend 64 &&& 0xffffff
      let lockTime : U64 := tx.lockTime.zeroExtend 64 &&& 0xffffff
      some ((sequence <<< 24 ||| lockTime) ^^^ obscureFactor)
  | _ => none

/-- The index of the holder's output and those of the outputs that may be HTLCs. Without the
    point of the counterparty its own delayed output cannot be told from an HTLC. -/
def decodeCommitmentTx (prims : Primitives) (tx : Transaction)
    (holderPerCommitmentPoint : PublicKey) (cpPerCommitmentPoint : Option PublicKey)
    (params : ChannelTransactionParameters) : Option U32 × List U32 :=
  let optAnchors := params.channelTypeFeatures.anchorsNonzeroFeeHtlcTxOptional
    || params.channelTypeFeatures.anchorsZeroFeeHtlcTxOptional
  let holderPubkeys := params.holderPubkeys
  let cpPubkeys := params.counterpartyPubkeys
  let holderNonDelayedScript :=
    if optAnchors then
      prims.toP2wsh (prims.getToCountersignerKeyedAnchorRedeemscript holderPubkeys.paymentPoint)
    else prims.p2wpkh holderPubkeys.paymentPoint
  let holderTxKeys := prims.txCreationKeys holderPerCommitmentPoint holderPubkeys cpPubkeys
  let holderDelayedScript := prims.toP2wsh (prims.getRevokeableRedeemscript
    holderTxKeys.revocationKey params.counterpartySelectedContestDelay
    holderTxKeys.broadcasterDelayedPaymentKey)
  let cpDelayedScript := cpPerCommitmentPoint.map fun point =>
    let cpTxKeys := prims.txCreationKeys point cpPubkeys holderPubkeys
    prims.toP2wsh (prims.getRevokeableRedeemscript cpTxKeys.revocationKey
      params.holderSelectedContestDelay cpTxKeys.broadcasterDelayedPaymentKey)
  tx.output.zipIdx.foldl (fun (mainOutputIndex, htlcs) (output, idx) =>
    if output.value = anchorOutputValueSatoshi then (mainOutputIndex, htlcs)
    else if some output.scriptPubkey = cpDelayedScript then (mainOutputIndex, htlcs)
    else if output.scriptPubkey = holderNonDelayedScript
        ∨ output.scriptPubkey = holderDelayedScript then
      (some (.ofNat 32 idx), htlcs)
    else if output.scriptPubkey.isP2wsh then (mainOutputIndex, htlcs ++ [.ofNat 32 idx])
    else (mainOutputIndex, htlcs)) (none, [])

/-- What the monitor asks of the channel it watches for. -/
structure CommitmentPointProvider where
  getHolderCommitmentPoint : (commitmentNumber : U64) → PublicKey
  getCounterpartyCommitmentPoint : (commitmentNumber : U64) → Result Empty (Option PublicKey)
  getTransactionParameters : ChannelTransactionParameters
  getSpendableHtlcIndices : Transaction → (commitmentNumber : U64) → Result Status (List U32)

end Vls
