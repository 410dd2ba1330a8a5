import Vls.Channel.Holder

/-! # Closing a channel for recovery

The latest holder commitment is signed together with the transactions that claim its HTLCs, when
the node that would otherwise drive the channel is lost. -/

namespace Vls

namespace Channel

variable (ctx : Context) (chan : Channel) (env : Env)

/-- An HTLC that can be claimed, with its position among those of the commitment. -/
structure ClaimableHtlc where
  htlcIdx : Nat
  htlc : HTLCOutputInCommitment
  preimage : Option PaymentPreimage

structure HtlcSigningData where
  claim : ClaimableHtlc
  cpSig : Signature
  redeemscript : Script
  input : TxIn
  output : TxOut

/-- The commitment whose HTLCs are claimed, as the claiming code is given it. -/
structure RecoveryParts where
  commitmentTxid : BitVec 256
  txkeys : TxCreationKeys
  perCommitmentPoint : PublicKey
  cpHtlcSigs : List Signature
  feeratePerKw : U32

def htlcSigningData (parts : RecoveryParts) (claim : ClaimableHtlc) :
    Result Status HtlcSigningData := do
  let features := chan.setup.features
  -- unlike in the check of the signatures, a panic here is not caught
  let htlcTx ← Result.expect "build_htlc_transaction"
    (ctx.prims.buildHtlcTransaction parts.commitmentTxid parts.feeratePerKw
      chan.setup.counterpartySelectedContestDelay claim.htlc features
      parts.txkeys.broadcasterDelayedPaymentKey parts.txkeys.revocationKey)
  let cpSig ← Result.okOr
    (Status.internal s!"missing counterparty sig for htlc {claim.htlcIdx}")
    parts.cpHtlcSigs[claim.htlcIdx]?
  let input ← Result.expect "index out of bounds" htlcTx.input[0]?
  let output ← Result.expect "index out of bounds" htlcTx.output[0]?
  .ok { claim := claim
        cpSig := cpSig
        redeemscript := ctx.prims.getHtlcRedeemscript claim.htlc features parts.txkeys
        input := input
        output := output }

def setWitness (tx : Transaction) (i : Nat) (witness : List (List U8)) : Transaction :=
  { tx with input := tx.input.modify i (fun input => { input with witness := witness }) }

def signHtlcInputs (parts : RecoveryParts) : List HtlcSigningData → Nat → Transaction → Transaction
  | [], _, tx => tx
  | sd :: rest, i, tx =>
    let holderSig := chan.keys.signHolderHtlcTransaction ctx.prims (chan.makeChannelParameters ctx)
      parts.perCommitmentPoint sd.claim.htlc tx i
    let witness := ctx.prims.buildHtlcInputWitness holderSig sd.cpSig sd.claim.preimage
      sd.redeemscript chan.setup.features
    signHtlcInputs parts rest (i + 1) (setWitness tx i witness)

def maxLockHeight : U32 := 499999999

def buildAndSignBatchedHtlcTx (parts : RecoveryParts) (htlcs : List ClaimableHtlc)
    (lockTime : U32) : Result Status Transaction := do
  let signingData ← htlcs.mapM (chan.htlcSigningData ctx parts)
  if lockTime > maxLockHeight then
    .err (Status.internal s!"invalid CLTV height locktime: {lockTime.toNat}")
  .ok (chan.signHtlcInputs ctx parts signingData 0
    { version := 2
      lockTime := lockTime
      input := signingData.map (·.input)
      output := signingData.map (·.output) })

/-- The HTLCs that have an output, are not spent yet and can be claimed: those offered once they
    expired, those received once their preimage is known. -/
def claimable (state : NodeState) (currentHeight : U32) (spentHtlcIndices : List Bool)
    (htlcs : List HTLCOutputInCommitment) : List ClaimableHtlc :=
  htlcs.zipIdx.filterMap fun (htlc, idx) =>
    if htlc.transactionOutputIndex.isNone ∨ spentHtlcIndices[idx]?.getD false = true then
      none
    else if htlc.offered then
      if htlc.cltvExpiry > currentHeight then none else some ⟨idx, htlc, none⟩
    else
      match (state.payments.lookup htlc.paymentHash).bind (·.preimage) with
      | none => none
      | some preimage => some ⟨idx, htlc, some preimage⟩

def expiries (htlcs : List ClaimableHtlc) : List U32 :=
  (htlcs.map (·.htlc.cltvExpiry)).dedup.insertionSort (fun a b => a ≤ b)

/-- The batches in which HTLCs are claimed, with the lock time of each: on zero-fee channels all
    received ones together and the offered ones by expiry, elsewhere one by one. -/
def batches (claims : List ClaimableHtlc) : List (List ClaimableHtlc × U32) :=
  let received := claims.filter (fun claim => !claim.htlc.offered)
  let offered := claims.filter (·.htlc.offered)
  let withExpiry (cltv : U32) := offered.filter (·.htlc.cltvExpiry = cltv)
  if chan.setup.isZeroFeeHtlc then
    (if received.isEmpty then [] else [(received, 0)])
      ++ (expiries offered).map (fun cltv => (withExpiry cltv, cltv))
  else
    received.map (fun claim => ([claim], 0))
      ++ (expiries offered).flatMap (fun cltv =>
        (withExpiry cltv).map (fun claim => ([claim], cltv)))

def signHolderHtlcTxsForRecovery (state : NodeState) (holderTx : CommitmentTransaction)
    (commitmentTxid : BitVec 256) (txkeys : TxCreationKeys) (cpHtlcSigs : List Signature)
    (spentHtlcIndices : List Bool) (chainHeightOverride : Option U32) :
    Result Status (List Transaction) := do
  -- the number is derived from the counter here, not taken from the commitment being closed
  let perCommitmentPoint ←
    chan.getPerCommitmentPoint ctx (chan.enforcementState.nextHolderCommitNum - 1)
  let currentHeight := chainHeightOverride.getD (chan.getChainState env).currentHeight
  if spentHtlcIndices.length ≠ holderTx.nondustHtlcs.length then
    .err (Status.invalidArgument (s!"spent_htlc_indices length mismatch: " ++
      s!"{spentHtlcIndices.length} != {holderTx.nondustHtlcs.length}"))
  let parts : RecoveryParts :=
    { commitmentTxid := commitmentTxid
      txkeys := txkeys
      perCommitmentPoint := perCommitmentPoint
      cpHtlcSigs := cpHtlcSigs
      feeratePerKw := if chan.setup.isZeroFeeHtlc then 0 else holderTx.negotiatedFeeratePerKw }
  let claims := claimable state currentHeight spentHtlcIndices holderTx.nondustHtlcs
  (chan.batches claims).mapM fun batch => chan.buildAndSignBatchedHtlcTx ctx parts batch.1 batch.2

def getUnilateralCloseKey (commitmentPoint revocationPubkey : PublicKey) :
    SecretKey × List Script :=
  let key := ctx.prims.derivePrivateKey commitmentPoint chan.keys.delayedPaymentBaseKey
  let redeemscript := ctx.prims.getRevokeableRedeemscript revocationPubkey
    chan.setup.counterpartySelectedContestDelay (ctx.prims.publicKey key)
  (key, [[], redeemscript])

structure Recovery where
  tx : Transaction
  htlcTxs : List Transaction
  revocableScript : Script
  closeKey : SecretKey × List Script
  revocationPubkey : PublicKey

/-- A dry run, without `persistClose`, signs the same transactions and does not close the
    channel. -/
def signHolderCommitmentTxForRecoveryInner (spentHtlcIndices : List Bool) (persistClose : Bool)
    (chainHeightOverride : Option U32) : ChannelCall Recovery := do
  let s ← get
  let commitment ← s.chan.getLatestHolderCommitmentForClose ctx
  let (recomposedTx, perCommitmentPoint, txkeys) ←
    s.chan.recomposeHolderCommitmentTx ctx commitment.commitmentNumber commitment.info
  let sig := s.chan.keys.signHolderCommitment ctx.prims (s.chan.makeChannelParameters ctx)
    recomposedTx
  let revocableRedeemscript := ctx.prims.getRevokeableRedeemscript
    recomposedTx.keys.revocationKey s.chan.setup.counterpartySelectedContestDelay
    recomposedTx.keys.broadcasterDelayedPaymentKey
  let tx := setWitness recomposedTx.transaction 0 (ctx.prims.fundingWitness sig
    commitment.counterpartySignatures.commitmentSig (s.chan.keys.pubkeys ctx.prims).fundingPubkey
    s.chan.setup.counterpartyPoints.fundingPubkey)
  let htlcTxs ← s.chan.signHolderHtlcTxsForRecovery ctx env s.state recomposedTx
    (ctx.prims.computeTxid tx) txkeys commitment.counterpartySignatures.htlcSigs spentHtlcIndices
    chainHeightOverride
  if persistClose then
    Locked.modifyEstate fun estate => { estate with channelClosed := true }
  let revocationPubkey ← Result.okOr
    (Status.internal "failure during derive_public_revocation_key")
    (ctx.prims.derivePublicRevocationKey perCommitmentPoint
      s.chan.setup.counterpartyPoints.revocationBasepoint)
  let closeKey := s.chan.getUnilateralCloseKey ctx perCommitmentPoint revocationPubkey
  if persistClose then
    persist env
  return { tx := tx
           htlcTxs := htlcTxs
           revocableScript := ctx.prims.toP2wsh revocableRedeemscript
           closeKey := closeKey
           revocationPubkey := revocationPubkey }

end Channel

end Vls
