import Vls.Tx

/-! # The libraries the signer links against

Curve arithmetic, hashing and the construction of Lightning transactions live outside the signer.
Nothing is assumed of them beyond what their types say: a per-commitment secret comes from a 48-bit
index, and the feerate of a commitment transaction is not an input of its construction. -/

namespace Vls

inductive EcdsaSighashType where
  | all
  | singlePlusAnyoneCanPay

structure HTLCOutputInCommitment where
  offered : Bool
  amountMsat : U64
  cltvExpiry : U32
  paymentHash : PaymentHash
  transactionOutputIndex : Option U32

structure TxCreationKeys where
  perCommitmentPoint : PublicKey
  revocationKey : PublicKey
  broadcasterHtlcKey : PublicKey
  countersignatoryHtlcKey : PublicKey
  broadcasterDelayedPaymentKey : PublicKey

structure ChannelTransactionParameters where
  holderPubkeys : ChannelPublicKeys
  holderSelectedContestDelay : U16
  isOutboundFromHolder : Bool
  counterpartyPubkeys : ChannelPublicKeys
  counterpartySelectedContestDelay : U16
  fundingTxid : BitVec 256
  fundingIndex : U16
  channelTypeFeatures : ChannelTypeFeatures
  channelValueSatoshis : U64

/-- The same channel parameters seen from the side of the party that broadcasts. -/
structure DirectedParameters where
  parameters : ChannelTransactionParameters
  holderIsBroadcaster : Bool

def DirectedParameters.broadcasterPubkeys (directed : DirectedParameters) : ChannelPublicKeys :=
  if directed.holderIsBroadcaster then directed.parameters.holderPubkeys
  else directed.parameters.counterpartyPubkeys

def DirectedParameters.countersignatoryPubkeys (directed : DirectedParameters) :
    ChannelPublicKeys :=
  if directed.holderIsBroadcaster then directed.parameters.counterpartyPubkeys
  else directed.parameters.holderPubkeys

structure CommitmentParts where
  commitmentNumber : U64
  perCommitmentPoint : PublicKey
  toBroadcasterValueSat : U64
  toCountersignatoryValueSat : U64
  htlcs : List HTLCOutputInCommitment
  parameters : DirectedParameters

structure Primitives where
  publicKey : SecretKey → PublicKey
  sha256 : BitVec 256 → BitVec 256
  signEcdsa : BitVec 256 → SecretKey → Signature
  verifyEcdsa : BitVec 256 → Signature → PublicKey → Bool
  p2wshSignatureHash : Transaction → Nat → Script → U64 → EcdsaSighashType → BitVec 256
  computeTxid : Transaction → BitVec 256
  toP2wsh : Script → Script
  buildCommitmentSecret : BitVec 256 → BitVec 48 → BitVec 256
  makeFundingRedeemscript : PublicKey → PublicKey → Script
  getRevokeableRedeemscript : PublicKey → U16 → PublicKey → Script
  getHtlcRedeemscript : HTLCOutputInCommitment → ChannelTypeFeatures → TxCreationKeys → Script
  keyFromBasepoint : (basepoint perCommitmentPoint : PublicKey) → PublicKey
  revocationKeyFromBasepoint : (basepoint perCommitmentPoint : PublicKey) → PublicKey
  derivePublicKey : PublicKey → PublicKey → Option PublicKey
  derivePublicRevocationKey : PublicKey → PublicKey → Option PublicKey
  derivePrivateKey : PublicKey → SecretKey → SecretKey
  /-- The transaction, and the HTLCs that got an output. -/
  buildCommitment : CommitmentParts → Transaction × List HTLCOutputInCommitment
  /-- Panics, here `none`, when the fee exceeds the amount of the HTLC. -/
  buildHtlcTransaction : (commitmentTxid : BitVec 256) → (feeratePerKw : U32) →
    (contestDelay : U16) → HTLCOutputInCommitment → ChannelTypeFeatures →
    (broadcasterDelayedPaymentKey revocationKey : PublicKey) → Option Transaction
  htlcWitnessScript : ChannelTransactionParameters → PublicKey → HTLCOutputInCommitment → Script
  fundingWitness : (holderSig counterpartySig : Signature) →
    (holderFundingKey counterpartyFundingKey : PublicKey) → List (List U8)
  buildHtlcInputWitness : (holderSig counterpartySig : Signature) → Option PaymentPreimage →
    Script → ChannelTypeFeatures → List (List U8)
  buildClosingTransaction : (toHolderValueSat toCounterpartyValueSat : U64) →
    (toHolderScript toCounterpartyScript : Script) → (fundingOutpoint : OutPoint) → Transaction
  getToCountersignerKeyedAnchorRedeemscript : (paymentPoint : PublicKey) → Script
  p2wpkh : PublicKey → Script
  getCommitmentTransactionNumberObscureFactor :
    (holderPaymentPoint counterpartyPaymentPoint : PublicKey) → (isOutbound : Bool) → U64
  weight : Transaction → U64
  htlcTimeoutTxWeight : ChannelTypeFeatures → U64
  htlcSuccessTxWeight : ChannelTypeFeatures → U64

structure CommitmentTransaction where
  commitmentNumber : U64
  negotiatedFeeratePerKw : U32
  keys : TxCreationKeys
  nondustHtlcs : List HTLCOutputInCommitment
  transaction : Transaction
  nonZeroFeeAnchors : Bool

namespace Primitives

variable (prims : Primitives)

/-- The keys in a commitment of `a`, which `b` countersigns. -/
def txCreationKeys (perCommitmentPoint : PublicKey) (a b : ChannelPublicKeys) :
    TxCreationKeys where
  perCommitmentPoint := perCommitmentPoint
  revocationKey := prims.revocationKeyFromBasepoint b.revocationBasepoint perCommitmentPoint
  broadcasterHtlcKey := prims.keyFromBasepoint a.htlcBasepoint perCommitmentPoint
  countersignatoryHtlcKey := prims.keyFromBasepoint b.htlcBasepoint perCommitmentPoint
  broadcasterDelayedPaymentKey :=
    prims.keyFromBasepoint a.delayedPaymentBasepoint perCommitmentPoint

def newCommitmentTransaction (parts : CommitmentParts) (feeratePerKw : U32) :
    CommitmentTransaction where
  commitmentNumber := parts.commitmentNumber
  negotiatedFeeratePerKw := feeratePerKw
  keys := prims.txCreationKeys parts.perCommitmentPoint parts.parameters.broadcasterPubkeys
    parts.parameters.countersignatoryPubkeys
  nondustHtlcs := (prims.buildCommitment parts).2
  transaction := (prims.buildCommitment parts).1
  nonZeroFeeAnchors := false

end Primitives

structure ClosingTransaction where
  toHolderValueSat : U64
  toCounterpartyValueSat : U64
  toHolderScript : Script
  toCounterpartyScript : Script
  built : Transaction

/-- A side without a script gets the empty one. -/
def Primitives.newClosingTransaction (prims : Primitives)
    (toHolderValueSat toCounterpartyValueSat : U64)
    (toHolderScript toCounterpartyScript : Option Script) (fundingOutpoint : OutPoint) :
    ClosingTransaction where
  toHolderValueSat := toHolderValueSat
  toCounterpartyValueSat := toCounterpartyValueSat
  toHolderScript := toHolderScript.getD []
  toCounterpartyScript := toCounterpartyScript.getD []
  built := prims.buildClosingTransaction toHolderValueSat toCounterpartyValueSat
    (toHolderScript.getD []) (toCounterpartyScript.getD []) fundingOutpoint

structure VlsChannelSigner where
  fundingKey : SecretKey
  revocationBaseKey : SecretKey
  paymentKey : SecretKey
  delayedPaymentBaseKey : SecretKey
  htlcBaseKey : SecretKey
  commitmentSeed : BitVec 256
  deriving DecidableEq

namespace VlsChannelSigner

variable (prims : Primitives) (keys : VlsChannelSigner)

def pubkeys : ChannelPublicKeys where
  fundingPubkey := prims.publicKey keys.fundingKey
  revocationBasepoint := prims.publicKey keys.revocationBaseKey
  paymentPoint := prims.publicKey keys.paymentKey
  delayedPaymentBasepoint := prims.publicKey keys.delayedPaymentBaseKey
  htlcBasepoint := prims.publicKey keys.htlcBaseKey

/-- Only the low 48 bits of the index take part in the derivation. -/
def releaseCommitmentSecret (idx : U64) : SecretKey :=
  ⟨prims.buildCommitmentSecret keys.commitmentSeed (idx.truncate 48)⟩

def getPerCommitmentPoint (idx : U64) : PublicKey :=
  prims.publicKey (keys.releaseCommitmentSecret prims idx)

def signFundingSpend (parameters : ChannelTransactionParameters) (transaction : Transaction) :
    Signature :=
  let redeemscript := prims.makeFundingRedeemscript (prims.publicKey keys.fundingKey)
    parameters.counterpartyPubkeys.fundingPubkey
  let sighash := prims.p2wshSignatureHash transaction 0 redeemscript
    parameters.channelValueSatoshis .all
  prims.signEcdsa sighash keys.fundingKey

def signHolderCommitment (parameters : ChannelTransactionParameters)
    (commitment : CommitmentTransaction) : Signature :=
  keys.signFundingSpend prims parameters commitment.transaction

def signClosingTransaction (parameters : ChannelTransactionParameters)
    (closingTx : ClosingTransaction) : Signature :=
  keys.signFundingSpend prims parameters closingTx.built

def signCounterpartyHtlc (parameters : ChannelTransactionParameters)
    (commitment : CommitmentTransaction) (htlc : HTLCOutputInCommitment) : Option Signature := do
  let features := parameters.channelTypeFeatures
  let htlcTx ← prims.buildHtlcTransaction (prims.computeTxid commitment.transaction)
    commitment.negotiatedFeeratePerKw parameters.holderSelectedContestDelay htlc features
    commitment.keys.broadcasterDelayedPaymentKey commitment.keys.revocationKey
  let redeemscript := prims.getHtlcRedeemscript htlc features commitment.keys
  let sighashType := if features.anchorsZeroFeeHtlcTxOptional then
    EcdsaSighashType.singlePlusAnyoneCanPay else .all
  let sighash := prims.p2wshSignatureHash htlcTx 0 redeemscript (htlc.amountMsat / 1000) sighashType
  some (prims.signEcdsa sighash
    (prims.derivePrivateKey commitment.keys.perCommitmentPoint keys.htlcBaseKey))

/-- The signature of the commitment and those of its HTLC transactions, `none` where building
    one of the latter panics. -/
def signCounterpartyCommitment (parameters : ChannelTransactionParameters)
    (commitment : CommitmentTransaction) : Option (Signature × List Signature) := do
  let htlcSigs ← commitment.nondustHtlcs.mapM
    (keys.signCounterpartyHtlc prims parameters commitment)
  some (keys.signFundingSpend prims parameters commitment.transaction, htlcSigs)

def signHolderHtlcTransaction (parameters : ChannelTransactionParameters)
    (perCommitmentPoint : PublicKey) (htlc : HTLCOutputInCommitment) (htlcTx : Transaction)
    (input : Nat) : Signature :=
  let witnessScript := prims.htlcWitnessScript parameters perCommitmentPoint htlc
  let sighash := prims.p2wshSignatureHash htlcTx input witnessScript (htlc.amountMsat / 1000) .all
  prims.signEcdsa sighash (prims.derivePrivateKey perCommitmentPoint keys.htlcBaseKey)

end VlsChannelSigner

end Vls
