import Mathlib.Data.List.Sort
import Vls.Lib.Word

/-! # Channels and commitments as data

The parameters of a channel and the content of a commitment transaction, in the form in which the
signer keeps and compares them. -/

namespace Vls

abbrev Script := List U8

structure PublicKey where
  serialized : BitVec 264
  deriving DecidableEq

instance : ToString PublicKey := ⟨fun key => key.serialized.toHex⟩

instance instLawfulBEqHash : LawfulBEq (BitVec 256) := inferInstance

structure SecretKey where
  bytes : BitVec 256
  deriving DecidableEq

structure Signature where
  compact : BitVec 512
  deriving DecidableEq

structure PaymentHash where
  bytes : BitVec 256
  deriving DecidableEq

structure PaymentPreimage where
  bytes : BitVec 256

structure ChannelId where
  bytes : List U8
  deriving DecidableEq

instance : ToString PaymentHash := ⟨fun hash => hash.bytes.toHex⟩

instance : ToString ChannelId := ⟨fun id => String.join (id.bytes.map BitVec.toHex)⟩

structure OutPoint where
  txid : BitVec 256
  vout : U32
  deriving DecidableEq

instance : ToString OutPoint := ⟨fun o => o.txid.toHex ++ ":" ++ toString o.vout.toNat⟩

structure TxIn where
  previousOutput : OutPoint
  scriptSig : Script
  sequence : U32
  witness : List (List U8)
  deriving DecidableEq

structure TxOut where
  value : U64
  scriptPubkey : Script
  deriving DecidableEq

structure Transaction where
  version : U32
  lockTime : U32
  input : List TxIn
  output : List TxOut
  deriving DecidableEq

structure ChannelPublicKeys where
  fundingPubkey : PublicKey
  revocationBasepoint : PublicKey
  paymentPoint : PublicKey
  delayedPaymentBasepoint : PublicKey
  htlcBasepoint : PublicKey
  deriving DecidableEq

inductive CommitmentType where
  | legacy
  | staticRemoteKey
  | anchors
  | anchorsZeroFeeHtlc
  deriving DecidableEq

/-- The feature bits of a channel that decide how its transactions are built. -/
structure ChannelTypeFeatures where
  staticRemoteKeyRequired : Bool
  anchorsNonzeroFeeHtlcTxOptional : Bool
  anchorsZeroFeeHtlcTxOptional : Bool

/-- The negotiated parameters of a channel. A splice changes the funding, so a channel whose
    splice is in flight has several of these at once, one per funding. -/
structure ChannelSetup where
  isOutbound : Bool
  channelValueSat : U64
  pushValueMsat : U64
  fundingOutpoint : OutPoint
  holderSelectedContestDelay : U16
  holderShutdownScript : Option Script
  counterpartyPoints : ChannelPublicKeys
  counterpartySelectedContestDelay : U16
  counterpartyShutdownScript : Option Script
  commitmentType : CommitmentType
  deriving DecidableEq

namespace ChannelSetup

def isAnchors (setup : ChannelSetup) : Bool :=
  setup.commitmentType = .anchors ∨ setup.commitmentType = .anchorsZeroFeeHtlc

def isZeroFeeHtlc (setup : ChannelSetup) : Bool :=
  setup.commitmentType = .anchorsZeroFeeHtlc

def features (setup : ChannelSetup) : ChannelTypeFeatures where
  staticRemoteKeyRequired := true
  anchorsNonzeroFeeHtlcTxOptional := setup.isAnchors && !setup.isZeroFeeHtlc
  anchorsZeroFeeHtlcTxOptional := setup.isAnchors && setup.isZeroFeeHtlc

end ChannelSetup

structure HTLCInfo2 where
  valueSat : U64
  paymentHash : PaymentHash
  cltvExpiry : U32
  deriving DecidableEq

/-- HTLCs are ordered by value, then by payment hash, then by expiry. -/
def HTLCInfo2.le (a b : HTLCInfo2) : Bool :=
  a.valueSat < b.valueSat ∨ (a.valueSat = b.valueSat ∧
    (a.paymentHash.bytes < b.paymentHash.bytes ∨ (a.paymentHash = b.paymentHash ∧
      a.cltvExpiry ≤ b.cltvExpiry)))

/-- The content of a commitment transaction. Values built by `new` list their HTLCs in order, so
    that two of them are equal exactly when they describe the same commitment. -/
structure CommitmentInfo2 where
  isCounterpartyBroadcaster : Bool
  toCountersignerValueSat : U64
  toBroadcasterValueSat : U64
  offeredHtlcs : List HTLCInfo2
  receivedHtlcs : List HTLCInfo2
  feeratePerKw : U32
  deriving DecidableEq

namespace CommitmentInfo2

def new (isCounterpartyBroadcaster : Bool) (toCountersignerValueSat toBroadcasterValueSat : U64)
    (offeredHtlcs receivedHtlcs : List HTLCInfo2) (feeratePerKw : U32) : CommitmentInfo2 where
  isCounterpartyBroadcaster := isCounterpartyBroadcaster
  toCountersignerValueSat := toCountersignerValueSat
  toBroadcasterValueSat := toBroadcasterValueSat
  offeredHtlcs := offeredHtlcs.insertionSort (fun a b => a.le b)
  receivedHtlcs := receivedHtlcs.insertionSort (fun a b => a.le b)
  feeratePerKw := feeratePerKw

def valueToParties (info : CommitmentInfo2) : U64 × U64 :=
  if info.isCounterpartyBroadcaster then
    (info.toCountersignerValueSat, info.toBroadcasterValueSat)
  else
    (info.toBroadcasterValueSat, info.toCountersignerValueSat)

def totalValue (info : CommitmentInfo2) : U64 :=
  info.toBroadcasterValueSat + info.toCountersignerValueSat
    + BitVec.sum (info.offeredHtlcs.map (·.valueSat))
    + BitVec.sum (info.receivedHtlcs.map (·.valueSat))

def holderHtlcs (info : CommitmentInfo2) : List HTLCInfo2 × List HTLCInfo2 :=
  if info.isCounterpartyBroadcaster then
    (info.receivedHtlcs, info.offeredHtlcs)
  else
    (info.offeredHtlcs, info.receivedHtlcs)

def addHtlcs (counts : HTLCInfo2 → Bool) : List HTLCInfo2 → U64 → Option U64
  | [], balance => some balance
  | htlc :: rest, balance =>
    if counts htlc then
      (balance.checkedAdd htlc.valueSat).bind (addHtlcs counts rest)
    else
      addHtlcs counts rest balance

/-- The holder's claim on the commitment: its output, the fee where it pays the fee, the HTLCs it
    receives and has the preimage of, and the HTLCs it offers whose preimage is not known. -/
def claimableBalance (info : CommitmentInfo2) (hasPreimage : PaymentHash → Bool)
    (isOutbound : Bool) (channelValue : U64) : Option U64 := do
  let balance ←
    if isOutbound then do
      let fee ← channelValue.checkedSub info.totalValue
      info.valueToParties.1.checkedAdd fee
    else
      some info.valueToParties.1
  let balance ← addHtlcs (fun o => !hasPreimage o.paymentHash) info.holderHtlcs.1 balance
  addHtlcs (fun r => hasPreimage r.paymentHash) info.holderHtlcs.2 balance

end CommitmentInfo2

structure CommitmentSignatures where
  commitmentSig : Signature
  htlcSigs : List Signature
  deriving DecidableEq

end Vls
