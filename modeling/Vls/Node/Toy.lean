import Vls.Channel.Toy
import Vls.Node.Machine

/-! # A toy node

A node with two channels over the toy primitives, and the requests of its runs. -/

namespace Vls.Toy

def nodeCtx (policy : SimplePolicy) : NodeContext where
  prims := prims
  validator := .simple policy
  decodeCommitmentTx := ctx.decodeCommitmentTx
  getChannelKeysWithId _ := chan.keys

def nodeStart : Node := .new .newUnlimited

def peerId : Vector U8 33 := .replicate 33 0

def channelId (oid : U64) : ChannelId := .newFromPeerIdAndOid peerId oid

def createChannel (oid : U64) : NodeInput := ⟨env, .newChannel oid peerId⟩

def sharedSetup : ChannelSetup := { setup with pushValueMsat := 500000000 }

def openChannel (oid : U64) : NodeInput :=
  ⟨env, .setupChannel (channelId oid) none sharedSetup []⟩

def onChannel (oid : U64) (request : ChannelRequest) : NodeInput :=
  ⟨env, .withChannel (channelId oid) request⟩

def paymentHash (n : Nat) : PaymentHash := ⟨BitVec.ofNat 256 n⟩

def htlc (value : U64) (hash : Nat) (expiry : U32) : HTLCInfo2 :=
  ⟨value, paymentHash hash, expiry⟩

def htlcSignature (htlc : HTLCInfo2) : Signature :=
  let tx : Transaction := ⟨2, htlc.cltvExpiry, [], []⟩
  prims.signEcdsa (prims.p2wshSignatureHash tx 0 [] htlc.valueSat .all) ⟨5⟩

def validate (oid commitmentNumber : U64) (values : Channel.CommitmentValues) : NodeInput :=
  onChannel oid (.validateHolderCommitmentTxPhase2 setup.fundingOutpoint commitmentNumber values
    (signatures commitmentNumber setup.channelValueSat
      ((values.offeredHtlcs ++ values.receivedHtlcs).map htlcSignature)))

def sign (oid commitmentNumber : U64) (values : Channel.CommitmentValues) : NodeInput :=
  onChannel oid (.signCounterpartyCommitmentTxPhase2 setup.fundingOutpoint
    (key (21 + commitmentNumber.toNat)) commitmentNumber values)

def activateOn (oid : U64) : NodeInput := onChannel oid .activateInitialCommitment

def revokeOn (oid newCurrentCommitmentNumber : U64) : NodeInput :=
  onChannel oid (.revokePreviousHolderCommitment newCurrentCommitmentNumber)

def approve (hash : Nat) (amountMsat : U64) : NodeInput :=
  ⟨env, .addInvoice ⟨paymentHash hash, 7, amountMsat, key 9, 0, Duration.fromSecs 3600⟩⟩

end Vls.Toy
