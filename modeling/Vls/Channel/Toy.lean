import Vls.Channel.Event

/-! # Toy primitives

Primitives that can be evaluated: a signature is the digest next to the key, a digest shows the
number and the value of the commitment, a secret shows its position. With them a run can be carried
out. -/

namespace Vls.Toy

def prims : Primitives where
  publicKey secret := ⟨secret.bytes.zeroExtend 264⟩
  sha256 bytes := bytes
  signEcdsa digest secret :=
    ⟨digest.zeroExtend 512 <<< 256 ||| secret.bytes.zeroExtend 512⟩
  verifyEcdsa digest sig key :=
    sig.compact == digest.zeroExtend 512 <<< 256 ||| key.serialized.zeroExtend 512
  p2wshSignatureHash tx _ _ value _ :=
    tx.lockTime.zeroExtend 256 <<< 64 ||| value.zeroExtend 256
  computeTxid tx := tx.lockTime.zeroExtend 256
  toP2wsh script := script
  buildCommitmentSecret seed idx := seed ^^^ idx.zeroExtend 256
  makeFundingRedeemscript _ _ := []
  getRevokeableRedeemscript _ _ _ := []
  getHtlcRedeemscript _ _ _ := []
  keyFromBasepoint basepoint _ := basepoint
  revocationKeyFromBasepoint basepoint _ := basepoint
  derivePublicKey _ basepoint := some basepoint
  derivePublicRevocationKey _ basepoint := some basepoint
  derivePrivateKey _ secret := secret
  buildCommitment parts :=
    let funding : OutPoint := ⟨parts.parameters.parameters.fundingTxid,
      parts.parameters.parameters.fundingIndex.zeroExtend 32⟩
    (⟨2, parts.commitmentNumber.truncate 32, [⟨funding, [], 0, []⟩], []⟩, parts.htlcs)
  buildHtlcTransaction _ _ _ htlc _ _ _ :=
    some ⟨2, htlc.cltvExpiry, [⟨⟨0, 0⟩, [], 0, []⟩], [⟨htlc.amountMsat / 1000, []⟩]⟩
  htlcWitnessScript _ _ _ := []
  fundingWitness _ _ _ _ := []
  buildHtlcInputWitness _ _ _ _ _ := []
  buildClosingTransaction toHolderValueSat toCounterpartyValueSat holderScript cpScript funding :=
    let outputs : List TxOut :=
      [⟨toHolderValueSat, holderScript⟩, ⟨toCounterpartyValueSat, cpScript⟩]
    ⟨2, 0, [⟨funding, [], 0xffffffff, []⟩], outputs.filter (·.value ≠ 0)⟩
  getToCountersignerKeyedAnchorRedeemscript _ := [1]
  p2wpkh _ := [2]
  getCommitmentTransactionNumberObscureFactor _ _ _ := 0
  weight _ := 500
  htlcTimeoutTxWeight _ := 663
  htlcSuccessTxWeight _ := 703

theorem buildCommitmentSecret_injective (seed : BitVec 256) :
    Function.Injective (prims.buildCommitmentSecret seed) := by
  intro a b same
  have widened : a.zeroExtend 256 = b.zeroExtend 256 := by simpa [prims] using same
  have := congrArg BitVec.toNat widened
  bv_omega

def ctx : Context where
  prims := prims
  validator := .simple (makeDefaultSimplePolicy .testnet)
  decodeCommitmentTx _ _ _ _ _ := .ok ⟨0, 0⟩

theorem strict : ctx.validator.Strict :=
  PolicyFilter.default_strict

def key (n : Nat) : PublicKey := ⟨BitVec.ofNat 264 n⟩

def setup : ChannelSetup where
  isOutbound := true
  channelValueSat := 1000000
  pushValueMsat := 0
  fundingOutpoint := ⟨1, 0⟩
  holderSelectedContestDelay := 10
  holderShutdownScript := none
  counterpartyPoints := ⟨key 1, key 2, key 3, key 4, key 5⟩
  counterpartySelectedContestDelay := 10
  counterpartyShutdownScript := none
  commitmentType := .staticRemoteKey

def splicedSetup : ChannelSetup := { setup with fundingOutpoint := ⟨2, 0⟩ }

def chan : Channel where
  keys := ⟨⟨11⟩, ⟨12⟩, ⟨13⟩, ⟨14⟩, ⟨15⟩, 0⟩
  enforcementState := .new 1000000
  setup := setup
  id0 := ⟨[1]⟩
  id := none
  prevSetup := none
  prevPrevSetup := none
  fundingLocked := none

def env : Env where
  monitorState := ⟨1, 1, 0, 0, false⟩
  wallet := ⟨fun _ _ => .ok true, fun _ _ => true⟩
  now := 0
  persisted := true
  trackerPersisted := true

def start : Locked := ⟨chan, .new .newUnlimited⟩

theorem fresh : Fresh start := ⟨⟨1000000, rfl⟩, rfl, rfl, rfl⟩

def signatures (commitmentNumber value : U64) (htlcSigs : List Signature) : CommitmentSignatures :=
  let tx : Transaction := ⟨2, (initialCommitmentNumber - commitmentNumber).truncate 32, [], []⟩
  ⟨prims.signEcdsa (prims.p2wshSignatureHash tx 0 [] value .all) ⟨1⟩, htlcSigs⟩

def values (toHolderValueSat : U64) : Channel.CommitmentValues :=
  ⟨1000, toHolderValueSat, 0, [], []⟩

def validateHolder (setup : ChannelSetup) (commitmentNumber : U64) : ChannelInput :=
  .call env (.validateHolderCommitmentTxPhase2 setup.fundingOutpoint commitmentNumber
    (values 999000) (signatures commitmentNumber setup.channelValueSat []))

def signCounterparty (setup : ChannelSetup) (point : Nat) (commitmentNumber : U64)
    (toHolderValueSat : U64) : ChannelInput :=
  .call env (.signCounterpartyCommitmentTxPhase2 setup.fundingOutpoint (key point)
    commitmentNumber (values toHolderValueSat))

def splice : ChannelInput := .call env (.setupSplice splicedSetup [])

def lock : ChannelInput := .call env (.confirmFundingLocked splicedSetup.fundingOutpoint)

def revoke (newCurrentCommitmentNumber : U64) : ChannelInput :=
  .call env (.revokePreviousHolderCommitment newCurrentCommitmentNumber)

def activate : ChannelInput := .call env .activateInitialCommitment

end Vls.Toy
