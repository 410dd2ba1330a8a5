import Vls.Node.Toy
import Vls.Onchain.Withdrawal

/-! # A toy wallet

Coins of the wallet are locked by the keys themselves, and a signature shows the amount and the
script that it is about. -/

namespace Vls.Toy

def coinScript (key : PublicKey) : Script := [0x00, 0x14] ++ key.serialize.drop 13

def valueBytes (value : U64) : List U8 :=
  (List.range 8).map fun i => (value >>> (8 * i)).truncate 8

def walletKeys : WalletKeys where
  getWalletPrivkey path := .ok ⟨(path.headD 0).zeroExtend 256⟩
  p2pkh key := [0x76, 0xa9, 0x14] ++ key.serialize.drop 13 ++ [0x88, 0xac]
  p2shwpkh _ := []
  p2tr key := [0x51, 0x20] ++ key.serialize.drop 1
  ecdsaSign _ hash :=
    match hash with
    | .segwitV0 _ _ scriptCode value => 0 :: (valueBytes value ++ scriptCode)
    | _ => [1]
  taprootSign _ _ := [2]

def walletCtx : OnchainContext where
  prims := { prims with p2wpkh := coinScript }
  validator := .simple (makeDefaultSimplePolicy .testnet)
  decodeCommitmentTx := ctx.decodeCommitmentTx
  getChannelKeysWithId _ := chan.keys
  wallet := walletKeys
  disableBeneficialBalanceChecks := false

def coin (keyindex : U32) (value : U64) : TxOut :=
  ⟨value, coinScript (prims.publicKey ⟨keyindex.zeroExtend 256⟩)⟩

def walletEnv : OnchainEnv :=
  { env with
    wallet := ⟨fun path script => .ok (script == (coin (path.headD 0) 0).scriptPubkey),
      fun _ _ => false⟩
    approveOnchain := fun _ _ _ => true }

def walletNode : OnchainNode := ⟨nodeStart, .newUnlimited, [], []⟩

def coinTxid (n : Nat) : BitVec 256 := BitVec.ofNat 256 (2 ^ 200 + n)

def coinInput (n : Nat) : TxIn := ⟨⟨coinTxid n, 0⟩, [], 0, []⟩

def coinUtxo (n : Nat) : Utxo := ⟨coinTxid n, 0, BitVec.ofNat 32 n, none⟩

def claimed (output : TxOut) : PsbtInput := ⟨none, some output, none, none, none⟩

def toWallet (keyindex : U32) : PsbtOutput := ⟨[(key 1, [keyindex])], []⟩

end Vls.Toy
