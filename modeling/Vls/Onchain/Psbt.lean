import Vls.Channel.Basic
import Vls.Monitor.Commitment

/-! # Partially signed transactions

What the wallet is asked to sign arrives as an unsigned transaction with notes on its inputs and
outputs. A note may carry the previous transaction of an input, which is looked at while the
request is read and then dropped: what stays of it is whether the output spent is a segwit one. -/

namespace Vls

namespace Script

/-- A push of the given number of bytes between fixed bytes. -/
def isTemplate (front : List U8) (pushed : Nat) (back : List U8) (script : Script) : Bool :=
  script.length = front.length + pushed + back.length ∧ script.take front.length = front ∧
    script.drop (front.length + pushed) = back

def isP2pkh : Script → Bool := isTemplate [0x76, 0xa9, 0x14] 20 [0x88, 0xac]

def isP2sh : Script → Bool := isTemplate [0xa9, 0x14] 20 [0x87]

def isP2wpkh : Script → Bool := isTemplate [0x00, 0x14] 20 []

def isP2tr : Script → Bool := isTemplate [0x51, 0x20] 32 []

/-- A version followed by one push of 2 to 40 bytes. -/
def isWitnessProgram : Script → Bool
  | version :: push :: program =>
    (version = 0 ∨ 0x51 ≤ version ∧ version ≤ 0x60) ∧ 2 ≤ program.length ∧ program.length ≤ 40 ∧
      push = BitVec.ofNat 8 program.length
  | _ => false

end Script

inductive SpendType where
  | invalid
  | p2pkh
  | p2wpkh
  | p2shP2wpkh
  | p2wsh
  | p2tr
  deriving DecidableEq

def SpendType.fromScriptPubkey (script : Script) : SpendType :=
  if script.isP2pkh then .p2pkh
  else if script.isP2sh then .p2shP2wpkh
  else if script.isP2wpkh then .p2wpkh
  else if script.isP2wsh then .p2wsh
  else if script.isP2tr then .p2tr
  else .invalid

def varIntSize (n : Nat) : Nat :=
  if n < 0xfd then 1 else if n ≤ 0xffff then 3 else if n ≤ 0xffffffff then 5 else 9

def TxIn.baseSize (input : TxIn) : Nat :=
  32 + 4 + varIntSize input.scriptSig.length + input.scriptSig.length + 4

def TxIn.witnessSize (input : TxIn) : Nat :=
  varIntSize input.witness.length +
    (input.witness.map fun element => varIntSize element.length + element.length).sum

def TxOut.size (output : TxOut) : Nat :=
  8 + varIntSize output.scriptPubkey.length + output.scriptPubkey.length

namespace Transaction

variable (tx : Transaction)

def baseSize : Nat :=
  4 + varIntSize tx.input.length + (tx.input.map TxIn.baseSize).sum +
    varIntSize tx.output.length + (tx.output.map TxOut.size).sum + 4

/-- A transaction without inputs is serialised with witnesses too, so that it can be told from
    one with a marker. -/
def usesSegwitSerialization : Bool :=
  tx.input = [] ∨ tx.input.any (·.witness ≠ [])

def totalSize : Nat :=
  tx.baseSize +
    if tx.usesSegwitSerialization then 2 + (tx.input.map TxIn.witnessSize).sum else 0

def weight : Nat := 3 * tx.baseSize + tx.totalSize

def Unsigned : Prop := ∀ input ∈ tx.input, input.scriptSig = [] ∧ input.witness = []
  deriving Decidable

end Transaction

theorem Transaction.Unsigned.weight_le {tx : Transaction} (unsigned : tx.Unsigned) :
    tx.weight ≤ 4 * tx.baseSize + 2 := by
  have extra : (if tx.usesSegwitSerialization then 2 + (tx.input.map TxIn.witnessSize).sum
      else 0) ≤ 2 := by
    cases noInput : tx.input with
    | nil => split <;> simp
    | cons input inputs =>
      have none : tx.usesSegwitSerialization = false := by
        simp only [Transaction.usesSegwitSerialization, noInput, reduceCtorEq, false_or,
          decide_eq_false_iff_not, Bool.not_eq_true, List.any_eq_false, decide_eq_true_eq, not_not]
        intro input' mem
        exact (unsigned input' (noInput ▸ mem)).2
      simp [none]
  unfold Transaction.weight Transaction.totalSize
  omega

theorem Transaction.input_length_le (tx : Transaction) : tx.input.length ≤ tx.baseSize := by
  have each : tx.input.length ≤ (tx.input.map TxIn.baseSize).sum := by
    induction tx.input with
    | nil => simp
    | cons input inputs ih =>
      simp only [List.length_cons, List.map_cons, List.sum_cons, TxIn.baseSize]
      omega
  unfold Transaction.baseSize
  omega

structure PsbtInput where
  nonWitnessUtxo : Option Transaction
  witnessUtxo : Option TxOut
  redeemScript : Option Script
  finalScriptSig : Option Script
  finalScriptWitness : Option (List (List U8))

/-- What it says of an output: the paths of the keys it pays to, and for taproot keys the leaves
    they belong to. -/
structure PsbtOutput where
  bip32Derivation : List (PublicKey × DerivationPath)
  tapKeyOrigins : List (BitVec 256 × List (BitVec 256) × DerivationPath)

structure Psbt where
  unsignedTx : Transaction
  inputs : List PsbtInput
  outputs : List PsbtOutput
  inputsLength : inputs.length = unsignedTx.input.length
  outputsLength : outputs.length = unsignedTx.output.length

/-- A request as it is kept once it has been read. -/
structure StreamedPsbt where
  psbt : Psbt
  segwitFlags : List Bool
  unsigned : psbt.unsignedTx.Unsigned
  flagsLength : segwitFlags.length = psbt.unsignedTx.input.length

namespace StreamedPsbt

def summarizeInput (prims : Primitives) (txin : TxIn) (input : PsbtInput) :
    Result String (Bool × PsbtInput) :=
  match input.nonWitnessUtxo with
  | none => .ok (false, input)
  | some inputTx =>
    if prims.computeTxid inputTx ≠ txin.previousOutput.txid then .err "missing utxo"
    else match inputTx.output[txin.previousOutput.vout.toNat]? with
      | none => .err "missing utxo"
      | some output =>
        match input.witnessUtxo with
        | some txo =>
          if txo ≠ output then .err "missing utxo"
          else .ok (output.scriptPubkey.isWitnessProgram, { input with nonWitnessUtxo := none })
        | none => .ok (output.scriptPubkey.isWitnessProgram,
            { input with nonWitnessUtxo := none, witnessUtxo := some output })

def consensusDecode (prims : Primitives) (global : Psbt) : Result String StreamedPsbt :=
  if unsigned : global.unsignedTx.Unsigned then
    let items := global.unsignedTx.input.zip global.inputs
    match read : items.mapM fun item => summarizeInput prims item.1 item.2 with
    | .error fault => .error fault
    | .ok summaries =>
      have length : summaries.length = global.unsignedTx.input.length := by
        have same := (Result.mapM_forall₂ read).length_eq
        simp only [items, List.length_zip, global.inputsLength, Nat.min_self] at same
        exact same.symm
      .ok
        { psbt := { global with
            inputs := summaries.map Prod.snd
            inputsLength := (List.length_map _).trans length }
          segwitFlags := summaries.map Prod.fst
          unsigned := unsigned
          flagsLength := (List.length_map _).trans length }
  else .err "txs checks fails"

end StreamedPsbt

end Vls
