import Vls.Policy.Error
import Vls.Tx

/-! # Reading HTLC scripts

The redeemscript of an HTLC output is one of two templates. The readers walk through the
instructions and keep the data that fills the gaps of the template. Why a script does not fit is not
kept, since no caller asks. -/

namespace Vls

inductive Opcode where
  | dup
  | drop
  | swap
  | size
  | hash160
  | equal
  | equalverify
  | «if»
  | notif
  | «else»
  | endif
  | checksig
  | checkmultisig
  | csv
  | cltv
  | pushnum (n : Int)
  | other (byte : U8)
  deriving DecidableEq

inductive Instruction where
  | op (opcode : Opcode)
  | pushBytes (data : List U8)
  deriving DecidableEq

/-- How scripts are taken apart. An opcode that cannot be parsed is `none`. -/
structure ScriptReader where
  instructions : Script → List (Option Instruction)
  readScriptint : List U8 → Option Int
  toAsmString : Script → String

/-- A reader moves an iterator over instructions. -/
abbrev ScriptParser := StateT (List (Option Instruction)) Option

namespace ScriptParser

def expectNext : ScriptParser Instruction := do
  match ← get with
  | some instruction :: rest => set rest; pure instruction
  | _ => failure

def expectOp (opcode : Opcode) : ScriptParser Unit := do
  if (← expectNext) = .op opcode then pure () else failure

def expectData : ScriptParser (List U8) := do
  match ← expectNext with
  | .pushBytes data => pure data
  | .op _ => failure

def expectScriptEnd : ScriptParser Unit := do
  match ← get with
  | [] => pure ()
  | _ => failure

variable (rest : List (Option Instruction))

@[simp]
theorem expectOp_run (opcode : Opcode) :
    (expectOp opcode).run (some (.op opcode) :: rest) = some ((), rest) := by
  simp [expectOp, expectNext, StateT.run_bind, StateT.run_get, StateT.run_set, StateT.run_pure]

theorem expectOp_run_ne {opcode found} (ne : found ≠ opcode) :
    (expectOp opcode).run (some (.op found) :: rest) = none := by
  have differ : Instruction.op found ≠ .op opcode := fun same => ne (Instruction.op.inj same)
  simp only [expectOp, expectNext, StateT.run_bind, StateT.run_get, Option.pure_def,
    Option.bind_eq_bind, Option.bind_some, StateT.run_set, StateT.run_pure, if_neg differ]
  rfl

@[simp]
theorem expectData_run (data : List U8) :
    expectData.run (some (.pushBytes data) :: rest) = some (data, rest) := rfl

@[simp]
theorem expectScriptEnd_run : expectScriptEnd.run [] = some ((), []) := rfl

end ScriptParser

namespace ScriptReader

open ScriptParser

variable (reader : ScriptReader)

def readNumber : Instruction → Option Int
  | .op (.pushnum n) => some n
  | .op _ => none
  | .pushBytes data => reader.readScriptint data

def expectNumber : ScriptParser Int := do
  reader.readNumber (← expectNext)

def expectThirtyTwo : ScriptParser Unit := do
  if (← reader.expectNumber) = 32 then pure () else failure

structure ReceivedHtlc where
  revocationHash : List U8
  remoteHtlcPubkey : List U8
  paymentHash : List U8
  localHtlcPubkey : List U8
  cltvExpiry : Int

structure OfferedHtlc where
  revocationHash : List U8
  remoteHtlcPubkey : List U8
  localHtlcPubkey : List U8
  paymentHash : List U8

/-- Both templates start with the way out for a revoked commitment. -/
def expectRevocation : ScriptParser (List U8 × List U8) := do
  expectOp .dup
  expectOp .hash160
  let revocationHash ← expectData
  expectOp .equal
  expectOp .if
  expectOp .checksig
  expectOp .else
  let remoteHtlcPubkey ← expectData
  expectOp .swap
  expectOp .size
  reader.expectThirtyTwo
  expectOp .equal
  pure (revocationHash, remoteHtlcPubkey)

def expectCheckMultisig : ScriptParser (List U8) := do
  expectOp (.pushnum 2)
  expectOp .swap
  let localHtlcPubkey ← expectData
  expectOp (.pushnum 2)
  expectOp .checkmultisig
  expectOp .else
  pure localHtlcPubkey

def expectPaymentHash : ScriptParser (List U8) := do
  expectOp .hash160
  let paymentHash ← expectData
  expectOp .equalverify
  pure paymentHash

/-- Both templates end alike: with anchors the outputs can only be spent a block later. -/
def expectHtlcEnd (isAnchors : Bool) : ScriptParser Unit := do
  expectOp .checksig
  expectOp .endif
  if isAnchors then
    expectOp (.pushnum 1)
    expectOp .csv
    expectOp .drop
  expectOp .endif
  expectScriptEnd

def receivedHtlc (isAnchors : Bool) : ScriptParser ReceivedHtlc := do
  let (revocationHash, remoteHtlcPubkey) ← reader.expectRevocation
  expectOp .if
  let paymentHash ← expectPaymentHash
  let localHtlcPubkey ← expectCheckMultisig
  expectOp .drop
  let cltvExpiry ← reader.expectNumber
  expectOp .cltv
  expectOp .drop
  expectHtlcEnd isAnchors
  pure { revocationHash, remoteHtlcPubkey, paymentHash, localHtlcPubkey, cltvExpiry }

def offeredHtlc (isAnchors : Bool) : ScriptParser OfferedHtlc := do
  let (revocationHash, remoteHtlcPubkey) ← reader.expectRevocation
  expectOp .notif
  expectOp .drop
  let localHtlcPubkey ← expectCheckMultisig
  let paymentHash ← expectPaymentHash
  expectHtlcEnd isAnchors
  pure { revocationHash, remoteHtlcPubkey, localHtlcPubkey, paymentHash }

def parseReceivedHtlcScript (script : Script) (isAnchors : Bool) : Option ReceivedHtlc :=
  (reader.receivedHtlc isAnchors).run' (reader.instructions script)

def parseOfferedHtlcScript (script : Script) (isAnchors : Bool) : Option OfferedHtlc :=
  (reader.offeredHtlc isAnchors).run' (reader.instructions script)

def htlcEnd (isAnchors : Bool) : List Instruction :=
  [.op .checksig, .op .endif]
  ++ (if isAnchors then [.op (.pushnum 1), .op .csv, .op .drop] else []) ++ [.op .endif]

/-- The instructions of a template, given the two branches of its second half. -/
def htlcTemplate (isAnchors : Bool) (revocationHash remoteHtlcPubkey : List U8)
    (thirtyTwo : Instruction) (branches : List Instruction) : List Instruction :=
  [.op .dup, .op .hash160, .pushBytes revocationHash, .op .equal, .op .if, .op .checksig,
    .op .else, .pushBytes remoteHtlcPubkey, .op .swap, .op .size, thirtyTwo, .op .equal]
  ++ branches ++ htlcEnd isAnchors

def OfferedHtlc.instructions (htlc : OfferedHtlc) (isAnchors : Bool) (thirtyTwo : Instruction) :
    List Instruction :=
  htlcTemplate isAnchors htlc.revocationHash htlc.remoteHtlcPubkey thirtyTwo
    [.op .notif, .op .drop, .op (.pushnum 2), .op .swap, .pushBytes htlc.localHtlcPubkey,
      .op (.pushnum 2), .op .checkmultisig, .op .else, .op .hash160, .pushBytes htlc.paymentHash,
      .op .equalverify]

def ReceivedHtlc.instructions (htlc : ReceivedHtlc) (isAnchors : Bool)
    (thirtyTwo cltvExpiry : Instruction) : List Instruction :=
  htlcTemplate isAnchors htlc.revocationHash htlc.remoteHtlcPubkey thirtyTwo
    [.op .if, .op .hash160, .pushBytes htlc.paymentHash, .op .equalverify, .op (.pushnum 2),
      .op .swap, .pushBytes htlc.localHtlcPubkey, .op (.pushnum 2), .op .checkmultisig, .op .else,
      .op .drop, cltvExpiry, .op .cltv, .op .drop]

variable {reader} {script : Script} {isAnchors : Bool} {thirtyTwo : Instruction}

theorem expectNumber_run {instruction n} (number : reader.readNumber instruction = some n)
    (rest : List (Option Instruction)) :
    reader.expectNumber.run (some instruction :: rest) = some (n, rest) := by
  simp only [expectNumber, expectNext, StateT.run_bind, StateT.run_get, Option.pure_def,
    Option.bind_eq_bind, Option.bind_some, StateT.run_set, StateT.run_pure]
  rw [number]
  rfl

theorem expectRevocation_run (number : reader.readNumber thirtyTwo = some 32)
    (revocationHash remoteHtlcPubkey : List U8) (branches : List Instruction) :
    reader.expectRevocation.run
        ((htlcTemplate isAnchors revocationHash remoteHtlcPubkey thirtyTwo branches).map some)
      = some ((revocationHash, remoteHtlcPubkey), (branches ++ htlcEnd isAnchors).map some) := by
  simp [expectRevocation, htlcTemplate, htlcEnd, StateT.run_bind, expectThirtyTwo,
    expectNumber_run number]

theorem expectHtlcEnd_run :
    (expectHtlcEnd isAnchors).run ((htlcEnd isAnchors).map some) = some ((), []) := by
  cases isAnchors <;> simp [expectHtlcEnd, htlcEnd, StateT.run_bind]

theorem parseOfferedHtlcScript_eq (htlc : OfferedHtlc)
    (number : reader.readNumber thirtyTwo = some 32)
    (template : reader.instructions script = (htlc.instructions isAnchors thirtyTwo).map some) :
    reader.parseOfferedHtlcScript script isAnchors = some htlc := by
  rw [parseOfferedHtlcScript, template, StateT.run'_eq, OfferedHtlc.instructions, offeredHtlc]
  simp [StateT.run_bind, expectRevocation_run number, expectCheckMultisig, expectPaymentHash,
    expectHtlcEnd_run]

theorem parseReceivedHtlcScript_eq (htlc : ReceivedHtlc) {cltvExpiry}
    (number : reader.readNumber thirtyTwo = some 32)
    (expiry : reader.readNumber cltvExpiry = some htlc.cltvExpiry)
    (template : reader.instructions script
      = (htlc.instructions isAnchors thirtyTwo cltvExpiry).map some) :
    reader.parseReceivedHtlcScript script isAnchors = some htlc
      ∧ reader.parseOfferedHtlcScript script isAnchors = none := by
  rw [parseReceivedHtlcScript, parseOfferedHtlcScript, template, StateT.run'_eq, StateT.run'_eq,
    ReceivedHtlc.instructions, receivedHtlc, offeredHtlc]
  constructor
  · simp [StateT.run_bind, expectRevocation_run number, expectCheckMultisig, expectPaymentHash,
      expectNumber_run expiry, expectHtlcEnd_run]
  · simp [StateT.run_bind, expectRevocation_run number, expectOp_run_ne]

end ScriptReader

end Vls
