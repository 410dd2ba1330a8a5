import Vls.Node.Machine
import Vls.Onchain.Validator

/-! # Withdrawals

The node checks a transaction of its wallet and then signs the inputs that are its own. The check
may end in the error for unknown outputs; the approver decides whether that counts as a failure.
The signing itself checks nothing. -/

namespace Vls

open Status

inductive Sighash where
  | legacy (tx : Transaction) (index : Nat) (scriptCode : Script)
  | segwitV0 (tx : Transaction) (index : Nat) (scriptCode : Script) (value : U64)
  | taproot (tx : Transaction) (index : Nat) (prevouts : List TxOut)

/-- The keys of the wallet, and what is done with them. -/
structure WalletKeys where
  getWalletPrivkey : DerivationPath → Result Status SecretKey
  p2pkh : PublicKey → Script
  p2shwpkh : PublicKey → Script
  p2tr : PublicKey → Script
  ecdsaSign : SecretKey → Sighash → List U8
  taprootSign : SecretKey → Sighash → List U8

structure OnchainContext extends NodeContext where
  wallet : WalletKeys
  /-- A developer's switch. -/
  disableBeneficialBalanceChecks : Bool

structure OnchainEnv extends Env where
  approveOnchain : Transaction → List TxOut → (unknownIndices : List Nat) → Bool

structure OnchainNode where
  node : Node
  feeVelocityControl : VelocityControl
  /-- What the control accepted, with the times. -/
  feesCharged : List (U64 × U64)
  /-- The inputs of their fundings that monitors and tracker were told of, by funding. -/
  fundingInputs : List (OutPoint × List OutPoint)

abbrev OnchainCall := Call Status OnchainNode

abbrev UnilateralCloseKey := SecretKey × List (List U8)

structure ProposedInput where
  prevOut : TxOut
  ipath : DerivationPath
  uniclosekey : Option UnilateralCloseKey

def PublicKey.serialize (key : PublicKey) : List U8 :=
  (List.range 33).map fun i => (key.serialized >>> (8 * (32 - i))).truncate 8

/-- The key of the holder's output of a commitment, and the end of its witness. A commitment of
    the holder's is named by its point. -/
def Channel.getSweepKey (ctx : Context) (chan : Channel) (commitmentPoint : Option PublicKey) :
    UnilateralCloseKey :=
  match commitmentPoint with
  | some point =>
    chan.getUnilateralCloseKey ctx point (ctx.prims.revocationKeyFromBasepoint
      chan.setup.counterpartyPoints.revocationBasepoint point)
  | none =>
    let pubkey := ctx.prims.publicKey chan.keys.paymentKey
    if chan.setup.isAnchors then
      (chan.keys.paymentKey, [ctx.prims.getToCountersignerKeyedAnchorRedeemscript pubkey])
    else
      (chan.keys.paymentKey, [pubkey.serialize])

namespace Node

def sortedIds (node : Node) : List ChannelId :=
  node.channels.keys.insertionSort fun a b => a.bytes ≤ b.bytes

def findChannelWithFundingOutpoint (node : Node) (outpoint : OutPoint) : Option Channel :=
  node.sortedIds.findSome? fun id =>
    match node.getChannel id with
    | some (_, .ready chan) => if chan.setup.fundingOutpoint = outpoint then some chan else none
    | _ => none

def proposedOutputs (prims : Primitives) (node : Node) (tx : Transaction)
    (opaths : List DerivationPath) : List ProposedOutput :=
  (tx.output.zip opaths).zipIdx.map fun ((output, opath), ndx) =>
    { output := output
      opath := opath
      channel := node.findChannelWithFundingOutpoint ⟨prims.computeTxid tx, .ofNat 32 ndx⟩ }

end Node

namespace OnchainNode

def witnessWeight (input : ProposedInput) : Nat :=
  if SpendType.fromScriptPubkey input.prevOut.scriptPubkey = .invalid then 0
  else
    let witLen := match input.uniclosekey with
      | some (_, stack) => (stack.map fun element => 1 + element.length).sum
      | none => 33
    2 + 1 + 1 + 72 + 1 + witLen

def weightLowerBound (tx : Transaction) (inputs : List ProposedInput) : Nat :=
  tx.weight + (inputs.map witnessWeight).sum

variable (ctx : OnchainContext) (env : OnchainEnv)

def checkOnchainTx (tx : Transaction) (segwitFlags : List Bool) (inputs : List ProposedInput)
    (opaths : List DerivationPath) : Call ValidationError OnchainNode Unit := do
  let s ← get
  let policy := ctx.validator.policy
  let nonBeneficialSat ← policy.validateOnchainTx ctx.prims ctx.disableBeneficialBalanceChecks
    env.wallet tx (s.node.proposedOutputs ctx.prims tx opaths) segwitFlags
    (inputs.map (·.prevOut.value)) (.ofNat 64 (weightLowerBound tx inputs))
  let now := BitVec.ofNat 64 env.now.asSecs
  let charge := s.feeVelocityControl.insert now (nonBeneficialSat * 1000)
  modify fun s => { s with
    feeVelocityControl := charge.2
    feesCharged := s.feesCharged ++ if charge.1 then [(now, nonBeneficialSat * 1000)] else [] }
  policy.filter.refuseIf (charge.1 = false) "check_onchain_tx" "policy-onchain-fee-range"
    (s!"fee velocity would be exceeded {charge.2.velocity.toNat} + " ++
      s!"{(nonBeneficialSat * 1000).toNat} > {charge.2.limit.toNat}")

/-- Ask the approver where the check found unknown outputs. -/
def handleProposedOnchain (tx : Transaction) (segwitFlags : List Bool)
    (inputs : List ProposedInput) (opaths : List DerivationPath) : OnchainCall Bool := fun s =>
  match checkOnchainTx ctx env tx segwitFlags inputs opaths s with
  | .ok () s' => .ok true s'
  | .error (.err ve) s' =>
    match ve.kind with
    | .unknownDestinations _ indices =>
      .ok (env.approveOnchain tx (inputs.map (·.prevOut)) indices) s'
    | _ => .error (.err (failedPrecondition ve.message)) s'
  | .error (.panic message) s' => .error (.panic message) s'

def signingKey (input : ProposedInput) : Result Status UnilateralCloseKey :=
  match input.uniclosekey with
  | some closeKey => .ok closeKey
  | none => do
    let key ← ctx.wallet.getWalletPrivkey input.ipath
    .ok (key, [(ctx.prims.publicKey key).serialize])

def expectScript (idx : Nat) (script expectedScriptpubkey : Script) : Result Status Unit :=
  if script ≠ expectedScriptpubkey then .panic s!"scriptpubkey mismatch on index {idx}" else .ok ()

def expectTaproot (input : ProposedInput) : Result Status Unit :=
  if input.ipath = [] then .err (invalidArgument "empty child path")
  else do
    let key ← ctx.wallet.getWalletPrivkey input.ipath
    if input.prevOut.scriptPubkey ≠ ctx.wallet.p2tr (ctx.prims.publicKey key) then
      .err (invalidArgument "wallet address does not match output address")
    else .ok ()

def signWith (tx : Transaction) (prevOuts : List TxOut) (input : ProposedInput) (idx : Nat)
    (privkey : SecretKey) (witness : List (List U8)) : Result Status (List (List U8)) := do
  let script := input.prevOut.scriptPubkey
  let value := input.prevOut.value
  let pubkey := ctx.prims.publicKey privkey
  match SpendType.fromScriptPubkey script with
  | .p2pkh =>
    expectScript idx script (ctx.wallet.p2pkh pubkey)
    return ctx.wallet.ecdsaSign privkey (.legacy tx idx (ctx.wallet.p2pkh pubkey)) :: witness
  | .p2wpkh =>
    expectScript idx script (ctx.prims.p2wpkh pubkey)
    return ctx.wallet.ecdsaSign privkey
      (.segwitV0 tx idx (ctx.prims.p2wpkh pubkey) value) :: witness
  | .p2shP2wpkh =>
    expectScript idx script (ctx.wallet.p2shwpkh pubkey)
    return ctx.wallet.ecdsaSign privkey
      (.segwitV0 tx idx (ctx.prims.p2wpkh pubkey) value) :: witness
  | .p2wsh =>
    let redeemscript ← Result.expect "attempt to subtract with overflow" witness.getLast?
    return ctx.wallet.ecdsaSign privkey (.segwitV0 tx idx redeemscript value) :: witness
  | .p2tr =>
    expectTaproot ctx input
    return [ctx.wallet.taprootSign privkey (.taproot tx idx prevOuts)]
  | .invalid => .err (invalidArgument "unsupported spend_type=Invalid")

def signInput (tx : Transaction) (prevOuts : List TxOut) (item : ProposedInput × Nat) :
    Result Status (List (List U8)) :=
  let (input, idx) := item
  if SpendType.fromScriptPubkey input.prevOut.scriptPubkey = .invalid ∨
      (input.uniclosekey = none ∧ input.ipath = []) then .ok []
  else do
    let (privkey, witness) ← signingKey ctx input
    signWith ctx tx prevOuts input idx privkey witness

def signInputs (tx : Transaction) (inputs : List ProposedInput) :
    Result Status (List (List (List U8))) :=
  inputs.zipIdx.mapM (signInput ctx tx (inputs.map (·.prevOut)))

def fundingSigned (tx : Transaction) (proposed : ProposedOutput) : OnchainCall Unit :=
  match proposed.channel with
  | none => return ()
  | some chan => do
    modify fun s => { s with fundingInputs :=
      s.fundingInputs ++ [(chan.setup.fundingOutpoint, tx.input.map (·.previousOutput))] }
    if env.persisted = false then
      throw (.err (internal "persist failed"))

/-- Returns a witness per input, which is empty where nothing was signed. -/
def uncheckedSignOnchainTx (tx : Transaction) (inputs : List ProposedInput)
    (opaths : List DerivationPath) : OnchainCall (List (List (List U8))) := do
  let s ← get
  let witvec ← signInputs ctx tx inputs
  (s.node.proposedOutputs ctx.prims tx opaths).forM (fundingSigned env tx)
  if env.trackerPersisted = false then
    throw (.err (internal "tracker persist failed"))
  return witvec

end OnchainNode

structure CloseInfo where
  peerId : Vector U8 33
  channelId : U64
  commitmentPoint : Option PublicKey

/-- An output that the node says is ours, and that is to be signed for. -/
structure Utxo where
  txid : BitVec 256
  outnum : U32
  keyindex : U32
  closeInfo : Option CloseInfo

def extractOutputPath (output : PsbtOutput) : Result Status DerivationPath :=
  match output.bip32Derivation, output.tapKeyOrigins with
  | [(_, path)], _ => .ok path
  | _ :: _ :: _, _ => .panic "len > 1"
  | [], [] => .ok []
  | [], [(_, hashes, path)] => if hashes ≠ [] then .panic "hashes not empty" else .ok path
  | [], _ :: _ :: _ => .panic "len > 1"

namespace OnchainNode

variable (ctx : OnchainContext) (env : OnchainEnv)

def resolveInput (node : Node) (utxos : List Utxo) (txin : TxIn) :
    Result Status (DerivationPath × Option UnilateralCloseKey) :=
  match utxos.find? fun u => ⟨u.txid, u.outnum⟩ = txin.previousOutput with
  | none => .ok ([], none)
  | some utxo =>
    match utxo.closeInfo with
    | none => .ok ([utxo.keyindex], none)
    | some ci =>
      let channelId := ChannelId.newFromPeerIdAndOid ci.peerId ci.channelId
      match node.getChannel channelId with
      | some (_, .ready chan) =>
        .ok ([utxo.keyindex], some (chan.getSweepKey ctx.toContext ci.commitmentPoint))
      | some (_, .stub _) => .err (invalidArgument s!"channel not ready: {channelId}")
      | none => .err (invalidArgument s!"no such channel: {channelId}")

def pushSlice (bytes : List U8) : Script :=
  let length :=
    fun width => (List.range width).map fun i => BitVec.ofNat 8 (bytes.length >>> (8 * i))
  (if bytes.length < 0x4c then length 1
    else if bytes.length < 0x100 then 0x4c :: length 1
    else if bytes.length < 0x10000 then 0x4d :: length 2
    else 0x4e :: length 4) ++ bytes

def populateScriptSig (input : PsbtInput) : Result Status PsbtInput :=
  match input.redeemScript with
  | none => .ok input
  | some script =>
    if input.finalScriptSig ≠ none then
      .panic "assertion failed: psbt_in.final_script_sig.is_none()"
    else .ok { input with finalScriptSig := some (pushSlice script) }

/-- What a request comes to: what its inputs are said to spend and are to be signed with, and the
    paths of its outputs. -/
structure Proposal where
  inputs : List ProposedInput
  opaths : List DerivationPath
  psbtInputs : List PsbtInput

def propose (node : Node) (streamed : StreamedPsbt) (utxos : List Utxo) :
    Result Status Proposal := do
  let psbt := streamed.psbt
  let opaths ← psbt.outputs.mapM extractOutputPath
  let prevOuts ← psbt.inputs.mapM fun input =>
    Result.expect "psbt input witness UTXOs must be populated" input.witnessUtxo
  let keys ← psbt.unsignedTx.input.mapM (resolveInput ctx node utxos)
  let psbtInputs ← psbt.inputs.mapM populateScriptSig
  .ok
    { inputs := prevOuts.zipWith (fun prevOut key => ⟨prevOut, key.1, key.2⟩) keys
      opaths := opaths
      psbtInputs := psbtInputs }

def signWithdrawal (streamed : StreamedPsbt) (utxos : List Utxo) :
    OnchainCall (List PsbtInput × List (List (List U8))) := do
  let s ← get
  let tx := streamed.psbt.unsignedTx
  let proposal ← propose ctx s.node streamed utxos
  let approved ←
    handleProposedOnchain ctx env tx streamed.segwitFlags proposal.inputs proposal.opaths
  if approved = false then
    throw (.err (failedPrecondition "unapproved destination"))
  let witvec ← uncheckedSignOnchainTx ctx env tx proposal.inputs proposal.opaths
  let withWitness := fun (input : PsbtInput) (stack : List (List U8)) =>
    if stack = [] then input else { input with finalScriptWitness := some stack }
  return (proposal.psbtInputs.zipWith withWitness witvec, witvec)

end OnchainNode

end Vls
