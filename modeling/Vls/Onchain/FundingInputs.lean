import Vls.Onchain.InputAmounts

/-! # The inputs of fundings

A transaction that funds a channel must not be malleable. The evidence for that is the previous
transactions of its inputs, which are dropped while the request is read; what the validator sees is
one flag for each. -/

namespace Vls

open OnchainNode StreamedPsbt

/-- The previous transaction of an input came with the request, and the output that is spent is a
    native segwit one and the one that is kept. -/
def StreamedPsbt.Evidenced (prims : Primitives) (txin : TxIn) (input kept : PsbtInput) : Prop :=
  ∃ prevTx output, input.nonWitnessUtxo = some prevTx ∧
    prims.computeTxid prevTx = txin.previousOutput.txid ∧
    prevTx.output[txin.previousOutput.vout.toNat]? = some output ∧
    output.scriptPubkey.isWitnessProgram ∧ kept.witnessUtxo = some output

def Node.IsFunding (prims : Primitives) (node : Node) (tx : Transaction) : Prop :=
  ∃ vout < tx.output.length,
    (node.findChannelWithFundingOutpoint ⟨prims.computeTxid tx, .ofNat 32 vout⟩).isSome

variable {ctx : OnchainContext} {request : Psbt} {streamed : StreamedPsbt}

theorem summarizeInput_flag {prims txin input kept flag}
    (looked : summarizeInput prims txin input = .ok (flag, kept)) :
    flag = true ↔ StreamedPsbt.Evidenced prims txin input kept := by
  cases supplied : input.nonWitnessUtxo with
  | none =>
    simp only [summarizeInput, supplied] at looked
    cases looked
    simp [StreamedPsbt.Evidenced, supplied]
  | some prevTx =>
    obtain ⟨txid, output, here, witnessed⟩ := summarizeInput_supplied looked supplied
    have seen : flag = output.scriptPubkey.isWitnessProgram := by
      simp only [summarizeInput, supplied, txid, here] at looked
      aesop
    simp_all [StreamedPsbt.Evidenced]

theorem exists_proposed {prims : Primitives} {node : Node} {tx opaths}
    (lengths : opaths.length = tx.output.length) (funds : node.IsFunding prims tx) :
    ∃ proposed ∈ node.proposedOutputs prims tx opaths, proposed.channel.isSome := by
  obtain ⟨vout, bound, funded⟩ := funds
  refine ⟨⟨tx.output[vout], opaths[vout], _⟩, ?_, funded⟩
  refine List.mem_iff_getElem?.mpr ⟨vout, ?_⟩
  simp [Node.proposedOutputs, bound, lengths]
  rfl

def StreamedPsbt.At (request : Psbt) (streamed : StreamedPsbt) (i : Nat) (txin : TxIn)
    (input kept : PsbtInput) (flag : Bool) : Prop :=
  request.unsignedTx.input[i]? = some txin ∧ request.inputs[i]? = some input ∧
    streamed.psbt.inputs[i]? = some kept ∧ streamed.segwitFlags[i]? = some flag

theorem exists_flag (read : consensusDecode ctx.prims request = .ok streamed) {i}
    (bound : i < request.unsignedTx.input.length) :
    ∃ txin input kept flag, StreamedPsbt.At request streamed i txin input kept flag ∧
      (flag = true ↔ StreamedPsbt.Evidenced ctx.prims txin input kept) := by
  obtain ⟨summaries, looked, -, inputs, flags⟩ := consensusDecode_summaries read
  have within : i < (request.unsignedTx.input.zip request.inputs).length := by
    simp [request.inputsLength, bound]
  have within' := looked.length_eq ▸ within
  have summary := looked.get within within'
  simp only [List.get_eq_getElem, List.getElem_zip] at summary
  exact ⟨_, _, _, _, ⟨by simp [bound], by simp [request.inputsLength, bound],
    by simp [inputs, within'], by simp [flags, within']⟩, summarizeInput_flag summary⟩

theorem flags_of_signed (strict : ctx.Strict) {env : OnchainEnv} {utxos : List Utxo} {s s' reply}
    (signed : signWithdrawal ctx env streamed utxos s = .ok reply s')
    (funds : s.node.IsFunding ctx.prims streamed.psbt.unsignedTx) :
    ∀ flag ∈ streamed.segwitFlags, flag = true := by
  obtain ⟨proposal, _, proposed, approved, -⟩ := signWithdrawal_ok signed
  obtain ⟨found, looked, -⟩ := handleProposedOnchain_approved strict approved
  exact (SimplePolicy.validateOutputs_ok strict.filter looked).1.nonMalleable
    (exists_proposed (propose_ok proposed).1 funds)

theorem funding_inputs_evidenced (strict : ctx.Strict)
    (read : consensusDecode ctx.prims request = .ok streamed) :
    (∀ i < request.unsignedTx.input.length, ∃ txin input kept flag,
      StreamedPsbt.At request streamed i txin input kept flag ∧
        (flag = true ↔ StreamedPsbt.Evidenced ctx.prims txin input kept) ∧
        ∀ env utxos s reply s', signWithdrawal ctx env streamed utxos s = .ok reply s' →
          s.node.IsFunding ctx.prims request.unsignedTx →
          StreamedPsbt.Evidenced ctx.prims txin input kept) ∧
    -- One flag for each input, and neither the assertion nor an index can fail.
    streamed.segwitFlags.length = request.unsignedTx.input.length ∧
    (∀ outputs, ∃ passed, SimplePolicy.fundingNonMalleable streamed.psbt.unsignedTx outputs
      streamed.segwitFlags = .ok passed) ∧
    (∀ node utxos proposal, propose ctx node streamed utxos = .ok proposal →
      proposal.opaths.length = streamed.psbt.unsignedTx.output.length ∧
        proposal.inputs.length = streamed.psbt.inputs.length) ∧
    ∀ env utxos s reply s', signWithdrawal ctx env streamed utxos s = .ok reply s' →
      reply.2.length = streamed.psbt.inputs.length := by
  obtain ⟨-, -, tx, -⟩ := consensusDecode_summaries read
  refine ⟨fun i bound => ?_, tx ▸ streamed.flagsLength, fun outputs => ?_,
    fun _ _ _ proposed => ?_, fun _ _ _ _ _ signed => ?_⟩
  · obtain ⟨txin, input, kept, flag, here, evidence⟩ := exists_flag read bound
    refine ⟨txin, input, kept, flag, here, evidence, fun env utxos s reply s' signed funds => ?_⟩
    exact evidence.mp (flags_of_signed strict signed (tx ▸ funds) flag
      (List.mem_of_getElem? here.2.2.2))
  · simp only [SimplePolicy.fundingNonMalleable, SimplePolicy.isTxNonMalleable,
      streamed.flagsLength, ne_eq, not_true_eq_false, if_false]
    split <;> exact ⟨_, rfl⟩
  · exact ⟨(propose_ok proposed).1, (propose_ok proposed).2.length_eq.symm⟩
  · obtain ⟨proposal, _, proposed, -, made, -⟩ := signWithdrawal_ok signed
    rw [← (Result.mapM_forall₂ made).length_eq, List.length_zipIdx,
      (propose_ok proposed).2.length_eq]

namespace Toy

def fundingRequest : Psbt where
  unsignedTx := ⟨2, 1, [⟨⟨5, 0⟩, [], 0, []⟩], [coin 7 999000]⟩
  inputs := [⟨some ⟨2, 5, [], [coin 1 1000000]⟩, none, none, none, none⟩]
  outputs := [toWallet 7]
  inputsLength := rfl
  outputsLength := by simp

def fundingRead : StreamedPsbt where
  psbt := { fundingRequest with inputs := [claimed (coin 1 1000000)], inputsLength := rfl }
  segwitFlags := [true]
  unsigned := by simp [Transaction.Unsigned, fundingRequest]
  flagsLength := rfl

def fundingNode : OnchainNode :=
  { walletNode with
    node := ⟨[.ready chan], (∅ : Map ChannelId Nat).insert chan.id0 0, nodeStart.state⟩ }

theorem funding_evidenced : ∃ reply s' txin input kept flag,
    signWithdrawal walletCtx walletEnv fundingRead [⟨5, 0, 1, none⟩] fundingNode = .ok reply s' ∧
      fundingNode.node.IsFunding walletCtx.prims fundingRequest.unsignedTx ∧
      StreamedPsbt.At fundingRequest fundingRead 0 txin input kept flag ∧
      StreamedPsbt.Evidenced walletCtx.prims txin input kept := by
  have read : consensusDecode walletCtx.prims fundingRequest = .ok fundingRead := by
    simp only [consensusDecode,
      show fundingRequest.unsignedTx.Unsigned from fundingRead.unsigned, ↓reduceDIte]
    rfl
  have ends : Call.Ends (signWithdrawal walletCtx walletEnv fundingRead [⟨5, 0, 1, none⟩])
      fundingNode (fun _ _ => True) fun _ _ => False := by
    decide +kernel
  have funds : fundingNode.node.IsFunding walletCtx.prims fundingRequest.unsignedTx :=
    ⟨0, by decide, by decide +kernel⟩
  obtain ⟨txin, input, kept, flag, here, -, evidenced⟩ :=
    (funding_inputs_evidenced walletCtx_strict read).1 0 (by decide)
  obtain ⟨reply, s', signed, -⟩ := ends.returns
  exact ⟨reply, s', txin, input, kept, flag, signed, funds, here, evidenced _ _ _ _ _ signed funds⟩

end Toy

end Vls
