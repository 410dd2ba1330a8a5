import Vls.Onchain.Approval

/-! # The amounts of inputs

What an input spends is known to the signer from the request. A signature for a segwit input only
holds if the truth was said of this very input, so a request that lies about another one gets a
signature that holds. Calls that lie about different inputs may together sign all of them. -/

namespace Vls

open ProposedOutput SimplePolicy OnchainNode StreamedPsbt Result List

variable {txin : TxIn} {input : ProposedInput} {prevTx : Transaction} {i : Nat}
  {witness : List (List U8)} {ctx : OnchainContext} {value : U64} {truth : List TxOut}

/-- An output whose signatures are about its own amount only. -/
def SpendType.IsSegwitV0 (spendType : SpendType) : Prop :=
  spendType = .p2wpkh ∨ spendType = .p2shP2wpkh ∨ spendType = .p2wsh

/-- Which witness lets a transaction spend an input, given what its inputs truly are. A signature of
    segwit version 0 holds only if what was claimed of its own input is true, one of taproot only if
    all claims are. -/
structure Consensus (ctx : OnchainContext) where
  accepts : (truth : List TxOut) → Transaction → Nat → (witness : List (List U8)) → Prop
  segwitV0 : ∀ {truth claimed tx input i witness},
    signInput ctx tx claimed (input, i) = .ok witness → witness ≠ [] →
    (SpendType.fromScriptPubkey input.prevOut.scriptPubkey).IsSegwitV0 →
    accepts truth tx i witness → truth[i]? = some input.prevOut
  taproot : ∀ {truth claimed tx input i witness},
    signInput ctx tx claimed (input, i) = .ok witness → witness ≠ [] →
    SpendType.fromScriptPubkey input.prevOut.scriptPubkey = .p2tr →
    accepts truth tx i witness → truth = claimed

structure Withdrawal (ctx : OnchainContext) where
  env : OnchainEnv
  before : OnchainNode
  request : Psbt
  utxos : List Utxo
  streamed : StreamedPsbt
  proposal : Proposal
  reply : List PsbtInput × List (List (List U8))
  after : OnchainNode
  read : consensusDecode ctx.prims request = .ok streamed
  proposed : propose ctx before.node streamed utxos = .ok proposal
  signed : signWithdrawal ctx env streamed utxos before = .ok reply after

section reading

variable {ctx : OnchainContext} {node : Node} {request : Psbt} {streamed : StreamedPsbt}
  {utxos : List Utxo} {proposal : Proposal}

theorem consensusDecode_summaries (read : consensusDecode ctx.prims request = .ok streamed) :
    ∃ summaries, List.Forall₂
        (fun item summary => summarizeInput ctx.prims item.1 item.2 = .ok summary)
        (request.unsignedTx.input.zip request.inputs) summaries ∧
      streamed.psbt.unsignedTx = request.unsignedTx ∧
      streamed.psbt.inputs = summaries.map Prod.snd ∧
      streamed.segwitFlags = summaries.map Prod.fst := by
  unfold consensusDecode at read
  split at read
  · simp only at read
    split at read
    · cases read
    · rename_i summaries looked
      cases read
      exact ⟨summaries, mapM_forall₂ looked, rfl, rfl, rfl⟩
  · cases read

theorem consensusDecode_ok (read : consensusDecode ctx.prims request = .ok streamed) :
    streamed.psbt.unsignedTx = request.unsignedTx ∧ List.Forall₂ (fun item input => ∃ flag,
          summarizeInput ctx.prims item.1 item.2 = .ok (flag, input))
        (request.unsignedTx.input.zip request.inputs) streamed.psbt.inputs := by
  obtain ⟨summaries, looked, tx, inputs, -⟩ := consensusDecode_summaries read
  rw [inputs, forall₂_map_right_iff]
  exact ⟨tx, looked.imp fun item summary here => ⟨summary.1, here⟩⟩

theorem summarizeInput_supplied {prims input input' flag}
    (looked : summarizeInput prims txin input = .ok (flag, input'))
    (supplied : input.nonWitnessUtxo = some prevTx) :
    prims.computeTxid prevTx = txin.previousOutput.txid ∧
      ∃ output, prevTx.output[txin.previousOutput.vout.toNat]? = some output ∧
        input'.witnessUtxo = some output := by
  simp only [summarizeInput, supplied] at looked
  split at looked
  · cases looked
  · rename_i same
    split at looked
    · cases looked
    · rename_i output here
      refine ⟨not_not.mp same, output, here, ?_⟩
      split at looked
      · rename_i txo claim
        split at looked
        · cases looked
        · rename_i agrees
          cases looked
          simpa [not_not.mp agrees] using claim
      · cases looked
        rfl

theorem proposedOutputs_output (prims : Primitives) (node : Node) {tx opaths}
    (lengths : opaths.length = tx.output.length) :
    (node.proposedOutputs prims tx opaths).map (·.output) = tx.output := by
  have indexed : (node.proposedOutputs prims tx opaths).map (·.output)
      = ((tx.output.zip opaths).zipIdx.map Prod.fst).map Prod.fst := by
    simp only [Node.proposedOutputs, map_map]
    rfl
  rw [indexed, zipIdx_map_fst, map_fst_zip lengths.ge]

theorem propose_ok (proposed : propose ctx node streamed utxos = .ok proposal) :
    proposal.opaths.length = streamed.psbt.unsignedTx.output.length ∧
      List.Forall₂ (fun (input : PsbtInput) (item : ProposedInput) =>
        input.witnessUtxo = some item.prevOut) streamed.psbt.inputs proposal.inputs := by
  obtain ⟨opaths, paths, proposed⟩ := bind_eq_ok.mp proposed
  obtain ⟨prevOuts, spent, proposed⟩ := bind_eq_ok.mp proposed
  obtain ⟨keys, resolved, proposed⟩ := bind_eq_ok.mp proposed
  obtain ⟨psbtInputs, -, proposed⟩ := bind_eq_ok.mp proposed
  cases proposed
  have outs := mapM_forall₂ spent
  have keysLength := (mapM_forall₂ resolved).length_eq
  refine ⟨(mapM_forall₂ paths).length_eq.symm.trans streamed.psbt.outputsLength, ?_⟩
  rw [forall₂_iff_get]
  have lengths : prevOuts.length = keys.length := by
    rw [← outs.length_eq, streamed.psbt.inputsLength, keysLength]
  refine ⟨by simp [outs.length_eq, lengths], fun i first second => ?_⟩
  have here := outs.get first (by rw [← outs.length_eq]; exact first)
  simpa [expect_eq_ok] using here

end reading

namespace Withdrawal

variable {ctx : OnchainContext} (call : Withdrawal ctx)

def tx : Transaction := call.request.unsignedTx

def claims : List TxOut := call.proposal.inputs.map (·.prevOut)

def closeKey (i : Nat) : Option UnilateralCloseKey :=
  call.proposal.inputs[i]?.bind (·.uniclosekey)

def spendType (i : Nat) : Option SpendType :=
  call.claims[i]?.map fun output => .fromScriptPubkey output.scriptPubkey

def Supplies (i : Nat) : Prop := ∃ input ∈ call.request.inputs[i]?, input.nonWitnessUtxo.isSome

variable {call}

theorem tx_eq : call.streamed.psbt.unsignedTx = call.tx := (consensusDecode_ok call.read).1

theorem inputs_length : call.proposal.inputs.length = call.tx.input.length := by
  rw [← (propose_ok call.proposed).2.length_eq, call.streamed.psbt.inputsLength, tx_eq]

theorem claim_of_supplies (here : call.tx.input[i]? = some txin) (supplies : call.Supplies i) :
    ∃ prevTx, ctx.prims.computeTxid prevTx = txin.previousOutput.txid ∧
      prevTx.output[txin.previousOutput.vout.toNat]? = call.claims[i]? := by
  obtain ⟨input, found, prevTx, supplied⟩ :
      ∃ input, call.request.inputs[i]? = some input ∧ ∃ prevTx,
        input.nonWitnessUtxo = some prevTx := by
    obtain ⟨input, found, some⟩ := supplies
    exact ⟨input, found, Option.isSome_iff_exists.mp some⟩
  have zipped : (call.request.unsignedTx.input.zip call.request.inputs)[i]? = some (txin, input) :=
    List.getElem?_zip_eq_some.mpr ⟨here, found⟩
  obtain ⟨bound, at_i⟩ := List.getElem?_eq_some_iff.mp zipped
  have summaries := (consensusDecode_ok call.read).2
  have proposals := (propose_ok call.proposed).2
  have bound' := summaries.length_eq ▸ bound
  obtain ⟨flag, looked⟩ := summaries.get bound bound'
  have claimed := proposals.get bound' (proposals.length_eq ▸ bound')
  simp only [get_eq_getElem, at_i] at looked claimed
  obtain ⟨txid, output, there, witnessed⟩ := summarizeInput_supplied looked supplied
  refine ⟨prevTx, txid, there.trans ?_⟩
  rw [← witnessed, claimed, claims, List.getElem?_map,
    List.getElem?_eq_getElem (proposals.length_eq ▸ bound')]
  rfl

theorem signInput_of_reply (returned : call.reply.2[i]? = some witness) :
    ∃ input, call.proposal.inputs[i]? = some input ∧
      signInput ctx call.tx call.claims (input, i) = .ok witness := by
  obtain ⟨proposal, _, proposed, -, signed, -⟩ := signWithdrawal_ok call.signed
  obtain rfl : proposal = call.proposal := Except.ok.inj (proposed.symm.trans call.proposed)
  rw [tx_eq] at signed
  have each := mapM_forall₂ signed
  obtain ⟨bound, at_i⟩ := List.getElem?_eq_some_iff.mp returned
  have bound' := each.length_eq.symm ▸ bound
  have made := each.get bound' bound
  have inputBound : i < call.proposal.inputs.length := by simpa using bound'
  refine ⟨call.proposal.inputs[i], List.getElem?_eq_getElem inputBound, ?_⟩
  simpa [claims, at_i] using made

theorem feeCharged (strict : ctx.Strict)
    (known : AllKnown ctx call.env call.streamed call.proposal call.before.node) :
    call.tx.baseSize ≤ maxOnchainTxSize ∧ ∃ fee : U64,
      fee.toNat + (call.tx.output.map (·.value.toNat)).sum = (call.claims.map (·.value.toNat)).sum ∧
      estimateFeeratePerKw fee (.ofNat 64 (weightLowerBound call.tx call.proposal.inputs))
        ≤ ctx.validator.policy.maxFeeratePerKw := by
  obtain ⟨proposal, _, proposed, approved, -⟩ := signWithdrawal_ok call.signed
  obtain rfl : proposal = call.proposal := Except.ok.inj (proposed.symm.trans call.proposed)
  obtain ⟨found, looked, outcome⟩ := handleProposedOnchain_approved strict approved
  obtain ⟨conforms, seen⟩ := validateOutputs_ok strict.filter looked
  obtain ⟨-, fee, spent⟩ | ⟨unknown, -⟩ := outcome
  · have balance := spent.balance
    have within := spent.within
    have all : found.1.toNat = (call.tx.output.map (·.value.toNat)).sum := by
      have outputs := proposedOutputs_output ctx.prims call.before.node
        (propose_ok call.proposed).1
      rw [seen.beneficial, total, filter_eq_self.mpr (by simpa [AllKnown, outputsOf] using known),
        ← tx_eq, ← outputs, map_map]
      rfl
    rw [tx_eq] at within
    refine ⟨tx_eq ▸ conforms.size, fee, ?_, within⟩
    rw [← all, balance, claims, map_map]
    rfl
  · exact absurd (seen.unknowns.mpr known) unknown

end Withdrawal

section together

variable {ctx : OnchainContext}

/-- Calls on one transaction whose witnesses together make it valid. The witness of an input is
    the one that its source returned; no output was unknown to any of the calls. -/
structure SignedTogether (consensus : Consensus ctx) (tx : Transaction) (truth : List TxOut)
    (calls : List (Withdrawal ctx)) (source : Nat → Withdrawal ctx) : Prop where
  sameTx : ∀ call ∈ calls, call.tx = tx
  length : truth.length = tx.input.length
  /-- Transaction ids stand for transactions. -/
  txids : ∀ (i : Nat) (txin : TxIn) (prevTx : Transaction), tx.input[i]? = some txin →
    ctx.prims.computeTxid prevTx = txin.previousOutput.txid →
    prevTx.output[txin.previousOutput.vout.toNat]? = truth[i]?
  made : ∀ i < tx.input.length, source i ∈ calls ∧ ∃ witness, witness ≠ [] ∧
    (source i).reply.2[i]? = some witness ∧ consensus.accepts truth tx i witness
  known : ∀ call ∈ calls,
    AllKnown ctx call.env call.streamed call.proposal call.before.node

def trueFee (tx : Transaction) (truth : List TxOut) : Int :=
  (truth.map (·.value.toNat)).sum - (tx.output.map (·.value.toNat)).sum

def trueInputs (truth : List TxOut) (source : Nat → Withdrawal ctx) : List ProposedInput :=
  truth.mapIdx fun i output => ⟨output, [], (source i).closeKey i⟩

def trueFeerate (tx : Transaction) (truth : List TxOut) (source : Nat → Withdrawal ctx) : Int :=
  (trueFee tx truth * 1000 + 999) / weightLowerBound tx (trueInputs truth source)

/-- A call whose claims are bound to be true: for each input, it came with the previous
    transaction, or the signature that is used is its own, or so is a taproot signature that is
    used. -/
structure Vouches (tx : Transaction) (source : Nat → Withdrawal ctx) (call : Withdrawal ctx) :
    Prop where
  bound : ∀ i < tx.input.length, call.Supplies i ∨
    (source i = call ∧ ∃ spendType ∈ call.spendType i, spendType.IsSegwitV0) ∨
    ∃ j < tx.input.length, source j = call ∧ call.spendType j = some .p2tr
  keys : ∀ i < tx.input.length, call.closeKey i = (source i).closeKey i

variable {consensus : Consensus ctx} {tx : Transaction} {truth : List TxOut}
  {calls : List (Withdrawal ctx)} {source : Nat → Withdrawal ctx} {call : Withdrawal ctx}

theorem claim_true (together : SignedTogether consensus tx truth calls source) (mem : call ∈ calls)
    (vouches : Vouches tx source call) (bound : i < tx.input.length) :
    call.claims[i]? = truth[i]? := by
  have same := together.sameTx call mem
  obtain supplied | ⟨own, spendType, kind, v0⟩ | ⟨j, boundj, own, kind⟩ := vouches.bound i bound
  · have here : tx.input[i]? = some tx.input[i] := List.getElem?_eq_getElem bound
    obtain ⟨prevTx, txid, output⟩ :=
      Withdrawal.claim_of_supplies (by rw [same]; exact here) supplied
    rw [← output]
    exact together.txids i _ prevTx here txid
  · obtain ⟨-, witness, nonempty, returned, accepted⟩ := together.made i bound
    rw [own] at returned
    obtain ⟨input, found, made⟩ := Withdrawal.signInput_of_reply returned
    have claim : call.claims[i]? = some input.prevOut := by simp [Withdrawal.claims, found]
    have segwit : (SpendType.fromScriptPubkey input.prevOut.scriptPubkey).IsSegwitV0 := by
      simp only [Withdrawal.spendType, claim, Option.map_some, Option.mem_def,
        Option.some.injEq] at kind
      rw [kind]
      exact v0
    rw [same] at made
    rw [claim, consensus.segwitV0 made nonempty segwit accepted]
  · obtain ⟨-, witness, nonempty, returned, accepted⟩ := together.made j boundj
    rw [own] at returned
    obtain ⟨input, found, made⟩ := Withdrawal.signInput_of_reply returned
    have taproot : SpendType.fromScriptPubkey input.prevOut.scriptPubkey = .p2tr := by
      simpa [Withdrawal.spendType, Withdrawal.claims, found] using kind
    rw [same] at made
    rw [consensus.taproot made nonempty taproot accepted]

theorem claims_eq_truth (together : SignedTogether consensus tx truth calls source)
    (mem : call ∈ calls) (vouches : Vouches tx source call) : call.claims = truth := by
  have length : call.claims.length = tx.input.length := by
    rw [Withdrawal.claims, length_map, Withdrawal.inputs_length, together.sameTx call mem]
  apply ext_getElem?
  intro i
  by_cases bound : i < tx.input.length
  · exact claim_true together mem vouches bound
  · rw [List.getElem?_eq_none (by omega), List.getElem?_eq_none (by rw [together.length]; omega)]

theorem witnessWeight_congr {input' : ProposedInput} (spent : input.prevOut = input'.prevOut)
    (key : input.uniclosekey = input'.uniclosekey) :
    witnessWeight input = witnessWeight input' := by
  simp only [witnessWeight, spent, key]

theorem weight_eq (together : SignedTogether consensus tx truth calls source)
    (mem : call ∈ calls) (vouches : Vouches tx source call) :
    weightLowerBound tx (trueInputs truth source) = weightLowerBound tx call.proposal.inputs := by
  have claims := claims_eq_truth together mem vouches
  have length : call.proposal.inputs.length = tx.input.length := by
    rw [Withdrawal.inputs_length, together.sameTx call mem]
  unfold weightLowerBound
  congr 2
  apply ext_getElem
  · simp [trueInputs, together.length, length]
  · intro i first second
    have bound : i < tx.input.length := by simpa [length] using second
    simp only [getElem_map, trueInputs, getElem_mapIdx]
    apply witnessWeight_congr
    · simp [← claims, Withdrawal.claims]
    · have key := vouches.keys i bound
      simp only [Withdrawal.closeKey] at key ⊢
      rw [← key, List.getElem?_eq_getElem (by rw [length]; exact bound)]
      rfl

/-- Lies about amounts do not raise the fee above the maximum where one of the calls is bound to
    the truth, and the true feerate fits into the word that it is compared in. -/
theorem true_fee_within_maximum (strict : ctx.Strict) (scripts : ctx.prims.ShortScripts)
    (together : SignedTogether consensus tx truth calls source)
    (vouched : ∃ call ∈ calls, Vouches tx source call)
    (fits : trueFeerate tx truth source < 2 ^ 32) :
    trueFeerate tx truth source ≤ ctx.validator.policy.maxFeeratePerKw.toNat := by
  obtain ⟨call, mem, vouches⟩ := vouched
  have same := together.sameTx call mem
  obtain ⟨size, fee, balance, within⟩ := Withdrawal.feeCharged strict (together.known call mem)
  rw [same] at balance within size
  rw [claims_eq_truth together mem vouches] at balance
  have fee_eq : trueFee tx truth = fee.toNat := by
    unfold trueFee
    omega
  have rate : trueFeerate tx truth source
      = ((fee.toNat * 1000 + 999) / weightLowerBound tx call.proposal.inputs : Nat) := by
    simp [trueFeerate, fee_eq, weight_eq together mem vouches]
  have small : weightLowerBound tx call.proposal.inputs < 2 ^ 32 := by
    have := weightLowerBound_lt scripts call.proposed (by rw [Withdrawal.tx_eq, same]; exact size)
    rwa [Withdrawal.tx_eq, same] at this
  rw [rate] at fits ⊢
  obtain ⟨estimate, -⟩ := @estimateFeeratePerKw_exact fee _ (weightLowerBound_pos _ _) small
    (by exact_mod_cast fits)
  have bounded := BitVec.le_def.mp within
  rw [estimate] at bounded
  exact_mod_cast bounded

end together

theorem signInput_with {tx claimed} (made : signInput ctx tx claimed (input, i) = .ok witness)
    (nonempty : witness ≠ []) :
    ∃ privkey stack, signWith ctx tx claimed input i privkey stack = .ok witness := by
  simp only [signInput] at made
  split at made
  · cases made
    exact absurd rfl nonempty
  · obtain ⟨⟨privkey, stack⟩, -, made⟩ := bind_eq_ok.mp made
    exact ⟨privkey, stack, made⟩

theorem expectScript_ok {idx script expected u} :
    expectScript idx script expected = .ok u ↔ script = expected := by
  by_cases h : script = expected <;> simp [expectScript, h, panic_ne_ok]

theorem signInput_segwitV0 {tx claimed} (made : signInput ctx tx claimed (input, i) = .ok witness)
    (nonempty : witness ≠ [])
    (v0 : (SpendType.fromScriptPubkey input.prevOut.scriptPubkey).IsSegwitV0) :
    ∃ privkey scriptCode stack,
      witness = ctx.wallet.ecdsaSign privkey
        (.segwitV0 tx i scriptCode input.prevOut.value) :: stack ∧
      (scriptCode = input.prevOut.scriptPubkey ∨
        input.prevOut.scriptPubkey = ctx.wallet.p2shwpkh (ctx.prims.publicKey privkey) ∨
        stack.getLast? = some scriptCode) := by
  obtain ⟨privkey, stack, made⟩ := signInput_with made nonempty
  obtain kind | kind | kind := v0
  · simp only [signWith, kind, bind_eq_ok, expectScript_ok] at made
    obtain ⟨-, same, made⟩ := made
    cases made
    exact ⟨privkey, _, stack, rfl, .inl same.symm⟩
  · simp only [signWith, kind, bind_eq_ok, expectScript_ok] at made
    obtain ⟨-, same, made⟩ := made
    cases made
    exact ⟨privkey, _, stack, rfl, .inr (.inl same)⟩
  · simp only [signWith, kind, bind_eq_ok, expect_eq_ok] at made
    obtain ⟨redeemscript, last, made⟩ := made
    cases made
    exact ⟨privkey, redeemscript, stack, rfl, .inr (.inr last)⟩

theorem signInput_taproot {tx claimed} (made : signInput ctx tx claimed (input, i) = .ok witness)
    (nonempty : witness ≠ [])
    (taproot : SpendType.fromScriptPubkey input.prevOut.scriptPubkey = .p2tr) :
    ∃ privkey, witness = [ctx.wallet.taprootSign privkey (.taproot tx i claimed)] := by
  obtain ⟨privkey, stack, made⟩ := signInput_with made nonempty
  simp only [signWith, taproot, bind_eq_ok] at made
  obtain ⟨-, -, made⟩ := made
  cases made
  exact ⟨privkey, rfl⟩

namespace Toy

theorem valueBytes_injective {value'} (same : valueBytes value = valueBytes value') :
    value = value' := by
  apply BitVec.eq_of_getLsbD_eq
  intro i bound
  have byte : i / 8 < 8 := by omega
  have bit : i % 8 < 8 := Nat.mod_lt i (by omega)
  have bits := congrArg (fun bytes => (bytes[i / 8]?.getD 0).getLsbD (i % 8)) same
  simpa [valueBytes, byte, bit, Nat.div_add_mod] using bits

def accepts (truth : List TxOut) (_ : Transaction) (i : Nat) (witness : List (List U8)) : Prop :=
  ∃ output ∈ truth[i]?, output.scriptPubkey.length = 22 ∧ ∃ pubkey : List U8,
    pubkey.length = 33 ∧ witness = [0 :: (valueBytes output.value ++ output.scriptPubkey), pubkey]

def consensus : Consensus walletCtx where
  accepts := accepts
  segwitV0 := by
    intro truth claimed tx input i witness made nonempty v0 accepted
    obtain ⟨output, here, length, pubkey, keyLength, rfl⟩ := accepted
    obtain ⟨privkey, scriptCode, stack, same, origin⟩ := signInput_segwitV0 made nonempty v0
    obtain ⟨signature, rfl⟩ := cons.inj same
    obtain ⟨values, codes⟩ := append_inj (cons.inj signature).2 (by simp [valueBytes])
    have value := valueBytes_injective values
    obtain own | wrapped | script := origin
    · have same : output = input.prevOut := by
        calc output = ⟨output.value, output.scriptPubkey⟩ := rfl
          _ = ⟨input.prevOut.value, input.prevOut.scriptPubkey⟩ := by rw [value, codes.trans own]
          _ = input.prevOut := rfl
      rw [Option.mem_def.mp here, same]
    · have unwrapped : SpendType.fromScriptPubkey ([] : Script) = .invalid := by decide
      rw [wrapped] at v0
      simp [walletCtx, walletKeys, unwrapped, SpendType.IsSegwitV0] at v0
    · have code : pubkey = scriptCode := by simpa using script
      have lengths := congrArg List.length (codes.trans code.symm)
      omega
  taproot := by
    intro truth claimed tx input i witness made nonempty taproot accepted
    obtain ⟨output, here, length, pubkey, keyLength, rfl⟩ := accepted
    obtain ⟨privkey, same⟩ := signInput_taproot made nonempty taproot
    simp at same

def spendCoins (value₁ value₂ change : U64) : Psbt where
  unsignedTx := ⟨2, 9, [coinInput 1, coinInput 2], [coin 7 change]⟩
  inputs := [claimed (coin 1 value₁), claimed (coin 2 value₂)]
  outputs := [toWallet 7]
  inputsLength := rfl
  outputsLength := rfl

def readCoins (value₁ value₂ change : U64) : StreamedPsbt where
  psbt := spendCoins value₁ value₂ change
  segwitFlags := [false, false]
  unsigned := by simp [Transaction.Unsigned, spendCoins, coinInput]
  flagsLength := rfl

def coinsProposal (value₁ value₂ : U64) (path₁ path₂ : DerivationPath) : Proposal :=
  ⟨[⟨coin 1 value₁, path₁, none⟩, ⟨coin 2 value₂, path₂, none⟩], [[7]],
    [claimed (coin 1 value₁), claimed (coin 2 value₂)]⟩

theorem read_spendCoins (value₁ value₂ change : U64) :
    consensusDecode walletCtx.prims (spendCoins value₁ value₂ change)
      = .ok (readCoins value₁ value₂ change) := by
  rw [consensusDecode]
  rfl

structure IsCall (value₁ value₂ change : U64) (proposal : Proposal)
    (witnesses : List (List (List U8))) (call : Withdrawal walletCtx) : Prop where
  env : call.env = walletEnv
  before : call.before = walletNode
  request : call.request = spendCoins value₁ value₂ change
  streamed : call.streamed = readCoins value₁ value₂ change
  proposal : call.proposal = proposal
  witnesses : call.reply.2 = witnesses

theorem exists_call {value₁ value₂ change} {proposal : Proposal} {witnesses} (utxos : List Utxo)
    (proposed : propose walletCtx walletNode.node (readCoins value₁ value₂ change) utxos
      = .ok proposal)
    (ends : Call.Ends (signWithdrawal walletCtx walletEnv (readCoins value₁ value₂ change) utxos)
      walletNode (fun reply _ => reply.2 = witnesses) fun _ _ => False) :
    ∃ call, IsCall value₁ value₂ change proposal witnesses call := by
  obtain ⟨reply, after, signed, returned⟩ := ends.returns
  exact ⟨⟨walletEnv, walletNode, spendCoins value₁ value₂ change, utxos,
    readCoins value₁ value₂ change, proposal, reply, after, read_spendCoins .., proposed, signed⟩,
    ⟨rfl, rfl, rfl, rfl, rfl, returned⟩⟩

def coinWitness (keyindex : U32) (value : U64) : List (List U8) :=
  [0 :: (valueBytes value ++ (coin keyindex value).scriptPubkey),
    (prims.publicKey ⟨keyindex.zeroExtend 256⟩).serialize]

theorem accepts_coinWitness (tx : Transaction) {keyindex}
    (here : truth[i]? = some (coin keyindex value)) :
    accepts truth tx i (coinWitness keyindex value) :=
  ⟨_, here, by simp [coin, coinScript, PublicKey.serialize], _, by simp [PublicKey.serialize], rfl⟩

theorem coin_txids {tx : Transaction} (coins : tx.input = [coinInput 1, coinInput 2])
    (here : tx.input[i]? = some txin)
    (txid : walletCtx.prims.computeTxid prevTx = txin.previousOutput.txid) :
    prevTx.output[txin.previousOutput.vout.toNat]? = truth[i]? := by
  have low : (walletCtx.prims.computeTxid prevTx).toNat < 2 ^ 200 := by
    have := prevTx.lockTime.isLt
    simp only [walletCtx, prims, BitVec.truncate_eq_setWidth, BitVec.toNat_setWidth]
    omega
  have high : 2 ^ 200 ≤ txin.previousOutput.txid.toNat := by
    have mem := mem_of_getElem? here
    simp only [coins, mem_cons, not_mem_nil, or_false] at mem
    obtain rfl | rfl := mem <;> decide
  rw [txid] at low
  omega

def coins : List TxOut := [coin 1 1000000, coin 2 1000000]

end Toy

open Toy

/-- One honest call signs both coins. -/
theorem true_fee_within_maximum_of_honest :
    ∃ call : Withdrawal walletCtx,
      SignedTogether consensus call.tx coins [call] (fun _ => call) ∧
      trueFeerate call.tx coins (fun _ => call)
        ≤ walletCtx.validator.policy.maxFeeratePerKw.toNat := by
  obtain ⟨call, here⟩ : ∃ call, IsCall 1000000 1000000 1999000
      (coinsProposal 1000000 1000000 [1] [2]) [coinWitness 1 1000000, coinWitness 2 1000000] call :=
    exists_call [coinUtxo 1, coinUtxo 2] rfl (by decide +kernel)
  have tx : call.tx = (spendCoins 1000000 1000000 1999000).unsignedTx := by
    rw [Withdrawal.tx, here.request]
  have together : SignedTogether consensus call.tx coins [call] fun _ => call := by
    refine ⟨by simp, by rw [tx]; rfl, fun i txin prevTx at_i txid =>
      coin_txids (by rw [tx]; rfl) at_i txid, fun i bound => ⟨by simp, ?_⟩, ?_⟩
    · rw [tx] at bound
      rw [here.witnesses]
      match i, bound with
      | 0, _ => exact ⟨_, by simp [coinWitness], rfl, accepts_coinWitness call.tx rfl⟩
      | 1, _ => exact ⟨_, by simp [coinWitness], rfl, accepts_coinWitness call.tx rfl⟩
    · simp only [mem_singleton, forall_eq, AllKnown, here.env, here.streamed, here.proposal,
        here.before]
      decide +kernel
  have vouches : Vouches call.tx (fun _ => call) call := by
    refine ⟨fun i bound => .inr (.inl ⟨rfl, ?_⟩), fun _ _ => rfl⟩
    rw [tx] at bound
    simp only [Withdrawal.spendType, Withdrawal.claims, here.proposal]
    match i, bound with
    | 0, _ => exact ⟨.p2wpkh, by decide +kernel, .inl rfl⟩
    | 1, _ => exact ⟨.p2wpkh, by decide +kernel, .inl rfl⟩
  refine ⟨call, together, true_fee_within_maximum walletCtx_strict walletCtx_shortScripts together
    ⟨call, by simp, vouches⟩ ?_⟩
  simp only [trueFeerate, trueInputs, Withdrawal.closeKey, tx, here.proposal]
  decide +kernel

/-- Each of two calls states the amount of the coin that it signs and lies about the other one.
    The fee is a million satoshi, where each call was shown one of a thousand. -/
theorem million_paid_as_fee :
    ∃ (tx : Transaction) (calls : List (Withdrawal walletCtx))
      (source : Nat → Withdrawal walletCtx),
      walletCtx.Strict ∧ walletCtx.prims.ShortScripts ∧
      SignedTogether consensus tx coins calls source ∧ trueFee tx coins = 1000000 ∧
      ¬ trueFeerate tx coins source ≤ walletCtx.validator.policy.maxFeeratePerKw.toNat := by
  obtain ⟨first, here₁⟩ : ∃ call, IsCall 1000000 1000 1000000
      (coinsProposal 1000000 1000 [1] []) [coinWitness 1 1000000, []] call :=
    exists_call [coinUtxo 1] rfl (by decide +kernel)
  obtain ⟨second, here₂⟩ : ∃ call, IsCall 1000 1000000 1000000
      (coinsProposal 1000 1000000 [] [2]) [[], coinWitness 2 1000000] call :=
    exists_call [coinUtxo 2] rfl (by decide +kernel)
  have tx₁ : first.tx = (spendCoins 1000000 1000 1000000).unsignedTx := by
    rw [Withdrawal.tx, here₁.request]
  have tx₂ : second.tx = (spendCoins 1000000 1000 1000000).unsignedTx := by
    rw [Withdrawal.tx, here₂.request]
    rfl
  let source := fun i => if i = 0 then first else second
  have together : SignedTogether consensus (spendCoins 1000000 1000 1000000).unsignedTx coins
      [first, second] source := by
    refine ⟨by simp [tx₁, tx₂], rfl, fun i txin prevTx => coin_txids rfl, fun i bound => ?_, ?_⟩
    · match i, bound with
      | 0, _ =>
        exact ⟨by simp [source], _, by simp [coinWitness], by simp [source, here₁.witnesses],
          accepts_coinWitness first.tx rfl⟩
      | 1, _ =>
        exact ⟨by simp [source], _, by simp [coinWitness], by simp [source, here₂.witnesses],
          accepts_coinWitness first.tx rfl⟩
    · simp only [mem_cons, not_mem_nil, or_false, forall_eq_or_imp, forall_eq, AllKnown,
        here₁.env, here₁.streamed, here₁.proposal, here₁.before, here₂.env, here₂.streamed,
        here₂.proposal, here₂.before]
      decide +kernel
  refine ⟨_, _, source, walletCtx_strict, walletCtx_shortScripts, together, by decide +kernel, ?_⟩
  have inputs : trueInputs coins source
      = [⟨coin 1 1000000, [], none⟩, ⟨coin 2 1000000, [], none⟩] := by
    simp [trueInputs, coins, source, Withdrawal.closeKey, here₁.proposal, here₂.proposal,
      coinsProposal]
  simp only [trueFeerate, inputs]
  decide +kernel

end Vls
