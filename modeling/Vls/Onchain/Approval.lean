import Mathlib.Algebra.Order.BigOperators.Group.List
import Mathlib.Algebra.Order.Ring.Nat
import Vls.Onchain.Checked
import Vls.Policy.HtlcFeerate
import Vls.Onchain.Toy

/-! # What an approval waives

An approval is meant for the unknown outputs alone. As the validator reports them before it looks
at the fee, and the report ends the check, what is approved with an unknown output is signed
whatever its fee, and nothing is charged for it. -/

namespace Vls

open List

/-- The scripts of commitment outputs keep to the size that any script may have. -/
structure Primitives.ShortScripts (prims : Primitives) : Prop where
  revokeable : ∀ revocationKey delay delayedKey,
    (prims.getRevokeableRedeemscript revocationKey delay delayedKey).length ≤ 10000
  anchor : ∀ paymentPoint,
    (prims.getToCountersignerKeyedAnchorRedeemscript paymentPoint).length ≤ 10000

namespace OnchainNode

open ProposedOutput SimplePolicy

section weight

variable {ctx : OnchainContext} {node : Node} {streamed : StreamedPsbt} {utxos : List Utxo}
  {proposal : Proposal}

variable (scripts : ctx.prims.ShortScripts)
include scripts

theorem getSweepKey_short (chan : Channel) (point : Option PublicKey) :
    ((chan.getSweepKey ctx.toContext point).2.map fun element => 1 + element.length).sum
      ≤ 10002 := by
  cases point with
  | some point =>
    have := scripts.revokeable (ctx.prims.revocationKeyFromBasepoint
      chan.setup.counterpartyPoints.revocationBasepoint point)
      chan.setup.counterpartySelectedContestDelay
      (ctx.prims.publicKey (ctx.prims.derivePrivateKey point chan.keys.delayedPaymentBaseKey))
    simp only [Channel.getSweepKey, Channel.getUnilateralCloseKey, map_cons, map_nil,
      sum_cons, sum_nil, length_nil]
    omega
  | none =>
    have := scripts.anchor (ctx.prims.publicKey chan.keys.paymentKey)
    simp only [Channel.getSweepKey]
    split
    · simp only [map_cons, map_nil, sum_cons, sum_nil]
      omega
    · simp [PublicKey.serialize]

theorem resolveInput_short {txin key} (resolved : resolveInput ctx node utxos txin = .ok key) :
    ∀ closeKey ∈ key.2, (closeKey.2.map fun element => 1 + element.length).sum ≤ 10002 := by
  unfold resolveInput at resolved
  split at resolved
  · cases resolved
    simp
  · split at resolved
    · cases resolved
      simp
    · simp only at resolved
      split at resolved
      · cases resolved
        rintro _ ⟨⟩
        exact getSweepKey_short scripts _ _
      · cases resolved
      · cases resolved

theorem propose_inputs (proposed : propose ctx node streamed utxos = .ok proposal) :
    proposal.inputs.length ≤ streamed.psbt.unsignedTx.input.length ∧
      ∀ input ∈ proposal.inputs, witnessWeight input ≤ 10079 := by
  obtain ⟨opaths, -, proposed⟩ := Result.bind_eq_ok.mp proposed
  obtain ⟨prevOuts, -, proposed⟩ := Result.bind_eq_ok.mp proposed
  obtain ⟨keys, resolved, proposed⟩ := Result.bind_eq_ok.mp proposed
  obtain ⟨psbtInputs, -, proposed⟩ := Result.bind_eq_ok.mp proposed
  cases proposed
  have each := Result.mapM_forall₂ resolved
  constructor
  · simp [each.length_eq]
  · intro input mem
    obtain ⟨i, bound, rfl⟩ := getElem_of_mem mem
    simp only [length_zipWith, lt_min_iff] at bound
    have short := resolveInput_short scripts (each.get (by
      rw [each.length_eq]; exact bound.2) bound.2)
    simp only [getElem_zipWith, witnessWeight]
    split
    · omega
    · split
      · rename_i closeKey
        have stack := short _ closeKey
        simp only at stack
        omega
      · omega

theorem weightLowerBound_lt (proposed : propose ctx node streamed utxos = .ok proposal)
    (size : streamed.psbt.unsignedTx.baseSize ≤ maxOnchainTxSize) :
    weightLowerBound streamed.psbt.unsignedTx proposal.inputs < 2 ^ 32 := by
  obtain ⟨length, each⟩ := propose_inputs scripts proposed
  have witnesses : (proposal.inputs.map witnessWeight).sum
      ≤ (proposal.inputs.map witnessWeight).length • 10079 :=
    sum_le_card_nsmul _ _ (by simpa using each)
  have inputs := streamed.psbt.unsignedTx.input_length_le
  have base := streamed.unsigned.weight_le
  simp only [length_map, nsmul_eq_mul, Nat.cast_id] at witnesses
  unfold weightLowerBound
  unfold maxOnchainTxSize at size
  omega

omit scripts in
theorem weightLowerBound_pos (tx : Transaction) (inputs : List ProposedInput) :
    0 < weightLowerBound tx inputs := by
  unfold weightLowerBound Transaction.weight Transaction.totalSize Transaction.baseSize
  omega

end weight

theorem estimateFeeratePerKw_exact {fee weight} (positive : 0 < weight) (small : weight < 2 ^ 32)
    (fits : (fee.toNat * 1000 + 999) / weight < 2 ^ 32) :
    (estimateFeeratePerKw fee (.ofNat 64 weight)).toNat = (fee.toNat * 1000 + 999) / weight
      ∧ fee.toNat * 1000 + 999 < 2 ^ 64 := by
  have bounded : fee.toNat * 1000 + 999 < 2 ^ 64 := by
    have := (Nat.div_lt_iff_lt_mul positive).mp fits
    omega
  refine ⟨?_, bounded⟩
  have divisor : (BitVec.ofNat 64 weight).toNat = weight := by
    rw [BitVec.toNat_ofNat]
    omega
  rw [estimateFeeratePerKw_toNat bounded, divisor]
  exact Nat.mod_eq_of_lt fits

section approval

variable (ctx : OnchainContext) (env : OnchainEnv) (streamed : StreamedPsbt) (proposal : Proposal)

def outputsOf (node : Node) : List ProposedOutput :=
  node.proposedOutputs ctx.prims streamed.psbt.unsignedTx proposal.opaths

def feeLeft (node : Node) : Int :=
  (proposal.inputs.map (·.prevOut.value.toNat)).sum
    - total (fun proposed => ¬ proposed.Unknown env.wallet) (outputsOf ctx streamed proposal node)
    - total (fun proposed => proposed.Unknown env.wallet) (outputsOf ctx streamed proposal node)

def weightOf : Nat := weightLowerBound streamed.psbt.unsignedTx proposal.inputs

def feerateOf (fee : Int) : Int := (fee * 1000 + 999) / weightOf streamed proposal

/-- Nothing but unknown outputs has been waived. -/
structure OnlyUnknownWaived (s s' : OnchainNode) : Prop where
  transaction : TxConforms streamed.psbt.unsignedTx (outputsOf ctx streamed proposal s.node)
    streamed.segwitFlags
  outputs : ∀ proposed ∈ outputsOf ctx streamed proposal s.node,
    proposed.Conforms ctx.prims env.wallet
  feerate : feerateOf streamed proposal (feeLeft ctx env streamed proposal s.node)
    ≤ ctx.validator.policy.maxFeeratePerKw.toNat
  charged : feeLeft ctx env streamed proposal s.node = 0 ∨
    ∃ msat : U64, (msat.toNat : Int) = feeLeft ctx env streamed proposal s.node * 1000 ∧
      s'.feesCharged = s.feesCharged ++ [(.ofNat 64 env.now.asSecs, msat)]

def AllKnown (node : Node) : Prop :=
  ∀ proposed ∈ outputsOf ctx streamed proposal node, ¬ proposed.Unknown env.wallet

end approval

theorem total_eq_zero {p : ProposedOutput → Prop} [DecidablePred p] {outputs}
    (none : ∀ proposed ∈ outputs, ¬ p proposed) : total p outputs = 0 := by
  have : outputs.filter (fun proposed => p proposed) = [] := by simpa [filter_eq_nil_iff] using none
  simp [total, this]

variable {ctx : OnchainContext} {env : OnchainEnv} {streamed : StreamedPsbt} {utxos : List Utxo}
  {proposal : Proposal} {s s' : OnchainNode} {reply : List PsbtInput × List (List (List U8))}

/-- A request with an unknown output is signed under the rules for a withdrawal exactly if its
    outputs use up its inputs; one without, if its feerate fits into its word. -/
theorem onlyUnknownWaived_iff (strict : ctx.Strict) (scripts : ctx.prims.ShortScripts)
    (signed : signWithdrawal ctx env streamed utxos s = .ok reply s')
    (proposed : propose ctx s.node streamed utxos = .ok proposal) :
    OnlyUnknownWaived ctx env streamed proposal s s' ↔ AllKnown ctx env streamed proposal s.node ∧
        feerateOf streamed proposal (feeLeft ctx env streamed proposal s.node) < 2 ^ 32 ∨
      feeLeft ctx env streamed proposal s.node = 0 ∧
        feerateOf streamed proposal 0 ≤ ctx.validator.policy.maxFeeratePerKw.toNat := by
  obtain ⟨proposal', checked, proposed', approved, -, kept⟩ := signWithdrawal_ok signed
  obtain rfl : proposal' = proposal := Except.ok.inj (proposed'.symm.trans proposed)
  obtain ⟨found, looked, outcome⟩ := handleProposedOnchain_approved strict approved
  obtain ⟨conforms, seen⟩ := validateOutputs_ok strict.filter looked
  have maximum := ctx.validator.policy.maxFeeratePerKw.isLt
  obtain ⟨known, fee, spent⟩ | ⟨unknown, same⟩ := outcome
  · -- all outputs are known, and the fee has been looked at
    have allKnown := seen.unknowns.mp known
    have left : feeLeft ctx env streamed proposal' s.node = fee.toNat := by
      have := spent.balance
      rw [seen.beneficial] at this
      unfold feeLeft outputsOf
      rw [total_eq_zero allKnown]
      omega
    have rate : feerateOf streamed proposal' fee.toNat
        = ((fee.toNat * 1000 + 999) / weightOf streamed proposal' : Nat) := by
      simp [feerateOf]
    have exact : (fee.toNat * 1000 + 999) / weightOf streamed proposal' < 2 ^ 32 →
        (fee.toNat * 1000 + 999) / weightOf streamed proposal'
          ≤ ctx.validator.policy.maxFeeratePerKw.toNat ∧ fee.toNat * 1000 + 999 < 2 ^ 64 := by
      intro fits
      obtain ⟨estimate, bounded⟩ := estimateFeeratePerKw_exact (weightLowerBound_pos _ _)
        (weightLowerBound_lt scripts proposed conforms.size) fits
      have within := BitVec.le_def.mp spent.within
      rw [estimate] at within
      exact ⟨within, bounded⟩
    rw [left, rate]
    constructor
    · intro waived
      have within := waived.feerate
      rw [left, rate] at within
      exact .inl ⟨allKnown, by omega⟩
    · rintro (⟨-, fits⟩ | ⟨zero, within⟩)
      · obtain ⟨within, bounded⟩ := exact (by exact_mod_cast fits)
        refine ⟨conforms, seen.conform, ?_, .inr ⟨fee * 1000, ?_, by rw [kept, spent.charged]⟩⟩
        · rw [left, rate]
          exact_mod_cast within
        · rw [left, BitVec.toNat_mul]
          simp only [BitVec.ofNat_eq_ofNat, BitVec.toNat_ofNat]
          omega
      · refine ⟨conforms, seen.conform, ?_, .inl (left.trans zero)⟩
        rw [left, zero]
        exact within
  · -- the check ended with the report of unknown outputs
    have notKnown := fun all => unknown (seen.unknowns.mpr all)
    constructor
    · intro waived
      obtain zero | ⟨msat, -, charged⟩ := waived.charged
      · have within := waived.feerate
        rw [zero] at within
        exact .inr ⟨zero, within⟩
      · simp [kept, same] at charged
    · rintro (⟨all, -⟩ | ⟨zero, within⟩)
      · exact absurd all notKnown
      · exact ⟨conforms, seen.conform, by rw [zero]; exact within, .inl zero⟩

end OnchainNode

namespace Toy

def spendCoin (output : TxOut) (note : PsbtOutput) : StreamedPsbt where
  psbt :=
    { unsignedTx := ⟨2, 9, [coinInput 1], [output]⟩
      inputs := [claimed (coin 1 2000000)]
      outputs := [note]
      inputsLength := rfl
      outputsLength := rfl }
  segwitFlags := [false]
  unsigned := by simp [Transaction.Unsigned, coinInput]
  flagsLength := rfl

def payStranger : StreamedPsbt := spendCoin ⟨1000, [9]⟩ ⟨[], []⟩

def payAll : StreamedPsbt := spendCoin ⟨2000000, [9]⟩ ⟨[], []⟩

def payWallet : StreamedPsbt := spendCoin (coin 7 1999000) (toWallet 7)

def coinProposal (opath : DerivationPath) : OnchainNode.Proposal :=
  ⟨[⟨coin 1 2000000, [1], none⟩], [opath], [claimed (coin 1 2000000)]⟩

theorem walletCtx_strict : walletCtx.Strict := ⟨PolicyFilter.default_strict, rfl⟩

theorem walletCtx_shortScripts : walletCtx.prims.ShortScripts :=
  ⟨fun _ _ _ => by simp [walletCtx, prims], fun _ => by simp [walletCtx, prims]⟩

end Toy

open OnchainNode Toy

/-- A payment to a stranger that leaves nothing for the miners. -/
theorem onlyUnknownWaived_of_payAll :
    ∃ reply s',
      signWithdrawal walletCtx walletEnv payAll [coinUtxo 1] walletNode = .ok reply s' ∧
      OnlyUnknownWaived walletCtx walletEnv payAll (coinProposal []) walletNode s' := by
  have ends : Call.Ends (signWithdrawal walletCtx walletEnv payAll [coinUtxo 1]) walletNode
      (fun _ _ => True) fun _ _ => False := by
    decide +kernel
  obtain ⟨reply, s', signed, -⟩ := ends.returns
  exact ⟨reply, s', signed, (onlyUnknownWaived_iff walletCtx_strict walletCtx_shortScripts signed
    rfl).mpr (.inr ⟨by decide +kernel, by decide +kernel⟩)⟩

/-- With the approval of a payment of a thousand satoshi, almost two million go to the miners. -/
theorem fee_of_payStranger_unchecked :
    ∃ reply s', walletCtx.Strict ∧ walletCtx.prims.ShortScripts ∧
      signWithdrawal walletCtx walletEnv payStranger [coinUtxo 1] walletNode = .ok reply s' ∧
      propose walletCtx walletNode.node payStranger [coinUtxo 1] = .ok (coinProposal []) ∧
      ¬ OnlyUnknownWaived walletCtx walletEnv payStranger (coinProposal []) walletNode s' := by
  have ends : Call.Ends (signWithdrawal walletCtx walletEnv payStranger [coinUtxo 1]) walletNode
      (fun reply _ => reply.2 ≠ [[]]) fun _ _ => False := by
    decide +kernel
  obtain ⟨reply, s', signed, -⟩ := ends.returns
  refine ⟨reply, s', walletCtx_strict, walletCtx_shortScripts, signed, rfl, fun waived => ?_⟩
  have above : ¬ feerateOf payStranger (coinProposal [])
      (feeLeft walletCtx walletEnv payStranger (coinProposal []) walletNode.node)
        ≤ walletCtx.validator.policy.maxFeeratePerKw.toNat := by
    decide +kernel
  exact above waived.feerate

end Vls
