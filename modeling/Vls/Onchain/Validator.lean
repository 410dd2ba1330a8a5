import Vls.Onchain.Psbt

/-! # The validation of on-chain transactions

Outputs to the wallet, to the allowlist and to channels are known; the value of everything else
would be fees. Outputs that are not known at all are collected and reported in an error of their
own, on which a person may be asked. -/

namespace Vls

def maxOnchainTxSize : Nat := 32 * 1024

/-- An output as the validator looks at it: with the path it is said to belong to, and the channel
    that it funds. -/
structure ProposedOutput where
  output : TxOut
  opath : DerivationPath
  channel : Option Channel

def unknownDestinationsError (unknowns : List Nat) : ValidationError :=
  ⟨"policy-onchain-no-unknown-outputs", .unknownDestinations "" unknowns⟩

namespace SimplePolicy

variable (policy : SimplePolicy)

/-- What is neither ours nor known is taken for a fee. -/
def validateBeneficialValue (disableBeneficialBalanceChecks : Bool)
    (sumOurInputs sumOurOutputs weight : U64) : Result ValidationError U64 := do
  let nonBeneficial ← Result.okOr
    (policyError "policy-onchain-format-standard"
      (s!"non-beneficial value underflow: sum of our inputs {sumOurInputs.toNat} < " ++
        s!"sum of our outputs {sumOurOutputs.toNat}"))
    (sumOurInputs.checkedSub sumOurOutputs)
  let feerate := estimateFeeratePerKw nonBeneficial weight
  policy.filter.refuseIf
    (disableBeneficialBalanceChecks = false ∧ feerate > policy.maxFeeratePerKw)
    "validate_beneficial_value" "policy-onchain-fee-range"
    (s!"non-beneficial value considered as fees is above maximum feerate: {feerate.toNat} > " ++
      s!"{policy.maxFeeratePerKw.toNat}")
  .ok nonBeneficial

def addBeneficialOutput (sum value : U64) (which : String) : Result ValidationError U64 :=
  Result.okOr
    (policyError "policy-onchain-fee-range"
      s!"beneficial outputs overflow: sum {sum.toNat} + {which} {value.toNat}")
    (sum.checkedAdd value)

variable (prims : Primitives)

def fundingScript (chan : Channel) : Script :=
  prims.toP2wsh (prims.makeFundingRedeemscript (chan.keys.pubkeys prims).fundingPubkey
    chan.setup.counterpartyPoints.fundingPubkey)

def validateFunding (output : TxOut) (chan : Channel) : Result ValidationError U64 := do
  let refuseIf := fun (violated : Prop) [Decidable violated] (tag message : String) =>
    policy.filter.refuseIf violated "validate_onchain_tx" tag message
  refuseIf (output.value ≠ chan.setup.channelValueSat) "policy-onchain-output-match-commitment"
    (s!"funding output amount mismatch w/ channel: {output.value.toNat} != " ++
      s!"{chan.setup.channelValueSat.toNat}")
  refuseIf (output.scriptPubkey ≠ fundingScript prims chan) "policy-onchain-output-scriptpubkey"
    "funding script_pubkey mismatch w/ channel"
  refuseIf (chan.enforcementState.nextHolderCommitNum ≠ 1)
    "policy-onchain-initial-commitment-countersigned" "initial holder commitment not validated"
  refuseIf (chan.setup.isOutbound = false) "policy-onchain-no-fund-inbound"
    "can't sign for inbound channel: dual-funding not supported yet"
  let pushValSat := chan.setup.pushValueMsat / 1000
  refuseIf (pushValSat > 0) "policy-onchain-no-channel-push"
    "channel push not allowed: dual-funding not supported yet"
  Result.okOr
    (policyError "policy-onchain-fee-range"
      s!"channel value underflow: {chan.setup.channelValueSat.toNat} - {pushValSat.toNat}")
    (chan.setup.channelValueSat.checkedSub pushValSat)

/-- Look at one output: add it to what is beneficial, or to the unknown ones. -/
def validateOutput (wallet : Wallet) (found : U64 × List Nat) (item : ProposedOutput × Nat) :
    Result ValidationError (U64 × List Nat) := do
  let (beneficialSum, unknowns) := found
  let (proposed, outndx) := item
  let value := proposed.output.value
  let script := proposed.output.scriptPubkey
  if proposed.opath ≠ [] then
    match wallet.canSpend proposed.opath script with
    | .error err => .err (policyError "policy-onchain-output-scriptpubkey"
        s!"output[{outndx}]: wallet_can_spend error: {err}")
    | .ok true =>
      let sum ← addBeneficialOutput beneficialSum value "to wallet"
      .ok (sum, unknowns)
    | .ok false =>
      if wallet.allowlistContains script proposed.opath then
        let sum ← addBeneficialOutput beneficialSum value "to allowlisted xpub"
        .ok (sum, unknowns)
      else
        policy.filter.policyErrorWithFilter "policy-onchain-no-unknown-outputs"
          s!"validate_onchain_tx: output[{outndx}] is unknown"
        .ok (beneficialSum, unknowns)
  else if wallet.allowlistContains script [] then
    let sum ← addBeneficialOutput beneficialSum value "allowlisted"
    .ok (sum, unknowns)
  else match proposed.channel with
    | some chan =>
      let ourValue ← policy.validateFunding prims proposed.output chan
      let sum ← addBeneficialOutput beneficialSum ourValue "channel value"
      .ok (sum, unknowns)
    | none => .ok (beneficialSum, unknowns ++ [outndx])

def isTxNonMalleable (tx : Transaction) (segwitFlags : List Bool) : Result ValidationError Bool :=
  if tx.input.length ≠ segwitFlags.length then
    .panic "tx and segwit_flags must have same length"
  else .ok (segwitFlags.all id)

/-- A transaction that funds no channel may be malleable. -/
def fundingNonMalleable (tx : Transaction) (outputs : List ProposedOutput)
    (segwitFlags : List Bool) : Result ValidationError Bool :=
  if outputs.any (·.channel.isSome) then isTxNonMalleable tx segwitFlags else .ok true

def validateOutputs (wallet : Wallet) (tx : Transaction) (outputs : List ProposedOutput)
    (segwitFlags : List Bool) : Result ValidationError (U64 × List Nat) := do
  policy.filter.refuseIf (tx.version ≠ 2) "validate_onchain_tx" "policy-onchain-format-standard"
    s!"invalid version: {tx.version.toNat}"
  policy.filter.refuseIf (tx.baseSize > maxOnchainTxSize) "validate_onchain_tx"
    "policy-onchain-max-size" s!"tx too large: {tx.baseSize} > {maxOnchainTxSize}"
  let nonMalleable ← fundingNonMalleable tx outputs segwitFlags
  policy.filter.refuseIf (nonMalleable = false) "validate_onchain_tx"
    "policy-onchain-funding-non-malleable" "funding tx has non-segwit-native input"
  outputs.zipIdx.foldlM (policy.validateOutput prims wallet) (0, [])

def sumInputs (valuesSat : List U64) : Result ValidationError U64 :=
  valuesSat.foldlM (fun sum value =>
    Result.okOr (policyError "policy-onchain-fee-range" "funding sum inputs overflow")
      (BitVec.checkedAdd sum value)) 0

def validateOnchainTx (disableBeneficialBalanceChecks : Bool) (wallet : Wallet) (tx : Transaction)
    (outputs : List ProposedOutput) (segwitFlags : List Bool) (valuesSat : List U64)
    (weightLowerBound : U64) : Result ValidationError U64 := do
  let (beneficialSum, unknowns) ← policy.validateOutputs prims wallet tx outputs segwitFlags
  if unknowns ≠ [] then
    .err (unknownDestinationsError unknowns)
  let inputs ← sumInputs valuesSat
  Result.mapErr (·.prependMsg "validate_onchain_tx: ")
    (policy.validateBeneficialValue disableBeneficialBalanceChecks inputs beneficialSum
      weightLowerBound)

end SimplePolicy

end Vls
