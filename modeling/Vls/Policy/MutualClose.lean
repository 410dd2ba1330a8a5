import Vls.Policy.Validator

/-! # The checks on a mutual close

A mutual close pays out the balances of the current commitments. The values are compared on the side
that does not pay the fee, and the other side is left to the fee policy. -/

namespace Vls

open Result

def CommitmentInfo2.htlcsIsEmpty (info : CommitmentInfo2) : Bool :=
  info.offeredHtlcs.isEmpty && info.receivedHtlcs.isEmpty

def minimumWithin (epsilonSat : U64) : Option U64 → Option U64 → Option U64
  | some hval, some cval =>
    if hval > cval then
      if hval - cval ≤ epsilonSat then some cval else none
    else
      if cval - hval ≤ epsilonSat then some hval else none
  | _, _ => none

namespace EnforcementState

variable (estate : EnforcementState)

def minimumToHolderValue (epsilonSat : U64) : Option U64 :=
  minimumWithin epsilonSat (estate.currentHolderCommitInfo.map (·.toBroadcasterValueSat))
    (estate.currentCounterpartyCommitInfo.map (·.toCountersignerValueSat))

def minimumToCounterpartyValue (epsilonSat : U64) : Option U64 :=
  minimumWithin epsilonSat (estate.currentHolderCommitInfo.map (·.toCountersignerValueSat))
    (estate.currentCounterpartyCommitInfo.map (·.toBroadcasterValueSat))

/-- A value that is missing counts as lower than any other. -/
def holderValueIsLarger (epsilonSat : U64) : Bool :=
  match estate.minimumToHolderValue epsilonSat, estate.minimumToCounterpartyValue epsilonSat with
  | some holder, some counterparty => holder > counterparty
  | some _, none => true
  | none, _ => false

end EnforcementState

/-- One way to read a mutual close. -/
structure ValidateArgs where
  toHolderValueSat : U64
  toCounterpartyValueSat : U64
  holderScript : Option Script
  counterpartyScript : Option Script
  walletPath : DerivationPath

def ValidateArgs.closingTransaction (args : ValidateArgs) (prims : Primitives)
    (setup : ChannelSetup) : ClosingTransaction :=
  prims.newClosingTransaction args.toHolderValueSat args.toCounterpartyValueSat args.holderScript
    args.counterpartyScript setup.fundingOutpoint

def expectedMutualCloseWitnessWeight : U64 := 2 + 1 + 4 + 72 + 72 + 1 + 1 + 33 + 1 + 33 + 1 + 1

def mutualCloseTxWeight (prims : Primitives) (unsignedTx : Transaction) : U64 :=
  prims.weight unsignedTx + expectedMutualCloseWitnessWeight

namespace SimplePolicy

variable (policy : SimplePolicy) (prims : Primitives) (wallet : Wallet)

/-- Whether the values differ by more than epsilon, and how the first compares. -/
def outsideEpsilonRange (value0 value1 : U64) : Bool × String :=
  if value0 > value1 then
    (value0 - value1 > policy.epsilonSat, "larger")
  else
    (value1 - value0 > policy.epsilonSat, "smaller")

def validateMutualValue (output : String) (value : U64) (source : String) (expected : U64) :
    Result ValidationError Unit :=
  let (outside, descr) := policy.outsideEpsilonRange value expected
  policy.filter.refuseIf (outside = true) "validate_mutual_close_tx"
    "policy-mutual-value-matches-commitment"
    s!"{output} {value.toNat} is {descr} than {source} {expected.toNat}"

def validateMutualCloseTx (setup : ChannelSetup) (estate : EnforcementState)
    (args : ValidateArgs) : Result ValidationError Unit := do
  let function := "validate_mutual_close_tx"
  let holderInfo ← okOr
    (policyError "policy-mutual-value-matches-commitment" "current_holder_commit_info missing")
    estate.currentHolderCommitInfo
  let counterpartyInfo ← okOr
    (policyError "policy-mutual-value-matches-commitment"
      "current_counterparty_commit_info missing")
    estate.currentCounterpartyCommitInfo
  policy.filter.refuseIf (args.toHolderValueSat > 0 ∧ args.holderScript = none)
    function "policy-mutual-destination-allowlisted"
    s!"missing holder_script with {args.toHolderValueSat.toNat} to_holder_value_sat"
  policy.filter.refuseIf (args.toCounterpartyValueSat > 0 ∧ args.counterpartyScript = none)
    function "policy-mutual-destination-allowlisted"
    (s!"missing counterparty_script with {args.toCounterpartyValueSat.toNat} " ++
      "to_counterparty_value_sat")
  policy.filter.refuseIf
    (setup.holderShutdownScript.isSome ∧ args.toHolderValueSat > 0
      ∧ args.holderScript ≠ setup.holderShutdownScript)
    function "policy-mutual-destination-allowlisted"
    "holder_script doesn't match upfront holder_shutdown_script"
  policy.filter.refuseIf
    (holderInfo.htlcsIsEmpty = false ∨ counterpartyInfo.htlcsIsEmpty = false)
    function "policy-mutual-no-pending-htlcs" "cannot close with pending htlcs"
  let sumOutputs ← okOr
    (policyError "policy-mutual-value-matches-commitment" "consumed overflow")
    (args.toHolderValueSat.checkedAdd args.toCounterpartyValueSat)
  (policy.validateFee "policy-mutual-fee-range" setup.channelValueSat sumOutputs
    (mutualCloseTxWeight prims (args.closingTransaction prims setup).built)).mapErr
      (.prependMsg s!"{function}: ")
  if setup.isOutbound then
    policy.validateMutualValue "to_counterparty_value" args.toCounterpartyValueSat
      "counterparty_info.broadcaster_value_sat" counterpartyInfo.toBroadcasterValueSat
    policy.validateMutualValue "to_counterparty_value" args.toCounterpartyValueSat
      "holder_info.countersigner_value_sat" holderInfo.toCountersignerValueSat
  else
    policy.validateMutualValue "to_holder_value" args.toHolderValueSat
      "holder_info.broadcaster_value_sat" holderInfo.toBroadcasterValueSat
    policy.validateMutualValue "to_holder_value" args.toHolderValueSat
      "counterparty_info.countersigner_value_sat" counterpartyInfo.toCountersignerValueSat
  match args.holderScript with
  | none => .ok ()
  | some script =>
    match wallet.canSpend args.walletPath script with
    | .error error => .err (policyError "policy-mutual-scripts" s!"wallet can_spend error: {error}")
    | .ok spendable =>
      policy.filter.refuseIf
        (spendable = false ∧ wallet.allowlistContains script args.walletPath = false)
        function "policy-mutual-destination-allowlisted"
        "holder output not to wallet or in allowlist"

variable {policy} in
theorem validateFee_ok (strict : policy.filter.Strict) {tag sumInputs sumOutputs weight}
    (valid : policy.validateFee tag sumInputs sumOutputs weight = .ok ()) :
    ∃ fee : U64, sumInputs.toNat = sumOutputs.toNat + fee.toNat
      ∧ policy.minFeeratePerKw ≤ estimateFeeratePerKw fee weight
      ∧ estimateFeeratePerKw fee weight ≤ policy.maxFeeratePerKw := by
  simp only [validateFee, bind_eq_ok, okOr_eq_ok,
    PolicyFilter.refuseIf_eq_ok strict, gt_iff_lt, BitVec.not_lt] at valid
  obtain ⟨fee, left, -, above, below⟩ := valid
  have := BitVec.toNat_of_checkedSub left
  exact ⟨fee, by omega, above, below⟩

/-- The two ways to read a transaction, the likely one first. -/
def mutualCloseReadings (estate : EnforcementState) (tx : Transaction)
    (walletPaths : List DerivationPath) : Result ValidationError (ValidateArgs × ValidateArgs) := do
  let larger := estate.holderValueIsLarger policy.epsilonSat
  let first ← expect "index out of bounds" tx.output[0]?
  let firstPath ← expect "index out of bounds" walletPaths[0]?
  if tx.output.length = 1 then
    let holders : ValidateArgs := ⟨first.value, 0, some first.scriptPubkey, none, firstPath⟩
    let counterpartys : ValidateArgs := ⟨0, first.value, none, some first.scriptPubkey, []⟩
    .ok (if larger then (holders, counterpartys) else (counterpartys, holders))
  else
    let second ← expect "index out of bounds" tx.output[1]?
    let secondPath ← expect "index out of bounds" walletPaths[1]?
    let holderFirst : ValidateArgs :=
      ⟨first.value, second.value, some first.scriptPubkey, some second.scriptPubkey, firstPath⟩
    let counterpartyFirst : ValidateArgs :=
      ⟨second.value, first.value, some second.scriptPubkey, some first.scriptPubkey, secondPath⟩
    .ok (if larger then (counterpartyFirst, holderFirst) else (holderFirst, counterpartyFirst))

/-- The reading that passes, the likely one before the other; its error is the one reported. -/
def passingReading (setup : ChannelSetup) (estate : EnforcementState)
    (likely unlikely : ValidateArgs) : Result ValidationError ValidateArgs :=
  match policy.validateMutualCloseTx prims wallet setup estate likely with
  | .ok () => .ok likely
  | .error (.panic message) => .panic message
  | .error (.err error) =>
    match policy.validateMutualCloseTx prims wallet setup estate unlikely with
    | .ok () => .ok unlikely
    | .error (.panic message) => .panic message
    | .error (.err _) => .err error

def decodeAndValidateMutualCloseTx (setup : ChannelSetup) (estate : EnforcementState)
    (tx : Transaction) (walletPaths : List DerivationPath) :
    Result ValidationError ClosingTransaction := do
  let function := "decode_and_validate_mutual_close_tx"
  if tx.output.length > 2 then
    .err (transactionFormatError s!"{function}: invalid number of outputs: {tx.output.length}")
  if walletPaths.length ≠ tx.output.length then
    .panic "assertion failed: wallet_paths.len() == tx.output.len()"
  policy.filter.refuseIf (estate.currentHolderCommitInfo = none)
    function "policy-mutual-other" "current_holder_commit_info missing"
  policy.filter.refuseIf (estate.currentCounterpartyCommitInfo = none)
    function "policy-mutual-other" "current_counterparty_commit_info missing"
  let (likely, unlikely) ← policy.mutualCloseReadings estate tx walletPaths
  let good ← policy.passingReading prims wallet setup estate likely unlikely
  let closingTx := good.closingTransaction prims setup
  policy.filter.refuseIf (closingTx.built ≠ tx)
    function "policy-onchain-format-standard" "recomposed tx mismatch"
  .ok closingTx

end SimplePolicy

end Vls
