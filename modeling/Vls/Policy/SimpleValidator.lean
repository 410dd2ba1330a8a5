import Vls.EnforcementState

/-! # The simple validator

The policy checks on channel setups, commitments, revocations and payments. Each check raises
its violation under a tag that the policy filter may demote, so a check that fails does not by
itself stop the validation. -/

namespace Vls

variable {filter : PolicyFilter} {violated : Prop} {function tag message : String} {u : Unit}

def minDustLimitSatoshis : U64 := 330

def minChanDustLimitSatoshis : U64 := 354

def maxCltvExpiry : U32 := 500000000

def expectedCommitmentTxWeight (optAnchors : Bool) (numUntrimmedHtlc : Nat) : U64 :=
  (if optAnchors then 1124 else 724) + BitVec.ofNat 64 numUntrimmedHtlc * 172

/-- The highest feerate that can give rise to a total fee, cut to 32 bits. -/
def estimateFeeratePerKw (totalFee weight : U64) : U32 :=
  ((totalFee * 1000 + 999) / weight).truncate 32

/-- What the validator is told about the chain. -/
structure ChainState where
  currentHeight : U32
  fundingDepth : U32
  fundingDoubleSpentDepth : U32
  closingDepth : U32
  splicePending : Bool

abbrev DerivationPath := List U32

/-- What the node's wallet answers about a script. -/
structure Wallet where
  canSpend : DerivationPath → Script → Except String Bool
  allowlistContains : Script → DerivationPath → Bool

structure SimplePolicy where
  minDelay : U16
  maxDelay : U16
  maxChannelSizeSat : U64
  epsilonSat : U64
  maxHtlcs : Nat
  maxHtlcValueSat : U64
  useChainState : Bool
  minFeeratePerKw : U32
  maxFeeratePerKw : U32
  enforceBalance : Bool
  maxRoutingFeeMsat : U64
  maxFeeratePercentage : U8
  cltvDelta : U32
  filter : PolicyFilter
  maxChannels : Nat
  maxInvoices : Nat

inductive Network where
  | bitcoin
  | testnet
  | testnet4
  | signet
  | regtest
  deriving DecidableEq

def makeDefaultSimplePolicy : Network → SimplePolicy
  | .bitcoin =>
    { minDelay := 144
      maxDelay := 2016
      maxChannelSizeSat := 1000000001
      epsilonSat := 10000
      maxHtlcs := 1000
      maxHtlcValueSat := 16777216
      useChainState := false
      minFeeratePerKw := 253
      maxFeeratePerKw := 25000
      enforceBalance := false
      maxRoutingFeeMsat := 10000
      maxFeeratePercentage := 10
      cltvDelta := 34
      filter := .default
      maxChannels := 1000
      maxInvoices := 1000 }
  | _ =>
    { minDelay := 4
      maxDelay := 2016
      maxChannelSizeSat := 1000000001
      epsilonSat := 10000
      maxHtlcs := 1000
      maxHtlcValueSat := 16777216
      useChainState := false
      minFeeratePerKw := 253
      maxFeeratePerKw := 333333
      enforceBalance := false
      maxRoutingFeeMsat := 222000
      maxFeeratePercentage := 10
      cltvDelta := 6
      filter := .default
      maxChannels := 1000
      maxInvoices := 1000 }

namespace PolicyFilter

/-- Raise a policy violation if the condition holds, naming the function that raises it. -/
def refuseIf (filter : PolicyFilter) (violated : Prop) [Decidable violated]
    (function tag message : String) : Result ValidationError Unit :=
  if violated then filter.policyErrorWithFilter tag (function ++ ": " ++ message) else .ok ()

theorem refuseIf_eq_ok (strict : filter.Strict) [Decidable violated] :
    filter.refuseIf violated function tag message = .ok u ↔ ¬ violated := by
  by_cases h : violated
  · simp [refuseIf, h, policyErrorWithFilter_strict strict]
  · simp [refuseIf, h]

/-- A check lets a call go on: it is not violated, or it is demoted. -/
def Passes (filter : PolicyFilter) (tag : String) (violated : Prop) : Prop :=
  violated → filter.filter tag = .warn

theorem refuseIf_passes [Decidable violated] :
    filter.refuseIf violated function tag message = .ok u ↔ filter.Passes tag violated := by
  by_cases h : violated
  · cases action : filter.filter tag <;>
      simp [refuseIf, policyErrorWithFilter, Passes, h, action]
  · simp [refuseIf, Passes, h]

end PolicyFilter

namespace SimplePolicy

variable (policy : SimplePolicy)

def validateDelay (name : String) (delay : U32) : Result ValidationError Unit := do
  policy.filter.refuseIf (delay < policy.minDelay.zeroExtend 32) "validate_delay"
    s!"policy-channel-contest-delay-range-{name}"
    s!"{name} contest-delay too small: {delay.toNat} < {policy.minDelay.toNat}"
  policy.filter.refuseIf (delay > policy.maxDelay.zeroExtend 32) "validate_delay"
    s!"policy-channel-contest-delay-range-{name}"
    s!"{name} contest-delay too large: {delay.toNat} > {policy.maxDelay.toNat}"

def validateExpiry (name : String) (expiry currentHeight : U32) : Result ValidationError Unit := do
  policy.filter.refuseIf (expiry ≥ maxCltvExpiry) "validate_expiry"
    "policy-commitment-htlc-cltv-range"
    s!"{name} expiry too late: {expiry.toNat} > {maxCltvExpiry.toNat}"
  if policy.useChainState then
    let earliest := currentHeight + policy.minDelay.zeroExtend 32
    let latest := currentHeight + policy.maxDelay.zeroExtend 32
    policy.filter.refuseIf (expiry < earliest) "validate_expiry"
      "policy-commitment-htlc-cltv-range"
      s!"{name} expiry too early: {expiry.toNat} < {earliest.toNat}"
    policy.filter.refuseIf (expiry > latest) "validate_expiry"
      "policy-commitment-htlc-cltv-range"
      s!"{name} expiry too late: {expiry.toNat} > {latest.toNat}"

def validateFee (tag : String) (sumInputs sumOutputs weight : U64) :
    Result ValidationError Unit := do
  let fee ← Result.okOr
    (policyError tag s!"fee underflow: {sumInputs.toNat} - {sumOutputs.toNat}")
    (sumInputs.checkedSub sumOutputs)
  let feerate := estimateFeeratePerKw fee weight
  policy.filter.refuseIf (feerate < policy.minFeeratePerKw) "validate_fee" tag
    s!"feerate below minimum: {feerate.toNat} < {policy.minFeeratePerKw.toNat}"
  policy.filter.refuseIf (feerate > policy.maxFeeratePerKw) "validate_fee" tag
    s!"feerate above maximum: {feerate.toNat} > {policy.maxFeeratePerKw.toNat}"

def validateSetupChannel (wallet : Wallet) (setup : ChannelSetup)
    (holderShutdownKeyPath : DerivationPath) : Result ValidationError Unit := do
  policy.filter.refuseIf
    (setup.commitmentType ≠ .staticRemoteKey ∧ setup.commitmentType ≠ .anchorsZeroFeeHtlc)
    "validate_setup_channel" "policy-channel-safe-type" "unsafe commitment type"
  -- each side's delay is the one the other side selected
  policy.validateDelay "holder" (setup.counterpartySelectedContestDelay.zeroExtend 32)
  policy.validateDelay "counterparty" (setup.holderSelectedContestDelay.zeroExtend 32)
  match setup.holderShutdownScript with
  | none => .ok ()
  | some script =>
    match wallet.canSpend holderShutdownKeyPath script with
    | .error error =>
      .err (policyError "policy-onchain-output-scriptpubkey" s!"wallet can_spend error: {error}")
    | .ok spendable =>
      policy.filter.refuseIf
        (spendable = false ∧ wallet.allowlistContains script holderShutdownKeyPath = false)
        "validate_setup_channel" "policy-mutual-destination-allowlisted"
        "holder_shutdown_script is not in wallet or allowlist"

def validateChannelValue (setup : ChannelSetup) : Result ValidationError Unit :=
  policy.filter.refuseIf (setup.channelValueSat > policy.maxChannelSizeSat)
    "validate_channel_value" "policy-funding-max"
    s!"channel value {setup.channelValueSat.toNat} too large"

def validateHtlcs (name : String) (dustLimit : U64) (currentHeight : U32) :
    List HTLCInfo2 → U64 → Result ValidationError U64
  | [], sum => .ok sum
  | htlc :: rest, sum => do
    policy.validateExpiry s!"{name} HTLC" htlc.cltvExpiry currentHeight
    let sum ← Result.okOr
      (policyError "policy-commitment-payment-velocity" s!"{name} HTLC value overflow")
      (sum.checkedAdd htlc.valueSat)
    policy.filter.refuseIf (htlc.valueSat < dustLimit) "validate_commitment_tx"
      "policy-commitment-outputs-trimmed"
      s!"{name} htlc.value_sat {htlc.valueSat.toNat} less than dust limit {dustLimit.toNat}"
    validateHtlcs name dustLimit currentHeight rest sum

/-- The balance the fundee carries over from the funding that a splice retires. -/
def carriedFundeeSat (estate : EnforcementState) (setup : ChannelSetup) : U64 :=
  match estate.prevFundingCommitment with
  | none => 0
  | some prev =>
    if prev.outpoint = setup.fundingOutpoint then 0
    else match prev.currentCounterpartyInfo, prev.currentHolderInfo with
      | some cpInfo, _ => cpInfo.toBroadcasterValueSat
      | none, some holderInfo => holderInfo.toCountersignerValueSat
      | none, none => prev.retiringPushValueMsat / 1000

def htlcDustLimit (setup : ChannelSetup) (feeratePerKw : U32) (weight : U64) : U64 :=
  if setup.isZeroFeeHtlc then minChanDustLimitSatoshis
  else minDustLimitSatoshis + feeratePerKw.zeroExtend 64 * weight / 1000

variable (prims : Primitives)

/-- The constraints common to the commitments of both sides. -/
def validateCommitmentTx (estate : EnforcementState) (commitNum : U64) (setup : ChannelSetup)
    (cstate : ChainState) (info : CommitmentInfo2) : Result ValidationError Unit := do
  let function := "validate_commitment_tx"
  policy.filter.refuseIf
    (info.toBroadcasterValueSat > 0 ∧ info.toBroadcasterValueSat < minChanDustLimitSatoshis)
    function "policy-commitment-outputs-trimmed"
    (s!"to_broadcaster_value_sat {info.toBroadcasterValueSat.toNat} less than dust limit " ++
      s!"{minChanDustLimitSatoshis.toNat}")
  policy.filter.refuseIf
    (info.toCountersignerValueSat > 0 ∧ info.toCountersignerValueSat < minChanDustLimitSatoshis)
    function "policy-commitment-outputs-trimmed"
    (s!"to_countersigner_value_sat {info.toCountersignerValueSat.toNat} less than dust limit " ++
      s!"{minChanDustLimitSatoshis.toNat}")
  let numHtlcs := info.offeredHtlcs.length + info.receivedHtlcs.length
  policy.filter.refuseIf (numHtlcs > policy.maxHtlcs)
    function "policy-commitment-htlc-count-limit" "too many HTLCs"
  let htlcValueSat ← policy.validateHtlcs "offered"
    (htlcDustLimit setup info.feeratePerKw (prims.htlcTimeoutTxWeight setup.features))
    cstate.currentHeight info.offeredHtlcs 0
  let htlcValueSat ← policy.validateHtlcs "received"
    (htlcDustLimit setup info.feeratePerKw (prims.htlcSuccessTxWeight setup.features))
    cstate.currentHeight info.receivedHtlcs htlcValueSat
  policy.filter.refuseIf (htlcValueSat > policy.maxHtlcValueSat)
    function "policy-commitment-htlc-inflight-limit"
    s!"sum of HTLC values {htlcValueSat.toNat} too large"
  let sumOutputs ← Result.okOr
    (policyError "policy-commitment-payment-velocity" "channel value overflow")
    (info.toBroadcasterValueSat.checkedAdd info.toCountersignerValueSat)
  let sumOutputs ← Result.okOr
    (policyError "policy-commitment-payment-velocity" "channel value overflow on HTLC")
    (sumOutputs.checkedAdd htlcValueSat)
  (policy.validateFee "policy-commitment-fee-range" setup.channelValueSat sumOutputs
    (expectedCommitmentTxWeight setup.isAnchors numHtlcs)).mapErr (.prependMsg s!"{function}: ")
  if commitNum = 0 then
    policy.filter.refuseIf (numHtlcs > 0)
      function "policy-commitment-first-no-htlcs" "initial commitment may not have HTLCS"
    if setup.isOutbound then
      let carried := carriedFundeeSat estate setup
      policy.filter.refuseIf (info.valueToParties.2 > setup.pushValueMsat / 1000 + carried)
        function "policy-commitment-initial-funding-value"
        (s!"initial commitment may only send push_value_msat ({setup.pushValueMsat.toNat}) " ++
          s!"plus prior-era balance ({carried.toNat}) to fundee")

/-- What a counterparty commitment that is signed again is compared with: the slot of its number
    if it is populated, else the record kept for the funding. -/
def prevCommitInfo (estate : EnforcementState) (commitNum : U64) (setup : ChannelSetup) :
    Option CommitmentInfo2 :=
  if estate.counterpartyCommitmentFunding = some setup.fundingOutpoint
      ∧ (estate.getPreviousCounterpartyCommitInfo commitNum).isSome then
    estate.getPreviousCounterpartyCommitInfo commitNum
  else
    estate.counterpartyCommitInfoFor setup.fundingOutpoint

/-- Signing the last signed number again is a retry if its funding is the one signed last. The
    same number on another funding belongs to a splice and is not compared with anything. -/
def validateCounterpartyCommitmentTx (estate : EnforcementState) (commitNum : U64)
    (commitmentPoint : PublicKey) (setup : ChannelSetup) (cstate : ChainState)
    (info2 : CommitmentInfo2) : Result ValidationError Unit := do
  let function := "validate_counterparty_commitment_tx"
  (policy.validateCommitmentTx prims estate commitNum setup cstate info2).mapErr
    (.prependMsg s!"{function}: ")
  policy.filter.refuseIf (commitNum > estate.nextCounterpartyRevokeNum + 1)
    function "policy-commitment-previous-revoked"
    (s!"invalid attempt to sign counterparty commit_num {commitNum.toNat} " ++
      s!"with next_counterparty_revoke_num {estate.nextCounterpartyRevokeNum.toNat}")
  if commitNum + 1 = estate.nextCounterpartyCommitNum
      ∧ estate.counterpartyCommitmentFunding = some setup.fundingOutpoint then
    policy.filter.refuseIf (estate.currentCounterpartyPoint ≠ some commitmentPoint)
      function "policy-commitment-retry-same"
      (match estate.currentCounterpartyPoint with
        | none =>
          (s!"retry of sign_counterparty_commitment {commitNum.toNat} with no prev point: " ++
            s!"new {commitmentPoint}")
        | some prev => (s!"retry of sign_counterparty_commitment {commitNum.toNat} with changed " ++
            s!"point: prev {prev} != new {commitmentPoint}"))
    policy.filter.refuseIf (some info2 ≠ prevCommitInfo estate commitNum setup)
      function "policy-commitment-retry-same"
      s!"retry of sign_counterparty_commitment {commitNum.toNat} with changed info"

def validateHolderCommitmentTx (estate : EnforcementState) (commitNum : U64)
    (setup : ChannelSetup) (cstate : ChainState) (info2 : CommitmentInfo2) :
    Result ValidationError Unit := do
  let function := "validate_holder_commitment_tx"
  (policy.validateCommitmentTx prims estate commitNum setup cstate info2).mapErr
    (.prependMsg s!"{function}: ")
  let retry := commitNum + 1 = estate.nextHolderCommitNum
    ∧ estate.holderCommitmentFunding = some setup.fundingOutpoint
  -- nothing is stored for the funding of this retry, so there is nothing left to check
  if retry ∧ estate.holderCommitInfoFor setup.fundingOutpoint = none then
    return
  policy.filter.refuseIf
    (retry ∧ estate.holderCommitInfoFor setup.fundingOutpoint ≠ some info2)
    function "policy-commitment-retry-same"
    s!"retry holder commitment {commitNum.toNat} with changed info"
  policy.filter.refuseIf (commitNum + 2 ≤ estate.nextHolderCommitNum)
    function "policy-commitment-holder-not-revoked"
    (s!"can't validate revoked commitment_number {commitNum.toNat}, " ++
      s!"next_holder_commit_num is {estate.nextHolderCommitNum.toNat}")
  policy.filter.refuseIf (commitNum = estate.nextHolderCommitNum ∧ estate.channelClosed = true)
    function "policy-commitment-spends-active-utxo" "channel is closing"

def validateCounterpartyRevocation (state : EnforcementState) (revokeNum : U64)
    (commitmentSecret : SecretKey) : Result ValidationError Unit := do
  let function := "validate_counterparty_revocation"
  policy.filter.refuseIf
    (revokeNum ≠ state.nextCounterpartyRevokeNum ∧ revokeNum + 1 ≠ state.nextCounterpartyRevokeNum)
    function "policy-commitment-previous-revoked"
    (s!"invalid counterparty revoke_num {revokeNum.toNat} " ++
      s!"with next_counterparty_revoke_num {state.nextCounterpartyRevokeNum.toNat}")
  let supplied := prims.publicKey commitmentSecret
  policy.filter.refuseIf (state.getPreviousCounterpartyPoint revokeNum ≠ some supplied)
    function "policy-commitment-previous-revoked"
    (match state.getPreviousCounterpartyPoint revokeNum with
      | none => (s!"revocation commit point mismatch for commit_num {revokeNum.toNat}: " ++
          s!"supplied {supplied}, previous is None")
      | some prev => (s!"revocation commit point mismatch for commit_num {revokeNum.toNat}: " ++
          s!"supplied {supplied}, previous {prev}"))

/-- What goes out for a payment is covered by what comes in, the invoice and the routing fee
    the policy allows. -/
def validatePaymentBalance (incomingMsat outgoingMsat : U64) (invoicedAmountMsat : Option U64) :
    Result ValidationError Unit := do
  let function := "validate_payment_balance"
  let maxToInvoiceMsat := match invoicedAmountMsat with
    | some a => a + policy.maxRoutingFeeMsat
    | none => 0
  policy.filter.refuseIf (incomingMsat + maxToInvoiceMsat < outgoingMsat)
    function "policy-routing-balanced"
    (s!"incoming_msat + max_to_invoice_msat < outgoing_msat: " ++
      s!"{incomingMsat.toNat} + {maxToInvoiceMsat.toNat} < {outgoingMsat.toNat}")
  match invoicedAmountMsat with
  | none => return
  | some invoiced =>
    if invoiced + incomingMsat > outgoingMsat then
      return
    let fee := outgoingMsat - invoiced - incomingMsat
    if fee.toNat * 100 < 2 ^ 64 then
      let percentage := fee * 100 / (if invoiced < 1 then 1 else invoiced)
      policy.filter.refuseIf (percentage > policy.maxFeeratePercentage.zeroExtend 64)
        function "policy-htlc-fee-range"
        (s!"fee_percentage > max_feerate_percentage: " ++
          s!"{percentage.toNat}% > {policy.maxFeeratePercentage.toNat}%")
    else
      .err (policyError "policy-commitment-payment-velocity"
        "policy-generic-error: invoice amount too big")

def validatePaymentCltv (incomingCltv outgoingCltv : U32) : Result ValidationError Unit := do
  let function := "validate_payment_cltv"
  policy.filter.refuseIf (incomingCltv ≤ outgoingCltv) function "policy-routing-cltv-delta"
    s!"incoming CLTV {incomingCltv.toNat} must be greater than outgoing CLTV {outgoingCltv.toNat}"
  let delta := incomingCltv - outgoingCltv
  policy.filter.refuseIf (delta < policy.cltvDelta) function "policy-routing-cltv-delta"
    s!"CLTV delta {delta.toNat} is less than minimum {policy.cltvDelta.toNat}"

end SimplePolicy

end Vls
