import Vls.Policy.HtlcScript
import Vls.Policy.Validator

/-! # The checks on sweeps

Outputs of commitments that are ours are swept to the wallet. The fee of a sweep can be computed
only if the output it sweeps is its only input: of the others the signer does not know the
amounts, and then the fee is not checked. -/

namespace Vls

def maxChainLag : U32 := 2

def expectedSweepWitnessWeight : U64 := 220

def estimatedSweepTxWeight (prims : Primitives) (unsignedTx : Transaction) : U64 :=
  prims.weight unsignedTx + expectedSweepWitnessWeight

def lockTimeThreshold : U32 := 500000000

/-- Whether a locktime is reached at a height, and at the first of all times. -/
def isSatisfiedBy (lockTime height : U32) : Bool :=
  if lockTime < lockTimeThreshold then lockTime ≤ height else lockTime ≤ lockTimeThreshold

def anchorSeqs : List U32 := [0x00000001]

def nonAnchorSeqs : List U32 := [0x00000000, 0xfffffffd, 0xffffffff]

namespace SimplePolicy

variable (policy : SimplePolicy) (prims : Primitives) (reader : ScriptReader) (wallet : Wallet)

def validateSweepFee (tx : Transaction) (amountSat : U64) : Result ValidationError Unit :=
  if tx.input.length = 1 then
    (policy.validateFee "policy-sweep-fee-range" amountSat
      (BitVec.sum (tx.output.map (·.value))) (estimatedSweepTxWeight prims tx)).mapErr
        (.prependMsg "validate_sweep: ")
  else .ok ()

def validateSweepOutput (walletPath : DerivationPath) (output : TxOut) :
    Result ValidationError Unit :=
  match wallet.canSpend walletPath output.scriptPubkey with
  | .error error => .err (policyError "policy-onchain-output-scriptpubkey"
      s!"wallet can_spend error: {error}")
  | .ok spendable =>
    policy.filter.refuseIf
      (spendable = false ∧ wallet.allowlistContains output.scriptPubkey walletPath = false)
      "validate_sweep" "policy-sweep-destination-allowlisted"
      "destination is not in wallet or allowlist"

def validateSweep (tx : Transaction) (amountSat : U64) (walletPath : DerivationPath) :
    Result ValidationError Unit := do
  if tx.version ≠ 2 then
    .err (transactionFormatError s!"validate_sweep: bad version: {tx.version.toNat}")
  policy.validateSweepFee prims tx amountSat
  tx.output.forM (policy.validateSweepOutput wallet walletPath)

def validateSweepLockTime (function : String) (cstate : ChainState) (tx : Transaction) :
    Result ValidationError Unit := do
  let height := cstate.currentHeight + maxChainLag
  if height ≥ lockTimeThreshold then
    .panic "Height::from_consensus"
  if isSatisfiedBy tx.lockTime height = false then
    .err (transactionFormatError
      s!"{function}: bad locktime: {tx.lockTime.toNat} > {height.toNat}")

def validateSweepSequence (function : String) (tx : Transaction) (validSeqs : List U32) :
    Result ValidationError Unit := do
  let input ← Result.expect "index out of bounds" tx.input[0]?
  if input.sequence ∉ validSeqs then
    .err (transactionFormatError (s!"{function}: bad sequence: {input.sequence.toNat} not in " ++
      toString (validSeqs.map BitVec.toNat)))

def validateDelayedSweep (setup : ChannelSetup) (cstate : ChainState) (tx : Transaction)
    (amountSat : U64) (walletPath : DerivationPath) : Result ValidationError Unit := do
  let function := "validate_delayed_sweep"
  (policy.validateSweep prims wallet tx amountSat walletPath).mapErr (.prependMsg s!"{function}: ")
  validateSweepLockTime function cstate tx
  -- the delay is the only sequence, and it is reported without a list
  let input ← Result.expect "index out of bounds" tx.input[0]?
  let delay := setup.counterpartySelectedContestDelay
  if input.sequence ≠ delay.zeroExtend 32 then
    .err (transactionFormatError
      s!"{function}: bad sequence: {input.sequence.toNat} != {delay.toNat}")

/-- The locktime of a sweep of an HTLC depends on whose HTLC it is. -/
def validateHtlcSweepLockTime (setup : ChannelSetup) (cstate : ChainState) (tx : Transaction)
    (redeemscript : Script) : Result ValidationError Unit :=
  let function := "validate_counterparty_htlc_sweep"
  match reader.parseReceivedHtlcScript redeemscript setup.isAnchors with
  | some htlc => do
    if htlc.cltvExpiry < 0 ∨ htlc.cltvExpiry > 2 ^ 32 - 1 then
      .err (transactionFormatError s!"{function}: bad cltv_expiry: {htlc.cltvExpiry}")
    if tx.lockTime > BitVec.ofInt 32 htlc.cltvExpiry then
      .err (transactionFormatError
        s!"{function}: bad locktime: {tx.lockTime.toNat} > {htlc.cltvExpiry}")
  | none =>
    if (reader.parseOfferedHtlcScript redeemscript setup.isAnchors).isSome then
      validateSweepLockTime function cstate tx
    else
      .err (transactionFormatError
        s!"{function}: bad redeemscript: {reader.toAsmString redeemscript}")

def validateCounterpartyHtlcSweep (setup : ChannelSetup) (cstate : ChainState) (tx : Transaction)
    (redeemscript : Script) (amountSat : U64) (walletPath : DerivationPath) :
    Result ValidationError Unit := do
  let function := "validate_counterparty_htlc_sweep"
  (policy.validateSweep prims wallet tx amountSat walletPath).mapErr (.prependMsg s!"{function}: ")
  validateHtlcSweepLockTime reader setup cstate tx redeemscript
  validateSweepSequence function tx (if setup.isAnchors then anchorSeqs else nonAnchorSeqs)

def validateJusticeSweep (cstate : ChainState) (tx : Transaction) (amountSat : U64)
    (walletPath : DerivationPath) : Result ValidationError Unit := do
  let function := "validate_justice_sweep"
  (policy.validateSweep prims wallet tx amountSat walletPath).mapErr (.prependMsg s!"{function}: ")
  validateSweepLockTime function cstate tx
  validateSweepSequence function tx nonAnchorSeqs

end SimplePolicy

end Vls
