import Vls.Monitor.State
import Vls.Policy.SimpleValidator

/-! # The chain tracker

The tracker follows the headers of the chain and tells its listeners of the transactions that
concern them, which come with a compact proof or were streamed before. A call that fails leaves
behind what it has changed by then. -/

namespace Vls.Chain

open Result

open Monitor (Watch)

abbrev BlockHash := BitVec 256

structure BlockHeader where
  version : U32
  prevBlockhash : BlockHash
  merkleRoot : BitVec 256
  time : U32
  bits : U32
  nonce : U32
  deriving DecidableEq

structure Headers where
  header : BlockHeader
  filterHeader : BitVec 256
  deriving DecidableEq

inductive ProofType where
  | filter (content : List U8) (txs : List Transaction)
  | block (header : BlockHeader) (txs : List Transaction)
  | externalBlock

def ProofType.isExternal : ProofType → Bool
  | externalBlock => true
  | _ => false

structure TxoProof where
  attestations : List (PublicKey × List U8)
  proof : ProofType

inductive TrackerError where
  | invalidChain
  | orphanBlock (message : String)
  | invalidBlock
  | blockDecodeError
  | reorgTooDeep
  | invalidProof
  deriving DecidableEq

inductive PushEvent where
  | blockStart (header : BlockHeader)
  | transactionStart (version : U32)
  | transactionInput (input : TxIn)
  | transactionOutput (output : TxOut)
  | transactionEnd (lockTime : U32) (txid : BitVec 256)
  | blockEnd

inductive VerifyError where
  | invalidAttestation
  | other (text : String)

/-- What the tracker takes from the libraries it uses, and the filter of its validator. A decoder
    has a state `D`; the events of a chunk are those it tells while it reads the chunk. -/
structure ChainEnv (D : Type) where
  blockHash : BlockHeader → BlockHash
  /-- Whether the hash of a header is under its target. -/
  validatePow : BlockHeader → Bool
  target : U32 → Nat
  /-- The least and the greatest target after a change of the difficulty, as rounded by the
      compact form. -/
  minTransition : Nat → Nat
  maxTransition : Network → Nat → Nat
  filterHeader : TxoProof → BitVec 256
  /-- What is wrong with a proof, if anything is. -/
  verify : TxoProof → (height : Nat) → BlockHeader → (externalBlockHash : Option BlockHash) →
    (prevFilterHeader : BitVec 256) → (outpointWatches : Finset OutPoint) → Option VerifyError
  filter : PolicyFilter
  newDecoder : D
  decodeNext : D → List U8 → Option (D × List PushEvent)
  finish : D → Bool

/-- A proof is accepted if it verifies and half of the trusted oracles attest to it. -/
def ChainEnv.validateBlock {D : Type} (env : ChainEnv D) (proof : TxoProof) (height : Nat)
    (header : BlockHeader) (externalBlockHash : Option BlockHash) (prevFilterHeader : BitVec 256)
    (outpointWatches : Finset OutPoint) (trustedOraclePubkeys : List PublicKey) :
    Result ValidationError Unit := do
  let function := "validate_block"
  match env.verify proof height header externalBlockHash prevFilterHeader outpointWatches with
  | none => .ok ()
  | some .invalidAttestation =>
    env.filter.refuseIf True function "policy-chain-validated" "invalid attestation"
  | some (.other text) =>
    env.filter.refuseIf True function "policy-chain-validated" ("invalid proof " ++ text)
  let requiredMajority := (trustedOraclePubkeys.length + 1) / 2
  let keyMatches := trustedOraclePubkeys.countP fun trustedKey =>
    proof.attestations.any (·.1 = trustedKey)
  env.filter.refuseIf (keyMatches < requiredMajority) function "policy-chain-validated"
    "attestation from trusted oracles not found"

/-- The interface of a listener. A listener that panics gives no answer. -/
structure ChainListener (L K : Type) where
  key : L → K
  onAddBlock : L → List Transaction → BlockHash → Result Empty (L × Watch)
  onAddStreamedBlockEnd : L → BlockHash → Result Empty (L × Watch)
  onRemoveBlock : L → List Transaction → BlockHash → Result Empty (L × Watch)
  onRemoveStreamedBlockEnd : L → BlockHash → Result Empty (L × Watch)
  onPush : L → PushEvent → Result Empty L

/-- What is watched for on behalf of a listener, and what was seen to be spent. -/
structure ListenSlot where
  txidWatches : Finset (BitVec 256)
  watches : Finset OutPoint
  seen : Finset OutPoint

namespace ListenSlot

variable (slot : ListenSlot) (watch : Watch)

/-- A block was added. Removal comes last, for spends within the block. -/
def add : ListenSlot :=
  { slot with
    watches := (slot.watches ∪ watch.adds.toFinset) \ watch.removes.toFinset
    seen := slot.seen ∪ watch.removes.toFinset }

def revert : ListenSlot :=
  { slot with
    seen := slot.seen \ watch.removes.toFinset
    watches := (slot.watches ∪ watch.removes.toFinset) \ watch.adds.toFinset }

end ListenSlot

/-- The state while a block is being received. -/
structure DecodeState (D : Type) where
  decoder : D
  offset : Nat
  blockHash : BlockHash

structure ChainTracker (L K D : Type) where
  /-- The headers before the tip, the latest first. -/
  headers : List Headers
  tip : Headers
  height : Nat
  network : Network
  listeners : Map K (L × ListenSlot)
  decodeState : Option (DecodeState D)
  trustedOraclePubkeys : List PublicKey
  allowDeepReorgs : Bool

namespace ChainTracker

def maxReorgSize : Nat := 100

def diffchangeInterval : Nat := 2016

def maxTarget : Network → Result TrackerError Nat
  | .regtest => .ok (0x7fffff <<< (256 - 24))
  | .testnet | .bitcoin => .ok (0xffff <<< (256 - 48))
  | .testnet4 | .signet => Result.panic "internal error: entered unreachable code"

section

variable {L K D : Type} [DecidableEq K] (env : ChainEnv D) (t : ChainTracker L K D)

def validateRetarget (prevTarget target : Nat) (network : Network) : Result TrackerError Unit := do
  let chainMax ← maxTarget network
  if chainMax < target then err .invalidBlock
  else if target < env.minTransition prevTarget then err .invalidChain
  else if env.maxTransition network prevTarget < target then err .invalidChain
  else .ok ()

/-- On testnet a block may have the lowest difficulty if it comes late enough. -/
def twentyMinuteRule (header prevHeader : BlockHeader) : Result TrackerError Bool :=
  if t.network = .testnet then do
    let chainMax ← maxTarget t.network
    .ok (env.target header.bits = chainMax ∧ prevHeader.time + 60 * 20 < header.time)
  else .ok false

def validateDifficulty (height : Nat) (header prevHeader : BlockHeader) :
    Result TrackerError Unit := do
  if ← t.twentyMinuteRule env header prevHeader then .ok ()
  else if (height + 1) % diffchangeInterval = 0 then
    validateRetarget env (env.target prevHeader.bits) (env.target header.bits) t.network
  else if header.bits ≠ prevHeader.bits ∧ t.network ≠ .testnet then err .invalidChain
  else .ok ()

def getAllForwardWatches : Finset OutPoint :=
  t.listeners.values.foldl (fun watches entry => watches ∪ entry.2.watches) ∅

def getAllReverseWatches : Finset OutPoint :=
  t.listeners.values.foldl (fun watches entry => watches ∪ entry.2.watches ∪ entry.2.seen) ∅

def validateBlock (height : Nat) (externalBlockHash : Option BlockHash)
    (prevHeaders headers : Headers) (proof : TxoProof) (isRemove : Bool) :
    Result TrackerError Unit := do
  let header := headers.header
  let prevHeader := prevHeaders.header
  if header.prevBlockhash ≠ env.blockHash prevHeader then
    err (.orphanBlock ("header.prev_blockhash " ++ header.prevBlockhash.toHex
      ++ " != self.tip.block_hash " ++ (env.blockHash prevHeader).toHex))
  else if env.validatePow header = false then err .invalidBlock
  else do
    t.validateDifficulty env height header prevHeader
    let outpointWatches :=
      if isRemove then t.getAllReverseWatches else t.getAllForwardWatches
    -- old signers have no filter header to check a proof against
    if prevHeaders.filterHeader = 0 then .ok ()
    else
      (env.validateBlock proof (height + 1) header externalBlockHash prevHeaders.filterHeader
        outpointWatches t.trustedOraclePubkeys).mapErr fun _ => .invalidProof

end

variable {L K D : Type} [DecidableEq K] (env : ChainEnv D) (I : ChainListener L K)

def checkDecoded (expectedBlockHash : BlockHash) :
    Option (DecodeState D) → Result TrackerError Unit
  | none => .ok ()
  | some decodeState =>
    if env.finish decodeState.decoder = false then err .blockDecodeError
    else if decodeState.blockHash ≠ expectedBlockHash then err .blockDecodeError
    else .ok ()

def idle (t : ChainTracker L K D) : ChainTracker L K D := { t with decodeState := none }

/-- The end of a block that was streamed, if one was. The decoder is gone in any case. -/
def maybeFinishDecodingBlock (proof : TxoProof) (expectedBlockHash : BlockHash) :
    Call TrackerError (ChainTracker L K D) Unit := do
  let t ← get
  if proof.proof.isExternal ≠ t.decodeState.isSome then
    throw (.panic "assertion `left == right` failed: is_external != decode_state")
  else
    set t.idle
    checkDecoded env expectedBlockHash t.decodeState

def hearAdd (txs : Option (List Transaction)) (blockHash : BlockHash) (entry : L × ListenSlot) :
    Result Empty (L × ListenSlot) :=
  let told := match txs with
    | some txs => I.onAddBlock entry.1 txs blockHash
    | none => I.onAddStreamedBlockEnd entry.1 blockHash
  told.map fun (listener, watch) => (listener, entry.2.add watch)

def hearRemove (txs : Option (List Transaction)) (blockHash : BlockHash) (entry : L × ListenSlot) :
    Result Empty (L × ListenSlot) :=
  let told := match txs with
    | some txs => I.onRemoveBlock entry.1 txs blockHash
    | none => I.onRemoveStreamedBlockEnd entry.1 blockHash
  told.map fun (listener, watch) => (listener, entry.2.revert watch)

def notifyListeners (hear : L × ListenSlot → Result Empty (L × ListenSlot)) :
    Call TrackerError (ChainTracker L K D) Unit := do
  let t ← get
  let listeners ← (Result.mapErr Empty.elim (Map.traverse t.listeners hear) : Result TrackerError _)
  set { t with listeners := listeners }

def notifyListenersAdd (txs : Option (List Transaction)) (blockHash : BlockHash) :
    Call TrackerError (ChainTracker L K D) Unit :=
  notifyListeners (hearAdd I txs blockHash)

def notifyListenersRemove (txs : Option (List Transaction)) (blockHash : BlockHash) :
    Call TrackerError (ChainTracker L K D) Unit :=
  notifyListeners (hearRemove I txs blockHash)

/-- What a proof has the listeners told. A whole block is to be streamed instead. -/
def notifyListenersOf
    (notify : Option (List Transaction) → Call TrackerError (ChainTracker L K D) Unit) :
    ProofType → Call TrackerError (ChainTracker L K D) Unit
  | .filter _ txs => notify (some txs)
  | .block .. => throw (.err .invalidProof)
  | .externalBlock => notify none

def addBlock (header : BlockHeader) (proof : TxoProof) :
    Call TrackerError (ChainTracker L K D) Unit := do
  let messageBlockHash := env.blockHash header
  maybeFinishDecodingBlock env proof messageBlockHash
  let headers : Headers := ⟨header, env.filterHeader proof⟩
  let expectedExternalBlockHash :=
    if proof.proof.isExternal then some messageBlockHash else none
  let t ← get
  t.validateBlock env t.height expectedExternalBlockHash t.tip headers proof false
  notifyListenersOf (notifyListenersAdd I · messageBlockHash) proof.proof
  modify fun t =>
    { t with
      headers := t.tip :: t.headers.take (maxReorgSize - 1)
      tip := headers
      height := t.height + 1 }

/-- The headers before the tip are taken off those that are remembered. If there are none, the
    headers that were given are relied on, where this is allowed. -/
def popHeaders (suppliedPrevHeaders : Headers) : Call TrackerError (ChainTracker L K D) Unit := do
  let t ← get
  match t.headers with
  | [] => if t.allowDeepReorgs then pure () else throw (.err .reorgTooDeep)
  | first :: rest =>
    if suppliedPrevHeaders ≠ first then throw (.err .invalidChain)
    else set { t with headers := rest }

/-- Remove the block at the tip. The headers before it are given, in case the tracker does not
    remember them; the flag that allows this is meant for test networks. -/
def removeBlock (proof : TxoProof) (suppliedPrevHeaders : Headers) :
    Call TrackerError (ChainTracker L K D) BlockHeader := do
  popHeaders suppliedPrevHeaders
  let tipBlockHash := env.blockHash suppliedPrevHeaders.header
  maybeFinishDecodingBlock env proof tipBlockHash
  let expectedExternalBlockHash := if proof.proof.isExternal then some tipBlockHash else none
  let t ← get
  t.validateBlock env (t.height - 1) expectedExternalBlockHash suppliedPrevHeaders t.tip proof true
  notifyListenersOf (notifyListenersRemove I · tipBlockHash) proof.proof
  modify fun t => { t with tip := suppliedPrevHeaders, height := t.height - 1 }
  pure t.tip.header

def hearPush (event : PushEvent) (entry : L × ListenSlot) : Result Empty (L × ListenSlot) :=
  (I.onPush entry.1 event).map fun listener => (listener, entry.2)

def pushEvent (t : ChainTracker L K D) (hash : BlockHash) (event : PushEvent) :
    Result TrackerError (ChainTracker L K D) := do
  if let .blockStart header := event then
    if env.blockHash header ≠ hash then
      Result.panic ("assertion `left == right` failed: streamed block hash does not match header "
        ++ (env.blockHash header).toHex ++ " != " ++ hash.toHex)
  let listeners ← Result.mapErr Empty.elim (Map.traverse t.listeners (hearPush I event))
  .ok { t with listeners := listeners }

def decoderFor (hash : BlockHash) (offset : Nat) :
    Option (DecodeState D) → Result TrackerError (DecodeState D)
  | none =>
    if offset = 0 then .ok ⟨env.newDecoder, 0, hash⟩
    else Result.panic ("got chunk at offset " ++ toString offset ++ " without decoder")
  | some decodeState =>
    if offset = 0 then Result.panic "already decoding, and got chunk at offset 0"
    else if decodeState.blockHash ≠ hash then
      Result.panic ("assertion `left == right` failed: got chunk for wrong block "
        ++ hash.toHex ++ " != " ++ decodeState.blockHash.toHex)
    else if decodeState.offset ≠ offset then
      Result.panic ("assertion `left == right` failed: got chunk for wrong offset "
        ++ toString offset ++ " != " ++ toString decodeState.offset)
    else .ok decodeState

/-- A chunk never makes the call fail otherwise than by a panic, so there is no state to look at
    after a failure. -/
def blockChunk (t : ChainTracker L K D) (hash : BlockHash) (offset : Nat) (chunk : List U8) :
    Result TrackerError (ChainTracker L K D) := do
  let decodeState ← decoderFor env hash offset t.decodeState
  let (decoder, events) ← expect "decode failure" (env.decodeNext decodeState.decoder chunk)
  let t ← events.foldlM (fun t event => pushEvent env I t hash event) t
  .ok { t with
    decodeState := some { decodeState with decoder := decoder, offset := offset + chunk.length } }

end ChainTracker

end Vls.Chain
