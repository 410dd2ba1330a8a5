import Vls.Chain.Steps
import Vls.Monitor.Streamed
import Vls.Monitor.Toy

/-! # A toy tracker

Headers whose hash is their Merkle root, proofs that are all accepted, and blocks of two bytes. -/

namespace Vls.Toy

open Monitor Chain

def blockHeader (number : BitVec 256) : BlockHeader := ⟨0, number - 1, number, 0, 0, 0⟩

def blockBytes : List U8 := [1, 2]

def chainEnv (header : BlockHeader) (txs : List Transaction) : ChainEnv (List U8) where
  blockHash header := header.merkleRoot
  validatePow _ := true
  target _ := 0
  minTransition _ := 0
  maxTransition _ _ := 0
  filterHeader _ := 1
  verify _ _ _ _ _ _ := none
  filter := .default
  newDecoder := []
  decodeNext read chunk := some (read ++ chunk,
    if read ++ chunk = blockBytes then
      .blockStart header :: txs.flatMap (transactionEvents prims) ++ [.blockEnd] else [])
  finish read := read = blockBytes

def chainMonitor (state : State) : ChainMonitor := ⟨⟨1, 0⟩, state, none, provider⟩

def trackerOf (state : State) (watches : Finset OutPoint) :
    ChainTracker ChainMonitor OutPoint (List U8) where
  headers := []
  tip := ⟨blockHeader 1, 1⟩
  height := 1
  network := .regtest
  listeners := AList.insert ⟨1, 0⟩ (chainMonitor state, ⟨∅, watches, ∅⟩) ∅
  decodeState := none
  trustedOraclePubkeys := []
  allowDeepReorgs := false

def slotWatches (t : ChainTracker ChainMonitor OutPoint (List U8)) : Option (Finset OutPoint) :=
  (t.listeners.lookup ⟨1, 0⟩).map (·.2.watches)

/-- The monitor listens by way of the toy primitives. -/
abbrev chainListener : ChainListener ChainMonitor OutPoint := listener prims (·.merkleRoot)

def signedState : State := fundedStart.state.addFundingInputs fundingTx

def closedState : State :=
  { signedState with
    height := 1
    fundingHeight := some 1
    fundingOutpoint := some ⟨1, 0⟩
    unilateralClosingHeight := some 1
    closingOutpoints := some (.new 0x20000001 (some 0) [1]) }

def htlcTx : Transaction := ⟨2, 4, [spend ⟨0x20000001, 1⟩], [⟨40000, []⟩]⟩

theorem lookup_trackerOf {state watches key m slot}
    (found : (trackerOf state watches).listeners.lookup key = some (m, slot)) :
    m = chainMonitor state ∧ slot = ⟨∅, watches, ∅⟩ := by
  rw [trackerOf, Map.lookup_insert_ite] at found
  split at found
  · have same := Option.some.inj found
    exact ⟨(congrArg Prod.fst same).symm, (congrArg Prod.snd same).symm⟩
  · cases found

end Vls.Toy
