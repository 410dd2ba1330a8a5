import Vls.Channel.Toy
import Vls.Monitor.Machine

/-! # A toy chain

Transactions over the toy primitives, which take the lock time of a transaction for its identifier:
the funding of the toy channel, a close of it and sweeps of the close. -/

namespace Vls.Toy

open Monitor

def provider : CommitmentPointProvider where
  getHolderCommitmentPoint _ := key 1
  getCounterpartyCommitmentPoint _ := .ok none
  getTransactionParameters := chan.makeChannelParameters ctx
  getSpendableHtlcIndices _ _ := .ok [1]

def spend (outpoint : OutPoint) : TxIn := ⟨outpoint, [], 0x80000000, []⟩

def walletOutpoint : OutPoint := ⟨7, 0⟩

def fundingTx : Transaction := ⟨2, 1, [spend walletOutpoint], [⟨1000000, []⟩]⟩

def closeTx : Transaction := ⟨2, 0x20000001, [spend ⟨1, 0⟩], [⟨900000, [2]⟩]⟩

def sweepTx : Transaction := ⟨2, 3, [spend ⟨0x20000001, 0⟩], [⟨890000, []⟩]⟩

def addBlock (txs : List Transaction) : MonitorInput := .addBlock provider txs

def monitorStart : Followed := ⟨[], [], .new 0⟩

def fundChannel : List MonitorInput :=
  [.addFundingOutpoint ⟨1, 0⟩, .addFundingInputs fundingTx, addBlock [fundingTx]]

def fundedStart : Followed :=
  ⟨[], [1], { State.new 0 with fundingTxids := [1], fundingVouts := [0] }⟩

end Vls.Toy
