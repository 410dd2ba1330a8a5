import Vls.Monitor.Machine

/-! # When the money of a channel is settled

In terms of the chain and of what the channel tells in the end of the commitments in it: the funding
was double-spent, the channel was closed mutually, or it was closed unilaterally and our outputs
were swept. -/

namespace Vls.Monitor

def Followed.SpentBy (m : Followed) (n : Nat) (o : OutPoint) : Prop :=
  ∃ k ≤ n, ∃ block, m.blockAt k = some block ∧ o ∈ spends block.txs

variable (prims : Primitives) (told : CommitmentPointProvider)

/-- The outpoint is spent in the chain, up to a height, by the input of a transaction, and `second`
    is the output at the position of that input. -/
def Followed.SweptInto (m : Followed) (n : Nat) (o second : OutPoint) : Prop :=
  ∃ k ≤ n, ∃ block, m.blockAt k = some block ∧ ∃ tx ∈ block.txs, ∃ input i,
    (input, i) ∈ tx.input.zipIdx ∧ input.previousOutput = o
      ∧ second = ⟨prims.computeTxid tx, .ofNat 32 i⟩

def Followed.Unfunded (m : Followed) : Prop :=
  ∀ block ∈ m.chain, ∀ tx ∈ block.txs, prims.computeTxid tx ∉ m.fundings
  deriving Decidable

def Followed.DoubleSpentAt (m : Followed) (k : Nat) : Prop :=
  (∃ block, m.blockAt k = some block ∧ ∃ o ∈ spends block.txs,
    ∃ funding : Transaction, prims.computeTxid funding ∈ m.fundings
      ∧ o ∈ funding.input.map (·.previousOutput))
  ∧ m.Unfunded prims

/-- A transaction of the block at a height that spends nothing but a funding outpoint of the
    channel, and is not a funding itself. -/
structure CloseAt (m : Followed) (k : Nat) (block : Block) (tx : Transaction) (o : OutPoint) :
    Prop where
  found : m.blockAt k = some block
  there : tx ∈ block.txs
  single : tx.input.map (·.previousOutput) = [o]
  funding : o.txid ∈ m.fundings
  notFunding : prims.computeTxid tx ∉ m.fundings

def Followed.MutuallyClosedAt (m : Followed) (k : Nat) : Prop :=
  ∃ block tx o, CloseAt prims m k block tx o
    ∧ decodeCommitmentNumber prims tx told.getTransactionParameters = none

/-- The outputs of a commitment that are the holder's: the main one, and the HTLC outputs that they
    can spend, which the channel is asked for only if the commitment has HTLCs. -/
structure Ours (tx : Transaction) (number : U64) (main : Option U32) (htlcs : List U32) : Prop where
  decodes : decodeCommitmentNumber prims tx told.getTransactionParameters = some number
  outputs : ∃ point candidates, told.getCounterpartyCommitmentPoint number = .ok point
    ∧ decodeCommitmentTx prims tx (told.getHolderCommitmentPoint number) point
        told.getTransactionParameters = (main, candidates)
    ∧ (candidates = [] ∧ htlcs = []
      ∨ candidates ≠ [] ∧ told.getSpendableHtlcIndices tx number = .ok htlcs)

/-- A commitment is in the chain, and up to the height `k` our output of it, the HTLC outputs that
    are ours to spend and the outputs that these were spent into are all spent. -/
def Followed.SweptAt (m : Followed) (k : Nat) : Prop :=
  ∃ u ≤ k, ∃ block tx o number main htlcs, CloseAt prims m u block tx o
    ∧ Ours prims told tx number main htlcs
    ∧ (∀ vout ∈ main, m.SpentBy k ⟨prims.computeTxid tx, vout⟩)
    ∧ ∀ vout ∈ htlcs, ∃ second, m.SweptInto prims k ⟨prims.computeTxid tx, vout⟩ second
      ∧ m.SpentBy k second

/-- The host asked to forget the channel, and it was settled deep in the chain. -/
def Followed.Settled (m : Followed) : Prop :=
  m.state.sawForgetChannel = true ∧ ∃ k, k + State.minDepth ≤ m.state.height + 1
    ∧ (m.DoubleSpentAt prims k ∨ m.MutuallyClosedAt prims told k ∨ m.SweptAt prims told k)

/-- The block confirms no funding that was replaced; it spends an input of a funding otherwise only
    while no funding is in the chain; and it confirms the current funding only where there is no
    close. -/
@[mk_iff]
structure Ordinary (m : Followed) (txs : List Transaction) : Prop where
  former : ∀ tx ∈ txs, prims.computeTxid tx ∈ m.fundings →
    prims.computeTxid tx ∈ m.state.fundingTxids
  doubleSpend : ∀ tx ∈ txs, prims.computeTxid tx ∉ m.state.fundingTxids →
    (∃ input ∈ tx.input, input.previousOutput ∈ m.state.fundingInputs) →
      m.Unfunded prims ∧ ∀ tx ∈ txs, prims.computeTxid tx ∉ m.fundings
  funding : ∀ tx ∈ txs, prims.computeTxid tx ∈ m.state.fundingTxids →
    m.state.mutualClosingHeight = none ∧ m.state.unilateralClosingHeight = none
      ∧ ∀ tx' ∈ txs, ¬ m.state.Closes prims tx'

/-- The channel tells of the closes in a block what it tells of them in the end: in particular, no
    preimage for an HTLC of theirs comes later. -/
def Tells (m : Followed) (provider : CommitmentPointProvider) (txs : List Transaction) : Prop :=
  ∀ tx ∈ txs, (m.state.view prims txs).Closes prims tx →
    closeChange prims provider tx (prims.computeTxid tx)
      = closeChange prims told tx (prims.computeTxid tx)
  deriving Decidable

/-- The condition on the steps of a run. The inputs of a funding are
    those of the transaction that the node signs for the current funding outpoint, and a new funding
    is not in the chain yet. -/
def Orderly (m : Followed) : MonitorInput → Prop
  | .addBlock provider txs => Consistent prims m.state txs ∧ Ordinary prims m txs
    ∧ Tells prims told m provider txs
  | .addFundingInputs tx => prims.computeTxid tx ∈ m.state.fundingTxids
  | .replaceFundingOutpoint outpoint =>
    ∀ block ∈ m.chain, ∀ tx ∈ block.txs, prims.computeTxid tx ≠ outpoint.txid
  | _ => True

instance (m : Followed) (txs : List Transaction) : Decidable (Ordinary prims m txs) :=
  decidable_of_iff' _ (ordinary_iff prims m txs)

instance (m : Followed) : (input : MonitorInput) → Decidable (Orderly prims told m input)
  | .addBlock _ _ => inferInstanceAs (Decidable (_ ∧ _ ∧ _))
  | .addFundingInputs tx =>
    inferInstanceAs (Decidable (prims.computeTxid tx ∈ m.state.fundingTxids))
  | .replaceFundingOutpoint outpoint => inferInstanceAs (Decidable (∀ block ∈ m.chain,
      ∀ tx ∈ block.txs, prims.computeTxid tx ≠ outpoint.txid))
  | .removeBlock _ | .addFundingOutpoint _ | .addFunding _ _ | .forgetChannel => .isTrue trivial

end Vls.Monitor
