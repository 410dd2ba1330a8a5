import Vls.Lib.Machine
import Vls.Monitor.Returned

/-! # Runs of a monitor

A monitor is created for a channel on top of a chain. It is told of the funding, and it follows the
chain as blocks are added to its tip and removed from it. A block that is removed is the one at the
tip, with the transactions with which it was added. -/

namespace Vls.Monitor

structure Block where
  txs : List Transaction

/-- A monitor, the chain it has followed, the tip first, and the transactions that it was told are
    the funding of the channel, now or before. -/
structure Followed where
  chain : List Block
  fundings : List (BitVec 256)
  state : State

inductive MonitorInput where
  | addBlock (provider : CommitmentPointProvider) (txs : List Transaction)
  | removeBlock (provider : CommitmentPointProvider)
  | addFundingOutpoint (outpoint : OutPoint)
  | addFundingInputs (tx : Transaction)
  | addFunding (tx : Transaction) (vout : U32)
  | replaceFundingOutpoint (outpoint : OutPoint)
  | forgetChannel

def machine (prims : Primitives) : Machine Followed MonitorInput Watch where
  step m input :=
    match input with
    | .addBlock provider txs =>
      (m.state.onAddBlock prims provider txs).toOption.map fun (state, watch) =>
        (watch, { m with chain := ⟨txs⟩ :: m.chain, state := state })
    | .removeBlock provider =>
      match m.chain with
      | [] => none
      | block :: below =>
        (m.state.onRemoveBlock prims provider block.txs).toOption.map fun (state, watch) =>
          (watch, { m with chain := below, state := state })
    | .addFundingOutpoint outpoint =>
      (m.state.addFundingOutpoint outpoint).toOption.map fun state =>
        (.none, { m with fundings := outpoint.txid :: m.fundings, state := state })
    | .addFundingInputs tx => some (.none, { m with state := m.state.addFundingInputs tx })
    | .addFunding tx vout =>
      (m.state.addFunding prims tx vout).toOption.map fun state =>
        (.none, { m with fundings := prims.computeTxid tx :: m.fundings, state := state })
    | .replaceFundingOutpoint outpoint =>
      some (.none, { m with
        fundings := outpoint.txid :: m.fundings
        state := m.state.replaceFundingOutpoint outpoint })
    | .forgetChannel => some (.none, { m with state := m.state.forgetChannel })

def Followed.blockAt (m : Followed) (k : Nat) : Option Block :=
  if k ≤ m.state.height then m.chain[m.state.height - k]? else none

inductive Next (prims : Primitives) : Followed → MonitorInput → Followed → Prop where
  | added {m provider txs} (watch : Watch) {s'} :
      m.state.onAddBlock prims provider txs = .ok (s', watch) →
      Next prims m (.addBlock provider txs)
        { m with chain := ⟨txs⟩ :: m.chain, state := s' }
  | removed {block below fundings s provider} (watch : Watch) {s'} :
      s.onRemoveBlock prims provider block.txs = .ok (s', watch) →
      Next prims ⟨block :: below, fundings, s⟩ (.removeBlock provider) ⟨below, fundings, s'⟩
  | funded {m outpoint} : m.state.fundingTxids = [] → m.state.fundingVouts = [] →
      Next prims m (.addFundingOutpoint outpoint) { m with
        fundings := outpoint.txid :: m.fundings
        state := { m.state with
          fundingTxids := [outpoint.txid], fundingVouts := [outpoint.vout] } }
  | inputs {m tx} :
      Next prims m (.addFundingInputs tx) { m with state := m.state.addFundingInputs tx }
  | fundedWith {m tx vout} : m.state.fundingTxids = [] → m.state.fundingVouts = [] →
      Next prims m (.addFunding tx vout) { m with
        fundings := prims.computeTxid tx :: m.fundings
        state := ({ m.state with
          fundingTxids := [prims.computeTxid tx], fundingVouts := [vout] } : State).addFundingInputs
            tx }
  | replaced {m outpoint} :
      Next prims m (.replaceFundingOutpoint outpoint) { m with
        fundings := outpoint.txid :: m.fundings
        state := m.state.replaceFundingOutpoint outpoint }
  | forgotten {m} : Next prims m .forgetChannel { m with state := m.state.forgetChannel }

variable {prims : Primitives} {m m' : Followed} {s s' : State} {block : Block} {k : Nat}

theorem addFundingOutpoint_ok {o} (funded : s.addFundingOutpoint o = .ok s') :
    s.fundingTxids = [] ∧ s.fundingVouts = []
      ∧ s' = { s with fundingTxids := [o.txid], fundingVouts := [o.vout] } := by
  unfold State.addFundingOutpoint at funded
  split at funded
  · cases funded
  · rename_i unfunded
    have txids : s.fundingTxids = [] := by simpa using unfunded
    split at funded
    · cases funded
    · rename_i lengths
      have vouts : s.fundingVouts = [] := by
        have lengths : 0 = s.fundingVouts.length := by simpa [txids] using lengths
        exact List.eq_nil_of_length_eq_zero lengths.symm
      cases funded
      exact ⟨txids, vouts, by simp [txids, vouts]⟩

theorem next_of_step {input w} (stepped : (machine prims).step m input = some (w, m')) :
    Next prims m input m' := by
  cases input with
  | addBlock provider txs =>
    obtain ⟨⟨s', watch⟩, added, same⟩ := Option.map_eq_some_iff.mp stepped
    cases same
    exact .added _ (Result.toOption_eq_some.mp added)
  | removeBlock provider =>
    obtain ⟨chain, fundings, s⟩ := m
    cases chain with
    | nil => cases stepped
    | cons block below =>
      obtain ⟨⟨s', watch⟩, removed, same⟩ := Option.map_eq_some_iff.mp stepped
      cases same
      exact .removed _ (Result.toOption_eq_some.mp removed)
  | addFundingOutpoint outpoint =>
    obtain ⟨s', funded, same⟩ := Option.map_eq_some_iff.mp stepped
    obtain ⟨txids, vouts, rfl⟩ := addFundingOutpoint_ok (Result.toOption_eq_some.mp funded)
    cases same
    exact .funded txids vouts
  | addFundingInputs tx =>
    cases stepped
    exact .inputs
  | addFunding tx vout =>
    obtain ⟨s', funded, same⟩ := Option.map_eq_some_iff.mp stepped
    obtain ⟨s₁, funded, inputs⟩ := Result.bind_eq_ok.mp (Result.toOption_eq_some.mp funded)
    obtain ⟨txids, vouts, rfl⟩ := addFundingOutpoint_ok funded
    cases inputs
    cases same
    exact .fundedWith txids vouts
  | replaceFundingOutpoint outpoint =>
    cases stepped
    exact .replaced
  | forgetChannel =>
    cases stepped
    exact .forgotten

theorem blockAt_le (found : m.blockAt k = some block) : k ≤ m.state.height := by
  unfold Followed.blockAt at found
  split at found
  · assumption
  · cases found

theorem blockAt_added (height : s'.height = m.state.height + 1) (below : k ≤ m.state.height) :
    ({ m with chain := block :: m.chain, state := s' } : Followed).blockAt k = m.blockAt k := by
  have above : m.state.height + 1 - k = m.state.height - k + 1 := by omega
  simp [Followed.blockAt, height, below, Nat.le_succ_of_le below, above]

theorem blockAt_new (height : s'.height = m.state.height + 1) :
    ({ m with chain := block :: m.chain, state := s' } : Followed).blockAt (m.state.height + 1)
      = some block := by
  simp [Followed.blockAt, height]

theorem blockAt_removed {below fundings} (height : s'.height = s.height - 1)
    (lower : k < s.height) :
    (⟨below, fundings, s'⟩ : Followed).blockAt k
      = (⟨block :: below, fundings, s⟩ : Followed).blockAt k := by
  have above : s.height - k = s.height - 1 - k + 1 := by omega
  have here : k ≤ s.height - 1 := by omega
  simp [Followed.blockAt, height, if_pos here, if_pos (Nat.le_of_lt lower), above]

theorem blockAt_tip {below fundings} :
    (⟨block :: below, fundings, s⟩ : Followed).blockAt s.height = some block := by
  simp [Followed.blockAt]

end Vls.Monitor
