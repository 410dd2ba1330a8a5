import Vls.Channel.MutualClose
import Vls.Channel.Panics
import Vls.Channel.Toy

/-! # Reading a mutual close

The outputs of a mutual close do not say whom they pay. The likely reading is tried first and then
the other. Since a closing transaction does not depend on which side is which, it does not matter
which of them is rebuilt. -/

namespace Vls

/-- A closing transaction is the same if the sides are exchanged: its outputs are sorted. -/
def Primitives.ClosesAlike (prims : Primitives) : Prop :=
  ∀ value value' script script' outpoint,
    prims.buildClosingTransaction value value' script script' outpoint
      = prims.buildClosingTransaction value' value script' script outpoint

/-- The ways to give each output to one of the sides, with no more than one for each. -/
def assignments : List TxOut → List DerivationPath → List ValidateArgs
  | [], [] => [⟨0, 0, none, none, []⟩]
  | [out], [path] =>
    [⟨out.value, 0, some out.scriptPubkey, none, path⟩,
      ⟨0, out.value, none, some out.scriptPubkey, []⟩]
  | [out, out'], [path, path'] =>
    [⟨out.value, out'.value, some out.scriptPubkey, some out'.scriptPubkey, path⟩,
      ⟨out'.value, out.value, some out'.scriptPubkey, some out.scriptPubkey, path'⟩]
  | _, _ => []

namespace SimplePolicy

section

variable (policy : SimplePolicy) (prims : Primitives) (wallet : Wallet) (setup : ChannelSetup)
  (estate : EnforcementState) (tx : Transaction) (paths : List DerivationPath)

/-- Decoding is total, and accepts what some assignment of the outputs accounts for. -/
structure Decodes : Prop where
  total : Result.NeverPanics
    (policy.decodeAndValidateMutualCloseTx prims wallet setup estate tx paths)
  complete : (∃ closingTx,
      policy.decodeAndValidateMutualCloseTx prims wallet setup estate tx paths = .ok closingTx)
    ↔ ∃ args ∈ assignments tx.output paths,
      policy.validateMutualCloseTx prims wallet setup estate args = .ok ()
        ∧ (args.closingTransaction prims setup).built = tx

/-- A transaction without outputs is refused for another reason, and where one that is not as
    expected is let pass, it is as expected anyway. -/
structure Decodable : Prop where
  outputs : tx.output = [] → policy.filter.filter "policy-mutual-other" ≠ .warn
    ∧ (estate.currentHolderCommitInfo = none ∨ estate.currentCounterpartyCommitInfo = none)
  recomposed : policy.filter.filter "policy-onchain-format-standard" = .warn →
    ∀ args ∈ assignments tx.output paths,
      policy.validateMutualCloseTx prims wallet setup estate args = .ok () →
        (args.closingTransaction prims setup).built = tx

end

variable {policy : SimplePolicy} {prims : Primitives} {wallet : Wallet} {setup : ChannelSetup}
  {estate : EnforcementState} {tx : Transaction} {paths : List DerivationPath}
  {args likely unlikely : ValidateArgs}

theorem validateMutualCloseTx_avoids :
    Result.NeverPanics (policy.validateMutualCloseTx prims wallet setup estate args) := by
  simp only [validateMutualCloseTx, validateMutualValue, validateFee, Result.avoids_bind,
    Result.avoids_okOr, Result.avoids_mapErr, Result.avoids_ite, PolicyFilter.refuseIf_avoids,
    implies_true, true_and]
  intros
  cases args.holderScript with
  | none => simp
  | some script => cases spend : wallet.canSpend args.walletPath script <;> simp [spend]

theorem infos_of_validated
    (ok : policy.validateMutualCloseTx prims wallet setup estate args = .ok ()) :
    estate.currentHolderCommitInfo ≠ none ∧ estate.currentCounterpartyCommitInfo ≠ none := by
  simp only [validateMutualCloseTx, Result.bind_eq_ok, Result.okOr_eq_ok] at ok
  obtain ⟨_, holder, _, counterparty, _⟩ := ok
  simp [holder, counterparty]

theorem mutualCloseReadings_ok (alike : prims.ClosesAlike)
    (matching : paths.length = tx.output.length) (some : tx.output ≠ [])
    (few : ¬ tx.output.length > 2) :
    ∃ likely unlikely, policy.mutualCloseReadings estate tx paths = .ok (likely, unlikely)
      ∧ (∀ args, args ∈ assignments tx.output paths ↔ args = likely ∨ args = unlikely)
      ∧ (unlikely.closingTransaction prims setup).built
        = (likely.closingTransaction prims setup).built := by
  have read : ∃ first second, assignments tx.output paths = [first, second]
      ∧ (first.closingTransaction prims setup).built = (second.closingTransaction prims setup).built
      ∧ (policy.mutualCloseReadings estate tx paths = .ok (first, second)
        ∨ policy.mutualCloseReadings estate tx paths = .ok (second, first)) := by
    rcases outputs : tx.output with _ | ⟨out, _ | ⟨out', _ | ⟨_, _⟩⟩⟩
    · exact absurd outputs some
    all_goals rw [outputs] at matching few
    · obtain ⟨path, rfl⟩ := List.length_eq_one_iff.mp matching
      refine ⟨_, _, rfl, alike .., ?_⟩
      cases larger : estate.holderValueIsLarger policy.epsilonSat <;>
        simp [mutualCloseReadings, outputs, Result.expect, larger, bind, Except.bind]
    · obtain ⟨path, path', rfl⟩ := List.length_eq_two.mp matching
      refine ⟨_, _, rfl, alike .., ?_⟩
      cases larger : estate.holderValueIsLarger policy.epsilonSat <;>
        simp [mutualCloseReadings, outputs, Result.expect, larger, bind, Except.bind]
    · simp at few
  obtain ⟨first, second, all, same, read | read⟩ := read
  · exact ⟨first, second, read, by simp [all], same.symm⟩
  · exact ⟨second, first, read, by simp [all, or_comm], same⟩

theorem decode_of_readings (few : ¬ tx.output.length > 2)
    (matching : paths.length = tx.output.length)
    (read : policy.mutualCloseReadings estate tx paths = .ok (likely, unlikely))
    (same : (unlikely.closingTransaction prims setup).built
      = (likely.closingTransaction prims setup).built) :
    Result.NeverPanics (policy.decodeAndValidateMutualCloseTx prims wallet setup estate tx paths)
      ∧ ((∃ closingTx,
          policy.decodeAndValidateMutualCloseTx prims wallet setup estate tx paths = .ok closingTx)
        ↔ (policy.validateMutualCloseTx prims wallet setup estate likely = .ok ()
            ∨ policy.validateMutualCloseTx prims wallet setup estate unlikely = .ok ())
          ∧ policy.filter.Passes "policy-onchain-format-standard"
            ((likely.closingTransaction prims setup).built ≠ tx)) := by
  simp only [decodeAndValidateMutualCloseTx, if_neg few, matching, ne_eq, not_true, if_false, read,
    Result.avoids_bind, PolicyFilter.refuseIf_avoids, Result.bind_eq_ok,
    PolicyFilter.refuseIf_passes, Except.ok.injEq]
  have total := @validateMutualCloseTx_avoids policy prims wallet setup estate
  cases first : policy.validateMutualCloseTx prims wallet setup estate likely with
  | ok _ =>
    have infos := infos_of_validated first
    simp [passingReading, first, infos, PolicyFilter.Passes]
  | error fault =>
    cases fault with
    | panic message => exact absurd first (total message trivial)
    | err error =>
      cases second : policy.validateMutualCloseTx prims wallet setup estate unlikely with
      | ok _ =>
        have infos := infos_of_validated second
        simp [passingReading, first, second, infos, same, PolicyFilter.Passes]
      | error fault =>
        cases fault with
        | panic message => exact absurd second (total message trivial)
        | err _ => simp [passingReading, first, second]

/-- A transaction without outputs is not read, so that it is a panic unless it is refused before. -/
theorem decode_of_none (none : tx.output = []) (matching : paths.length = tx.output.length) :
    (Result.NeverPanics (policy.decodeAndValidateMutualCloseTx prims wallet setup estate tx paths)
        ↔ policy.filter.filter "policy-mutual-other" ≠ .warn
          ∧ (estate.currentHolderCommitInfo = .none ∨ estate.currentCounterpartyCommitInfo = .none))
      ∧ ∀ closingTx,
        policy.decodeAndValidateMutualCloseTx prims wallet setup estate tx paths
          ≠ .ok closingTx := by
  simp only [decodeAndValidateMutualCloseTx, mutualCloseReadings, none, matching]
  by_cases minds : policy.filter.filter "policy-mutual-other" = .warn <;>
    cases estate.currentHolderCommitInfo <;> cases estate.currentCounterpartyCommitInfo <;>
      simp [minds, Result.expect, PolicyFilter.refuseIf_passes, PolicyFilter.Passes,
        Result.bind_eq_ok]

/-- Decoding is total and complete exactly if the transaction is decodable. -/
theorem decodes_iff (alike : prims.ClosesAlike) (matching : paths.length = tx.output.length) :
    Decodes policy prims wallet setup estate tx paths
      ↔ Decodable policy prims wallet setup estate tx paths := by
  by_cases many : tx.output.length > 2
  · have nothing : assignments tx.output paths = [] := by
      unfold assignments
      split <;> simp_all
    refine iff_of_true ⟨?_, ?_⟩ ⟨?_, ?_⟩
    · simp [decodeAndValidateMutualCloseTx, many]
    · simp [decodeAndValidateMutualCloseTx, many, nothing]
    · intro none
      simp [none] at many
    · simp [nothing]
  by_cases none : tx.output = []
  · have decoded := @decode_of_none policy prims wallet setup estate tx paths none matching
    constructor
    · intro decodes
      have outputs := decoded.1.mp decodes.total
      refine ⟨fun _ => outputs, fun _ args _ ok => ?_⟩
      have infos := infos_of_validated ok
      simp_all
    · intro decodable
      have outputs := decodable.outputs none
      refine ⟨decoded.1.mpr outputs, iff_of_false (by simp [decoded.2]) ?_⟩
      rintro ⟨args, _, ok, _⟩
      have infos := infos_of_validated ok
      simp_all
  · obtain ⟨likely, unlikely, read, all, same⟩ :=
      @mutualCloseReadings_ok policy prims setup estate tx paths alike matching none many
    have decoded := @decode_of_readings policy prims wallet setup estate tx paths likely unlikely
      many matching read same
    constructor
    · intro decodes
      have complete := decoded.2.symm.trans decodes.complete
      refine ⟨fun empty => absurd empty none, ?_⟩
      grind [PolicyFilter.Passes]
    · intro decodable
      have recomposed := decodable.recomposed
      refine ⟨decoded.1, decoded.2.trans ?_⟩
      grind [PolicyFilter.Passes]

end SimplePolicy

namespace Toy

/-- The lower value comes first. -/
def sortingPrims : Primitives :=
  { prims with
    buildClosingTransaction value value' _ _ funding :=
      let values := if value ≤ value' then [value, value'] else [value', value]
      ⟨2, 0, [⟨funding, [], 0xffffffff, []⟩], values.map fun value => ⟨value, []⟩⟩ }

theorem sortingPrims_closesAlike : sortingPrims.ClosesAlike := by
  intro value value' script script' outpoint
  simp only [sortingPrims]
  grind

/-- Each side has half of the channel. -/
def halves : EnforcementState :=
  { chan.enforcementState with
    currentHolderCommitInfo := some (.new false 499000 500000 [] [] 1000)
    currentCounterpartyCommitInfo := some (.new true 499000 500000 [] [] 1000) }

def closeOf (output : List TxOut) : Transaction := ⟨2, 0, [⟨⟨1, 0⟩, [], 0xffffffff, []⟩], output⟩

theorem twoOutputs_decoded : SimplePolicy.Decodes ctx.validator.policy sortingPrims env.wallet setup
    halves (closeOf [⟨499000, []⟩, ⟨500000, []⟩]) [[], []] :=
  (SimplePolicy.decodes_iff sortingPrims_closesAlike rfl).mpr ⟨by decide, by decide⟩

theorem noOutputs_panics : ¬ SimplePolicy.Decodes ctx.validator.policy sortingPrims env.wallet setup
    halves (closeOf []) [] := by
  intro decodes
  exact decodes.total "index out of bounds" trivial rfl

end Toy

end Vls
