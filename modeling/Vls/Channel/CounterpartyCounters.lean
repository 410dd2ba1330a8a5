import Vls.Channel.Eras
import Vls.Channel.Toy
import Vls.Lib.RevocableChain

/-! # The counters of the counterparty's commitments

One counter runs ahead with the commitments signed for the counterparty, the other follows with
those it revoked. They move as the counts of a revocation window do, through every splice. -/

namespace Vls

open Channel RevocationWindow Relation EnforcementState

def windowOf (side : CounterpartySide) : RevocationWindow where
  signed := side.nextCounterpartyCommitNum.toNat
  revoked := side.nextCounterpartyRevokeNum.toNat

section counters

variable {side side' : CounterpartySide}

theorem windowOf_signed (narrow : (windowOf side).Narrow) {commitment}
    (reach : ¬ commitment.commitmentNumber > side.nextCounterpartyRevokeNum + 1)
    (signed : Signed side commitment side') :
    ReflGen Move (windowOf side) (windowOf side')
      ∧ side.nextCounterpartyRevokeNum.toNat ≤ commitment.commitmentNumber.toNat := by
  obtain ⟨nonzero, commitNum, revokeNum, _, _, signing⟩ := signed
  simp only [Narrow, windowOf] at narrow
  have again : commitment.commitmentNumber + 1 = side.nextCounterpartyCommitNum →
      ReflGen Move (windowOf side) (windowOf side')
        ∧ side.nextCounterpartyRevokeNum.toNat ≤ commitment.commitmentNumber.toNat := by
    intro number
    have same : windowOf side' = windowOf side := by
      simp only [windowOf, commitNum.trans number, revokeNum]
    exact ⟨same ▸ .refl, by bv_omega⟩
  cases signing with
  | next number =>
    have moved : windowOf side'
        = { windowOf side with signed := (windowOf side).signed + 1 } := by
      simp only [windowOf, commitNum, revokeNum, RevocationWindow.mk.injEq, and_true]
      bv_omega
    rw [moved]
    refine ⟨.single (.sign ?_), ?_⟩
    · simp only [windowOf]
      bv_omega
    · bv_omega
  | again number => exact again number
  | againAtTop number => exact again number

theorem windowOf_revoked (narrow : (windowOf side).Narrow) {num}
    (revokeNum : side'.nextCounterpartyRevokeNum = num)
    (commitNum : side'.nextCounterpartyCommitNum = side.nextCounterpartyCommitNum)
    (next : num = side.nextCounterpartyRevokeNum + 1) (nonzero : num ≠ 0)
    (notBelow : ¬ num + 2 < side.nextCounterpartyCommitNum)
    (notAbove : ¬ num + 1 > side.nextCounterpartyCommitNum) :
    Move (windowOf side) (windowOf side') := by
  simp only [Narrow, windowOf] at narrow
  have moved : num.toNat = (windowOf side).revoked + 1 := by
    simp only [windowOf, next]
    bv_omega
  simp only [windowOf, revokeNum, commitNum, moved]
  refine .revoke ?_
  dsimp only
  bv_omega

end counters

/-- Every step moves the window by one or not at all, and signs nothing that was given up. -/
theorem windowOf_step {ctx} (strict : ctx.validator.Strict) {s input events eras'}
    (narrow : (windowOf s.chan.eras.counterparty).Narrow)
    (change : EraChange ctx s input events eras') :
    ReflGen Move (windowOf s.chan.eras.counterparty) (windowOf eras'.counterparty)
      ∧ ∀ commitment, .counterpartySigned commitment ∈ events →
        s.chan.enforcementState.nextCounterpartyRevokeNum.toNat
          ≤ commitment.commitmentNumber.toNat := by
  cases change with
  | signed asked checked signed =>
    rename_i commitment
    obtain ⟨reach, _⟩ :=
      Validator.validateCounterpartyCommitmentTx_ok strict checked.validated
    obtain ⟨move, notBelow⟩ := windowOf_signed narrow reach signed
    refine ⟨move, ?_⟩
    intro other member
    cases List.mem_singleton.mp member
    exact notBelow
  | revoked validated stored counter quiet =>
    refine ⟨?_, by simp [← mem_signedCommitments, quiet.1]⟩
    rcases counter with rfl | ⟨next, -, nonzero, notBelow, notAbove⟩
    · exact .refl
    · exact .single (windowOf_revoked narrow rfl rfl next nonzero notBelow notAbove)
  | none quiet | promoted _ _ quiet =>
    exact ⟨.refl, by simp [← mem_signedCommitments, quiet.1]⟩
  | _ => exact ⟨.refl, by simp⟩

section run

variable {ctx : Context} {start s s' : Locked} {history later : List ChannelStep}

theorem narrow_of_fresh (fresh : Fresh start) : (windowOf start.chan.eras.counterparty).Narrow := by
  rw [fresh.eras]
  exact .inl ⟨rfl, rfl⟩

theorem Narrow.steps {window window'} (narrow : window.Narrow)
    (steps : ReflGen Move window window') :
    window'.Narrow ∧ window.signed ≤ window'.signed ∧ window'.signed ≤ window.signed + 1
      ∧ window.revoked ≤ window'.revoked ∧ window'.revoked ≤ window.revoked + 1 := by
  cases steps with
  | refl => exact ⟨narrow, by omega, by omega, by omega, by omega⟩
  | single move => exact ⟨narrow.move move, move.progress⟩

/-- What was given up stays so: a run never signs a number below the counter it started from. -/
theorem run_signs_above (strict : ctx.validator.Strict)
    (narrow : (windowOf s.chan.eras.counterparty).Narrow)
    (run : (channelMachine ctx).Run s later s') :
    (windowOf s'.chan.eras.counterparty).Narrow
      ∧ s.chan.enforcementState.nextCounterpartyRevokeNum.toNat
        ≤ s'.chan.enforcementState.nextCounterpartyRevokeNum.toNat
      ∧ ∀ commitment, .counterpartySigned commitment ∈ trace ctx later →
        s.chan.enforcementState.nextCounterpartyRevokeNum.toNat
          ≤ commitment.commitmentNumber.toNat := by
  refine run_always strict (fun events s' => (windowOf s'.chan.eras.counterparty).Narrow
    ∧ s.chan.enforcementState.nextCounterpartyRevokeNum.toNat
      ≤ s'.chan.enforcementState.nextCounterpartyRevokeNum.toNat
    ∧ ∀ commitment, .counterpartySigned commitment ∈ events →
      s.chan.enforcementState.nextCounterpartyRevokeNum.toNat
        ≤ commitment.commitmentNumber.toNat)
    run ⟨narrow, le_refl _, by simp⟩ ?_
  intro earlier t input events t' ⟨narrow, above, signed⟩ effect
  obtain ⟨steps, here⟩ := windowOf_step strict narrow (era_change strict effect)
  obtain ⟨narrow', _, _, progress, _⟩ := Narrow.steps narrow steps
  refine ⟨narrow', above.trans progress, ?_⟩
  intro commitment member
  rcases List.mem_append.mp member with now | before
  · exact above.trans (here commitment now)
  · exact signed commitment before

/-- The counters of a channel in any state it can get into: they are ordered, they move on by at
    most one at a time and never back, and no number that was given up is signed from then on. -/
theorem counterparty_counters_ordered (strict : ctx.validator.Strict) (fresh : Fresh start)
    (run : (channelMachine ctx).Run start history s) :
    ((s.chan.enforcementState.nextCounterpartyCommitNum = 0 →
        s.chan.enforcementState.nextCounterpartyRevokeNum = 0)
      ∧ (s.chan.enforcementState.nextCounterpartyCommitNum ≠ 0 →
        s.chan.enforcementState.nextCounterpartyRevokeNum.toNat + 1
            ≤ s.chan.enforcementState.nextCounterpartyCommitNum.toNat
          ∧ s.chan.enforcementState.nextCounterpartyCommitNum.toNat
            ≤ s.chan.enforcementState.nextCounterpartyRevokeNum.toNat + 2))
      ∧ (∀ input output s', (channelMachine ctx).step s input = some (output, s') →
        s.chan.enforcementState.nextCounterpartyCommitNum.toNat
            ≤ s'.chan.enforcementState.nextCounterpartyCommitNum.toNat
          ∧ s'.chan.enforcementState.nextCounterpartyCommitNum.toNat
            ≤ s.chan.enforcementState.nextCounterpartyCommitNum.toNat + 1
          ∧ s.chan.enforcementState.nextCounterpartyRevokeNum.toNat
            ≤ s'.chan.enforcementState.nextCounterpartyRevokeNum.toNat
          ∧ s'.chan.enforcementState.nextCounterpartyRevokeNum.toNat
            ≤ s.chan.enforcementState.nextCounterpartyRevokeNum.toNat + 1)
      ∧ ∀ later s', (channelMachine ctx).Run s later s' →
        ∀ commitment, .counterpartySigned commitment ∈ trace ctx later →
          s.chan.enforcementState.nextCounterpartyRevokeNum.toNat
            ≤ commitment.commitmentNumber.toNat := by
  obtain ⟨narrow, _, _⟩ := run_signs_above strict (narrow_of_fresh fresh) run
  refine ⟨?_, ?_, ?_⟩
  · simp only [Narrow, windowOf, eras, counterpartySide] at narrow
    constructor
    · bv_omega
    · bv_omega
  · intro input output s' stepped
    have change := era_change strict (step_effect strict stepped)
    obtain ⟨steps, _⟩ := windowOf_step strict narrow change
    exact (Narrow.steps narrow steps).2
  · intro later s' run
    exact (run_signs_above strict narrow run).2.2

end run

def signTwiceThenRevoke : List ChannelInput :=
  [Toy.signCounterparty Toy.setup 21 0 999000, Toy.signCounterparty Toy.setup 22 1 999000,
    .call Toy.env (.validateCounterpartyRevocation 0 ⟨21⟩)]

theorem counters_after_revocation :
    ∃ history s, (channelMachine Toy.ctx).Run Toy.start history s
      ∧ s.chan.enforcementState.nextCounterpartyCommitNum = 2
      ∧ s.chan.enforcementState.nextCounterpartyRevokeNum = 1
      ∧ ∀ later s', (channelMachine Toy.ctx).Run s later s' →
        ∀ commitment, .counterpartySigned commitment ∈ trace Toy.ctx later →
          1 ≤ commitment.commitmentNumber.toNat := by
  obtain ⟨history, s, run, signed, revoked⟩ :
      ∃ history s, (channelMachine Toy.ctx).Run Toy.start history s
        ∧ s.chan.enforcementState.nextCounterpartyCommitNum = 2
        ∧ s.chan.enforcementState.nextCounterpartyRevokeNum = 1 :=
    Machine.exists_run signTwiceThenRevoke (by decide +kernel)
  have ordered := counterparty_counters_ordered Toy.strict Toy.fresh run
  rw [revoked] at ordered
  exact ⟨history, s, run, signed, revoked, ordered.2.2⟩

end Vls
