import Vls.Channel.Eras
import Vls.Channel.Toy

/-! # The tags that name a funding

Each side keeps the outpoint of the funding next to its current commitment, but writes the two at
different moments: the holder's tag with a validation and the commitment with a revocation, the
counterparty's tag with every signature and the commitment only with a new number. -/

namespace Vls

open Channel

def ValidatedFor (events : List Event) (outpoint : OutPoint) (info2 : CommitmentInfo2) : Prop :=
  ∃ commitment : HolderCommitment, .holderValidated commitment ∈ events
    ∧ commitment.view.fundingOutpoint = outpoint ∧ commitment.info2 = info2

def BuiltFor (events : List Event) (outpoint : OutPoint) (info2 : CommitmentInfo2) : Prop :=
  ∃ commitment : CounterpartyCommitment, .counterpartySigned commitment ∈ events
    ∧ commitment.view.fundingOutpoint = outpoint ∧ commitment.info2 = info2

instance (events : List Event) (outpoint : OutPoint) (info2 : CommitmentInfo2) :
    Decidable (BuiltFor events outpoint info2) :=
  decidable_of_iff (∃ commitment ∈ signedCommitments events,
    commitment.view.fundingOutpoint = outpoint ∧ commitment.info2 = info2)
    (by simp only [mem_signedCommitments, BuiltFor])

section mono

variable {earlier : List Event} {outpoint : OutPoint} {info2 : CommitmentInfo2}

theorem ValidatedFor.later (validated : ValidatedFor earlier outpoint info2)
    (events : List Event) : ValidatedFor (events ++ earlier) outpoint info2 := by
  obtain ⟨commitment, member, rest⟩ := validated
  exact ⟨commitment, List.mem_append_right events member, rest⟩

theorem BuiltFor.later (built : BuiltFor earlier outpoint info2) (events : List Event) :
    BuiltFor (events ++ earlier) outpoint info2 := by
  obtain ⟨commitment, member, rest⟩ := built
  exact ⟨commitment, List.mem_append_right events member, rest⟩

end mono

/-- While a side has a current commitment, the next number of the holder and the last number of the
    counterparty come for the funding that the tag names, and a splice window is closed only where
    no tag was written. -/
def KeepsTags (ctx : Context) (s : Locked) : ChannelInput → Prop
  | .others _ => True
  | .call env request =>
    (∀ commitment ∈ request.holderCommitment ctx env s,
      commitment.commitmentNumber = s.chan.enforcementState.nextHolderCommitNum →
      s.chan.enforcementState.currentHolderCommitInfo ≠ none →
      s.chan.enforcementState.holderCommitmentFunding = some commitment.view.fundingOutpoint)
    ∧ (∀ commitment ∈ request.counterpartyCommitment ctx env s,
      commitment.commitmentNumber + 1 = s.chan.enforcementState.nextCounterpartyCommitNum →
      s.chan.enforcementState.currentCounterpartyCommitInfo ≠ none →
      s.chan.enforcementState.counterpartyCommitmentFunding = some commitment.view.fundingOutpoint)
    ∧ (request.closesWindow s → s.chan.enforcementState.holderCommitmentFunding = none
      ∧ s.chan.enforcementState.counterpartyCommitmentFunding = none)

instance (ctx : Context) (s : Locked) : (input : ChannelInput) → Decidable (KeepsTags ctx s input)
  | .others _ | .call .. => by unfold KeepsTags; infer_instance

section step

variable {ctx : Context} {s s' : Locked} {input : ChannelInput} {events earlier : List Event}

def CheckedFor (events : List Event) (outpoint : OutPoint) (info2 : CommitmentInfo2) : Side → Prop
  | .holder => ValidatedFor events outpoint info2
  | .counterparty => BuiltFor events outpoint info2

theorem CheckedFor.later {outpoint info2 side} (checked : CheckedFor earlier outpoint info2 side)
    (events : List Event) : CheckedFor (events ++ earlier) outpoint info2 side := by
  cases side with
  | holder => exact ValidatedFor.later checked events
  | counterparty => exact BuiltFor.later checked events

/-- The tags are true of the current commitments, and the holder's of the waiting one. -/
structure TagsTrue (events : List Event) (eras : Eras) : Prop where
  current : ∀ side info2 outpoint, eras.current side = some info2 →
    eras.tag side = some outpoint → CheckedFor events outpoint info2 side
  waiting : ∀ next outpoint, eras.holder.waiting = some next →
    eras.holder.funding = some outpoint → ValidatedFor events outpoint next.1

theorem TagsTrue.step {eras'} (true : TagsTrue earlier s.chan.eras) (keeps : KeepsTags ctx s input)
    (change : EraChange ctx s input events eras') : TagsTrue (events ++ earlier) eras' := by
  have later : TagsTrue (events ++ earlier) s.chan.eras := by
    refine ⟨?_, ?_⟩
    · intro side info2 outpoint current tag
      exact (true.current side info2 outpoint current tag).later events
    · intro next outpoint waiting tag
      exact (true.waiting next outpoint waiting tag).later events
  cases change with
  | none => exact later
  | settled | revoked => exact ⟨later.current, later.waiting⟩
  | dropped => exact ⟨later.current, by rintro _ _ ⟨⟩⟩
  | promoted _ pending | reactivated _ _ pending =>
    refine ⟨?_, by rintro _ _ ⟨⟩⟩
    rintro (_ | _) info2 outpoint current tag
    · cases current
      exact later.waiting _ outpoint pending tag
    · exact later.current .counterparty info2 outpoint current tag
  | validated asked checked number =>
    refine ⟨?_, ?_⟩
    · rintro (_ | _) info2 outpoint current tag
      · have same := keeps.1 _ asked number fun absent => by cases absent.symm.trans current
        exact later.current .holder info2 outpoint current (same.trans tag)
      · exact later.current .counterparty info2 outpoint current tag
    · rintro next outpoint ⟨⟩ tag
      exact ⟨_, List.mem_cons_self, Option.some.inj tag, rfl⟩
  | signed asked checked signed =>
    refine ⟨?_, later.waiting⟩
    rintro (_ | _) info2 outpoint current tag
    · exact later.current .holder info2 outpoint current tag
    · have named := signed.tag.symm.trans tag
      rcases signed.stored with stored | ⟨stored, number⟩
      · cases stored.symm.trans current
        exact ⟨_, List.mem_cons_self, Option.some.inj named, rfl⟩
      · have kept := stored.symm.trans current
        have same := keeps.2.1 _ asked number fun absent => by cases absent.symm.trans kept
        exact later.current .counterparty info2 outpoint kept (same.trans named)
  | spliced => exact ⟨by rintro (_ | _) _ _ ⟨⟩, by rintro _ _ ⟨⟩⟩
  | locked closes =>
    obtain ⟨holder, counterparty⟩ := keeps.2.2 closes
    refine ⟨?_, later.waiting⟩
    rintro (_ | _) info2 outpoint _ tag
    · cases holder.symm.trans tag
    · cases counterparty.symm.trans tag

end step

/-- In a run that keeps the tags true, each side's tag names the funding that the current
    commitment beside it was validated for. -/
theorem funding_tags_true {ctx : Context} (strict : ctx.validator.Strict) {start s : Locked}
    {history : List ChannelStep} (fresh : Fresh start)
    (run : (channelMachine ctx).Run start history s)
    (keeps : Machine.Meets (fun _ => KeepsTags ctx) history) (outpoint : OutPoint)
    (info2 : CommitmentInfo2) :
    (s.chan.enforcementState.currentHolderCommitInfo = some info2 →
      s.chan.enforcementState.holderCommitmentFunding = some outpoint →
      ValidatedFor (trace ctx history) outpoint info2)
    ∧ (s.chan.enforcementState.currentCounterpartyCommitInfo = some info2 →
      s.chan.enforcementState.counterpartyCommitmentFunding = some outpoint →
      BuiltFor (trace ctx history) outpoint info2) := by
  have kept : TagsTrue (trace ctx history) s.chan.eras := by
    refine run_inv strict (fun _ => KeepsTags ctx) (fun events s => TagsTrue events s.chan.eras)
      run keeps ?_ ?_
    · rw [fresh.eras]
      exact ⟨by rintro (_ | _) _ _ ⟨⟩, by rintro _ _ ⟨⟩⟩
    · intro earlier s input events s' kept keeps effect
      exact kept.step keeps (era_change strict effect)
  exact ⟨kept.current .holder info2 outpoint, kept.current .counterparty info2 outpoint⟩

theorem tags_of_first_commitments :
    ∃ history s info2 info2', (channelMachine Toy.ctx).Run Toy.start history s
      ∧ s.chan.enforcementState.currentHolderCommitInfo = some info2
      ∧ ValidatedFor (trace Toy.ctx history) Toy.setup.fundingOutpoint info2
      ∧ s.chan.enforcementState.currentCounterpartyCommitInfo = some info2'
      ∧ BuiltFor (trace Toy.ctx history) Toy.setup.fundingOutpoint info2' := by
  obtain ⟨history, s, run, keeps, holder, tag, counterparty, tag'⟩ :
      ∃ history s, (channelMachine Toy.ctx).Run Toy.start history s
        ∧ Machine.Meets (fun _ => KeepsTags Toy.ctx) history
        ∧ s.chan.enforcementState.currentHolderCommitInfo.isSome
        ∧ s.chan.enforcementState.holderCommitmentFunding = some Toy.setup.fundingOutpoint
        ∧ s.chan.enforcementState.currentCounterpartyCommitInfo.isSome
        ∧ s.chan.enforcementState.counterpartyCommitmentFunding = some Toy.setup.fundingOutpoint :=
    Machine.exists_run [Toy.validateHolder Toy.setup 0, Toy.activate,
      Toy.signCounterparty Toy.setup 21 0 999000] (by decide +kernel)
  obtain ⟨info2, current⟩ := Option.isSome_iff_exists.mp holder
  obtain ⟨info2', current'⟩ := Option.isSome_iff_exists.mp counterparty
  have validated := (funding_tags_true Toy.strict Toy.fresh run keeps _ _).1 current tag
  have built := (funding_tags_true Toy.strict Toy.fresh run keeps _ _).2 current' tag'
  exact ⟨history, s, info2, info2', run, current, validated, current', built⟩

/-- Signing the last number once more for the retiring funding moves the tag there, and leaves the
    commitment of the new funding beside it. -/
theorem tag_moved_by_repeated_number :
    ∃ history s, (channelMachine Toy.ctx).Run Toy.start history s
      ∧ s.chan.enforcementState.counterpartyCommitmentFunding = some Toy.setup.fundingOutpoint
      ∧ ∃ info2 ∈ s.chan.enforcementState.currentCounterpartyCommitInfo,
        ¬ BuiltFor (trace Toy.ctx history) Toy.setup.fundingOutpoint info2
          ∧ BuiltFor (trace Toy.ctx history) Toy.splicedSetup.fundingOutpoint info2 :=
  Machine.exists_run [Toy.signCounterparty Toy.setup 21 0 997000, Toy.splice,
    Toy.signCounterparty Toy.splicedSetup 22 1 999000, Toy.signCounterparty Toy.setup 22 1 998000]
    (by decide +kernel)

end Vls
