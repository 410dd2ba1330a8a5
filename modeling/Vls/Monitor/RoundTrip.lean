import Vls.Monitor.Toy

/-! # Runs in which every block can be taken back

In a run whose blocks are consistent with what the monitor has on record, and read back, a further
such block that is reversible can be added and removed again, and the monitor is as it was. -/

namespace Vls.Monitor

open StateChange State

variable {prims : Primitives} {provider : CommitmentPointProvider} {s t : State}
  {c : StateChange} {changes : List StateChange} {txs : List Transaction} {m m' : Followed}
  {k : Nat}

theorem closing_of_swept (new : c.New s) (swept : s.isClosingSwept) :
    (c.forward t).closingOutpoints = t.closingOutpoints := by
  cases c with
  | fundingConfirmed | fundingInputSpent | mutualCloseConfirmed => rfl
  | unilateralCloseConfirmed => simp [isClosingSwept, new.2] at swept
  | ourOutputSpent vout =>
    obtain ⟨o, found, unspent⟩ := new
    simp [isClosingSwept, Option.mem_def.mp found, ClosingOutpoints.isAllSpent, unspent]
      at swept
  | htlcOutputSpent vout second =>
    obtain ⟨o, found, unspent, -⟩ := new
    simp [isClosingSwept, Option.mem_def.mp found, ClosingOutpoints.isAllSpent,
      Marked.allMarked_of_unmarked unspent] at swept
  | secondLevelHtlcOutputSpent outpoint =>
    obtain ⟨o, found, unspent⟩ := new
    simp [isClosingSwept, Option.mem_def.mp found, ClosingOutpoints.isAllSpent,
      Marked.allMarked_of_unmarked unspent] at swept

theorem closing_forwards_of_swept (new : ∀ c ∈ changes, c.New s) (swept : s.isClosingSwept) :
    (forwards changes t).closingOutpoints = t.closingOutpoints := by
  apply Undo.all_inv (fun t' : State => t'.closingOutpoints = t.closingOutpoints) rfl
  intro c member t' same
  exact (closing_of_swept (new c member) swept).trans same

theorem ourOutput_of_swept (new : c.New s) (swept : s.isOurOutputSwept)
    (here : t.isOurOutputSwept) : (c.forward t).isOurOutputSwept := by
  cases c with
  | fundingConfirmed | fundingInputSpent | mutualCloseConfirmed => exact here
  | unilateralCloseConfirmed => simp [isOurOutputSwept, new.2] at swept
  | ourOutputSpent vout =>
    obtain ⟨o, found, unspent⟩ := new
    simp [isOurOutputSwept, Option.mem_def.mp found, unspent] at swept
  | htlcOutputSpent | secondLevelHtlcOutputSpent =>
    cases closing : t.closingOutpoints with
    | none => simp [isOurOutputSwept, closing] at here
    | some o => simpa [isOurOutputSwept, forward, closing, spend] using here

theorem ourOutput_forwards_of_swept (new : ∀ c ∈ changes, c.New s) (swept : s.isOurOutputSwept)
    (here : t.isOurOutputSwept) : (forwards changes t).isOurOutputSwept := by
  apply Undo.all_inv (fun t' : State => t'.isOurOutputSwept) here
  intro c member t' here
  exact ourOutput_of_swept (new c member) swept here

theorem doubleSpent_forwards (recorded : (forwards changes s).fundingDoubleSpentHeight = some k) :
    s.fundingDoubleSpentHeight = some k ∨ k = s.height ∧ ∃ o, fundingInputSpent o ∈ changes := by
  have traced : (forwards changes s).height = s.height
      ∧ ∀ k ∈ (forwards changes s).fundingDoubleSpentHeight,
        s.fundingDoubleSpentHeight = some k
          ∨ k = s.height ∧ ∃ o, fundingInputSpent o ∈ changes := by
    apply Undo.all_inv (s := s) (fun t : State => t.height = s.height
      ∧ ∀ k ∈ t.fundingDoubleSpentHeight,
        s.fundingDoubleSpentHeight = some k ∨ k = s.height ∧ ∃ o, fundingInputSpent o ∈ changes)
      ⟨rfl, fun k recorded => .inl recorded⟩
    intro c member t ⟨height, here⟩
    refine ⟨forward_kept.height.trans height, ?_⟩
    cases c with
    | fundingConfirmed =>
      intro k recorded
      cases recorded
    | fundingInputSpent outpoint =>
      intro k recorded
      cases before : t.fundingDoubleSpentHeight with
      | some k' =>
        have same : k' = k := by simpa [forward, before] using recorded
        exact here k (by simp [before, same])
      | none =>
        have same : t.height = k := by simpa [forward, before] using recorded
        exact .inr ⟨same.symm.trans height, outpoint, member⟩
    | _ => exact here
  exact traced.2 k recorded

theorem doubleSpent_backwards (recorded : (backwards changes s).fundingDoubleSpentHeight = some k) :
    s.fundingDoubleSpentHeight = some k := by
  have traced : ∀ k ∈ (backwards changes s).fundingDoubleSpentHeight,
      s.fundingDoubleSpentHeight = some k := by
    apply Undo.all_inv (s := s) (fun t : State => ∀ k ∈ t.fundingDoubleSpentHeight,
      s.fundingDoubleSpentHeight = some k) fun k recorded => recorded
    intro c _ t here
    cases c with
    | fundingInputSpent outpoint =>
      intro k recorded
      simp only [backward] at recorded
      split at recorded
      · cases recorded
      · exact here k recorded
    | _ => exact here
  exact traced k recorded

structure Following (m : Followed) : Prop where
  sound : Sound m.state
  fits : m.chain.length ≤ m.state.height
  doubleSpent : ∀ k ∈ m.state.fundingDoubleSpentHeight,
    ∃ block, m.blockAt k = some block ∧ ∃ o ∈ spends block.txs, o ∈ m.state.fundingInputs

theorem sound_added (sound : Sound s) (new : ∀ c ∈ changes, c.New s)
    (doubleSpent : ∀ k ∈ (s.added changes).fundingDoubleSpentHeight, k ≤ s.height + 1) :
    Sound (s.added changes) where
  fundingTxids := (forwards_kept (s := s.next)).fundingTxids ▸ sound.fundingTxids
  fundingVouts := by
    have kept := @forwards_kept changes s.next
    exact (congrArg List.length kept.fundingVouts).trans
      (sound.fundingVouts.trans (congrArg List.length kept.fundingTxids).symm)
  closingSwept unswept := by
    have unswept : (forwards changes s.next).isClosingSwept = false := unswept
    have before : s.isClosingSwept = false := by
      by_contra swept
      have swept : s.isClosingSwept = true := by simpa using swept
      have closing := closing_forwards_of_swept (t := s.next) new swept
      have same : (forwards changes s.next).isClosingSwept = s.isClosingSwept := by
        rw [isClosingSwept, closing]
        rfl
      cases swept.symm.trans (same.symm.trans unswept)
    have kept : (forwards changes s.next).closingSweptHeight = s.closingSweptHeight :=
      (forwards_kept (s := s.next)).closingSweptHeight
    simp [added, noteSwept, before, unswept, kept, sound.closingSwept before]
  ourOutputSwept unswept := by
    have unswept : (forwards changes s.next).isOurOutputSwept = false := unswept
    have before : s.isOurOutputSwept = false := by
      by_contra swept
      have swept : s.isOurOutputSwept = true := by simpa using swept
      have after := ourOutput_forwards_of_swept (t := s.next) new swept swept
      cases after.symm.trans unswept
    have kept : (forwards changes s.next).ourOutputSweptHeight = s.ourOutputSweptHeight :=
      (forwards_kept (s := s.next)).ourOutputSweptHeight
    simp [added, noteSwept, before, unswept, kept, sound.ourOutputSwept before]
  doubleSpent k recorded := by
    rw [height_added]
    exact doubleSpent k recorded

theorem sound_removed (sound : Sound s)
    (doubleSpent : ∀ k ∈ (s.removed changes).fundingDoubleSpentHeight, k ≤ s.height - 1) :
    Sound (s.removed changes) where
  fundingTxids := (backwards_kept (s := s.saw)).fundingTxids ▸ sound.fundingTxids
  fundingVouts := by
    have kept := @backwards_kept changes s.saw
    exact (congrArg List.length kept.fundingVouts).trans
      (sound.fundingVouts.trans (congrArg List.length kept.fundingTxids).symm)
  closingSwept unswept := by
    have unswept : (backwards changes s.saw).isClosingSwept = false := unswept
    have kept : (backwards changes s.saw).closingSweptHeight = s.closingSweptHeight :=
      (backwards_kept (s := s.saw)).closingSweptHeight
    cases before : s.isClosingSwept with
    | true => simp [removed, dropSwept, unswept, before]
    | false => simp [removed, dropSwept, before, kept, sound.closingSwept before]
  ourOutputSwept unswept := by
    have unswept : (backwards changes s.saw).isOurOutputSwept = false := unswept
    have kept : (backwards changes s.saw).ourOutputSweptHeight = s.ourOutputSweptHeight :=
      (backwards_kept (s := s.saw)).ourOutputSweptHeight
    cases before : s.isOurOutputSwept with
    | true => simp [removed, dropSwept, unswept, before]
    | false => simp [removed, dropSwept, before, kept, sound.ourOutputSwept before]
  doubleSpent k recorded := by
    rw [height_removed]
    exact doubleSpent k recorded

theorem doubleSpent_added {w s'}
    (linked : ∀ k ∈ m.state.fundingDoubleSpentHeight, ∃ block, m.blockAt k = some block
      ∧ ∃ o ∈ spends block.txs, o ∈ m.state.fundingInputs)
    (added : m.state.onAddBlock prims provider txs = .ok (s', w)) :
    ∀ k ∈ s'.fundingDoubleSpentHeight, ∃ block,
      ({ m with chain := ⟨txs⟩ :: m.chain, state := s' } : Followed).blockAt k = some block
        ∧ ∃ o ∈ spends block.txs, o ∈ s'.fundingInputs := by
  intro k recorded
  obtain rfl := onAddBlock_ok added
  have inputs : (m.state.added (m.state.decode prims provider txs)).fundingInputs
      = m.state.fundingInputs := (forwards_kept (s := m.state.next)).fundingInputs
  have recorded := recorded
  rw [inputs]
  rcases doubleSpent_forwards recorded with earlier | ⟨rfl, o, spent⟩
  · obtain ⟨block, found, spent⟩ := linked k earlier
    exact ⟨block, (blockAt_added height_added (blockAt_le found)).trans found, spent⟩
  · obtain ⟨spent, funding⟩ := fundingInputSpent_mem.mp spent
    exact ⟨⟨txs⟩, blockAt_new height_added, o, spent, funding⟩

theorem doubleSpent_removed {w s' block below fundings}
    (linked : ∀ k ∈ s.fundingDoubleSpentHeight, ∃ other,
      (⟨block :: below, fundings, s⟩ : Followed).blockAt k = some other
        ∧ ∃ o ∈ spends other.txs, o ∈ s.fundingInputs)
    (removed : s.onRemoveBlock prims provider block.txs = .ok (s', w)) :
    ∀ k ∈ s'.fundingDoubleSpentHeight, k < s.height ∧ ∃ other,
      (⟨below, fundings, s'⟩ : Followed).blockAt k = some other
        ∧ ∃ o ∈ spends other.txs, o ∈ s'.fundingInputs := by
  intro k recorded
  obtain ⟨rfl, -⟩ := onRemoveBlock_ok removed
  have inputs : (s.removed (s.decode prims provider block.txs)).fundingInputs = s.fundingInputs :=
    (backwards_kept (s := s.saw)).fundingInputs
  have recorded := recorded
  have before := doubleSpent_backwards recorded
  obtain ⟨other, found, o, spent, funding⟩ := linked k before
  have lower : k < s.height := by
    apply Nat.lt_of_le_of_ne (blockAt_le found)
    intro top
    have same : (⟨block :: below, fundings, s⟩ : Followed).blockAt k = some block := by
      rw [top]
      exact blockAt_tip
    cases same.symm.trans found
    have taken : fundingInputSpent o ∈ s.decode prims provider block.txs :=
      fundingInputSpent_mem.mpr ⟨spent, funding⟩
    have current := before.trans (by rw [top])
    cases (doubleSpent_backwards_current current taken).symm.trans recorded
  exact ⟨lower, other, (blockAt_removed height_removed lower).trans found, o, spent,
    inputs ▸ funding⟩

/-- The condition on the steps of a run: every block that is added is consistent with what the
    monitor has on record, and reads back. -/
def TakesBack (prims : Primitives) (m : Followed) : MonitorInput → Prop
  | .addBlock provider txs =>
    Consistent prims m.state txs ∧ ReadsBack prims provider m.state txs
  | _ => True

instance (m : Followed) : (input : MonitorInput) → Decidable (TakesBack prims m input)
  | .addBlock _ _ => inferInstanceAs (Decidable (_ ∧ _))
  | .removeBlock _ | .addFundingOutpoint _ | .addFundingInputs _ | .addFunding _ _
  | .replaceFundingOutpoint _ | .forgetChannel => .isTrue trivial

theorem following_next {input} (following : Following m) (condition : TakesBack prims m input)
    (next : Next prims m input m') : Following m' := by
  cases next with
  | added watch added =>
    obtain ⟨consistent, readsBack⟩ := condition
    have linked := doubleSpent_added following.doubleSpent added
    have known := onAddBlock_eq following.sound consistent readsBack
    have same := congrArg Prod.fst (Except.ok.inj (added.symm.trans known))
    simp only at same
    subst same
    refine ⟨?_, ?_, linked⟩
    · apply sound_added following.sound (new_view consistent)
      intro k recorded
      obtain ⟨block, found, -⟩ := linked k recorded
      have bounded := blockAt_le found
      simp only [height_added] at bounded
      exact bounded
    · have fits := following.fits
      simp only [List.length_cons, height_added]
      omega
  | removed watch removed =>
    have linked := doubleSpent_removed following.doubleSpent removed
    obtain ⟨rfl, -⟩ := onRemoveBlock_ok removed
    refine ⟨?_, ?_, fun k recorded => (linked k recorded).2⟩
    · apply sound_removed following.sound
      intro k recorded
      have lower := (linked k recorded).1
      omega
    · have fits := following.fits
      simp only [List.length_cons] at fits
      simp only [height_removed]
      omega
  | funded txids vouts | fundedWith txids vouts =>
    have sound := following.sound
    refine ⟨⟨by simp [addFundingInputs], by simp [addFundingInputs],
      sound.closingSwept, sound.ourOutputSwept, sound.doubleSpent⟩, following.fits, ?_⟩
    intro k recorded
    obtain ⟨block, found, o, spent, funding⟩ := following.doubleSpent k recorded
    exact ⟨block, found, o, spent, by simp [addFundingInputs, funding]⟩
  | inputs =>
    have sound := following.sound
    refine ⟨⟨sound.fundingTxids, sound.fundingVouts, sound.closingSwept, sound.ourOutputSwept,
      sound.doubleSpent⟩, following.fits, ?_⟩
    intro k recorded
    obtain ⟨block, found, o, spent, funding⟩ := following.doubleSpent k recorded
    exact ⟨block, found, o, spent, Finset.mem_union_left _ funding⟩
  | replaced =>
    have sound := following.sound
    exact ⟨⟨by simp [replaceFundingOutpoint], by simp [replaceFundingOutpoint],
      sound.closingSwept, sound.ourOutputSwept, fun k recorded => nomatch recorded⟩,
      following.fits, fun k recorded => nomatch recorded⟩
  | forgotten =>
    have sound := following.sound
    exact ⟨⟨sound.fundingTxids, sound.fundingVouts, sound.closingSwept, sound.ourOutputSwept,
      sound.doubleSpent⟩, following.fits, following.doubleSpent⟩

/-- In a run whose blocks all read back, adding a block that can be taken back and removing it again
    neither panics nor changes anything but the flag that a block was seen. -/
theorem block_taken_back {below : List Block} {height : Nat}
    {history : List (Machine.Step Followed MonitorInput Watch)} (fits : below.length ≤ height)
    (run : (machine prims).Run ⟨below, [], .new height⟩ history m)
    (meets : Machine.Meets (fun _ m input => TakesBack prims m input) history)
    (consistent : Consistent prims m.state txs)
    (reversible : Reversible prims provider m.state txs) :
    ∃ s added removed, m.state.onAddBlock prims provider txs = .ok (s, added)
      ∧ s.onRemoveBlock prims provider txs = .ok ({ m.state with sawBlock := true }, removed) := by
  have following : Following m := by
    apply run.inv (fun _ m => Following m) meets
    · refine ⟨⟨by simp [new], by simp [new], fun _ => rfl, fun _ => rfl, ?_⟩, fits, ?_⟩
      · intro k recorded
        cases recorded
      · intro k recorded
        cases recorded
    · intro _ m input _ m' following condition stepped
      exact following_next following condition (next_of_step stepped)
  have removed := onRemoveBlock_eq following.sound consistent reversible.toReadsBack
  rw [removed_changesOf following.sound consistent reversible] at removed
  exact ⟨_, _, _, onAddBlock_eq following.sound consistent reversible.toReadsBack, removed⟩

end Vls.Monitor

namespace Vls

open Monitor

open Toy

/-- The close of a channel that was funded in a block before can be taken back. -/
theorem close_taken_back : ∃ history m,
    (machine Toy.prims).Run monitorStart history m ∧ m.state.fundingHeight = some 1
      ∧ ∃ s added removed, m.state.onAddBlock Toy.prims Toy.provider [closeTx] = .ok (s, added)
        ∧ s.unilateralClosingHeight = some 2
        ∧ s.onRemoveBlock Toy.prims Toy.provider [closeTx]
          = .ok ({ m.state with sawBlock := true }, removed) := by
  obtain ⟨history, m, run, meets, consistent, reversible, funded, closed⟩ :
      ∃ history m, (machine Toy.prims).Run monitorStart history m
        ∧ Machine.Meets (fun _ m input => TakesBack Toy.prims m input) history
        ∧ Consistent Toy.prims m.state [closeTx]
        ∧ Reversible Toy.prims Toy.provider m.state [closeTx]
        ∧ m.state.fundingHeight = some 1
        ∧ ∃ r ∈ (m.state.onAddBlock Toy.prims Toy.provider [closeTx]).toOption,
          r.1.unilateralClosingHeight = some 2 :=
    Machine.exists_run fundChannel (by decide +kernel)
  refine ⟨history, m, run, funded, ?_⟩
  obtain ⟨s, added, removed, there, back⟩ :=
    block_taken_back (Nat.le_refl 0) run meets consistent reversible
  obtain ⟨r, there', closed⟩ := closed
  rw [Option.mem_def, Result.toOption_eq_some, there] at there'
  cases there'
  exact ⟨s, added, removed, there, closed, back⟩

/-- A block that holds a close together with a sweep of its output can be added, but to take it
    back the monitor looks for the output of a close that it has just forgotten. -/
theorem close_and_sweep_not_taken_back : ∃ history m,
    (machine Toy.prims).Run monitorStart history m ∧ Consistent Toy.prims m.state [closeTx, sweepTx]
      ∧ ∃ r, m.state.onAddBlock Toy.prims Toy.provider [closeTx, sweepTx] = .ok r
        ∧ r.1.onRemoveBlock Toy.prims Toy.provider [closeTx, sweepTx]
          = Result.panic "called `Option::unwrap()` on a `None` value" := by
  obtain ⟨history, m, run, consistent, r, there, back⟩ :
      ∃ history m, (machine Toy.prims).Run monitorStart history m
        ∧ Consistent Toy.prims m.state [closeTx, sweepTx]
        ∧ ∃ r ∈ (m.state.onAddBlock Toy.prims Toy.provider [closeTx, sweepTx]).toOption,
          r.1.onRemoveBlock Toy.prims Toy.provider [closeTx, sweepTx]
            = Result.panic "called `Option::unwrap()` on a `None` value" :=
    Machine.exists_run fundChannel (by decide +kernel)
  exact ⟨history, m, run, consistent, r, Result.toOption_eq_some.mp there, back⟩

end Vls
