import Vls.Channel.HolderSlot
import Vls.Monitor.Sources
import Vls.Monitor.Toy

/-! # A channel and its monitor

The on-chain validator is to see to it that no new commitment is made once the monitor of the
channel has recorded a close or a double spend. Here the two run together. -/

namespace Vls

open Option

variable {c : StateChange} {s : Locked} {request : ChannelRequest}

namespace Monitor.State

variable (s : State)

def depth32 (height : Nat) : U32 := BitVec.ofNat 32 s.height + 1 - BitVec.ofNat 32 height

def asChainState : ChainState where
  currentHeight := BitVec.ofNat 32 s.height
  fundingDepth := (s.fundingHeight.map s.depth32).getD 0
  fundingDoubleSpentDepth := (s.fundingDoubleSpentHeight.map s.depth32).getD 0
  closingDepth := ((s.mutualClosingHeight.or s.unilateralClosingHeight).map s.depth32).getD 0
  splicePending := false

def Closed : Prop := s.mutualClosingHeight.isSome ∨ s.unilateralClosingHeight.isSome
  deriving Decidable

def Spent : Prop := s.Closed ∨ s.fundingDoubleSpentHeight.isSome
  deriving Decidable

def spentHeights : List Nat :=
  s.mutualClosingHeight.toList ++ s.unilateralClosingHeight.toList
    ++ s.fundingDoubleSpentHeight.toList

end Monitor.State

open Monitor

structure Watched where
  locked : Locked
  monitor : Followed

inductive WatchedInput where
  | call (env : Env) (request : ChannelRequest)
  | others (state : NodeState)
  | addBlock (provider : CommitmentPointProvider) (txs : List Transaction)
  | removeBlock (provider : CommitmentPointProvider)
  | fundingSigned (tx : Transaction)
  | forget

abbrev WatchedStep := Machine.Step Watched WatchedInput (Except Status ChannelReply)

/-- The funding that a request moves the channel and its monitor to, whether or not it is then
    refused. -/
def ChannelRequest.movesTo (s : Locked) : ChannelRequest → Option OutPoint
  | .setupSplice setup _ =>
    if s.chan.setup = setup ∨ s.chan.isSpliceCompatible setup = false
        ∨ setup.pushValueMsat ≤ Channel.maxPlainMsat
          ∧ setup.pushValueMsat > setup.channelValueSat * 1000 then
      none
    else some setup.fundingOutpoint
  | _ => none

namespace Watched

variable (ctx : Context) (w : Watched)

def env (env : Env) : Env := { env with monitorState := w.monitor.state.asChainState }

def follow (input : MonitorInput) : Option Watched :=
  ((machine ctx.prims).step w.monitor input).map fun (_, monitor) => { w with monitor := monitor }

def moved (request : ChannelRequest) : Followed :=
  match request.movesTo w.locked with
  | some outpoint =>
    { w.monitor with
      fundings := outpoint.txid :: w.monitor.fundings
      state := w.monitor.state.replaceFundingOutpoint outpoint }
  | none => w.monitor

end Watched

/-- The machine stops where the channel or the monitor panics, and where the height of the chain
    leaves its 32 bits. -/
def watchedMachine (ctx : Context) :
    Machine Watched WatchedInput (Except Status ChannelReply) where
  step w
    | .call env request =>
      ((channelMachine ctx).step w.locked (.call (w.env env) request)).map
        fun (output, locked) => (output, ⟨locked, w.moved request⟩)
    | .others state => some (.ok .done, { w with locked := { w.locked with state := state } })
    | .addBlock provider txs =>
      if w.monitor.state.height + 1 < 2 ^ 32 then
        (w.follow ctx (.addBlock provider txs)).map fun w => (.ok .done, w)
      else none
    | .removeBlock provider =>
      (w.follow ctx (.removeBlock provider)).map fun w => (.ok .done, w)
    | .fundingSigned tx => (w.follow ctx (.addFundingInputs tx)).map fun w => (.ok .done, w)
    | .forget => (w.follow ctx .forgetChannel).map fun w => (.ok .done, w)

/-- The request makes the signer sign a new counterparty commitment number, or accept a new holder
    commitment number. -/
def ChannelRequest.Advances (ctx : Context) (env : Env) (s : Locked) (request : ChannelRequest) :
    Prop :=
  (∃ c ∈ request.counterpartyCommitment ctx env s,
      s.chan.enforcementState.nextCounterpartyCommitNum ≤ c.commitmentNumber)
    ∨ ∃ c ∈ request.holderCommitment ctx env s,
      s.chan.enforcementState.nextHolderCommitNum ≤ c.commitmentNumber

def WatchedStep.Advances (ctx : Context) (step : WatchedStep) : Prop :=
  match step.input with
  | .call env request => request.Advances ctx (step.before.env env) step.before.locked
  | _ => False

/-- From when on the monitor has recorded a close or a double spend, no step of a history signs a
    new counterparty commitment number or accepts a new holder commitment number. -/
def RefusesOnceSpent (ctx : Context) (history : List WatchedStep) : Prop :=
  ∀ newer step older, history = newer ++ step :: older →
    (∃ earlier ∈ step :: older, earlier.before.monitor.state.Spent) →
      ¬ WatchedStep.Advances ctx step

def ChannelRequest.nextNumber (s : Locked) : ChannelRequest → Option U64
  | .validateHolderCommitmentTx .. | .validateHolderCommitmentTxPhase2 .. =>
    some s.chan.enforcementState.nextHolderCommitNum
  | .signCounterpartyCommitmentTx .. | .signCounterpartyCommitmentTxPhase2 .. =>
    some s.chan.enforcementState.nextCounterpartyCommitNum
  | _ => none

/-- The block has nothing to do with the funding: it does not confirm it and does not spend it. -/
def Monitor.State.Untouched (prims : Primitives) (s : State) (txs : List Transaction) : Prop :=
  ∀ tx ∈ txs, prims.computeTxid tx ∉ s.fundingTxids
    ∧ ∀ input ∈ tx.input, some input.previousOutput ≠ s.fundingOutpoint
  deriving Decidable

/-- What may happen once a close or a double spend is on record: commitments come after the initial
    ones, outside of a splice window, for a double spend only while the funding is not confirmed;
    the record is not cleared by a splice, by the funding, or by the removal of its block. -/
def Prudent (ctx : Context) (w : Watched) (input : WatchedInput) : Prop :=
  w.monitor.state.Spent → match input with
    | .call _ request =>
      request.nextNumber w.locked ≠ some 0
      ∧ ((request.nextNumber w.locked).isSome → w.locked.chan.prevSetup = none
        ∧ (w.monitor.state.Closed ∨ w.monitor.state.fundingHeight = none))
      ∧ (w.monitor.state.Closed ∨ request.movesTo w.locked = none)
    | .addBlock _ txs => w.monitor.state.Closed
      ∨ ∀ tx ∈ txs, ctx.prims.computeTxid tx ∉ w.monitor.state.fundingTxids
    | .removeBlock _ => (∀ k ∈ w.monitor.state.spentHeights, k < w.monitor.state.height)
      ∧ ∀ block ∈ w.monitor.chain.head?, w.monitor.state.Untouched ctx.prims block.txs
    | _ => True

instance (ctx : Context) (w : Watched) (input : WatchedInput) :
    Decidable (Prudent ctx w input) := by
  cases input <;> unfold Prudent <;> infer_instance

namespace Monitor

open StateChange

variable {prims : Primitives} {provider : CommitmentPointProvider} {s : State}
  {changes : List StateChange} {txs : List Transaction} {k : Nat}

def Dated (s : State) : Prop := ∀ k ∈ s.spentHeights, 1 ≤ k ∧ k ≤ s.height

theorem mem_spentHeights : k ∈ s.spentHeights ↔ s.mutualClosingHeight = some k
    ∨ s.unilateralClosingHeight = some k ∨ s.fundingDoubleSpentHeight = some k := by
  simp [State.spentHeights]

theorem spent_of_height (here : k ∈ s.spentHeights) : s.Spent := by
  obtain mutually | unilaterally | doubleSpent := mem_spentHeights.mp here
  · exact .inl (.inl (by simp [mutually]))
  · exact .inl (.inr (by simp [unilaterally]))
  · exact .inr (by simp [doubleSpent])

theorem spentHeights_forward (here : k ∈ (c.forward s).spentHeights) :
    k = s.height ∨ k ∈ s.spentHeights := by
  rw [mem_spentHeights] at here ⊢
  cases c with
  | fundingConfirmed =>
    simp only [forward] at here
    tauto
  | fundingInputSpent =>
    simp only [forward, some.injEq] at here
    cases found : s.fundingDoubleSpentHeight with
    | none =>
      simp only [found, getD_none] at here
      tauto
    | some other =>
      simp only [found, getD_some] at here
      simp only [some.injEq]
      tauto
  | unilateralCloseConfirmed | mutualCloseConfirmed =>
    simp only [forward, some.injEq] at here
    tauto
  | _ => exact .inr here

theorem spentHeights_backward (here : k ∈ (c.backward s).spentHeights) : k ∈ s.spentHeights := by
  rw [mem_spentHeights] at here ⊢
  cases c with
  | fundingInputSpent =>
    simp only [backward] at here
    split at here <;> tauto
  | unilateralCloseConfirmed | mutualCloseConfirmed =>
    simp only [backward] at here
    tauto
  | _ => exact here

theorem dated_added (dated : Dated s) : Dated (s.added changes) := by
  have bounded : ∀ k ∈ (forwards changes s.next).spentHeights, 1 ≤ k ∧ k ≤ s.height + 1 := by
    refine (Undo.all_inv (fun t : State => t.height = s.height + 1
      ∧ ∀ k ∈ t.spentHeights, 1 ≤ k ∧ k ≤ s.height + 1) ⟨rfl, ?_⟩ ?_).2
    · intro k here
      have := dated k here
      omega
    · rintro c - t ⟨height, bounded⟩
      refine ⟨forward_kept.height.trans height, fun k here => ?_⟩
      obtain rfl | earlier := spentHeights_forward here
      · omega
      · exact bounded k earlier
  intro k here
  rw [height_added]
  exact bounded k here

theorem dated_removed (dated : Dated s) (above : ∀ k ∈ s.spentHeights, k < s.height) :
    Dated (s.removed changes) := by
  intro k here
  have earlier : k ∈ (backwards changes s.saw).spentHeights → k ∈ s.spentHeights :=
    Undo.all_inv (s := s.saw) (fun t : State => k ∈ t.spentHeights → k ∈ s.spentHeights) id
      fun c _ t kept here => kept (spentHeights_backward here)
  replace earlier := earlier here
  rw [height_removed]
  have := dated k earlier
  have := above k earlier
  omega

theorem closed_added (closed : s.Closed) : (s.added changes).Closed := by
  refine Undo.all_inv (s := s.next) State.Closed closed fun c _ t closed => ?_
  cases c <;> simp_all [State.Closed, forward]

theorem spent_added (spent : s.Spent)
    (unconfirmed : s.Closed ∨ ∀ o, fundingConfirmed o ∉ changes) : (s.added changes).Spent := by
  obtain closed | doubleSpent := spent
  · exact .inl (closed_added closed)
  obtain closed | unconfirmed := unconfirmed
  · exact .inl (closed_added closed)
  refine .inr (Undo.all_inv (s := s.next) (fun t : State => t.fundingDoubleSpentHeight.isSome)
    doubleSpent fun c member t doubleSpent => ?_)
  cases c with
  | fundingConfirmed o => exact (unconfirmed o member).elim
  | fundingInputSpent => rfl
  | _ => exact doubleSpent

theorem spent_removed (spent : s.Spent) (above : ∀ k ∈ s.spentHeights, k < s.height)
    (noClose : ∀ c ∈ changes, c.isClose = false) : (s.removed changes).Spent := by
  have notHere : s.fundingDoubleSpentHeight ≠ some s.height := by
    intro here
    exact Nat.lt_irrefl _ (above s.height (mem_spentHeights.mpr (.inr (.inr here))))
  have same : (backwards changes s.saw).height = s.height
      ∧ (backwards changes s.saw).mutualClosingHeight = s.mutualClosingHeight
      ∧ (backwards changes s.saw).unilateralClosingHeight = s.unilateralClosingHeight
      ∧ (backwards changes s.saw).fundingDoubleSpentHeight = s.fundingDoubleSpentHeight := by
    refine Undo.all_inv (s := s.saw) (fun t : State => t.height = s.height
      ∧ t.mutualClosingHeight = s.mutualClosingHeight
      ∧ t.unilateralClosingHeight = s.unilateralClosingHeight
      ∧ t.fundingDoubleSpentHeight = s.fundingDoubleSpentHeight) ⟨rfl, rfl, rfl, rfl⟩ ?_
    rintro c member t ⟨height, mutually, unilaterally, doubleSpent⟩
    have notClose := noClose c member
    cases c with
    | unilateralCloseConfirmed | mutualCloseConfirmed => cases notClose
    | fundingInputSpent =>
      refine ⟨height, mutually, unilaterally, ?_⟩
      simp only [backward, height, doubleSpent, if_neg notHere]
    | _ => exact ⟨height, mutually, unilaterally, doubleSpent⟩
  obtain ⟨-, mutually, unilaterally, doubleSpent⟩ := same
  unfold State.Spent State.Closed at spent ⊢
  rw [← mutually, ← unilaterally, ← doubleSpent] at spent
  exact spent

theorem noClose_of_untouched (untouched : s.Untouched prims txs) :
    ∀ c ∈ s.decode prims provider txs, c.isClose = false := by
  intro c member
  by_contra close
  obtain ⟨done, tx, rest, rfl, ⟨spends, -⟩, -⟩ := close_mem_decode member (by simpa using close)
  have unconfirmed : ∀ o, fundingConfirmed o ∉ s.decode prims provider done := by
    intro o confirmed
    obtain ⟨tx', there, confirms⟩ := fundingConfirmed_mem_decode.mp confirmed
    exact (untouched tx' (by simp [there])).1 (confirms_mem confirms).1
  rw [State.spendsFunding, State.after, fundingOutpoint_forwards_none unconfirmed] at spends
  obtain ⟨input, single, same⟩ := List.map_eq_singleton_iff.mp spends
  exact (untouched tx (by simp)).2 input (by simp [single]) same

theorem depth32_pos (dated : Dated s) (fits : s.height < 2 ^ 32) (recorded : k ∈ s.spentHeights) :
    0 < s.depth32 k := by
  obtain ⟨positive, bounded⟩ := dated k recorded
  unfold State.depth32
  bv_omega

theorem asChainState_spent (dated : Dated s) (fits : s.height < 2 ^ 32)
    (shown : s.Closed ∨ s.fundingHeight = none) :
    s.asChainState.fundingDepth < Validator.minFundingDepth ∨ s.asChainState.closingDepth > 0 := by
  by_cases closed : s.Closed
  · right
    have recorded : ∃ k ∈ s.spentHeights,
        s.mutualClosingHeight.or s.unilateralClosingHeight = some k := by
      cases mutually : s.mutualClosingHeight with
      | some k => exact ⟨k, mem_spentHeights.mpr (.inl mutually), rfl⟩
      | none =>
        obtain ⟨k, unilaterally⟩ := isSome_iff_exists.mp
          (closed.resolve_left (by simp [mutually]))
        exact ⟨k, mem_spentHeights.mpr (.inr (.inl unilaterally)), unilaterally⟩
    obtain ⟨k, here, same⟩ := recorded
    have positive := depth32_pos dated fits here
    simpa [State.asChainState, same] using positive
  · left
    have unconfirmed := shown.resolve_left closed
    simp [State.asChainState, unconfirmed, Validator.minFundingDepth]

end Monitor

namespace Validator

variable {validator : Validator} {inner : SimplePolicy} {n : U64} {cstate : ChainState} {u : Unit}

theorem ensureFundingBuriedAndUnspent_ok (strict : validator.Strict)
    (passed : validator.ensureFundingBuriedAndUnspent n cstate = .ok u) (beyond : n ≠ 0)
    (noWindow : cstate.splicePending = false) :
    ¬ cstate.fundingDepth < minFundingDepth ∧ ¬ cstate.closingDepth > 0 := by
  have positive : n > 0 := by bv_omega
  simp only [ensureFundingBuriedAndUnspent, positive, noWindow, and_self, if_true] at passed
  split at passed
  · simp [PolicyFilter.temporaryPolicyErrorWithFilter, strict _] at passed
  · rename_i buried
    exact ⟨buried, (PolicyFilter.refuseIf_eq_ok strict).mp passed⟩

end Validator

section runs

variable {ctx : Context} {inner : SimplePolicy}

theorem ChannelRequest.nextNumber_of_counterparty {env c}
    (asked : c ∈ request.counterpartyCommitment ctx env s) :
    request.nextNumber s = some s.chan.enforcementState.nextCounterpartyCommitNum := by
  have checked := (counterpartyCommitment_eq_some.mp asked).1
  cases request with
  | signCounterpartyCommitmentTx | signCounterpartyCommitmentTxPhase2 => rfl
  | _ => cases checked

theorem ChannelRequest.nextNumber_of_holder {env c}
    (asked : c ∈ request.holderCommitment ctx env s) :
    request.nextNumber s = some s.chan.enforcementState.nextHolderCommitNum := by
  cases request with
  | validateHolderCommitmentTx | validateHolderCommitmentTxPhase2 => rfl
  | _ => cases asked

theorem not_advances (onchain : ctx.validator = .onchain inner) (strict : ctx.validator.Strict)
    {env} (beyond : request.nextNumber s ≠ some 0)
    (late : (request.nextNumber s).isSome → s.chan.prevSetup = none
      ∧ (env.monitorState.fundingDepth < Validator.minFundingDepth
      ∨ env.monitorState.closingDepth > 0)) :
    ¬ request.Advances ctx env s := by
  have refused {n : U64} {u : Unit} (beyond : n ≠ 0) (noWindow : s.chan.prevSetup = none)
      (shown : env.monitorState.fundingDepth < Validator.minFundingDepth
        ∨ env.monitorState.closingDepth > 0)
      (passed : ctx.validator.ensureFundingBuriedAndUnspent n (s.chan.getChainState env) = .ok u) :
      False := by
    obtain ⟨buried, unclosed⟩ := Validator.ensureFundingBuriedAndUnspent_ok strict passed beyond
      (by simp [Channel.getChainState, noWindow])
    exact shown.elim buried unclosed
  rintro (⟨c, asked, new⟩ | ⟨c, asked, new⟩)
  · have next := ChannelRequest.nextNumber_of_counterparty asked
    obtain ⟨noWindow, shown⟩ := late (by simp [next])
    have validated := (counterpartyChecked_of_asked strict asked).validated
    rw [onchain] at validated
    obtain ⟨u, passed, -⟩ := Result.bind_eq_ok.mp validated
    rw [← onchain] at passed
    rw [next, ne_eq, some.injEq] at beyond
    exact refused (n := c.commitmentNumber) (by bv_omega) noWindow shown passed
  · have next := ChannelRequest.nextNumber_of_holder asked
    obtain ⟨noWindow, shown⟩ := late (by simp [next])
    have validated := (holderChecked_of_asked asked).validated
    rw [onchain] at validated
    simp only [Validator.validateHolderCommitmentTx, if_pos new] at validated
    obtain ⟨u, passed, -⟩ := Result.bind_eq_ok.mp validated
    rw [← onchain] at passed
    rw [next, ne_eq, some.injEq] at beyond
    exact refused (n := c.commitmentNumber) (by bv_omega) noWindow shown passed

structure WellDated (w : Watched) : Prop where
  dated : Dated w.monitor.state
  fits : w.monitor.state.height < 2 ^ 32

variable {w w' : Watched} {input : WatchedInput} {output : Except Status ChannelReply}

theorem moved_spent (spent : w.monitor.state.Spent)
    (kept : w.monitor.state.Closed ∨ request.movesTo w.locked = none) :
    (w.moved request).state.Spent := by
  cases moves : request.movesTo w.locked with
  | none => simpa [Watched.moved, moves] using spent
  | some outpoint =>
    have closed := kept.resolve_right (by simp [moves])
    simp only [Watched.moved, moves]
    exact .inl closed

theorem moved_kept (kept : WellDated w) (locked : Locked) :
    WellDated ⟨locked, w.moved request⟩ := by
  cases moves : request.movesTo w.locked with
  | none =>
    simpa [Watched.moved, moves] using (⟨kept.dated, kept.fits⟩ : WellDated ⟨locked, w.monitor⟩)
  | some outpoint =>
    simp only [Watched.moved, moves]
    refine ⟨fun k here => ?_, kept.fits⟩
    refine kept.dated k (mem_spentHeights.mpr ?_)
    obtain mutually | unilaterally | doubleSpent := mem_spentHeights.mp here
    · exact .inl mutually
    · exact .inr (.inl unilaterally)
    · cases doubleSpent

theorem follow_next {followed} (moves : w.follow ctx followed = some w') :
    ∃ monitor, w' = { w with monitor := monitor } ∧ Next ctx.prims w.monitor followed monitor := by
  obtain ⟨⟨watch, monitor⟩, stepped, same⟩ := map_eq_some_iff.mp moves
  exact ⟨monitor, same.symm, next_of_step stepped⟩

theorem step_kept (stepped : (watchedMachine ctx).step w input = some (output, w'))
    (kept : WellDated w) (prudent : Prudent ctx w input) :
    WellDated w' ∧ (w.monitor.state.Spent → w'.monitor.state.Spent) := by
  obtain ⟨locked, chain, fundings, state⟩ := w
  cases input with
  | call env request =>
    obtain ⟨⟨_, locked⟩, -, same⟩ := map_eq_some_iff.mp stepped
    cases same
    exact ⟨moved_kept kept locked, fun spent => moved_spent spent (prudent spent).2.2⟩
  | others | fundingSigned | forget =>
    cases stepped
    exact ⟨⟨kept.dated, kept.fits⟩, id⟩
  | addBlock provider txs =>
    simp only [watchedMachine] at stepped
    split at stepped
    · rename_i fits
      obtain ⟨_, moves, same⟩ := map_eq_some_iff.mp stepped
      cases same
      obtain ⟨monitor, rfl, next⟩ := follow_next moves
      cases next with
      | added watch added =>
        obtain rfl := onAddBlock_ok added
        refine ⟨⟨dated_added kept.dated, ?_⟩, fun spent => spent_added spent ?_⟩
        · simpa [height_added] using fits
        · refine (prudent spent).imp id fun unconfirmed o confirmed => ?_
          obtain ⟨tx, there, confirms⟩ := fundingConfirmed_mem_decode.mp confirmed
          exact unconfirmed tx there (confirms_mem confirms).1
    · cases stepped
  | removeBlock provider =>
    obtain ⟨_, moves, same⟩ := map_eq_some_iff.mp stepped
    cases same
    obtain ⟨monitor, rfl, next⟩ := follow_next moves
    cases next with
    | removed watch removed =>
      obtain ⟨rfl, -⟩ := onRemoveBlock_ok removed
      have above := fun k here => (prudent (spent_of_height here)).1 k here
      refine ⟨⟨dated_removed kept.dated above, ?_⟩, fun spent => spent_removed spent above ?_⟩
      · have fits := kept.fits
        simp only [height_removed] at fits ⊢
        omega
      · exact noClose_of_untouched ((prudent spent).2 _ rfl)

/-- A run whose steps are prudent makes no new commitment once a close or a double spend is on
    record. -/
theorem no_commitment_once_spent (onchain : ctx.validator = .onchain inner)
    (strict : ctx.validator.Strict) {start : Watched} {history : List WatchedStep}
    (run : (watchedMachine ctx).Run start history w) (unspent : ¬ start.monitor.state.Spent)
    (fits : start.monitor.state.height < 2 ^ 32)
    (prudent : Machine.Meets (fun _ => Prudent ctx) history) : RefusesOnceSpent ctx history := by
  suffices inv : RefusesOnceSpent ctx history
      ∧ ((∃ earlier ∈ history, earlier.before.monitor.state.Spent) → w.monitor.state.Spent)
      ∧ WellDated w from inv.1
  refine run.inv (fun (history : List WatchedStep) w => RefusesOnceSpent ctx history
    ∧ ((∃ earlier ∈ history, earlier.before.monitor.state.Spent) → w.monitor.state.Spent)
    ∧ WellDated w) prudent ?_ ?_
  · exact ⟨by simp [RefusesOnceSpent], by simp,
      fun k here => (unspent (spent_of_height here)).elim, fits⟩
  · rintro history w input output w' ⟨refused, recorded, kept⟩ prudent stepped
    obtain ⟨kept', stays⟩ := step_kept stepped kept prudent
    have now : (∃ earlier ∈ (⟨w, input, output⟩ : WatchedStep) :: history,
        earlier.before.monitor.state.Spent) → w.monitor.state.Spent := by
      rintro ⟨earlier, member, spent⟩
      obtain rfl | before := List.mem_cons.mp member
      · exact spent
      · exact recorded ⟨earlier, before, spent⟩
    refine ⟨?_, fun earlier => stays (now earlier), kept'⟩
    intro newer step older split earlier
    cases newer with
    | nil =>
      cases split
      cases input with
      | call env request =>
        obtain ⟨beyond, late, -⟩ := prudent (now earlier)
        refine not_advances onchain strict beyond fun brings => ?_
        obtain ⟨noWindow, shown⟩ := late brings
        exact ⟨noWindow, asChainState_spent kept.dated kept.fits shown⟩
      | _ => exact id
    | cons newest newer =>
      obtain ⟨-, rfl⟩ := List.cons.inj split
      exact refused newer step older rfl earlier

end runs

namespace Toy

def onchainCtx : Context := { ctx with validator := .onchain (makeDefaultSimplePolicy .testnet) }

def watchedStart : Watched := ⟨start, fundedStart⟩

def watchedCall : ChannelInput → WatchedInput
  | .call env request => .call env request
  | .others state => .others state

/-- The funding is confirmed, the initial commitments are exchanged, something happens, the channel
    is closed, and the next counterparty commitment is asked for. -/
def closeBefore (between : List ChannelInput) (setup : ChannelSetup) : List WatchedInput :=
  .addBlock provider [fundingTx] ::
    ([validateHolder Toy.setup 0, activate, signCounterparty Toy.setup 21 0 999000]
      ++ between).map watchedCall
    ++ [.addBlock provider [closeTx], watchedCall (signCounterparty setup 22 1 999000)]

end Toy

instance (ctx : Context) (step : WatchedStep) : Decidable (WatchedStep.Advances ctx step) := by
  unfold WatchedStep.Advances ChannelRequest.Advances
  split <;> infer_instance

/-- In a splice window, a new counterparty commitment is signed after the close was recorded. -/
theorem signed_in_window_after_close :
    ∃ history w, (watchedMachine Toy.onchainCtx).Run Toy.watchedStart history w
      ∧ ¬ RefusesOnceSpent Toy.onchainCtx history := by
  obtain ⟨history, w, run, shown⟩ :
      ∃ history w, (watchedMachine Toy.onchainCtx).Run Toy.watchedStart history w
        ∧ ∃ step ∈ history.head?, step.before.monitor.state.Spent
          ∧ WatchedStep.Advances Toy.onchainCtx step ∧ step.output.toOption.isSome :=
    Machine.exists_run (Toy.closeBefore [Toy.splice] Toy.splicedSetup) (by decide +kernel)
  obtain ⟨step, latest, spent, advances, -⟩ := shown
  obtain ⟨older, rfl⟩ := List.head?_eq_some_iff.mp latest
  exact ⟨_, w, run, fun refuses =>
    refuses [] step older rfl ⟨step, List.mem_cons_self, spent⟩ advances⟩

/-- Outside of a window it is refused. -/
theorem refused_after_close :
    ∃ history w, (watchedMachine Toy.onchainCtx).Run Toy.watchedStart history w
      ∧ (∃ step ∈ history.head?, step.before.monitor.state.Spent)
      ∧ RefusesOnceSpent Toy.onchainCtx history := by
  obtain ⟨history, w, run, shown, prudent⟩ :
      ∃ history w, (watchedMachine Toy.onchainCtx).Run Toy.watchedStart history w
        ∧ (∃ step ∈ history.head?, step.before.monitor.state.Spent)
        ∧ Machine.Meets (fun _ => Prudent Toy.onchainCtx) history :=
    Machine.exists_run (Toy.closeBefore [] Toy.setup) (by decide +kernel)
  have strict : Toy.onchainCtx.validator.Strict := PolicyFilter.default_strict
  exact ⟨history, w, run, shown,
    no_commitment_once_spent rfl strict run (by decide) (by decide) prudent⟩

end Vls
