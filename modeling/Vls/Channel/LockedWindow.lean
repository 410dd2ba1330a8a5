import Vls.Channel.SpliceWindow
import Vls.Channel.Watched

/-! # Locked fundings across restarts

The lock of a funding closes the splice window. The channel remembers what it locked, and confirms
that lock again without looking at its funding or at the store; a restart forgets it. -/

namespace Vls

open Channel Call

structure Restartable where
  live : Locked
  /-- The versions of the channel of which the store has one. -/
  stored : List Channel
  /-- The outpoint of the last lock that was confirmed, until the channel is set up anew. -/
  locked : Option OutPoint

inductive RestartableInput where
  | step (input : ChannelInput)
  | restart (chan : Channel) (state : NodeState)

def ChannelInput.stores (s : Locked) : ChannelInput → Bool
  | .call _ (.setupSplice setup _) => s.chan.setup ≠ setup
  | .call _ (.confirmFundingLocked outpoint) => s.chan.fundingLocked ≠ some outpoint
  | _ => false

def ChannelInput.locks : ChannelInput → Except Status ChannelReply → Option OutPoint
  | .call _ (.confirmFundingLocked outpoint), .ok _ => some outpoint
  | _, _ => none

namespace Restartable

/-- Whether the calls that are not about fundings store the channel is left open. -/
def after (s : Restartable) (input : ChannelInput) (output : Except Status ChannelReply)
    (live : Locked) : Restartable where
  live := live
  stored := if output.isOk ∧ input.stores s.live then [live.chan] else live.chan :: s.stored
  locked := (input.locks output).or
    (if live.chan.setup = s.live.chan.setup then s.locked else none)

def machine (ctx : Context) :
    Machine Restartable RestartableInput (Except Status ChannelReply) where
  step s
    | .step input =>
      ((channelMachine ctx).step s.live input).map fun (output, live) =>
        (output, s.after input output live)
    | .restart chan state =>
      if chan ∈ s.stored then
        some (.ok .done, ⟨⟨{ chan with fundingLocked := none }, state⟩, [chan], s.locked⟩)
      else
        none

/-- A lock that the channel remembers is asked for again only while it keeps no retiring funding,
    and the store has none. -/
def LocksOnce (s : Restartable) : RestartableInput → Prop
  | .step (.call _ (.confirmFundingLocked outpoint)) =>
    s.live.chan.fundingLocked = some outpoint →
      ∀ chan ∈ s.live.chan :: s.stored, chan.prevSetup = none
  | _ => True

instance (s : Restartable) (input : RestartableInput) : Decidable (s.LocksOnce input) := by
  unfold LocksOnce
  split <;> infer_instance

end Restartable

/-- The funding is the only one, and commitments wait for it to be buried. -/
structure WindowShut (ctx : Context) (outpoint : OutPoint) (chan : Channel) : Prop where
  current : chan.setup.fundingOutpoint = outpoint
  prevSetup : chan.prevSetup = none
  prevPrevSetup : chan.prevPrevSetup = none
  snapshot : chan.enforcementState.prevFundingCommitment = none
  refuses : ∀ other ≠ outpoint, ∃ status, chan.setupForOutpoint other = .error (.err status)
  buries : ∀ (env : Env) (n : U64) (u : Unit), n ≠ 0 →
    ctx.validator.ensureFundingBuriedAndUnspent n (chan.getChainState env) = .ok u →
    ¬ env.monitorState.fundingDepth < Validator.minFundingDepth

/-- Without a previous setup there is nothing else left of a splice, and what was locked is the
    current funding. -/
structure Eras.Settles (eras : Eras) : Prop where
  window : eras.prevSetup = none → eras.prevPrevSetup = none ∧ eras.retired = none
  locked : ∀ outpoint ∈ eras.locked, eras.prevSetup = none → eras.setup.fundingOutpoint = outpoint

section step

variable {ctx : Context} {s s' : Locked} {input : ChannelInput} {events : List Event} {eras' : Eras}

namespace EraChange

theorem settles (change : EraChange ctx s input events eras') (settles : s.chan.eras.Settles) :
    eras'.Settles := by
  cases change with
  | spliced => exact ⟨nofun, nofun⟩
  | locked | settled =>
    refine ⟨fun _ => ⟨rfl, rfl⟩, ?_⟩
    rintro _ ⟨⟩ _
    rfl
  | _ => exact ⟨settles.window, settles.locked⟩

theorem setup (change : EraChange ctx s input events eras') (shut : eras'.prevSetup = .none) :
    eras'.setup = s.chan.setup := by
  cases change with
  | spliced => cases shut
  | _ => rfl

theorem shut (change : EraChange ctx s input events eras') (shut : s.chan.prevSetup = .none)
    (same : eras'.setup = s.chan.setup) : eras'.prevSetup = .none := by
  cases change with
  | spliced _ moved => exact absurd (congrArg (·.fundingOutpoint) same) moved
  | locked | settled => rfl
  | _ => exact shut

end EraChange

theorem confirmFundingLocked_ok {env outpoint reply}
    (ok : perform ctx env (.confirmFundingLocked outpoint) s = .ok reply s') :
    s.chan.fundingLocked = some outpoint ∧ s' = s ∨ s.chan.fundingLocked ≠ some outpoint
      ∧ s'.chan.setup.fundingOutpoint = outpoint ∧ s'.chan.prevSetup = none := by
  have ends : (perform ctx env (.confirmFundingLocked outpoint)).Ends s (fun _ s' =>
      s.chan.fundingLocked = some outpoint ∧ s' = s ∨ s.chan.fundingLocked ≠ some outpoint
        ∧ s'.chan.setup.fundingOutpoint = outpoint ∧ s'.chan.prevSetup = none)
      (fun _ _ => True) := by
    simp only [perform, confirmFundingLocked, ends_bind, ends_get, ends_ite, ends_pure, ends_throw,
      ends_modify, ends_lift]
    refine ⟨fun locked => .inl ⟨locked, trivial⟩, fun unlocked => ⟨fun _ => trivial, fun current =>
      ⟨fun _ _ => .inr ⟨unlocked, (not_not.mp current).symm, rfl⟩, fun _ _ => trivial⟩⟩⟩
  exact ends.ok ok

end step

namespace Restartable

variable {ctx : Context} {s : Restartable} {input : ChannelInput}
  {output : Except Status ChannelReply} {live : Locked}

structure LockKept (s : Restartable) : Prop where
  settles : ∀ chan ∈ s.live.chan :: s.stored, chan.eras.Settles
  together : (∀ chan ∈ s.stored, chan.prevSetup = none) →
    ∀ chan ∈ s.stored, chan.setup.fundingOutpoint = s.live.chan.setup.fundingOutpoint
  shut : ∀ outpoint ∈ s.locked, ∀ chan ∈ s.live.chan :: s.stored,
    chan.setup.fundingOutpoint = outpoint ∧ chan.prevSetup = none

theorem mem_after {chan} (mem : chan ∈ live.chan :: (s.after input output live).stored) :
    chan = live.chan ∨ chan ∈ s.stored := by
  simp only [after] at mem
  split at mem <;> simp_all

theorem LockKept.after (kept : s.LockKept) {events}
    (change : EraChange ctx s.live input events live.chan.eras)
    (locking : ∀ outpoint ∈ input.locks output,
      ∀ chan ∈ live.chan :: (s.after input output live).stored,
      chan.setup.fundingOutpoint = outpoint ∧ chan.prevSetup = none) :
    (s.after input output live).LockKept  where
  settles := by
    intro chan mem
    obtain rfl | mem := mem_after mem
    · exact change.settles (kept.settles _ (.head _))
    · exact kept.settles chan (.tail _ mem)
  together := by
    intro shut chan mem
    obtain rfl | among := mem_after (.tail _ mem)
    · rfl
    by_cases stores : output.isOk ∧ input.stores s.live
    · simp only [Restartable.after, if_pos stores, List.mem_singleton] at mem
      rw [mem]
      rfl
    · simp only [Restartable.after, if_neg stores, List.forall_mem_cons] at shut
      rw [kept.together shut.2 chan among]
      exact congrArg (·.fundingOutpoint) (change.setup shut.1).symm
  shut := by
    intro outpoint mem chan among
    simp only [Restartable.after, Option.mem_def, Option.or_eq_some_iff] at mem
    obtain locks | ⟨_, same⟩ := mem
    · exact locking outpoint locks chan among
    · split at same
      · rename_i setup
        obtain rfl | among := mem_after among
        · obtain ⟨current, shut⟩ := kept.shut outpoint same _ (.head _)
          exact ⟨(congrArg (·.fundingOutpoint) setup).trans current, change.shut shut setup⟩
        · exact kept.shut outpoint same chan (.tail _ among)
      · cases same

theorem LockKept.windowShut (kept : s.LockKept) (strict : ctx.validator.Strict) {outpoint}
    (locked : s.locked = some outpoint) : WindowShut ctx outpoint s.live.chan := by
  obtain ⟨current, shut⟩ := kept.shut outpoint locked _ (.head _)
  obtain ⟨prevPrevSetup, retired⟩ : s.live.chan.prevPrevSetup = none ∧ _ :=
    (kept.settles _ (.head _)).window shut
  refine ⟨current, shut, prevPrevSetup, Option.map_eq_none_iff.mp retired, fun other differs => ?_,
    fun env n u beyond passed => ?_⟩
  · have unknown : s.live.chan.views.find? (·.fundingOutpoint = other) = none := by
      simp [views, shut, prevPrevSetup, current, differs.symm]
    rw [setupForOutpoint, unknown]
    exact ⟨_, rfl⟩
  · exact (Validator.ensureFundingBuriedAndUnspent_ok strict passed beyond
      (by simp [getChainState, shut])).1

theorem LockKept.step (strict : ctx.validator.Strict) {input s'} (kept : s.LockKept)
    (once : s.LocksOnce input) (stepped : (machine ctx).step s input = some (output, s')) :
    s'.LockKept := by
  cases input with
  | step input =>
    obtain ⟨⟨_, live⟩, inner, same⟩ := Option.map_eq_some_iff.mp stepped
    cases same
    refine kept.after (era_change strict (step_effect strict inner)) fun outpoint locks => ?_
    -- Only a lock that was confirmed is one.
    simp only [ChannelInput.locks] at locks
    split at locks
    · cases locks
      obtain ⟨remembered, rfl⟩ | ⟨afresh, current, shut⟩ :=
        confirmFundingLocked_ok (perform_of_step inner)
      · have shut := once remembered
        have current := (kept.settles _ (.head _)).locked _ remembered (shut _ (.head _))
        intro chan mem
        obtain rfl | mem := mem_after mem
        · exact ⟨current, shut _ (.head _)⟩
        · have together := kept.together (fun chan mem => shut chan (.tail _ mem)) chan mem
          exact ⟨together.trans current, shut chan (.tail _ mem)⟩
      · simp [Restartable.after, ChannelInput.stores, afresh, Except.isOk, Except.toBool, current,
          shut]
    · cases locks
  | restart chan state =>
    simp only [machine] at stepped
    split at stepped
    · rename_i mem
      cases stepped
      have settles := kept.settles chan (.tail _ mem)
      refine ⟨?_, fun _ _ mem => ?_, fun outpoint locked => ?_⟩
      · rintro _ (_ | ⟨_, _ | ⟨_, ⟨⟩⟩⟩)
        · exact ⟨settles.window, nofun⟩
        · exact settles
      · rw [List.mem_singleton.mp mem]
      · have shut := kept.shut outpoint locked chan (.tail _ mem)
        rintro _ (_ | ⟨_, _ | ⟨_, ⟨⟩⟩⟩)
        · exact shut
        · exact shut
    · cases stepped

theorem lock_shuts_window (strict : ctx.validator.Strict) {start : Locked} (fresh : Fresh start)
    {history} (run : (machine ctx).Run ⟨start, [start.chan], none⟩ history s)
    (meets : Machine.Meets (fun _ => LocksOnce) history) :
    ∀ outpoint, s.locked = some outpoint → WindowShut ctx outpoint s.live.chan := by
  have settles : start.chan.eras.Settles := by
    rw [fresh.eras]
    exact ⟨fun _ => ⟨rfl, rfl⟩, nofun⟩
  have kept : s.LockKept := run.inv (fun _ s => s.LockKept) meets
    ⟨by simpa using settles, by simp, nofun⟩ fun _ _ _ _ _ kept once stepped =>
      kept.step strict once stepped
  exact fun outpoint locked => kept.windowShut strict locked

end Restartable

namespace Toy

/-- The new funding stays locked over a restart, and its lock is confirmed again. -/
theorem splice_shut : ∃ history, ∃ s : Restartable,
    (Restartable.machine ctx).Run ⟨start, [chan], none⟩ history s ∧ s.locked = some ⟨2, 0⟩
      ∧ WindowShut ctx ⟨2, 0⟩ s.live.chan := by
  let locked := (chan.spliced splicedSetup).fundingLockedState ⟨2, 0⟩
  obtain ⟨history, s, run, meets, same⟩ :
      ∃ history s, (Restartable.machine ctx).Run ⟨start, [chan], none⟩ history s
        ∧ Machine.Meets (fun _ => Restartable.LocksOnce) history ∧ s.locked = some ⟨2, 0⟩ :=
    Machine.exists_run [.step splice, .step lock, .step lock, .restart locked start.state,
      .step lock] (by decide +kernel)
  exact ⟨history, s, run, same, Restartable.lock_shuts_window strict fresh run meets _ same⟩

/-- The lock of the first funding is confirmed again after a splice. A lock that was not stored is
    confirmed when it is asked for again, and a restart opens the window. -/
theorem stale_lock_confirmed :
    (∃ history, ∃ s : Restartable, (Restartable.machine ctx).Run ⟨start, [chan], none⟩ history s
      ∧ s.locked = some ⟨1, 0⟩ ∧ s.live.chan.setup.fundingOutpoint = ⟨2, 0⟩
      ∧ s.live.chan.prevSetup = some setup)
    ∧ ∃ history, ∃ s : Restartable, (Restartable.machine ctx).Run ⟨start, [chan], none⟩ history s
      ∧ s.locked = some ⟨2, 0⟩ ∧ s.live.chan.prevSetup = some setup := by
  let first : RestartableInput := .step (.call env (.confirmFundingLocked ⟨1, 0⟩))
  let unstored : RestartableInput :=
    .step (.call { env with persisted := false } (.confirmFundingLocked ⟨2, 0⟩))
  exact ⟨Machine.exists_run [first, .step splice, first] (by decide +kernel),
    Machine.exists_run [.step splice, unstored, .step lock,
      .restart (chan.spliced splicedSetup) start.state] (by decide +kernel)⟩

end Toy

end Vls
