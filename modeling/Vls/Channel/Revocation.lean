import Vls.Channel.Eras
import Vls.Channel.Toy
import Vls.Lib.RevocableChain

/-! # Signing and revoking the holder's commitments

A holder commitment that is signed must never be revoked, and the other way round. The channel
follows the moves of a revocable chain as long as it does not move on from a commitment that it
signed, and numbers do not run over. -/

namespace Vls

open List

theorem secretIndex_toNat {n} (small : n.toNat < 2 ^ 48) :
    (secretIndex n).toNat = 2 ^ 48 - 1 - n.toNat := by
  simp only [secretIndex, initialCommitmentNumber, BitVec.truncate_eq_setWidth,
    BitVec.toNat_setWidth]
  bv_omega

theorem secretIndex_inj {n k} (small : n.toNat < 2 ^ 48) (small' : k.toNat < 2 ^ 48)
    (same : secretIndex n = secretIndex k) : n = k := by
  have := congrArg BitVec.toNat same
  rw [secretIndex_toNat small, secretIndex_toNat small'] at this
  bv_omega

def chainOf (estate : EnforcementState) (trace : List Event) : RevocableChain where
  next := estate.nextHolderCommitNum.toNat
  published := { n | ∃ number : U64, number.toNat = n ∧ .holderSigned number ∈ trace }
  revealed := { n | n < 2 ^ 48 ∧ .secretReleased (secretIndex (BitVec.ofNat 64 n)) ∈ trace }

/-- The commitment numbers are those of the protocol, a secret is asked for by a number that has
    successors, and a channel is not moved on from a commitment that was signed. -/
def RevokesSafely (earlier : List Event) (s : Locked) : ChannelInput → Prop
  | .others _ => True
  | .call _ request =>
    s.chan.enforcementState.nextHolderCommitNum.toNat < 2 ^ 48
      ∧ request.secretNumber.all (fun n => n.toNat + 2 < 2 ^ 64)
      ∧ (request.movesOn s →
        .holderSigned (s.chan.enforcementState.nextHolderCommitNum - 1) ∉ earlier)

instance (earlier : List Event) (s : Locked) :
    (input : ChannelInput) → Decidable (RevokesSafely earlier s input)
  | .others _ | .call .. => by unfold RevokesSafely; infer_instance

section chain

variable {estate : EnforcementState} {events : List Event}

theorem chainOf_released {n} (small : n.toNat < 2 ^ 48) :
    chainOf estate (.secretReleased (secretIndex n) :: events)
      = { chainOf estate events with
        revealed := insert n.toNat (chainOf estate events).revealed } := by
  have revealed : (chainOf estate (.secretReleased (secretIndex n) :: events)).revealed
      = insert n.toNat (chainOf estate events).revealed := by
    ext k
    simp only [chainOf, mem_cons, Set.mem_ofPred_eq, Set.mem_insert_iff]
    constructor
    · rintro ⟨smallK, same | earlier⟩
      · have number : BitVec.ofNat 64 k = n := by
          refine secretIndex_inj ?_ small (Event.secretReleased.inj same)
          simp only [BitVec.toNat_ofNat]
          omega
        left
        rw [← number, BitVec.toNat_ofNat]
        omega
      · exact .inr ⟨smallK, earlier⟩
    · rintro (rfl | ⟨smallK, earlier⟩)
      · rw [BitVec.ofNat_toNat, BitVec.setWidth_eq]
        exact ⟨small, .inl rfl⟩
      · exact ⟨smallK, .inr earlier⟩
  simp only [chainOf, mem_cons, reduceCtorEq, false_or] at revealed ⊢
  rw [revealed]

theorem chainOf_signed {n} :
    chainOf estate (.holderSigned n :: events) = { chainOf estate events with
          published := insert n.toNat (chainOf estate events).published } := by
  have published : (chainOf estate (.holderSigned n :: events)).published
      = insert n.toNat (chainOf estate events).published := by
    ext k
    simp only [chainOf, mem_cons, Event.holderSigned.injEq, Set.mem_ofPred_eq, Set.mem_insert_iff]
    constructor
    · rintro ⟨number, rfl, rfl | earlier⟩
      · exact .inl rfl
      · exact .inr ⟨number, rfl, earlier⟩
    · rintro (rfl | ⟨number, rfl, earlier⟩)
      · exact ⟨n, rfl, .inl rfl⟩
      · exact ⟨number, rfl, .inr earlier⟩
  simp only [chainOf, mem_cons, reduceCtorEq, false_or] at published ⊢
  rw [published]

theorem chainOf_other {event} (notSigned : ∀ n, event ≠ .holderSigned n)
    (notReleased : ∀ index, event ≠ .secretReleased index) :
    chainOf estate (event :: events) = chainOf estate events := by
  simp [chainOf, (notSigned _).symm, (notReleased _).symm]

end chain

structure OnChain (s : Locked) (events : List Event) : Prop where
  unsigned : s.chan.enforcementState.nextHolderCommitNum = 0 →
    s.chan.enforcementState.currentCounterpartySignatures = none
  small : ∀ n, .holderSigned n ∈ events → n.toNat < 2 ^ 48

theorem OnChain.of_fresh {s} (fresh : Fresh s) : OnChain s [] where
  unsigned := by
    obtain ⟨value, new⟩ := fresh.enforcementState
    intro _
    rw [new]
    rfl
  small := by
    intro n member
    cases member

section step

open RevocableChain Relation

variable {ctx : Context} {s s' : Locked} {input : ChannelInput} {events earlier : List Event}

theorem OnChain.closing_number (strict : ctx.validator.Strict) (onChain : OnChain s earlier)
    {request : ChannelRequest} {closing} (asked : request.closing ctx s = some closing) :
    closing.commitmentNumber.toNat = s.chan.enforcementState.nextHolderCommitNum.toNat
      ∨ closing.commitmentNumber.toNat + 1 = s.chan.enforcementState.nextHolderCommitNum.toNat := by
  rcases closing_spec strict asked with ⟨next, _⟩ | ⟨current, _, signed⟩
  · exact .inl (congrArg BitVec.toNat next)
  · -- the number before the first one would be the highest word, but nothing is signed yet
    have positive : s.chan.enforcementState.nextHolderCommitNum ≠ 0 := by
      intro zero
      cases (onChain.unsigned zero).symm.trans signed
    right
    bv_omega

theorem unsigned_step {eras'} (onChain : OnChain s earlier)
    (safely : RevokesSafely earlier s input) (change : EraChange ctx s input events eras') :
    eras'.holder.next = 0 → eras'.holder.signatures = none := by
  cases change with
  | promoted =>
    have numbered : s.chan.slots.next.toNat < 2 ^ 48 := safely.1
    intro zero
    bv_omega
  | reactivated _ second =>
    intro zero
    cases second.symm.trans zero
  | spliced => exact fun _ => rfl
  | _ => exact onChain.unsigned

theorem OnChain.small_signed (strict : ctx.validator.Strict) (onChain : OnChain s earlier)
    (safely : RevokesSafely earlier s input) (effect : StepEffect ctx s input events s') {n}
    (member : .holderSigned n ∈ events) : n.toNat < 2 ^ 48 := by
  cases effect with
  | others state => cases member
  | call effect =>
    cases effect with
    | closed recorded asked disclosed =>
      have number := onChain.closing_number strict asked
      have numbered := safely.1
      rcases disclosed with rfl | rfl
      · cases member
      · cases mem_singleton.mp member
        omega
    | advanced pending balances applied disclosed =>
      rcases disclosed with rfl | ⟨_, rfl⟩ <;> simp at member
    | revoked validated stored advanced disclosed =>
      rcases disclosed with rfl | rfl <;> simp at member
    | locked => split at member <;> simp at member
    | _ => simp at member

theorem OnChain.step (strict : ctx.validator.Strict) (onChain : OnChain s earlier)
    (safely : RevokesSafely earlier s input) (effect : StepEffect ctx s input events s') :
    OnChain s' (events ++ earlier) where
  unsigned := unsigned_step onChain safely (era_change strict effect)
  small n member := (mem_append.mp member).elim (onChain.small_signed strict safely effect)
    (onChain.small n)

theorem chainOf_advance (earlier : List Event)
    (numbered : s.chan.enforcementState.nextHolderCommitNum.toNat < 2 ^ 48)
    (unsigned : s.chan.enforcementState.nextHolderCommitNum ≠ 0 →
      .holderSigned (s.chan.enforcementState.nextHolderCommitNum - 1) ∉ earlier)
    (info2 : CommitmentInfo2) (signatures : CommitmentSignatures) :
    Move (chainOf s.chan.enforcementState earlier)
      (chainOf (s.chan.enforcementState.promoted info2 signatures) earlier) := by
  have moved : (s.chan.enforcementState.nextHolderCommitNum + 1).toNat
      = s.chan.enforcementState.nextHolderCommitNum.toNat + 1 := by
    bv_omega
  have unpublished : ∀ n ∈ (chainOf s.chan.enforcementState earlier).published,
      n + 1 ≠ (chainOf s.chan.enforcementState earlier).next := by
    rintro _ ⟨number, rfl, signed⟩ current
    have current : number.toNat + 1 = s.chan.enforcementState.nextHolderCommitNum.toNat := current
    have same : number = s.chan.enforcementState.nextHolderCommitNum - 1 := by bv_omega
    exact unsigned (by bv_omega) (same ▸ signed)
  have promoted : chainOf (s.chan.enforcementState.promoted info2 signatures) earlier
      = { chainOf s.chan.enforcementState earlier with
          next := (chainOf s.chan.enforcementState earlier).next + 1 } := by
    simp only [chainOf, EnforcementState.promoted, moved]
  exact promoted ▸ .advance unpublished

theorem chainOf_step (strict : ctx.validator.Strict) (onChain : OnChain s earlier)
    (safely : RevokesSafely earlier s input) (effect : StepEffect ctx s input events s') :
    ReflTransGen Move (chainOf s.chan.enforcementState earlier)
      (chainOf s'.chan.enforcementState (events ++ earlier)) := by
  cases effect with
  | others state => exact .refl
  | call effect =>
    obtain ⟨numbered, plain, unsigned⟩ := safely
    cases effect with
    | idle | dropped | reactivated | spliced | fulfilled => exact .refl
    | released asked gate =>
      rename_i n
      have noWrap : n.toNat + 2 < 2 ^ 64 := by simpa [asked] using plain
      have obsolete : n.toNat + 2 ≤ s.chan.enforcementState.nextHolderCommitNum.toNat := by bv_omega
      rw [singleton_append, chainOf_released (by omega)]
      exact .single (.reveal n.toNat obsolete)
    | validated straggler asked checked =>
      rename_i commitment
      obtain ⟨_, _, _, same⟩ :=
        storeHolderCommitment_eq s.chan.enforcementState commitment straggler
      rw [singleton_append, chainOf_other (by simp) (by simp)]
      simp only [Locked.withEstate, same]
      exact .refl
    | stalled pending =>
      have unsigned := unsigned (by simp [ChannelRequest.movesOn, pending])
      exact .single (chainOf_advance earlier numbered (fun _ => unsigned) _ _)
    | advanced pending balances applied disclosed =>
      rename_i info2 signatures _ _
      have unsigned := unsigned (by simp [ChannelRequest.movesOn, pending])
      have advanced := chainOf_advance earlier numbered (fun _ => unsigned) info2 signatures
      rcases disclosed with rfl | ⟨positive, rfl⟩
      · exact .single advanced
      · refine (ReflTransGen.single advanced).tail ?_
        rw [singleton_append, chainOf_released (by bv_omega)]
        refine .reveal _ ?_
        simp only [chainOf, EnforcementState.promoted]
        bv_omega
    | activated pending first =>
      exact .single (chainOf_advance earlier numbered (fun later => absurd first later) _ _)
    | closed recorded asked disclosed =>
      rename_i closing
      have number := onChain.closing_number strict asked
      rcases disclosed with rfl | rfl
      · exact .refl
      · rw [singleton_append, chainOf_signed]
        exact .single (.publish _ number)
    | signed asked checked signed =>
      obtain ⟨_, _, _, _, same⟩ := counterpartySigned_eq strict signed.advanced
      rw [singleton_append, chainOf_other (by simp) (by simp), same]
      exact .refl
    | stored stored =>
      obtain ⟨_, rfl⟩ := storeSecret_eq strict stored
      exact .refl
    | revoked validated stored advanced disclosed =>
      obtain ⟨-, _, _, rfl⟩ := revoked_eq strict stored advanced
      rcases disclosed with rfl | rfl
      · exact .refl
      · rw [singleton_append, chainOf_other (by simp) (by simp)]
        exact .refl
    | locked unlocked current =>
      rename_i outpoint
      obtain ⟨_, _, same⟩ := fundingLockedState_eq s.chan outpoint
      simp only [same]
      split
      · rw [singleton_append, chainOf_other (by simp) (by simp)]
        exact .refl
      · exact .refl

end step

theorem run_follows_chain {ctx} (strict : ctx.validator.Strict) {start s history}
    (fresh : Fresh start) (run : (channelMachine ctx).Run start history s)
    (safely : Machine.Meets (fun history => RevokesSafely (trace ctx history)) history) :
    OnChain s (trace ctx history) ∧ Relation.ReflTransGen RevocableChain.Move .init
        (chainOf s.chan.enforcementState (trace ctx history)) := by
  have kept : ∀ history s input output s', OnChain s (trace ctx history) →
      RevokesSafely (trace ctx history) s input →
      (channelMachine ctx).step s input = some (output, s') →
      OnChain s' (trace ctx (⟨s, input, output⟩ :: history)) := by
    intro history s input output s' onChain safely stepped
    rw [trace_cons]
    exact onChain.step strict safely (step_effect strict stepped)
  have init : chainOf start.chan.enforcementState (trace ctx []) = .init := by
    obtain ⟨value, new⟩ := fresh.enforcementState
    rw [new]
    simp [chainOf, trace, RevocableChain.init, EnforcementState.new]
  refine ⟨run.inv _ safely (OnChain.of_fresh fresh) kept, ?_⟩
  rw [← init]
  refine run.simulates (fun history s => chainOf s.chan.enforcementState (trace ctx history)) _
    safely (OnChain.of_fresh fresh) kept ?_
  intro history s input output s' onChain safely stepped
  rw [trace_cons]
  exact chainOf_step strict onChain safely (step_effect strict stepped)

/-- In a run that keeps to its chain no commitment is both signed and revoked. -/
theorem signed_not_revoked {ctx : Context} (strict : ctx.validator.Strict) {start s : Locked}
    {history : List ChannelStep} (fresh : Fresh start)
    (run : (channelMachine ctx).Run start history s)
    (safely : Machine.Meets (fun history => RevokesSafely (trace ctx history)) history) (n : U64) :
    ¬ (.holderSigned n ∈ trace ctx history
      ∧ .secretReleased (secretIndex n) ∈ trace ctx history) := by
  obtain ⟨onChain, moves⟩ := run_follows_chain strict fresh run safely
  have apart := Set.disjoint_left.mp (RevocableChain.disjoint_of_moves moves)
  rintro ⟨signed, released⟩
  have published : n.toNat ∈ (chainOf s.chan.enforcementState (trace ctx history)).published :=
    ⟨n, rfl, signed⟩
  refine apart published ⟨onChain.small n signed, ?_⟩
  rw [BitVec.ofNat_toNat, BitVec.setWidth_eq]
  exact released

open Toy

def revokeThenSign : List ChannelInput :=
  [validateHolder setup 0, activate, validateHolder setup 1, revoke 1,
    .call env (.signHolderCommitmentTxPhase2 1)]

theorem revoked_then_signed_next :
    ∃ history s, (channelMachine Toy.ctx).Run Toy.start history s
      ∧ .secretReleased (secretIndex 0) ∈ trace Toy.ctx history
      ∧ .holderSigned 1 ∈ trace Toy.ctx history
      ∧ ∀ n, ¬ (.holderSigned n ∈ trace Toy.ctx history
        ∧ .secretReleased (secretIndex n) ∈ trace Toy.ctx history) := by
  obtain ⟨history, s, run, safely, released, signed⟩ :
      ∃ history s, (channelMachine Toy.ctx).Run Toy.start history s
        ∧ Machine.Meets (fun history => RevokesSafely (trace Toy.ctx history)) history
        ∧ .secretReleased (secretIndex 0) ∈ trace Toy.ctx history
        ∧ .holderSigned 1 ∈ trace Toy.ctx history :=
    Machine.exists_run revokeThenSign (by decide +kernel)
  exact ⟨history, s, run, released, signed, signed_not_revoked Toy.strict Toy.fresh run safely⟩

def signThenRevoke : List ChannelInput :=
  [validateHolder setup 0, activate, validateHolder setup 1,
    .call env (.signHolderCommitmentTxPhase2 0), revoke 1]

theorem signed_then_revoked :
    ∃ history s, (channelMachine Toy.ctx).Run Toy.start history s
      ∧ .holderSigned 0 ∈ trace Toy.ctx history
      ∧ .secretReleased (secretIndex 0) ∈ trace Toy.ctx history :=
  Machine.exists_run signThenRevoke (by decide +kernel)

end Vls
