import Vls.Channel.Revocation

/-! # The gate before a secret

The secret of a holder commitment may be handed out once two later commitments exist. The gate
compares words, and the key store reads the low 48 bits of a position. The two highest numbers get
past the gate and reach positions of numbers that are nowhere near. -/

namespace Vls

open Channel Call

/-- The request of the protocol to revoke a commitment: its successor becomes the current one, and
    there has to be a secret. -/
def revokeCommitmentTx (ctx : Context) (env : Env) (commitmentNumber : U64) :
    ChannelCall (PublicKey × SecretKey) := do
  let released ← revokePreviousHolderCommitment ctx env (commitmentNumber + 1)
  match released.2 with
  | some oldSecret => return (released.1, oldSecret)
  | none => throw (.err (Status.invalidArgument
      s!"no old secret for commitment {commitmentNumber.toNat}"))

inductive SecretCall where
  | getPerCommitmentSecret (commitmentNumber : U64)
  | getPerCommitmentSecretOrNone (commitmentNumber : U64)
  | revokePreviousHolderCommitment (newCurrentCommitmentNumber : U64)
  | revokeCommitmentTx (commitmentNumber : U64)

namespace SecretCall

def run (ctx : Context) (env : Env) : SecretCall → ChannelCall (Option SecretKey)
  | .getPerCommitmentSecret commitmentNumber => do
    let s ← get
    let secret ← s.chan.getPerCommitmentSecret ctx commitmentNumber
    return some secret
  | .getPerCommitmentSecretOrNone commitmentNumber => do
    let s ← get
    return s.chan.getPerCommitmentSecretOrNone ctx commitmentNumber
  | .revokePreviousHolderCommitment newCurrentCommitmentNumber => do
    let released ← Channel.revokePreviousHolderCommitment ctx env newCurrentCommitmentNumber
    return released.2
  | .revokeCommitmentTx commitmentNumber => do
    let released ← Vls.revokeCommitmentTx ctx env commitmentNumber
    return some released.2

def number : SecretCall → U64
  | .getPerCommitmentSecret commitmentNumber => commitmentNumber
  | .getPerCommitmentSecretOrNone commitmentNumber => commitmentNumber
  | .revokePreviousHolderCommitment newCurrentCommitmentNumber => newCurrentCommitmentNumber - 1
  | .revokeCommitmentTx commitmentNumber => commitmentNumber

def revokedCounter (estate : EnforcementState) (newCurrentCommitmentNumber : U64) : U64 :=
  if newCurrentCommitmentNumber = estate.nextHolderCommitNum ∧ estate.nextHolderCommitInfo.isSome
  then estate.nextHolderCommitNum + 1
  else estate.nextHolderCommitNum

def counter (estate : EnforcementState) : SecretCall → U64
  | .getPerCommitmentSecret _ => estate.nextHolderCommitNum
  | .getPerCommitmentSecretOrNone _ => estate.nextHolderCommitNum
  | .revokePreviousHolderCommitment newCurrentCommitmentNumber =>
    revokedCounter estate newCurrentCommitmentNumber
  | .revokeCommitmentTx commitmentNumber => revokedCounter estate (commitmentNumber + 1)

/-- The number passes the gate only because adding two to it wraps around, and the position it
    leads to belongs to a number that is not obsolete. -/
def Wraps (number counter : U64) : Prop :=
  number = 0xfffffffffffffffe ∧ counter.toNat < 2 ^ 48
    ∨ number = 0xffffffffffffffff ∧ counter.toNat ≤ 2 ^ 48
  deriving Decidable

end SecretCall

section gate

variable {ctx : Context} {env : Env} {s : Locked}

theorem revokePreviousHolderCommitment_discloses (strict : ctx.validator.Strict) (n : U64) :
    Ends (revokePreviousHolderCommitment ctx env n) s
      (fun released s' => ∀ key, released.2 = some key → key = s.chan.commitmentSecret ctx (n - 1)
        ∧ s'.chan.enforcementState.nextHolderCommitNum
          = SecretCall.revokedCounter s.chan.enforcementState n
        ∧ ¬ n - 1 + 2 > SecretCall.revokedCounter s.chan.enforcementState n)
      (fun _ _ => True) := by
  simp only [revokePreviousHolderCommitment, ends_bind, ends_get]
  by_cases current : n = s.chan.enforcementState.nextHolderCommitNum
  · rw [if_neg (not_not.mpr current)]
    subst current
    split
    · rw [ends_bind, ends_lift_validation, PolicyFilter.policyErrorWithFilter_strict strict]
      trivial
    · rename_i info2 signatures pending
      have counter : SecretCall.revokedCounter s.chan.enforcementState
          s.chan.enforcementState.nextHolderCommitNum
          = s.chan.enforcementState.nextHolderCommitNum + 1 := by
        simp [SecretCall.revokedCounter, pending]
      rw [ends_bind, Locked.ends_modifyEstate, ends_bind, ends_get]
      refine Ends.lift (fun _ _ => trivial) ?_
      intro delta _
      rw [ends_bind]
      refine (advanceHolderCommitmentState_ends info2 signatures).mono ?_ (fun _ _ _ => trivial)
      rintro released _ ⟨rfl, ok⟩
      refine Ends.lift (fun _ _ => trivial) ?_
      intro state _
      simp only [ends_bind, ends_modify, ends_lift, ends_pure]
      refine ⟨?_, fun _ _ => trivial⟩
      intro _ _ key disclosed
      rcases releaseCommitmentSecret_ok strict ok with ⟨_, none⟩ | ⟨_, gate, some⟩
      · cases none.symm.trans disclosed
      · rw [counter]
        exact ⟨Option.some.inj (disclosed.symm.trans some), rfl, gate⟩
  · have counter : SecretCall.revokedCounter s.chan.enforcementState n
        = s.chan.enforcementState.nextHolderCommitNum := by
      simp [SecretCall.revokedCounter, current]
    rw [if_pos current, ends_lift]
    refine ⟨?_, fun _ _ => trivial⟩
    intro released ok key disclosed
    rcases releaseCommitmentSecret_ok strict ok with ⟨_, none⟩ | ⟨_, gate, some⟩
    · cases none.symm.trans disclosed
    · rw [counter]
      exact ⟨Option.some.inj (disclosed.symm.trans some), rfl, gate⟩

theorem SecretCall.run_discloses (strict : ctx.validator.Strict) (call : SecretCall) :
    Ends (call.run ctx env) s
      (fun disclosed s' => ∀ key, disclosed = some key →
        key = s.chan.commitmentSecret ctx call.number
        ∧ s'.chan.enforcementState.nextHolderCommitNum = call.counter s.chan.enforcementState
        ∧ ¬ call.number + 2 > call.counter s.chan.enforcementState)
      (fun _ _ => True) := by
  cases call with
  | getPerCommitmentSecret n =>
    simp only [run, ends_bind, ends_get, ends_lift, ends_pure, getPerCommitmentSecret_eq_ok strict]
    refine ⟨?_, fun _ _ => trivial⟩
    rintro _ ⟨gate, rfl⟩ key disclosed
    exact ⟨(Option.some.inj disclosed).symm, rfl, gate⟩
  | getPerCommitmentSecretOrNone n =>
    simp only [run, ends_bind, ends_get, ends_pure, Channel.getPerCommitmentSecretOrNone]
    intro key disclosed
    by_cases gate : n + 2 > s.chan.enforcementState.nextHolderCommitNum
    · rw [if_pos gate] at disclosed
      cases disclosed
    · rw [if_neg gate] at disclosed
      exact ⟨(Option.some.inj disclosed).symm, rfl, gate⟩
  | revokePreviousHolderCommitment n =>
    simp only [run, ends_bind, ends_pure]
    exact revokePreviousHolderCommitment_discloses strict n
  | revokeCommitmentTx n =>
    simp only [run, Vls.revokeCommitmentTx, ends_bind, ends_pure]
    have plain : n + 1 - 1 = n := by bv_omega
    refine (revokePreviousHolderCommitment_discloses strict (n + 1)).mono ?_ (fun _ _ _ => trivial)
    intro released s' discloses
    rw [plain] at discloses
    split
    · rename_i oldSecret some
      intro key same
      rw [← Option.some.inj same]
      exact discloses oldSecret some
    · trivial

/-- The positions reached by numbers that passed the gate, seen as numbers without a bound. -/
theorem obsolete_iff_not_wraps {number counter} (gate : ¬ number + 2 > counter) :
    (∃ m : ℕ, m + 2 ≤ counter.toNat ∧ secretIndex (BitVec.ofNat 64 m) = secretIndex number)
      ↔ ¬ SecretCall.Wraps number counter := by
  constructor
  · rintro ⟨m, obsolete, same⟩ wraps
    have position := congrArg BitVec.toNat same
    simp only [secretIndex, initialCommitmentNumber, BitVec.truncate_eq_setWidth,
      BitVec.toNat_setWidth] at position
    rcases wraps with ⟨rfl, low⟩ | ⟨rfl, low⟩
    · bv_omega
    · bv_omega
  · intro plain
    by_cases high : number.toNat + 2 < 2 ^ 64
    · refine ⟨number.toNat, ?_, ?_⟩
      · bv_omega
      · rw [BitVec.ofNat_toNat, BitVec.setWidth_eq]
    · have highest : number = 0xfffffffffffffffe ∨ number = 0xffffffffffffffff := by bv_omega
      simp only [SecretCall.Wraps, not_or, not_and, not_lt, not_le] at plain
      rcases highest with rfl | rfl
      · exact ⟨2 ^ 48 - 2, plain.1 rfl, by decide⟩
      · exact ⟨2 ^ 48 - 1, plain.2 rfl, by decide⟩

/-- A secret that is handed out is the one at the position of the number asked for. It belongs to a
    commitment that two later ones made obsolete, exactly if the number does not wrap around. -/
theorem disclosed_secret_obsolete_iff (strict : ctx.validator.Strict) {call : SecretCall}
    {s' : Locked} {key : SecretKey} (ran : call.run ctx env s = .ok (some key) s') :
    key = ⟨ctx.prims.buildCommitmentSecret s.chan.keys.commitmentSeed (secretIndex call.number)⟩
      ∧ ((∃ m : ℕ, m + 2 ≤ s'.chan.enforcementState.nextHolderCommitNum.toNat
          ∧ secretIndex (BitVec.ofNat 64 m) = secretIndex call.number)
        ↔ ¬ SecretCall.Wraps call.number (call.counter s.chan.enforcementState)) := by
  obtain ⟨secret, counter, gate⟩ := (call.run_discloses strict).ok ran key rfl
  refine ⟨secret, ?_⟩
  rw [counter]
  exact obsolete_iff_not_wraps gate

end gate

/-- With two commitments validated, the secret of the first is handed out. -/
theorem disclosed_first_secret :
    ∃ key s', (SecretCall.getPerCommitmentSecret 0).run Toy.ctx Toy.env
        { Toy.start with chan.enforcementState.nextHolderCommitNum := 2 } = .ok (some key) s'
      ∧ key = ⟨Toy.prims.buildCommitmentSecret 0 (secretIndex 0)⟩
      ∧ ∃ m : ℕ, m + 2 ≤ 2 ∧ secretIndex (BitVec.ofNat 64 m) = secretIndex 0 := by
  let s := { Toy.start with chan.enforcementState.nextHolderCommitNum := 2 }
  have ran : (SecretCall.getPerCommitmentSecret 0).run Toy.ctx Toy.env s
      = .ok (some (s.chan.commitmentSecret Toy.ctx 0)) s := rfl
  obtain ⟨secret, obsolete⟩ := disclosed_secret_obsolete_iff Toy.strict ran
  exact ⟨_, _, ran, secret, obsolete.mpr (by decide)⟩

/-- A channel that was just set up hands out the secret of a commitment far ahead. -/
theorem wrapped_number_passes_gate :
    Fresh Toy.start
      ∧ (SecretCall.getPerCommitmentSecret 0xfffffffffffffffe).run Toy.ctx Toy.env Toy.start
        = .ok (some (Toy.chan.commitmentSecret Toy.ctx 0xfffffffffffe)) Toy.start
      ∧ ¬ ∃ m : ℕ, m + 2 ≤ Toy.start.chan.enforcementState.nextHolderCommitNum.toNat
        ∧ Toy.chan.commitmentSecret Toy.ctx (BitVec.ofNat 64 m)
          = Toy.chan.commitmentSecret Toy.ctx 0xfffffffffffe := by
  refine ⟨Toy.fresh, by rfl, ?_⟩
  rintro ⟨m, obsolete, _⟩
  simp [Toy.start, Toy.chan, EnforcementState.new] at obsolete

end Vls
