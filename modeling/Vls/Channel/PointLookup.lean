import Vls.Channel.CounterpartyCounters
import Vls.Channel.CounterpartySignatures
import Vls.Secrets

/-! # The counterparty's points, looked up by number

The point of a commitment signed for the counterparty is kept while it is current, and recomputed
from the secret once it is revoked. In between its point is kept as well, but the lookup asks for it
under the wrong number. -/

namespace Vls

open Channel CounterpartyCommitmentSecrets EnforcementState

variable {n revokeNum : U64} {estate estate' : EnforcementState}
  {commitment : CounterpartyCommitment} {secrets : CounterpartyCommitmentSecrets}
  {oldSecret : SecretKey}

def Channel.getCounterpartyCommitmentPoint (prims : Primitives) (chan : Channel)
    (commitmentNumber : U64) : Result Unit (Option PublicKey) :=
  let state := chan.enforcementState
  let nextCommitNum := state.nextCounterpartyCommitNum
  if nextCommitNum < commitmentNumber + 1 then
    .ok none
  else if nextCommitNum = commitmentNumber + 1 then
    .ok state.currentCounterpartyPoint
  else if nextCommitNum = commitmentNumber then
    .ok state.previousCounterpartyPoint
  else
    match state.counterpartySecrets with
    | some secrets => do
      let secret ← secrets.getSecret prims (initialCommitmentNumber - commitmentNumber)
      .ok (secret.map fun s => prims.publicKey ⟨s⟩)
    | none => .ok none

def SecretStored (estate : EnforcementState) (n : U64) : Prop :=
  n.toNat < 2 ^ 48 ∧ ∃ secrets ∈ estate.counterpartySecrets,
    secrets.getMinSeenSecret ≤ initialCommitmentNumber - n
  deriving Decidable

theorem toNat_secretIndex (small : n.toNat < 2 ^ 48) :
    (initialCommitmentNumber - n).toNat = 2 ^ 48 - 1 - n.toNat := by
  unfold initialCommitmentNumber
  bv_omega

theorem le_toNat_secretIndex (large : 2 ^ 48 ≤ n.toNat) :
    2 ^ 48 ≤ (initialCommitmentNumber - n).toNat := by
  unfold initialCommitmentNumber
  bv_omega

/-- The secrets handed over so far reach as far as the revocations do, or one further, and each is
    that of every commitment signed with its number. -/
structure SecretsOf (prims : Primitives) (side : CounterpartySide)
    (signed : List CounterpartyCommitment)
    (calls : List CounterpartyCommitmentSecrets.SecretCall) : Prop where
  revoked : side.nextCounterpartyRevokeNum.toNat + lastIndex calls ≤ 2 ^ 48 ∨ lastIndex calls = 0
  once : 2 ^ 48 ≤ lastIndex calls + side.nextCounterpartyRevokeNum.toNat + 1
  reach : 2 ^ 48 ≤ lastIndex calls + side.nextCounterpartyCommitNum.toNat
  points : ∀ commitment ∈ signed, commitment.commitmentNumber.toNat < 2 ^ 48 → ∀ secret,
    handedOver (2 ^ 48 - 1 - commitment.commitmentNumber.toNat) calls = some secret →
    commitment.point = prims.publicKey ⟨secret⟩

/-- What the lookup rests on. -/
structure LookupKept (prims : Primitives) (side : CounterpartySide)
    (signed : List CounterpartyCommitment) : Prop where
  points : PointsKept side signed
  narrow : (windowOf side).Narrow
  all : ∀ n, n < side.nextCounterpartyCommitNum →
    ∃ commitment ∈ signed, commitment.commitmentNumber = n
  secrets : ∀ secrets ∈ side.counterpartySecrets, ∃ calls,
    Holds prims calls secrets ∧ SecretsOf prims side signed calls

section steps

variable {ctx : Context} {s s' : Locked} {input : ChannelInput} {events earlier : List Event}

theorem all_signed {eras'}
    (all : ∀ n, n < s.chan.eras.counterparty.nextCounterpartyCommitNum →
      ∃ commitment ∈ signedCommitments earlier, commitment.commitmentNumber = n)
    (change : EraChange ctx s input events eras') :
    ∀ n, n < eras'.counterparty.nextCounterpartyCommitNum →
      ∃ commitment ∈ signedCommitments (events ++ earlier), commitment.commitmentNumber = n := by
  have earlierSigned : ∀ n, n < s.chan.eras.counterparty.nextCounterpartyCommitNum →
      ∃ commitment ∈ signedCommitments (events ++ earlier), commitment.commitmentNumber = n := by
    intro n below
    obtain ⟨commitment, mem, number⟩ := all n below
    refine ⟨commitment, ?_, number⟩
    rw [signedCommitments_append]
    exact List.mem_append_right _ mem
  cases change with
  | signed asked checked signed =>
    rename_i commitment _
    intro n below
    have commitNum := signed.commitNum
    by_cases new : n = commitment.commitmentNumber
    · exact ⟨commitment, by simp [signedCommitments], new.symm⟩
    · refine earlierSigned n ?_
      cases signed.signing with
      | next number => bv_omega
      | again number => bv_omega
      | againAtTop number => bv_omega
  | _ => exact earlierSigned

theorem signed_last {eras'} (change : EraChange ctx s input events eras')
    (member : commitment ∈ signedCommitments events) :
    commitment.commitmentNumber + 1 = eras'.counterparty.nextCounterpartyCommitNum := by
  cases change with
  | signed asked checked signed =>
    cases List.mem_singleton.mp member
    exact signed.commitNum.symm
  | none quiet | promoted _ _ quiet | revoked _ _ _ quiet =>
    rw [quiet.1] at member
    cases member
  | _ => cases member

theorem storeSecret_provided (strict : ctx.validator.Strict)
    (kept : estate.counterpartySecrets = some secrets)
    (stored : storeSecret ctx estate revokeNum oldSecret = .ok estate') :
    ∃ secrets', secrets.provideSecret ctx.prims (initialCommitmentNumber - revokeNum)
        oldSecret.bytes = some secrets' ∧ estate'.counterpartySecrets = some secrets' := by
  rw [storeSecret, kept] at stored
  dsimp only at stored
  cases provided : secrets.provideSecret ctx.prims (initialCommitmentNumber - revokeNum)
      oldSecret.bytes with
  | some secrets' =>
    rw [provided] at stored
    cases stored
    exact ⟨secrets', rfl, rfl⟩
  | none =>
    rw [provided] at stored
    simp only [replaceSecrets, PolicyFilter.policyErrorWithFilter_strict strict,
      Result.err_bind, Result.err_ne_ok] at stored

variable {prims : Primitives} {side side' : CounterpartySide}
  {signed : List CounterpartyCommitment}
  {calls : List CounterpartyCommitmentSecrets.SecretCall}
  {secrets secrets' : CounterpartyCommitmentSecrets}

theorem SecretsOf.seen (of : SecretsOf prims side signed calls)
    (due : revokeNum = side.nextCounterpartyRevokeNum
      ∨ revokeNum + 1 = side.nextCounterpartyRevokeNum)
    (stored : lastIndex calls ≤ (initialCommitmentNumber - revokeNum).toNat)
    (counter : side'.nextCounterpartyRevokeNum = side.nextCounterpartyRevokeNum
      ∨ side'.nextCounterpartyRevokeNum = revokeNum + 1 ∧ side'.nextCounterpartyRevokeNum ≠ 0)
    (commitNum : side'.nextCounterpartyCommitNum = side.nextCounterpartyCommitNum) :
    SecretsOf prims side' signed calls := by
  obtain ⟨revoked, once, reach, points⟩ := of
  refine ⟨?_, ?_, commitNum ▸ reach, points⟩
  · by_cases small : revokeNum.toNat < 2 ^ 48
    · rw [toNat_secretIndex small] at stored
      bv_omega
    · bv_omega
  · bv_omega

theorem SecretsOf.next (of : SecretsOf prims side signed calls)
    (unseen : ∀ i, (handedOver i calls).isSome → lastIndex calls ≤ i)
    (small : revokeNum.toNat < 2 ^ 48)
    (below : (initialCommitmentNumber - revokeNum).toNat + 1 = lastIndex calls)
    (last : revokeNum + 1 = side.nextCounterpartyCommitNum
      ∨ revokeNum + 2 = side.nextCounterpartyCommitNum)
    (point : ∀ commitment ∈ signed, commitment.commitmentNumber = revokeNum →
      commitment.point = prims.publicKey oldSecret)
    (due : revokeNum = side.nextCounterpartyRevokeNum)
    (counter : side'.nextCounterpartyRevokeNum = side.nextCounterpartyRevokeNum
      ∨ side'.nextCounterpartyRevokeNum = revokeNum + 1 ∧ side'.nextCounterpartyRevokeNum ≠ 0)
    (commitNum : side'.nextCounterpartyCommitNum = side.nextCounterpartyCommitNum) :
    SecretsOf prims side' signed
      ((initialCommitmentNumber - revokeNum, oldSecret.bytes) :: calls) := by
  have index := toNat_secretIndex small
  refine ⟨?_, ?_, ?_, ?_⟩
  · simp only [lastIndex]
    bv_omega
  · simp only [lastIndex]
    bv_omega
  · simp only [lastIndex]
    bv_omega
  · intro commitment member inside secret handed
    by_cases number : commitment.commitmentNumber = revokeNum
    · have fresh : handedOver (2 ^ 48 - 1 - commitment.commitmentNumber.toNat) calls = none := by
        rw [← Option.not_isSome_iff_eq_none]
        intro some
        have := unseen _ some
        rw [number] at this
        omega
      rw [handedOver, fresh, index, number, if_pos rfl] at handed
      cases handed
      exact point commitment member number
    · have other : (initialCommitmentNumber - revokeNum).toNat
          ≠ 2 ^ 48 - 1 - commitment.commitmentNumber.toNat := by
        rw [index]
        intro same
        exact number (BitVec.eq_of_toNat_eq (by omega))
      rw [handedOver, if_neg other, Option.or_none] at handed
      exact of.points commitment member inside secret handed

theorem LookupKept.stored (strict : ctx.validator.Strict)
    (kept : LookupKept ctx.prims estate.counterpartySide signed) {counterpartySecrets num}
    (validated : ctx.validator.validateCounterpartyRevocation ctx.prims estate revokeNum oldSecret
      = .ok ())
    (stored : storeSecret ctx estate revokeNum oldSecret
      = .ok { estate with counterpartySecrets })
    (counter : num = estate.nextCounterpartyRevokeNum ∨ num = revokeNum + 1 ∧ num ≠ 0) :
    ∀ secrets' ∈ counterpartySecrets, ∃ calls, Holds ctx.prims calls secrets'
      ∧ SecretsOf ctx.prims { estate.counterpartySide with
        nextCounterpartyRevokeNum := num
        counterpartySecrets } signed calls := by
  obtain ⟨due, previous⟩ := Validator.validateCounterpartyRevocation_ok strict validated
  obtain ⟨last, point⟩ := kept.points.revoked previous
  intro secrets' among
  cases storage : estate.counterpartySecrets with
  | none =>
    rw [storeSecret, storage] at stored
    have same := congrArg (·.counterpartySecrets) (Except.ok.inj stored)
    cases (storage.symm.trans same).trans among
  | some secrets =>
    obtain ⟨calls, holds, of⟩ := kept.secrets secrets storage
    have revoked : estate.nextCounterpartyRevokeNum.toNat + lastIndex calls ≤ 2 ^ 48
      ∨ lastIndex calls = 0 := of.revoked
    have once : 2 ^ 48 ≤ lastIndex calls + estate.nextCounterpartyRevokeNum.toNat + 1 := of.once
    obtain ⟨provided', provided, after⟩ := storeSecret_provided strict storage stored
    obtain rfl := Option.some.inj (after.symm.trans among)
    by_cases seen : lastIndex calls ≤ (initialCommitmentNumber - revokeNum).toNat
    · have least : secrets.getMinSeenSecret ≤ initialCommitmentNumber - revokeNum := by
        rwa [BitVec.le_def, getMinSeenSecret_eq holds.kept holds.within.1]
      rw [provideSecret_seen least provided]
      exact ⟨calls, holds, of.seen due seen counter rfl⟩
    · have within := holds.within.1
      have small : revokeNum.toNat < 2 ^ 48 := by
        by_contra large
        have := le_toNat_secretIndex (not_lt.mp large)
        omega
      have index := toNat_secretIndex small
      have now : revokeNum = estate.nextCounterpartyRevokeNum := by bv_omega
      have below : (initialCommitmentNumber - revokeNum).toNat + 1 = lastIndex calls := by bv_omega
      have stepped : Holds ctx.prims
          ((initialCommitmentNumber - revokeNum, oldSecret.bytes) :: calls) provided' :=
        holds.next below provided
      exact ⟨_, stepped, of.next (fun i some => ((holds.handed i).mp some).1) small below last
        point now counter rfl⟩

theorem LookupKept.unchanged {eras'}
    (kept : LookupKept ctx.prims s.chan.eras.counterparty (signedCommitments earlier))
    (points : PointsKept eras'.counterparty (signedCommitments (events ++ earlier)))
    (grown : s.chan.eras.counterparty.nextCounterpartyCommitNum.toNat
      ≤ eras'.counterparty.nextCounterpartyCommitNum.toNat)
    (counter : eras'.counterparty.nextCounterpartyRevokeNum
      = s.chan.eras.counterparty.nextCounterpartyRevokeNum)
    (change : EraChange ctx s input events eras') (holds : Holds ctx.prims calls secrets)
    (of : SecretsOf ctx.prims s.chan.eras.counterparty (signedCommitments earlier) calls) :
    SecretsOf ctx.prims eras'.counterparty (signedCommitments (events ++ earlier)) calls := by
  obtain ⟨revoked, once, reach, of⟩ := of
  refine ⟨counter ▸ revoked, counter ▸ once, by omega, ?_⟩
  intro commitment member small secret handed
  have among := member
  rw [signedCommitments_append] at member
  obtain now | before := List.mem_append.mp member
  · -- its number was signed before, and both times with the point that is current
    have stored := ((holds.handed _).mp (Option.isSome_iff_exists.mpr ⟨_, handed⟩)).1
    have old : commitment.commitmentNumber
        < s.chan.eras.counterparty.nextCounterpartyCommitNum := by
      rw [BitVec.lt_def]
      omega
    obtain ⟨other, earlierMember, number⟩ := kept.all _ old
    have last := signed_last change now
    have current := points.current commitment among last
    have otherAmong : other ∈ signedCommitments (events ++ earlier) := by
      rw [signedCommitments_append]
      exact List.mem_append_right _ earlierMember
    have same := points.current other otherAmong (number.symm ▸ last)
    rw [Option.some.inj (current.symm.trans same)]
    exact of other earlierMember (number ▸ small) secret (number ▸ handed)
  · exact of commitment before small secret handed

theorem LookupKept.step (strict : ctx.validator.Strict) {eras'}
    (kept : LookupKept ctx.prims s.chan.eras.counterparty (signedCommitments earlier))
    (repeats : RepeatsPoint ctx s input) (change : EraChange ctx s input events eras') :
    LookupKept ctx.prims eras'.counterparty (signedCommitments (events ++ earlier)) := by
  have points := kept.points.step strict repeats change
  obtain ⟨narrow, grown, -⟩ := Narrow.steps kept.narrow (windowOf_step strict kept.narrow change).1
  refine ⟨points, narrow, all_signed kept.all change, ?_⟩
  have unchanged (same : eras'.counterparty.counterpartySecrets
        = s.chan.eras.counterparty.counterpartySecrets)
      (counter : eras'.counterparty.nextCounterpartyRevokeNum
        = s.chan.eras.counterparty.nextCounterpartyRevokeNum) :
      ∀ secrets ∈ eras'.counterparty.counterpartySecrets, ∃ calls, Holds ctx.prims calls secrets
        ∧ SecretsOf ctx.prims eras'.counterparty (signedCommitments (events ++ earlier)) calls := by
    rw [same]
    intro secrets among
    obtain ⟨calls, holds, of⟩ := kept.secrets secrets among
    exact ⟨calls, holds, kept.unchanged points grown counter change holds of⟩
  cases change with
  | revoked validated stored counter quiet =>
    rw [signedCommitments_append, quiet.1]
    exact kept.stored strict validated stored
      (counter.imp_right fun ⟨_, next, nonzero, _⟩ => ⟨next, nonzero⟩)
  | signed _ _ signed => exact unchanged signed.secrets signed.revokeNum
  | _ => exact unchanged rfl rfl

end steps

theorem lookupKept_of_run {ctx} (strict : ctx.validator.Strict) {start s history}
    (fresh : Fresh start) (run : (channelMachine ctx).Run start history s)
    (repeats : Machine.Meets (fun _ => RepeatsPoint ctx) history) :
    LookupKept ctx.prims s.chan.eras.counterparty (signedCommitments (trace ctx history)) := by
  refine run_inv strict (fun _ => RepeatsPoint ctx) (fun events s =>
    LookupKept ctx.prims s.chan.eras.counterparty (signedCommitments events)) run repeats ?_ ?_
  · refine ⟨.of_fresh fresh, narrow_of_fresh fresh, ?_, ?_⟩ <;> rw [fresh.eras]
    · intro n below
      exact absurd below (by simp)
    · intro secrets among
      cases among
      refine ⟨[], holds_new ctx.prims, ?_, ?_, ?_, ?_⟩
      · exact .inl (by simp [lastIndex])
      · simp only [lastIndex]
        omega
      · simp [lastIndex]
      · intro commitment member
        cases member
  · intro earlier s input events s' kept repeats effect
    exact kept.step strict repeats (era_change strict effect)

theorem getSecret_large {prims calls} (holds : Holds prims calls secrets) {idx}
    (large : 2 ^ 48 ≤ idx.toNat) (secret : BitVec 256) :
    getSecret prims secrets idx ≠ .ok (some secret) := by
  unfold getSecret
  split
  · rename_i s j found
    have here := List.mem_zipIdx_iff_getElem?.mp (List.mem_of_find?_eq_some found)
    obtain ⟨_, small, placed, _⟩ := holds.kept.placed _ _ _ (entries_some.mpr ⟨s.2, here, rfl⟩)
    have matched : idx &&& ~~~(((1 : U64) <<< j) - 1) = s.2 := by simpa using List.find?_some found
    have cleared := congrArg BitVec.toNat matched
    rw [toNat_mask idx (by have := placed.1; omega)] at cleared
    have least : 2 ^ 48 ≤ SecretTree.clear j idx.toNat :=
      SecretTree.le_clear (Nat.pow_dvd_pow 2 placed.1) large
    omega
  · split
    · simp
    · simp [Result.panic]

/-- In a run that repeats points, the lookup finds the point of a commitment exactly if the
    commitment is current or its secret is in the store. -/
theorem point_found_iff {ctx : Context} (strict : ctx.validator.Strict) {start s : Locked}
    {history : List ChannelStep} (fresh : Fresh start)
    (run : (channelMachine ctx).Run start history s)
    (repeats : Machine.Meets (fun _ => RepeatsPoint ctx) history)
    (storage : s.chan.enforcementState.counterpartySecrets.isSome) {n : U64}
    (below : n < s.chan.enforcementState.nextCounterpartyCommitNum) :
    (∃ commitment, .counterpartySigned commitment ∈ trace ctx history
      ∧ commitment.commitmentNumber = n) ∧
    ∀ commitment, .counterpartySigned commitment ∈ trace ctx history →
      commitment.commitmentNumber = n →
      (s.chan.getCounterpartyCommitmentPoint ctx.prims n = .ok (some commitment.point) ↔
        n + 1 = s.chan.enforcementState.nextCounterpartyCommitNum
          ∨ SecretStored s.chan.enforcementState n) := by
  have kept := lookupKept_of_run strict fresh run repeats
  simp only [← mem_signedCommitments]
  refine ⟨kept.all n below, ?_⟩
  rintro commitment member rfl
  have notAhead : ¬ s.chan.enforcementState.nextCounterpartyCommitNum
      < commitment.commitmentNumber + 1 := by bv_omega
  unfold Channel.getCounterpartyCommitmentPoint
  dsimp only
  rw [if_neg notAhead]
  by_cases last : commitment.commitmentNumber + 1
      = s.chan.enforcementState.nextCounterpartyCommitNum
  · rw [if_pos last.symm]
    exact iff_of_true (congrArg _ (kept.points.current commitment member last)) (.inl last)
  · have notNext : ¬ s.chan.enforcementState.nextCounterpartyCommitNum
        = commitment.commitmentNumber := by bv_omega
    rw [if_neg (fun same => last same.symm), if_neg notNext]
    obtain ⟨secrets, among⟩ := Option.isSome_iff_exists.mp storage
    obtain ⟨calls, holds, of⟩ := kept.secrets secrets among
    simp only [among, last, false_or, SecretStored, Option.mem_some_iff, exists_eq_left']
    by_cases small : commitment.commitmentNumber.toNat < 2 ^ 48
    · have index := toNat_secretIndex small
      have found := holds.givesBack.found (initialCommitmentNumber - commitment.commitmentNumber)
        (by omega)
      rw [found, index, BitVec.le_def, getMinSeenSecret_eq holds.kept holds.within.1, index]
      have handed := holds.handed (2 ^ 48 - 1 - commitment.commitmentNumber.toNat)
      cases known : handedOver (2 ^ 48 - 1 - commitment.commitmentNumber.toNat) calls with
      | some secret =>
        rw [of.points commitment member small secret known]
        exact iff_of_true rfl ⟨small, (handed.mp (known ▸ rfl)).1⟩
      | none =>
        refine iff_of_false (by simp [bind, Except.bind]) fun stored => ?_
        have := handed.mpr ⟨stored.2, by omega⟩
        rw [known] at this
        cases this
    · refine iff_of_false ?_ fun stored => small stored.1
      intro found
      obtain ⟨secret, got, same⟩ := Result.bind_eq_ok.mp found
      cases secret with
      | none => cases same
      | some secret =>
        exact getSecret_large holds (le_toNat_secretIndex (not_lt.mp small)) secret got

/-- The first commitment is found once it is revoked. -/
theorem revoked_point_found :
    ∃ history s commitment, (channelMachine Toy.ctx).Run Toy.start history s
      ∧ .counterpartySigned commitment ∈ trace Toy.ctx history ∧ commitment.commitmentNumber = 0
      ∧ s.chan.getCounterpartyCommitmentPoint Toy.prims 0 = .ok (some commitment.point) := by
  obtain ⟨history, s, run, repeats, storage, below, stored⟩ :
      ∃ history s, (channelMachine Toy.ctx).Run Toy.start history s
        ∧ Machine.Meets (fun _ => RepeatsPoint Toy.ctx) history
        ∧ s.chan.enforcementState.counterpartySecrets.isSome
        ∧ 0 < s.chan.enforcementState.nextCounterpartyCommitNum
        ∧ SecretStored s.chan.enforcementState 0 :=
    Machine.exists_run [Toy.signCounterparty Toy.setup 21 0 999000,
      Toy.signCounterparty Toy.setup 22 1 999000,
      .call Toy.env (.validateCounterpartyRevocation 0 ⟨21⟩)] (by decide +kernel)
  obtain ⟨⟨commitment, signed, number⟩, found⟩ :=
    point_found_iff Toy.strict Toy.fresh run repeats storage below
  exact ⟨history, s, commitment, run, signed, number,
    (found commitment signed number).mpr (.inr stored)⟩

/-- Between the second signature and the first revocation the first commitment is not found, though
    its point is kept. -/
theorem previous_point_not_found :
    ∃ history s, (channelMachine Toy.ctx).Run Toy.start history s
      ∧ Machine.Meets (fun _ => RepeatsPoint Toy.ctx) history
      ∧ s.chan.enforcementState.counterpartySecrets.isSome
      ∧ s.chan.enforcementState.nextCounterpartyCommitNum = 2
      ∧ (∃ commitment ∈ signedCommitments (trace Toy.ctx history),
        commitment.commitmentNumber = 0
        ∧ s.chan.enforcementState.previousCounterpartyPoint = some commitment.point)
      ∧ s.chan.getCounterpartyCommitmentPoint Toy.prims 0 = .ok none :=
  Machine.exists_run [Toy.signCounterparty Toy.setup 21 0 999000,
    Toy.signCounterparty Toy.setup 22 1 999000] (by decide +kernel)

end Vls
