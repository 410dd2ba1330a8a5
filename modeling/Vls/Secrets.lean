import Vls.Channel.Toy
import Vls.Lib.SecretTree

/-! # The store of the counterparty's revocation secrets

Secrets come in descending order of a 48-bit index. The store keeps one per position of the lowest
set bit, and derives from these every secret it was given. -/

namespace Vls.CounterpartyCommitmentSecrets

open SecretTree BitVec

/-- Insert a secret. The store is changed last, once nothing can fail any more. -/
def provide (prims : Primitives) (idx : U64) (secret : BitVec 256) :
    Call Unit CounterpartyCommitmentSecrets Unit := do
  let secrets ← get
  let pos := placeSecret idx
  if secrets.oldSecrets.length < pos then
    throw (.err ())
  if (secrets.oldSecrets.take pos).any (fun old => deriveSecret prims secret pos old.2 ≠ old.1) then
    throw (.err ())
  if secrets.getMinSeenSecret ≤ idx then
    return
  if pos < secrets.oldSecrets.length then
    set (CounterpartyCommitmentSecrets.mk (secrets.oldSecrets.set pos (secret, idx)))
  else
    set (CounterpartyCommitmentSecrets.mk (secrets.oldSecrets ++ [(secret, idx)]))

def getSecret (prims : Primitives) (secrets : CounterpartyCommitmentSecrets) (idx : U64) :
    Result Unit (Option (BitVec 256)) :=
  match secrets.oldSecrets.zipIdx.find? fun entry =>
      idx &&& ~~~(((1 : U64) <<< entry.2) - 1) = entry.1.2 with
  | some (old, i) => .ok (some (deriveSecret prims old.1 i idx))
  | none =>
    if idx < secrets.getMinSeenSecret then .ok none
    else Result.panic "assertion failed: idx < self.get_min_seen_secret()"

theorem provide_eq (prims : Primitives) (secrets : CounterpartyCommitmentSecrets) (idx : U64)
    (secret : BitVec 256) :
    provide prims idx secret secrets =
      match secrets.provideSecret prims idx secret with
      | some secrets' => .ok () secrets'
      | none => .error (.err ()) secrets := by
  simp only [provide, provideSecret, Call.get_bind]
  split
  · rfl
  · split
    · rfl
    · split
      · rfl
      · split
        · rfl
        · rfl

/-- The step to a child flips a bit and hashes. -/
def child (prims : Primitives) (bitpos : Nat) (secret : BitVec 256) : BitVec 256 :=
  prims.sha256 (flipBit secret bitpos)

theorem deriveSecret_eq (prims : Primitives) (secret : BitVec 256) (bits : Nat) (idx : U64) :
    deriveSecret prims secret bits idx = derive (child prims) bits idx.toNat secret := by
  induction bits generalizing secret with
  | zero => rfl
  | succ bitpos ih =>
    simp only [deriveSecret, derive, testBit_toNat, ih]
    rfl

theorem dvd_of_testBit {p j} (zero : ∀ b < p, j.testBit b = false) : 2 ^ p ∣ j := by
  apply Nat.dvd_of_mod_eq_zero
  apply Nat.eq_of_testBit_eq
  intro b
  rw [Nat.testBit_mod_two_pow, Nat.zero_testBit]
  by_cases below : b < p
  · simp [zero b below]
  · simp [below]

theorem placeSecret_placed (idx : U64) : Placed 48 (placeSecret idx) idx.toNat := by
  unfold placeSecret
  cases found : (List.range 48).find? (fun i => idx.getLsbD i) with
  | none =>
    rw [List.find?_eq_none] at found
    refine ⟨le_rfl, dvd_of_testBit fun b below => ?_, fun lt => absurd lt (lt_irrefl _)⟩
    simpa [testBit_toNat] using found b (List.mem_range.mpr below)
  | some i =>
    obtain ⟨set, bound, lower⟩ := List.find?_range_eq_some.mp found
    have small : i < 48 := List.mem_range.mp bound
    refine ⟨small.le, dvd_of_testBit fun b below => ?_, fun _ dvd => ?_⟩
    · simpa [testBit_toNat] using lower b below
    · have clear := testBit_of_dvd dvd (Nat.lt_succ_self i)
      rw [testBit_toNat] at clear
      rw [clear] at set
      cases set

theorem toNat_ones {p} (small : p < 64) : (((1 : U64) <<< p) - 1).toNat = 2 ^ p - 1 := by
  have fits : 2 ^ p < 2 ^ 64 := Nat.pow_lt_pow_right (by omega) small
  have shifted : ((1 : U64) <<< p).toNat = 2 ^ p := by
    rw [toNat_shiftLeft, Nat.shiftLeft_eq]
    exact (congrArg (· % 2 ^ 64) (Nat.one_mul _)).trans (Nat.mod_eq_of_lt fits)
  have positive := Nat.two_pow_pos p
  rw [toNat_sub_of_le (le_def.mpr (by rw [shifted]; exact positive)), shifted]
  rfl

theorem toNat_mask (idx : U64) {p} (small : p < 64) :
    (idx &&& ~~~(((1 : U64) <<< p) - 1)).toNat = clear p idx.toNat := by
  apply Nat.eq_of_testBit_eq
  intro b
  have ones : (((1 : U64) <<< p) - 1).getLsbD b = decide (b < p) := by
    rw [← testBit_toNat, toNat_ones small, Nat.testBit_two_pow_sub_one]
  rw [testBit_toNat, getLsbD_and, getLsbD_not, ones, clear,
    Nat.testBit_shiftLeft, Nat.testBit_shiftRight, testBit_toNat]
  by_cases above : p ≤ b
  · have : ¬ b < p := by omega
    simp [above, this]
    exact lt_of_getLsbD
  · have : b < p := by omega
    simp [above, this]

def entries (secrets : CounterpartyCommitmentSecrets) : List (BitVec 256 × Nat) :=
  secrets.oldSecrets.map fun entry => (entry.1, entry.2.toNat)

theorem entries_some {secrets : CounterpartyCommitmentSecrets} {p : Nat} {s j} :
    secrets.entries[p]? = some (s, j) ↔ ∃ idx : U64, secrets.oldSecrets[p]? = some (s, idx) ∧
      idx.toNat = j := by
  rw [entries, List.getElem?_map, Option.map_eq_some_iff]
  constructor
  · rintro ⟨⟨s', idx⟩, here, same⟩
    cases same
    exact ⟨idx, here, rfl⟩
  · rintro ⟨idx, here, rfl⟩
    exact ⟨_, here, rfl⟩

theorem foldl_least (entries : List (BitVec 256 × U64)) (start : U64) (bound : Nat) :
    bound ≤ (entries.foldl
        (fun least entry => if entry.2 < least then entry.2 else least) start).toNat ↔
      bound ≤ start.toNat ∧ ∀ entry ∈ entries, bound ≤ entry.2.toNat := by
  induction entries generalizing start with
  | nil => simp
  | cons first rest ih =>
    rw [List.foldl_cons, ih, List.forall_mem_cons]
    split
    · rename_i lower
      have := lt_def.mp lower
      constructor
      · intro h
        exact ⟨by omega, h⟩
      · intro h
        exact h.2
    · rename_i notLower
      have := lt_def.not.mp notLower
      constructor
      · intro h
        exact ⟨h.1, by omega, h.2⟩
      · intro h
        exact ⟨h.1, h.2.2⟩

section kept

variable {prims : Primitives} {secrets : CounterpartyCommitmentSecrets} {m : Nat}
  {secret : Nat → BitVec 256}

variable {idx : U64} {secrets' : CounterpartyCommitmentSecrets} {new : BitVec 256}

theorem getMinSeenSecret_eq (kept : Kept (child prims) 48 m secret secrets.entries)
    (within : m ≤ 2 ^ 48) : secrets.getMinSeenSecret.toNat = m := by
  have bound := foldl_least secrets.oldSecrets (1 <<< 48)
  apply le_antisymm
  · obtain ⟨start, least⟩ := (bound _).mp le_rfl
    obtain rfl | inside := Nat.eq_or_lt_of_le within
    · exact start
    · -- the entry of the least index is at its own position
      have placed := placeSecret_placed (BitVec.ofNat 64 m)
      rw [BitVec.toNat_ofNat, Nat.mod_eq_of_lt (by omega)] at placed
      obtain ⟨s, here⟩ := kept.lookup le_rfl inside placed
        (Nat.lt_add_of_pos_right (Nat.two_pow_pos _))
      obtain ⟨idx, entry, same⟩ := entries_some.mp here
      exact same ▸ least _ (List.mem_of_getElem? entry)
  · refine (bound m).mpr ⟨within, fun entry mem => ?_⟩
    obtain ⟨p, here⟩ := List.mem_iff_getElem?.mp mem
    exact (kept.placed p _ _ (entries_some.mpr ⟨entry.2, here, rfl⟩)).1

/-- The store gives back the secret of every index that was handed over, and of no other. -/
theorem getSecret_eq (kept : Kept (child prims) 48 m secret secrets.entries) (within : m ≤ 2 ^ 48)
    (small : idx.toNat < 2 ^ 48) :
    getSecret prims secrets idx
      = .ok (if m ≤ idx.toNat then some (secret idx.toNat) else none) := by
  have position : ∀ {p s} {j : U64}, secrets.oldSecrets[p]? = some (s, j) → p < 64 := by
    intro p s j here
    have := (kept.placed p _ _ (entries_some.mpr ⟨j, here, rfl⟩)).2.2.1.1
    omega
  have matches_iff : ∀ {p s} {j : U64}, secrets.oldSecrets[p]? = some (s, j) →
      (idx &&& ~~~(((1 : U64) <<< p) - 1) = j ↔ clear p idx.toNat = j.toNat) := by
    intro p s j here
    rw [← toNat_inj, toNat_mask idx (position here)]
  unfold getSecret
  cases found : secrets.oldSecrets.zipIdx.find? fun entry =>
      idx &&& ~~~(((1 : U64) <<< entry.2) - 1) = entry.1.2 with
  | some entry =>
    obtain ⟨⟨s, j⟩, p⟩ := entry
    have here : secrets.oldSecrets[p]? = some (s, j) :=
      List.mem_zipIdx_iff_getElem?.mp (List.mem_of_find?_eq_some found)
    have below := (matches_iff here).mp (by simpa using List.find?_some found)
    have listed := entries_some.mpr ⟨j, here, rfl⟩
    have least := (kept.placed p _ _ listed).1
    have := clear_le p idx.toNat
    have handed : m ≤ idx.toNat := by omega
    simp only [if_pos handed, deriveSecret_eq, kept.derives p _ _ listed _ below]
  | none =>
    have missed : idx.toNat < m := by
      by_contra inside
      obtain ⟨p, s, listed⟩ := kept.covered (not_lt.mp inside) small
      obtain ⟨j, here, same⟩ := entries_some.mp listed
      have := List.find?_eq_none.mp found ((s, j), p) (List.mem_zipIdx_iff_getElem?.mpr here)
      exact this (by simpa using (matches_iff here).mpr same.symm)
    have lower : idx < secrets.getMinSeenSecret := by
      rw [lt_def, getMinSeenSecret_eq kept within]
      exact missed
    simp only [if_pos lower]
    rw [if_neg (by omega)]

theorem kept_provideSecret (kept : Kept (child prims) 48 (idx.toNat + 1) secret secrets.entries)
    (within : idx.toNat + 1 ≤ 2 ^ 48)
    (provided : secrets.provideSecret prims idx new = some secrets') :
    Kept (child prims) 48 idx.toNat (Function.update secret idx.toNat new) secrets'.entries := by
  have fresh : ¬ secrets.getMinSeenSecret ≤ idx := by
    rw [le_def, getMinSeenSecret_eq kept within]
    omega
  unfold provideSecret at provided
  dsimp only at provided
  split at provided
  · cases provided
  · rename_i room
    split at provided
    · cases provided
    · rename_i agree
      have written : secrets'.entries =
          Kept.write secrets.entries (placeSecret idx) (new, idx.toNat) := by
        unfold Kept.write
        split at provided
        · rename_i inside
          cases provided
          rw [if_pos (by simpa [entries] using inside)]
          simp [entries]
        · rename_i outside
          cases provided
          rw [if_neg (by simpa [entries] using outside)]
          simp [entries]
      rw [written]
      refine kept.next (by omega) (placeSecret_placed idx) (by simpa [entries] using room) ?_
      intro q s j lower here
      obtain ⟨old, there, rfl⟩ := entries_some.mp here
      rw [← deriveSecret_eq]
      have mem : (s, old) ∈ secrets.oldSecrets.take (placeSecret idx) := by
        refine List.mem_of_getElem? (i := q) ?_
        rw [List.getElem?_take_of_lt lower, there]
      simpa using mt (fun differs => List.any_eq_true.mpr ⟨_, mem, decide_eq_true differs⟩) agree

theorem provideSecret_seen (seen : secrets.getMinSeenSecret ≤ idx)
    (provided : secrets.provideSecret prims idx new = some secrets') : secrets' = secrets := by
  unfold provideSecret at provided
  grind

end kept

abbrev SecretCall := U64 × BitVec 256

/-- The store taking one call after the other; the answer says whether the call was accepted. -/
def machine (prims : Primitives) : Machine CounterpartyCommitmentSecrets SecretCall Bool where
  step secrets call :=
    match provide prims call.1 call.2 secrets with
    | .ok _ secrets' => some (true, secrets')
    | .error (.err _) secrets' => some (false, secrets')
    | .error (.panic _) _ => none

abbrev History := List (Machine.Step CounterpartyCommitmentSecrets SecretCall Bool)

def accepted (history : History) : List SecretCall :=
  (history.filter (·.output)).map (·.input)

def lastIndex : List SecretCall → Nat
  | [] => 2 ^ 48
  | call :: _ => call.1.toNat

def handedOver (idx : Nat) : List SecretCall → Option (BitVec 256)
  | [] => none
  | call :: earlier =>
    (handedOver idx earlier).or (if call.1.toNat = idx then some call.2 else none)

/-- The call hands over the secret of the next index down, or is a retry of the last. -/
def InOrder (calls : List SecretCall) (call : SecretCall) : Prop :=
  call.1.toNat + 1 = lastIndex calls ∨ calls ≠ [] ∧ call.1.toNat = lastIndex calls
  deriving Decidable

structure Holds (prims : Primitives) (calls : List SecretCall)
    (secrets : CounterpartyCommitmentSecrets) : Prop where
  kept : Kept (child prims) 48 (lastIndex calls) (fun i => (handedOver i calls).getD 0)
    secrets.entries
  within : lastIndex calls ≤ 2 ^ 48 ∧ (calls ≠ [] → lastIndex calls < 2 ^ 48)
  handed : ∀ i, (handedOver i calls).isSome ↔ lastIndex calls ≤ i ∧ i < 2 ^ 48

section calls

variable {prims : Primitives} {calls : List SecretCall} {call : SecretCall}
  {secrets secrets' : CounterpartyCommitmentSecrets}

theorem holds_new (prims : Primitives) : Holds prims [] new where
  kept := Kept.nil _ 48 _
  within := ⟨le_rfl, fun nonempty => absurd rfl nonempty⟩
  handed := by
    intro i
    simp only [handedOver, lastIndex, Option.isSome_none, Bool.false_eq_true, false_iff]
    omega

theorem Holds.next (holds : Holds prims calls secrets) (below : call.1.toNat + 1 = lastIndex calls)
    (provided : secrets.provideSecret prims call.1 call.2 = some secrets') :
    Holds prims (call :: calls) secrets' := by
  obtain ⟨kept, ⟨within, -⟩, handed⟩ := holds
  rw [← below] at kept within handed
  have unseen : handedOver call.1.toNat calls = none := by
    rw [← Option.not_isSome_iff_eq_none, handed]
    omega
  have other : ∀ i, i ≠ call.1.toNat → handedOver i (call :: calls) = handedOver i calls := by
    intro i different
    simp [handedOver, different.symm]
  have this : handedOver call.1.toNat (call :: calls) = some call.2 := by simp [handedOver, unseen]
  refine ⟨?_, ⟨by simp only [lastIndex]; omega, fun _ => by simp only [lastIndex]; omega⟩, ?_⟩
  · have updated : (fun i => (handedOver i (call :: calls)).getD 0) =
        Function.update (fun i => (handedOver i calls).getD 0) call.1.toNat call.2 := by
      funext i
      by_cases same : i = call.1.toNat
      · subst same
        rw [Function.update_self, this, Option.getD_some]
      · rw [Function.update_of_ne same, other i same]
    rw [updated]
    exact kept_provideSecret kept within provided
  · intro i
    simp only [lastIndex]
    by_cases same : i = call.1.toNat
    · subst same
      simp only [this, Option.isSome_some, le_refl, true_and, true_iff]
      omega
    · rw [other i same, handed]
      omega

theorem Holds.retry (holds : Holds prims calls secrets) (nonempty : calls ≠ [])
    (same : call.1.toNat = lastIndex calls)
    (provided : secrets.provideSecret prims call.1 call.2 = some secrets') :
    Holds prims (call :: calls) secrets' := by
  have seen : secrets.getMinSeenSecret ≤ call.1 := by
    rw [le_def, getMinSeenSecret_eq holds.kept holds.within.1, same]
  have unchanged : ∀ i, handedOver i (call :: calls) = handedOver i calls := by
    intro i
    by_cases this : call.1.toNat = i
    · have some : (handedOver i calls).isSome :=
        (holds.handed i).mpr ⟨by omega, this ▸ same ▸ holds.within.2 nonempty⟩
      obtain ⟨secret, earlier⟩ := Option.isSome_iff_exists.mp some
      simp [handedOver, earlier]
    · simp [handedOver, this]
  have last : lastIndex (call :: calls) = lastIndex calls := same
  rw [provideSecret_seen seen provided]
  refine ⟨?_, last ▸ ⟨holds.within.1, fun _ => holds.within.2 nonempty⟩, ?_⟩
  · simpa only [last, unchanged] using holds.kept
  · simpa only [last, unchanged] using holds.handed

theorem step_cases {accepted}
    (stepped : (machine prims).step secrets call = some (accepted, secrets')) :
    accepted = true ∧ secrets.provideSecret prims call.1 call.2 = some secrets' ∨
      accepted = false ∧ secrets.provideSecret prims call.1 call.2 = none ∧ secrets' = secrets := by
  simp only [machine, provide_eq] at stepped
  cases provided : secrets.provideSecret prims call.1 call.2 with
  | none =>
    rw [provided] at stepped
    cases stepped
    exact .inr ⟨rfl, rfl, rfl⟩
  | some stored =>
    rw [provided] at stepped
    cases stepped
    exact .inl ⟨rfl, rfl⟩

end calls

/-- What the store is for, after the calls of a history. -/
structure GivesBack (prims : Primitives) (calls : List SecretCall)
    (secrets : CounterpartyCommitmentSecrets) : Prop where
  found : ∀ idx : U64, idx.toNat < 2 ^ 48 →
    getSecret prims secrets idx = .ok (handedOver idx.toNat calls)
  handed : ∀ idx : U64, idx.toNat < 2 ^ 48 →
    ((handedOver idx.toNat calls).isSome ↔ lastIndex calls ≤ idx.toNat)
  few : secrets.oldSecrets.length ≤ 49
  /-- A rejected call leaves the store as it is. -/
  rejected : ∀ call secrets', (machine prims).step secrets call = some (false, secrets') →
    secrets' = secrets

theorem Holds.givesBack {prims calls secrets} (holds : Holds prims calls secrets) :
    GivesBack prims calls secrets where
  found := by
    intro idx small
    rw [getSecret_eq holds.kept holds.within.1 small]
    have handed := holds.handed idx.toNat
    split
    · rename_i inside
      obtain ⟨secret, some⟩ := Option.isSome_iff_exists.mp (handed.mpr ⟨inside, small⟩)
      simp [some]
    · rename_i outside
      have none := mt handed.mp fun inside => outside inside.1
      rw [Option.not_isSome_iff_eq_none.mp none]
  handed := by
    intro idx small
    rw [holds.handed]
    exact and_iff_left small
  few := by
    have := holds.kept.length_le
    simpa [entries] using this
  rejected := by
    intro call secrets' stepped
    obtain ⟨same, -⟩ | ⟨-, -, same⟩ := step_cases stepped
    · cases same
    · exact same

/-- After any calls of which the accepted ones come in order, the store gives back the secret that
    was handed over for every index from the last one up, and none below. -/
theorem secrets_given_back {prims : Primitives} {history : History}
    {secrets : CounterpartyCommitmentSecrets} (run : (machine prims).Run new history secrets)
    (ordered : Machine.Meets (fun earlier before call =>
      (before.provideSecret prims call.1 call.2).isSome →
        InOrder (accepted earlier) call) history) :
    GivesBack prims (accepted history) secrets := by
  refine Holds.givesBack ?_
  refine run.inv (fun history secrets => Holds prims (accepted history) secrets) ordered
    (holds_new prims) ?_
  intro history secrets call output secrets' holds inOrder stepped
  obtain ⟨rfl, provided⟩ | ⟨rfl, -, rfl⟩ := step_cases stepped
  · obtain below | ⟨nonempty, same⟩ := inOrder (provided ▸ rfl)
    · exact holds.next below provided
    · exact holds.retry nonempty same provided
  · exact holds

def toySecret (idx : U64) : BitVec 256 :=
  deriveSecret Toy.prims 0 48 idx

def toyCalls : List SecretCall :=
  [(0xffffffffffff, toySecret 0xffffffffffff), (0xfffffffffffe, 1),
    (0xfffffffffffe, toySecret 0xfffffffffffe), (0xfffffffffffd, toySecret 0xfffffffffffd),
    (0xfffffffffffd, toySecret 0xfffffffffffd), (0xfffffffffffc, toySecret 0xfffffffffffc)]

theorem four_secrets_given_back :
    ∃ history secrets, (machine Toy.prims).Run new history secrets ∧
      (accepted history).length = 5 ∧ GivesBack Toy.prims (accepted history) secrets := by
  have ran : ∃ history secrets, (machine Toy.prims).Run new history secrets ∧
      Machine.Meets (fun earlier before call =>
        (before.provideSecret Toy.prims call.1 call.2).isSome → InOrder (accepted earlier) call)
        history ∧
      (accepted history).length = 5 :=
    Machine.exists_run toyCalls (by decide +kernel)
  obtain ⟨history, secrets, run, ordered, some⟩ := ran
  exact ⟨history, secrets, run, some, secrets_given_back run ordered⟩

end Vls.CounterpartyCommitmentSecrets
