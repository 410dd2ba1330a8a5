import Vls.Persist.Cloud

/-! # What an authenticator is made over

The bytes of a statement are the secret, its nonce and the fields of its records, one after the
other; those of a stored value are the fields of its record. Where a field ends is not among them,
so they tell a statement only to one who knows how long its fields are. -/

namespace Vls.Cloud

open List

variable (b : U8) (entry : VersionedEntry Key Value)

def filledEntry : VersionedEntry Key Value :=
  (entry.1.map fun _ => b, b.toNat * 0x0101010101010101, entry.2.2.map fun _ => b)

def SameLengths (e f : VersionedEntry Key Value) : Prop :=
  filledEntry 0 e = filledEntry 0 f

namespace Statement

def filled (b : U8) : Statement → Statement
  | put muts => put (muts.map (filledEntry b))
  | stored muts => stored (muts.map (filledEntry b))
  | state nonce kvs => state (nonce.map fun _ => b) (kvs.map (filledEntry b))

/-- The statements have one role, nonces of one length and records of the same lengths. -/
def Alike (s t : Statement) : Prop :=
  s.filled 0 = t.filled 0

/-- The bytes that `compute_shared_hmac` feeds to the engine. -/
def hmacInput (secret : List U8) (s : Statement) : List U8 :=
  secret ++ (s.nonce ++ s.kvs.flatMap addToHmac)

/-- A version has 64 bits. -/
def Sent (s : Statement) : Prop :=
  ∀ entry ∈ s.kvs, entry.2.1 < 2 ^ 64

/-- Statements with the lengths of these two are the same if their bytes are. -/
def Unambiguous (secret : List U8) (s t : Statement) : Prop :=
  ∀ s' t' : Statement, s'.Sent → t'.Sent → s'.Alike s → t'.Alike t →
    s'.hmacInput secret = t'.hmacInput secret → s' = t'

/-- The lengths of the nonce and of the keys, versions and values of the records, in sum. -/
def size (s : Statement) : Nat :=
  s.nonce.length + (s.kvs.map fun entry => entry.1.length + 8 + entry.2.2.length).sum

/-- The lengths are the same, or differ in their sum, or one statement asks for a put and the other
    acknowledges one. -/
def ToldFrom (s t : Statement) : Prop :=
  s.Alike t ∨ s.size ≠ t.size ∨
    ∃ muts muts', s = put muts ∧ t = stored muts' ∨ s = stored muts ∧ t = put muts'

end Statement

theorem versionBytes_inj {v w} (small : v < 2 ^ 64) (small' : w < 2 ^ 64)
    (same : versionBytes v = versionBytes w) : v = w := by
  simp only [versionBytes, range, range.loop, map, cons.injEq,
    ← BitVec.toNat_inj, BitVec.toNat_ofNat, Nat.shiftRight_eq_div_pow] at same
  omega

theorem addToHmac_inj {e f rest rest'} (small : e.2.1 < 2 ^ 64) (small' : f.2.1 < 2 ^ 64)
    (lengths : SameLengths e f) (same : addToHmac e ++ rest = addToHmac f ++ rest') :
    e = f ∧ rest = rest' := by
  obtain ⟨key, version, value⟩ := e
  obtain ⟨key', version', value'⟩ := f
  simp only [SameLengths, filledEntry, Prod.mk.injEq, map_const', replicate_inj]
    at lengths
  simp only [addToHmac, append_assoc] at same
  obtain ⟨keys, same⟩ := append_inj same lengths.1.1
  obtain ⟨versions, same⟩ := append_inj same (by simp [versionBytes])
  obtain ⟨values, same⟩ := append_inj same lengths.2.2.1
  have version := versionBytes_inj small small' versions
  exact ⟨by simp_all, same⟩

theorem flatMap_addToHmac_inj {kvs kvs' : Mutations} (small : ∀ entry ∈ kvs, entry.2.1 < 2 ^ 64)
    (small' : ∀ entry ∈ kvs', entry.2.1 < 2 ^ 64)
    (lengths : kvs.map (filledEntry 0) = kvs'.map (filledEntry 0))
    (same : kvs.flatMap addToHmac = kvs'.flatMap addToHmac) : kvs = kvs' := by
  induction kvs generalizing kvs' with
  | nil => exact (map_eq_nil_iff.mp lengths.symm).symm
  | cons e kvs ih =>
    cases kvs' with
    | nil => cases lengths
    | cons f kvs' =>
      obtain ⟨first, others⟩ := cons.inj lengths
      simp only [flatMap_cons] at same
      rw [forall_mem_cons] at small small'
      obtain ⟨rfl, rest⟩ := addToHmac_inj small.1 small'.1 first same
      rw [ih small.2 small'.2 others rest]

@[simp]
theorem filledEntry_filled (c : U8) :
    filledEntry b (filledEntry c entry) = filledEntry b entry := by
  simp [filledEntry]

theorem filledEntry_lt : (filledEntry b entry).2.1 < 2 ^ 64 := by
  have bound := b.isLt
  simp only [filledEntry]
  omega

theorem addToHmac_filled : addToHmac (filledEntry b entry) = (addToHmac entry).map fun _ => b := by
  have version : ∀ b : U8, versionBytes (b.toNat * 0x0101010101010101) = replicate 8 b := by
    decide +kernel
  have length : (versionBytes entry.2.1).length = 8 := by simp [versionBytes]
  simp [addToHmac, filledEntry, version, length]

namespace Statement

variable {s t : Statement} {secret : List U8}

@[simp]
theorem filled_filled (c : U8) (s : Statement) : (s.filled c).filled b = s.filled b := by
  cases s <;> simp [filled, Function.comp_def]

theorem kvs_filled (s : Statement) : (s.filled b).kvs = s.kvs.map (filledEntry b) := by
  cases s <;> rfl

theorem sent_filled (s : Statement) : (s.filled b).Sent := by
  intro entry mem
  rw [kvs_filled] at mem
  obtain ⟨entry, _, rfl⟩ := mem_map.mp mem
  exact filledEntry_lt b entry

theorem hmacInput_filled {b : U8} (marked : (s.filled b).nonce = s.nonce.map fun _ => b) :
    (s.filled b).hmacInput secret = secret ++ (s.hmacInput []).map fun _ => b := by
  simp only [hmacInput, marked, kvs_filled, nil_append, map_append, flatMap_map,
    addToHmac_filled, map_flatMap]

theorem length_filled (s : Statement) :
    ((s.filled b).hmacInput secret).length = (s.hmacInput secret).length := by
  cases s <;>
    simp [hmacInput, filled, nonce, kvs, flatMap_map, addToHmac_filled, length_flatMap]

theorem length_hmacInput (s : Statement) : (s.hmacInput []).length = s.size := by
  simp [hmacInput, size, addToHmac, versionBytes, length_flatMap, Nat.add_assoc]

theorem exists_marked
    (alike : ¬ ∃ muts muts', s = put muts ∧ t = stored muts' ∨ s = stored muts ∧ t = put muts') :
    ∃ b : U8, ((s.filled b).nonce = s.nonce.map fun _ => b) ∧
      (t.filled b).nonce = t.nonce.map fun _ => b := by
  cases s <;> cases t
  case stored.stored | stored.state | state.stored => exact ⟨2, rfl, rfl⟩
  case put.stored | stored.put => simp at alike
  all_goals exact ⟨1, rfl, rfl⟩

theorem eq_of_hmacInput (sent : s.Sent) (sent' : t.Sent) (alike : s.Alike t)
    (same : s.hmacInput secret = t.hmacInput secret) : s = t := by
  have spelled := append_cancel_left same
  have lengths := congrArg kvs alike
  rw [kvs_filled, kvs_filled] at lengths
  have nonces : s.nonce.length = t.nonce.length := by
    cases s <;> cases t <;> simp_all [Alike, filled, nonce]
  obtain ⟨nonces, records⟩ := append_inj spelled nonces
  have kvs := flatMap_addToHmac_inj sent sent' lengths records
  cases s <;> cases t <;> simp_all [Alike, filled, nonce, Statement.kvs]

/-- The bytes of a value in the store, whose authenticator is over its record alone. -/
theorem hmacInput_value : (state [] [entry]).hmacInput [] = addToHmac entry := by
  simp [hmacInput, nonce, kvs]

/-- Bytes are told apart by their lengths. With the secret left out, and an empty nonce, this is
    about the values in the store. -/
theorem unambiguous_iff (secret : List U8) (s t : Statement) :
    s.Unambiguous secret t ↔ s.ToldFrom t := by
  simp only [ToldFrom, ← length_hmacInput]
  refine ⟨fun told => ?_, fun told s' t' sent sent' alike alike' same => ?_⟩
  · by_contra apart
    simp only [not_or, not_not] at apart
    obtain ⟨unlike, sizes, roles⟩ := apart
    -- A byte that both roles allow for fills both statements.
    obtain ⟨b, marked, marked'⟩ := exists_marked roles
    have same : s.filled b = t.filled b := told _ _ (s.sent_filled b) (t.sent_filled b)
      (s.filled_filled 0 b) (t.filled_filled 0 b) (by
        rw [hmacInput_filled marked, hmacInput_filled marked', map_const', map_const', sizes])
    exact unlike (by rw [Alike, ← s.filled_filled 0 b, same, t.filled_filled])
  · obtain lengths | sizes | ⟨_, _, ⟨rfl, rfl⟩ | ⟨rfl, rfl⟩⟩ := told
    · exact eq_of_hmacInput sent sent' (alike.trans (lengths.trans alike'.symm)) same
    · have sizes' := congrArg length (append_cancel_left same)
      rw [← s.length_filled 0, ← t.length_filled 0, ← alike, ← alike', s'.length_filled,
        t'.length_filled] at sizes
      exact absurd sizes' sizes
    all_goals cases s' <;> cases t' <;> simp_all [Alike, filled, hmacInput, nonce]

/-- A byte is moved from a value to its version and from the version to the key, and a put is taken
    for an answer. -/
theorem moved_bytes : let secret := replicate 32 7
    (put [([97], 1, [5])]).hmacInput secret = (put [([97, 0], 0x105, [])]).hmacInput secret ∧
      addToHmac ([97], 1, [5]) = addToHmac ([97, 0], 0x105, []) ∧
      (put [(replicate 23 97, 0, [])]).hmacInput secret =
        (state (1 :: replicate 23 97 ++ replicate 8 0) []).hmacInput secret := by
  decide

end Statement

end Vls.Cloud
