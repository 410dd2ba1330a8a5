import Vls.Lib.Window
import Vls.NodeState

/-! # The velocity of payments and fees

The control counts in buckets of time. As long as the clock does not go back behind the bucket that
it last showed, no window that is a bucket shorter than the buckets together has seen more than the
limit. -/

namespace BitVec

variable {w : Nat} {x y : BitVec w}

theorem toNat_saturatingAdd : (x.saturatingAdd y).toNat = min (x.toNat + y.toNat) (2 ^ w - 1) := by
  unfold saturatingAdd
  split
  · rename_i fits
    rw [toNat_add, Nat.mod_eq_of_lt fits]
    omega
  · rw [toNat_allOnes]
    omega

theorem toNat_foldl_saturatingAdd {xs : List (BitVec w)} :
    (xs.foldl saturatingAdd x).toNat = min (x.toNat + (xs.map BitVec.toNat).sum) (2 ^ w - 1) := by
  induction xs generalizing x with
  | nil =>
    have := x.isLt
    simp only [List.foldl_nil, List.map_nil, List.sum_nil]
    omega
  | cons y rest ih =>
    rw [List.foldl_cons, ih, toNat_saturatingAdd, List.map_cons, List.sum_cons]
    omega

end BitVec

namespace Vls.VelocityControl

abbrev Insertion := U64 × U64

def newWithIntervals (limitMsat : U64) (bucketInterval : U32) (numBuckets : Nat) :
    VelocityControl :=
  ⟨0, bucketInterval, List.replicate numBuckets 0, limitMsat⟩

variable {control : VelocityControl} {now amount : U64} {inserts seen : List Insertion}

section

variable (control)

def width : Nat := control.bucketInterval.toNat

def bucketOf (now : U64) : Nat := now.toNat / control.width

def advance (now : U64) : VelocityControl :=
  { control with
    buckets := Window.shift
      ((now - control.startSec) / control.bucketInterval.zeroExtend 64).toNat control.buckets
    startSec := now - now % control.bucketInterval.zeroExtend 64 }

def after (inserts : List Insertion) : VelocityControl :=
  inserts.foldl (fun control i => (control.insert i.1 i.2).2) control

def answers : VelocityControl → List Insertion → List Bool
  | _, [] => []
  | control, (now, amount) :: rest =>
    (control.insert now amount).1 :: answers (control.insert now amount).2 rest

def accepted : VelocityControl → List Insertion → List Insertion
  | _, [] => []
  | control, (now, amount) :: rest =>
    (if (control.insert now amount).1 then [(now, amount)] else [])
      ++ accepted (control.insert now amount).2 rest

/-- No reading of the clock is before the bucket of the one before it. -/
def Forward : VelocityControl → List Insertion → Prop
  | _, [] => True
  | control, (now, amount) :: rest =>
    control.startSec ≤ now ∧ Forward (control.insert now amount).2 rest

def within (since upto : Nat) (inserts : List Insertion) : Nat :=
  ((inserts.filter fun i => since ≤ i.1.toNat ∧ i.1.toNat ≤ upto).map (·.2.toNat)).sum

/-- A limited control that has been made by its constructor, and used. -/
structure Sound : Prop where
  interval : 0 < control.width
  nonempty : control.buckets ≠ []
  limited : control.limit < BitVec.allOnes 64
  aligned : control.startSec.toNat % control.width = 0

/-- No subtraction of a call underflows, no divisor is zero, and there is a bucket to add to. -/
structure Computes (now : U64) : Prop where
  forward : control.startSec ≤ now
  divides : control.bucketInterval ≠ 0
  indexes : control.buckets ≠ []

/-- What a control is for: the limit is kept in every window, what is refused is as if it had not
    been asked for, and no call panics. -/
structure Controls (inserts : List Insertion) : Prop where
  bounded : ∀ since, within since (since + (control.buckets.length - 1) * control.width)
    (control.accepted inserts) ≤ control.limit.toNat
  harmless : ∀ done now amount later, inserts = done ++ (now, amount) :: later →
    ((control.after done).insert now amount).1 = false →
    answers (control.after (done ++ [(now, amount)])) later = answers (control.after done) later
  computes : ∀ done now amount later, inserts = done ++ (now, amount) :: later →
    (control.after done).Computes now

end

theorem insert_eq : control.insert now amount
    = if (control.advance now).velocity.saturatingAdd amount > control.limit then
        (false, control.advance now)
      else (true, { control.advance now with
        buckets := (control.advance now).buckets.modifyHead (·.saturatingAdd amount) }) := by
  rw [insert, advance, Window.shift_eq]

theorem interval_toNat : (control.bucketInterval.zeroExtend 64).toNat = control.width :=
  BitVec.toNat_setWidth_of_le (by decide)

theorem startSec_advance :
    (control.advance now).startSec.toNat = control.width * control.bucketOf now := by
  have le : now % control.bucketInterval.zeroExtend 64 ≤ now := by
    rw [BitVec.le_def, BitVec.toNat_umod]
    exact Nat.mod_le _ _
  rw [advance, BitVec.toNat_sub_of_le le, BitVec.toNat_umod, interval_toNat, bucketOf]
  exact Nat.sub_eq_of_eq_add (Nat.div_add_mod _ _).symm

section

variable (sound : control.Sound)
include sound

theorem bucketOf_eq (forward : control.startSec ≤ now) :
    control.bucketOf now = control.bucketOf control.startSec
      + ((now - control.startSec) / control.bucketInterval.zeroExtend 64).toNat := by
  rw [BitVec.toNat_udiv, BitVec.toNat_sub_of_le forward, interval_toNat, bucketOf, bucketOf,
    ← Nat.add_div_of_dvd_right (Nat.dvd_of_mod_eq_zero sound.aligned),
    Nat.add_sub_cancel' (BitVec.le_def.mp forward)]

theorem bucketOf_advance :
    control.bucketOf (control.advance now).startSec = control.bucketOf now := by
  rw [bucketOf, startSec_advance, Nat.mul_div_cancel_left _ sound.interval]

theorem Sound.advance : (control.advance now).Sound where
  interval := sound.interval
  nonempty := by
    rw [ne_eq, ← List.length_eq_zero_iff, VelocityControl.advance, Window.length_shift,
      List.length_eq_zero_iff]
    exact sound.nonempty
  limited := sound.limited
  aligned := by
    rw [startSec_advance]
    exact Nat.mul_mod_right _ _

theorem advance_advance {next : U64} (forward : control.startSec ≤ now)
    (onward : (control.advance now).startSec ≤ next) :
    (control.advance now).advance next = control.advance next := by
  have first := bucketOf_eq sound forward
  have second : control.bucketOf next = control.bucketOf (control.advance now).startSec
      + ((next - (control.advance now).startSec) / control.bucketInterval.zeroExtend 64).toNat :=
    bucketOf_eq sound.advance onward
  rw [bucketOf_advance sound] at second
  have whole : control.startSec ≤ next := by
    refine BitVec.le_trans ?_ onward
    rw [BitVec.le_def, startSec_advance, first, Nat.mul_add, bucketOf,
      Nat.mul_div_cancel' (Nat.dvd_of_mod_eq_zero sound.aligned)]
    exact Nat.le_add_right _ _
  have steps := bucketOf_eq sound whole
  simp only [advance, Window.shift_shift] at second ⊢
  congr 2
  omega

theorem Sound.insert : (control.insert now amount).2.Sound := by
  have advanced := @Sound.advance control now sound
  rw [insert_eq]
  split
  · exact advanced
  · exact ⟨advanced.interval, by simpa using advanced.nonempty, advanced.limited, advanced.aligned⟩

theorem sum_le_of_accepted (fits : ¬ control.velocity.saturatingAdd amount > control.limit) :
    (control.buckets.map BitVec.toNat).sum + amount.toNat ≤ control.limit.toNat := by
  have limited := BitVec.lt_def.mp sound.limited
  rw [gt_iff_lt, BitVec.not_lt, BitVec.le_def, BitVec.toNat_saturatingAdd, velocity,
    BitVec.toNat_foldl_saturatingAdd] at fits
  rw [BitVec.toNat_allOnes] at limited
  simp only [BitVec.ofNat_eq_ofNat, BitVec.toNat_ofNat] at fits
  omega

end

def entries (control : VelocityControl) (seen : List Insertion) : List (Nat × Nat) :=
  seen.map fun i => (control.bucketOf i.1, i.2.toNat)

theorem within_le_since {since length} (sound : control.Sound)
    (last : now.toNat ≤ since + length * control.width) :
    within since (since + length * control.width) seen
      ≤ Window.since (control.entries seen) (control.bucketOf now - length) := by
  rw [within, Window.since, entries, List.filter_map, List.map_map]
  refine List.Sublist.sum_le_sum (List.Sublist.map _ (List.monotone_filter_right _ ?_)) (by simp)
  intro i inside
  have start := (of_decide_eq_true inside).1
  have reached : now.toNat / control.width ≤ (i.1.toNat + length * control.width) / control.width :=
    Nat.div_le_div_right (by omega)
  rw [Nat.add_mul_div_right _ _ sound.interval] at reached
  exact decide_eq_true (Nat.sub_le_of_le_add reached)

theorem within_append {since upto more} :
    within since upto (seen ++ more) = within since upto seen + within since upto more := by
  simp [within]

theorem map_modifyHead {buckets : List U64}
    (fits : (buckets.map BitVec.toNat).sum + amount.toNat < 2 ^ 64) :
    (buckets.modifyHead (·.saturatingAdd amount)).map BitVec.toNat
      = (buckets.map BitVec.toNat).modifyHead (· + amount.toNat) := by
  cases buckets with
  | nil => rfl
  | cons first rest =>
    rw [List.map_cons, List.sum_cons] at fits
    simp only [List.modifyHead_cons, List.map_cons, BitVec.toNat_saturatingAdd]
    congr 1
    omega

/-- The buckets hold what has been accepted, and the limit has been kept. -/
structure Kept (control : VelocityControl) (seen : List Insertion) : Prop where
  sound : control.Sound
  covers : Window.Covers (control.entries seen) (control.bucketOf control.startSec)
    (control.buckets.map BitVec.toNat)
  bounded : ∀ since, within since (since + (control.buckets.length - 1) * control.width) seen
    ≤ control.limit.toNat

theorem Kept.advance (kept : control.Kept seen) (forward : control.startSec ≤ now) :
    (control.advance now).Kept seen := by
  have moved := kept.covers.shift
    ((now - control.startSec) / control.bucketInterval.zeroExtend 64).toNat
  rw [← bucketOf_eq kept.sound forward, ← bucketOf_advance kept.sound] at moved
  refine ⟨kept.sound.advance, ?_, fun since => ?_⟩
  · rw [← Window.map_shift rfl] at moved
    exact moved
  · rw [show (control.advance now).buckets.length = control.buckets.length from
      Window.length_shift _]
    exact kept.bounded since

theorem Kept.add (kept : control.Kept seen)
    (fits : ¬ control.velocity.saturatingAdd amount > control.limit)
    (here : control.bucketOf control.startSec = control.bucketOf now) :
    Kept { control with buckets := control.buckets.modifyHead (·.saturatingAdd amount) }
      (seen ++ [(now, amount)]) := by
  have sum := sum_le_of_accepted kept.sound fits
  have below := control.limit.isLt
  have some : control.buckets.map BitVec.toNat ≠ [] := by simpa using kept.sound.nonempty
  have covers := kept.covers.add amount.toNat some
  have entered : control.entries (seen ++ [(now, amount)])
      = control.entries seen ++ [(control.bucketOf now, amount.toNat)] := by
    simp [entries]
  rw [here, ← entered] at covers
  have positive := List.length_pos_of_ne_nil kept.sound.nonempty
  refine ⟨⟨kept.sound.interval, by simpa using kept.sound.nonempty, kept.sound.limited,
    kept.sound.aligned⟩, ?_, fun since => ?_⟩
  · rw [map_modifyHead (by omega)]
    exact here ▸ covers
  · rw [List.length_modifyHead]
    change within since (since + (control.buckets.length - 1) * control.width) _ ≤ _
    by_cases inside : since ≤ now.toNat
        ∧ now.toNat ≤ since + (control.buckets.length - 1) * control.width
    · have all := covers.all
      rw [Window.sum_modifyHead some, List.length_modifyHead, List.length_map] at all
      have window :=
        @within_le_since control now (seen ++ [(now, amount)]) since _ kept.sound inside.2
      rw [show control.bucketOf now - (control.buckets.length - 1)
        = control.bucketOf now + 1 - control.buckets.length by omega] at window
      exact window.trans (all.trans sum)
    · rw [within_append]
      have outside : within since (since + (control.buckets.length - 1) * control.width)
          [(now, amount)] = 0 := by
        rw [within, List.filter_cons_of_neg (by simpa using inside)]
        rfl
      rw [outside]
      exact kept.bounded since

theorem Kept.insert (kept : control.Kept seen) (forward : control.startSec ≤ now) :
    (control.insert now amount).2.Kept
      (seen ++ if (control.insert now amount).1 then [(now, amount)] else []) := by
  have advanced := kept.advance forward
  rw [insert_eq]
  split
  · simpa using advanced
  · rename_i fits
    exact advanced.add fits (@bucketOf_advance control now kept.sound)

theorem insert_same : (control.insert now amount).2.buckets.length = control.buckets.length
    ∧ (control.insert now amount).2.width = control.width
    ∧ (control.insert now amount).2.limit = control.limit := by
  rw [insert_eq]
  split <;> simp [advance, Window.length_shift, width]

theorem Kept.run (kept : control.Kept seen) (forward : control.Forward inserts) (since : Nat) :
    within since (since + (control.buckets.length - 1) * control.width)
      (seen ++ control.accepted inserts) ≤ control.limit.toNat := by
  induction inserts generalizing control seen with
  | nil => simpa [accepted] using kept.bounded since
  | cons i rest ih =>
    have later := ih (kept.insert forward.1) forward.2
    obtain ⟨length, width, limit⟩ := @insert_same control i.1 i.2
    rwa [length, width, limit, List.append_assoc] at later

theorem reached {done} (sound : control.Sound) (forward : control.Forward (done ++ inserts)) :
    (control.after done).Sound ∧ (control.after done).Forward inserts := by
  induction done generalizing control with
  | nil => exact ⟨sound, forward⟩
  | cons i rest ih => exact ih sound.insert forward.2

theorem answers_of_refused (sound : control.Sound) (refused : (control.insert now amount).1 = false)
    (forward : control.Forward ((now, amount) :: inserts)) :
    answers (control.insert now amount).2 inserts = answers control inserts := by
  have moved : (control.insert now amount).2 = control.advance now := by
    rw [insert_eq] at refused ⊢
    split at refused
    · rename_i exceeds
      rw [if_pos exceeds]
    · cases refused
  obtain ⟨here, onward⟩ := forward
  rw [moved] at onward ⊢
  cases inserts with
  | nil => rfl
  | cons next rest =>
    have same : (control.advance now).insert next.1 next.2 = control.insert next.1 next.2 := by
      rw [insert_eq, insert_eq, advance_advance sound here onward.1]
      rfl
    rw [answers, answers, same]

/-- With a clock that does not go back behind the last bucket, a control does what it is for. -/
theorem controls_of_forward (sound : control.Sound) (forward : control.Forward inserts) :
    control.Controls inserts := by
  have empty : control.Kept [] :=
    ⟨sound, ⟨by simp [entries], by simp [entries, Window.since]⟩, by simp [within]⟩
  refine ⟨empty.run forward, ?_, ?_⟩
  · rintro done now amount later rfl refused
    obtain ⟨sound, forward⟩ := reached sound forward
    rw [after, List.foldl_append]
    exact answers_of_refused sound refused forward
  · rintro done now amount later rfl
    obtain ⟨sound, forward⟩ := reached sound forward
    refine ⟨forward.1, fun zero => ?_, sound.nonempty⟩
    have positive := sound.interval
    rw [width, zero] at positive
    exact absurd positive (by decide)

theorem newWithIntervals_controls :
    (newWithIntervals 100 10 4).Controls [(1100, 90), (1101, 11), (1101, 10), (1140, 90)] :=
  controls_of_forward ⟨by decide, by decide, by decide, by decide⟩ ⟨by decide, by decide, by decide,
    by decide, trivial⟩

/-- A clock that goes back by a second empties the buckets. -/
theorem limit_passed_twice :
    (newWithIntervals 100 10 4).Sound
    ∧ ¬ (newWithIntervals 100 10 4).Controls [(1100, 100), (1099, 100)] := by
  refine ⟨⟨by decide, by decide, by decide, by decide⟩, fun controls => ?_⟩
  exact absurd (controls.bounded 1099) (by decide +kernel)

end Vls.VelocityControl
