import Vls.Monitor.Returned

/-! # What the spends of a block are read as

As long as a block holds no close, the close on record stays the same one, and the spends of its
outputs are read in its light, wherever in the block they are. -/

namespace Vls.Monitor

open StateChange State ClosingOutpoints List

variable {prims : Primitives} {provider : CommitmentPointProvider} {s t : State}
  {c : StateChange} {changes : List StateChange} {tx : Transaction} {txs : List Transaction}
  {o : OutPoint} {closing closing' closing'' : ClosingOutpoints}

variable {done rest : List Transaction} {p : OutPoint} {txid : BitVec 256}

/-- The same close: its transaction, and which of its outputs are to be swept. -/
structure SameClose (closing closing' : ClosingOutpoints) : Prop where
  txid : closing'.txid = closing.txid
  ourOutput : closing'.ourOutput.map (·.key) = closing.ourOutput.map (·.key)
  htlcOutputs : closing'.htlcOutputs.map (·.key) = closing.htlcOutputs.map (·.key)

namespace SameClose

theorem refl (closing : ClosingOutpoints) : SameClose closing closing := ⟨rfl, rfl, rfl⟩

theorem trans (first : SameClose closing closing') (second : SameClose closing' closing'') :
    SameClose closing closing'' where
  txid := second.txid.trans first.txid
  ourOutput := second.ourOutput.trans first.ourOutput
  htlcOutputs := second.htlcOutputs.trans first.htlcOutputs

theorem ours_iff (same : SameClose closing closing') :
    Tracked.ourOutput.Of closing' o ↔ Tracked.ourOutput.Of closing o := by
  simp only [Tracked.Of, same.txid, same.ourOutput]

theorem htlc_iff (same : SameClose closing closing') :
    Tracked.htlcOutput.Of closing' o ↔ Tracked.htlcOutput.Of closing o := by
  simp only [Tracked.Of, Marked.Has, same.txid, same.htlcOutputs]

end SameClose

theorem spend_same : SameClose closing (c.spend closing) := by
  cases c <;> constructor <;> simp [spend, Function.comp_def]

theorem unspend_same : SameClose closing (c.unspend closing) := by
  cases c <;> constructor <;> simp [unspend, Function.comp_def]

theorem spend_second (has : Marked.Has closing.secondLevelHtlcOutputs o) :
    Marked.Has (c.spend closing).secondLevelHtlcOutputs o := by
  cases c with
  | htlcOutputSpent => exact Marked.has_append.mpr (.inl has)
  | secondLevelHtlcOutputSpent => exact Marked.has_setMark.mpr has
  | _ => exact has

def StateChange.isSpend : StateChange → Bool
  | ourOutputSpent _ => true
  | htlcOutputSpent .. => true
  | secondLevelHtlcOutputSpent _ => true
  | _ => false

theorem closing_forward (notClose : c.isUnilateralClose = false) :
    (c.forward s).closingOutpoints = s.closingOutpoints.map c.spend := by
  cases c with
  | unilateralCloseConfirmed => cases notClose
  | fundingConfirmed | fundingInputSpent | mutualCloseConfirmed => exact Option.map_id'.symm
  | ourOutputSpent | htlcOutputSpent | secondLevelHtlcOutputSpent => rfl

theorem closing_forwards_none (notClose : ∀ c ∈ changes, c.isUnilateralClose = false)
    (absent : s.closingOutpoints = none) : (forwards changes s).closingOutpoints = none := by
  apply Undo.all_inv (fun t : State => t.closingOutpoints = none) absent
  intro c member t here
  rw [closing_forward (notClose c member), here]
  rfl

theorem closing_forwards (notClose : ∀ c ∈ changes, c.isUnilateralClose = false)
    (found : s.closingOutpoints = some closing) :
    ∃ closing', (forwards changes s).closingOutpoints = some closing' ∧ SameClose closing closing'
      ∧ ∀ p, Marked.Has closing.secondLevelHtlcOutputs p →
        Marked.Has closing'.secondLevelHtlcOutputs p := by
  apply Undo.all_inv (fun t : State => ∃ closing', t.closingOutpoints = some closing'
    ∧ SameClose closing closing'
    ∧ ∀ p, Marked.Has closing.secondLevelHtlcOutputs p →
      Marked.Has closing'.secondLevelHtlcOutputs p)
  · exact ⟨closing, found, .refl closing, fun _ has => has⟩
  · intro c member t ⟨closing', found', same, second⟩
    refine ⟨c.spend closing', ?_, same.trans spend_same, fun p has => spend_second (second p has)⟩
    rw [closing_forward (notClose c member), found']
    rfl

theorem tracks_none (absent : s.closingOutpoints = none) : s.tracks o = none := by
  simp [tracks, absent]

section

variable (found : s.closingOutpoints = some closing)
include found

theorem tracks_ourOutput : s.tracks o = some .ourOutput ↔ Tracked.ourOutput.Of closing o := by
  simp only [tracks, found, includesOurOutput_iff, Tracked.Of]
  split
  · rename_i ours
    simp [ours]
  · rename_i notOurs
    simp only [notOurs, iff_false]
    split
    · simp
    · split <;> simp

theorem tracks_htlcOutput : s.tracks o = some .htlcOutput
    ↔ ¬ Tracked.ourOutput.Of closing o ∧ Tracked.htlcOutput.Of closing o := by
  simp only [tracks, found, includesOurOutput_iff, includesHtlcOutput_iff, Tracked.Of]
  split
  · rename_i ours
    simp [ours]
  · rename_i notOurs
    simp only [notOurs, not_false_eq_true, true_and]
    split
    · rename_i htlc
      simp [htlc]
    · rename_i notHtlc
      simp only [notHtlc, iff_false]
      split <;> simp

theorem tracks_secondLevel : s.tracks o = some .secondLevelHtlcOutput
    ↔ ¬ Tracked.ourOutput.Of closing o ∧ ¬ Tracked.htlcOutput.Of closing o
      ∧ Marked.Has closing.secondLevelHtlcOutputs o := by
  simp only [tracks, found, includesOurOutput_iff, includesHtlcOutput_iff,
    includesSecondLevelHtlcOutput_iff, Tracked.Of]
  split
  · rename_i ours
    simp [ours]
  · rename_i notOurs
    simp only [notOurs, not_false_eq_true, true_and]
    split
    · rename_i htlc
      simp [htlc]
    · rename_i notHtlc
      simp [notHtlc]

end

/-- The spend of an output of a close in a block, and the change that it is read as. -/
inductive Source (prims : Primitives) (closing : ClosingOutpoints) (txs : List Transaction) :
    StateChange → Prop where
  | ourOutput {o : OutPoint} : Tracked.ourOutput.Of closing o → o ∈ spends txs →
      Source prims closing txs (ourOutputSpent o.vout)
  | htlcOutput {tx : Transaction} {input : TxIn} {k : Nat} : tx ∈ txs →
      (input, k) ∈ tx.input.zipIdx →
      ¬ Tracked.ourOutput.Of closing input.previousOutput →
      Tracked.htlcOutput.Of closing input.previousOutput →
      Source prims closing txs
        (htlcOutputSpent input.previousOutput.vout ⟨prims.computeTxid tx, .ofNat 32 k⟩)
  | secondLevel {o : OutPoint} : ¬ Tracked.ourOutput.Of closing o →
      ¬ Tracked.htlcOutput.Of closing o →
      o ∈ spends txs → Source prims closing txs (secondLevelHtlcOutputSpent o)

section

variable (notClose : ∀ c ∈ s.decode prims provider txs, c.isUnilateralClose = false)
include notClose

variable (found : s.closingOutpoints = some closing)
include found

omit found in
theorem notClose_done (split : txs = done ++ rest) :
    ∀ c ∈ s.decode prims provider done, c.isUnilateralClose = false := by
  intro c member
  apply notClose c
  rw [split, decode_append]
  exact mem_append_left _ member

theorem source_of_decode (member : c ∈ s.decode prims provider txs) (isSpend : c.isSpend) :
    Source prims closing txs c := by
  obtain ⟨done, tx, rest, split, here⟩ := mem_decode member
  obtain ⟨closing', found', same, -⟩ := closing_forwards (notClose_done notClose split) found
  have there : tx ∈ txs := by simp [split]
  rcases mem_changesIn here with ⟨p, -, rfl⟩ | ⟨input, spent, arises⟩
  · cases isSpend
  · have spent : input.previousOutput ∈ spends txs :=
      mem_flatMap.mpr ⟨tx, there, mem_map_of_mem spent⟩
    cases arises with
    | fundingInput => cases isSpend
    | ourOutput tracked =>
      exact .ourOutput (same.ours_iff.mp ((tracks_ourOutput found').mp tracked)) spent
    | secondLevel tracked =>
      obtain ⟨notOurs, notHtlc, -⟩ := (tracks_secondLevel found').mp tracked
      exact .secondLevel (mt same.ours_iff.mpr notOurs) (mt same.htlc_iff.mpr notHtlc) spent
    | htlcOutput entry equal tracked =>
      obtain ⟨notOurs, htlc⟩ := (tracks_htlcOutput found').mp tracked
      rw [← equal] at notOurs htlc ⊢
      exact .htlcOutput there entry (mt same.ours_iff.mpr notOurs) (same.htlc_iff.mp htlc)
    | close _ closed _ =>
      obtain ⟨_, _, ⟨ours, htlcs, rfl⟩ | rfl⟩ := closeChange_cases closed
      · cases isSpend
      · cases isSpend

theorem decode_ourOutput (ours : Tracked.ourOutput.Of closing o) (spent : o ∈ spends txs) :
    ourOutputSpent o.vout ∈ s.decode prims provider txs := by
  obtain ⟨tx, there, spent⟩ := mem_flatMap.mp spent
  obtain ⟨input, inputs, rfl⟩ := mem_map.mp spent
  obtain ⟨done, rest, split⟩ := append_of_mem there
  obtain ⟨closing', found', same, -⟩ := closing_forwards (notClose_done notClose split) found
  have tracked := (tracks_ourOutput found').mpr (same.ours_iff.mpr ours)
  apply decode_of_split split
  apply mem_append_left
  exact mem_flatMap.mpr ⟨input, inputs, by simp [inputChanges, sweepChanges, tracked]⟩

theorem decode_htlcOutput (notOurs : ¬ Tracked.ourOutput.Of closing o)
    (htlc : Tracked.htlcOutput.Of closing o) (spent : o ∈ spends txs) :
    ∃ p, htlcOutputSpent o.vout p ∈ s.decode prims provider txs := by
  obtain ⟨tx, there, spent⟩ := mem_flatMap.mp spent
  obtain ⟨input, inputs, rfl⟩ := mem_map.mp spent
  obtain ⟨done, rest, split⟩ := append_of_mem there
  obtain ⟨closing', found', same, -⟩ := closing_forwards (notClose_done notClose split) found
  have tracked := (tracks_htlcOutput found').mpr
    ⟨mt same.ours_iff.mp notOurs, same.htlc_iff.mpr htlc⟩
  obtain ⟨k, inside, rfl⟩ := getElem_of_mem inputs
  refine ⟨⟨prims.computeTxid tx, .ofNat 32 k⟩, decode_of_split split ?_⟩
  have spentHtlc : (tx.input[k].previousOutput.vout, BitVec.ofNat 32 k)
      ∈ (s.after prims provider done).spentHtlcs tx.input := by
    refine mem_flatMap.mpr ⟨(tx.input[k], k), ?_, ?_⟩
    · rw [mem_zipIdx_iff_getElem?]
      simp [inside]
    · simp [tracked]
  simp only [changesIn, endChanges, mem_append]
  exact .inr (.inr (.inr (mem_map_of_mem spentHtlc)))

theorem decode_secondLevel (notOurs : ¬ Tracked.ourOutput.Of closing o)
    (notHtlc : ¬ Tracked.htlcOutput.Of closing o)
    (has : Marked.Has closing.secondLevelHtlcOutputs o) (spent : o ∈ spends txs) :
    secondLevelHtlcOutputSpent o ∈ s.decode prims provider txs := by
  obtain ⟨tx, there, spent⟩ := mem_flatMap.mp spent
  obtain ⟨input, inputs, rfl⟩ := mem_map.mp spent
  obtain ⟨done, rest, split⟩ := append_of_mem there
  obtain ⟨closing', found', same, second⟩ := closing_forwards (notClose_done notClose split) found
  have tracked := (tracks_secondLevel found').mpr
    ⟨mt same.ours_iff.mp notOurs, mt same.htlc_iff.mp notHtlc, second _ has⟩
  apply decode_of_split split
  apply mem_append_left
  exact mem_flatMap.mpr ⟨input, inputs, by simp [inputChanges, sweepChanges, tracked]⟩

end

def State.FundedBy (s : State) (o : OutPoint) : Prop :=
  s.fundingTxids = [o.txid] ∧ s.fundingVouts = [o.vout]

theorem confirms_iff (funded : s.FundedBy o) :
    s.confirms txid = some p ↔ txid = o.txid ∧ p = o := by
  rw [confirms, funded.1, funded.2]
  by_cases same : o.txid = txid
  · subst same
    simp only [findIdx?_cons, decide_true, if_true, Option.bind_some, getElem?_cons_zero,
      Option.map_some, Option.some.injEq, true_and]
    exact eq_comm
  · simp [findIdx?_cons, same, Ne.symm same]

theorem fundingConfirmed_mem_decode :
    fundingConfirmed p ∈ s.decode prims provider txs
      ↔ ∃ tx ∈ txs, s.confirms (prims.computeTxid tx) = some p := by
  constructor
  · intro member
    obtain ⟨done, tx, rest, split, here⟩ := mem_decode member
    rcases mem_changesIn here with ⟨q, confirms, same⟩ | ⟨input, -, arises⟩
    · cases same
      rw [confirms_kept forwards_kept] at confirms
      exact ⟨tx, by simp [split], confirms⟩
    · exact (apart_fundingConfirmed (p := p) arises).1.elim
  · rintro ⟨tx, there, confirms⟩
    obtain ⟨done, rest, split⟩ := append_of_mem there
    apply decode_of_split split
    have here : (s.after prims provider done).confirms (prims.computeTxid tx) = some p :=
      (confirms_kept forwards_kept).trans confirms
    simp [changesIn, endChanges, here]

theorem close_mem_decode (member : c ∈ s.decode prims provider txs) (isClose : c.isClose) :
    ∃ done tx rest, txs = done ++ tx :: rest ∧ (s.after prims provider done).Closes prims tx
      ∧ closeChange prims provider tx (prims.computeTxid tx) = .ok c := by
  obtain ⟨done, tx, rest, split, here⟩ := mem_decode member
  refine ⟨done, tx, rest, split, ?_⟩
  rcases mem_changesIn here with ⟨q, -, rfl⟩ | ⟨input, -, arises⟩
  · cases isClose
  · cases arises with
    | close closes closed _ => exact ⟨closes, closed⟩
    | fundingInput | ourOutput | secondLevel | htlcOutput => cases isClose

theorem close_of_split (split : txs = done ++ tx :: rest)
    (closes : (s.after prims provider done).Closes prims tx)
    (closed : closeChange prims provider tx (prims.computeTxid tx) = .ok c) :
    c ∈ s.decode prims provider txs := by
  apply decode_of_split split
  simp [changesIn, endChanges, closeChanges, closes, closed, Except.toOption]

theorem fundingOutpoint_after (outpoint : s.fundingOutpoint = some p)
    (only : ∀ q, fundingConfirmed q ∈ changes → q = p) :
    (forwards changes s).fundingOutpoint = some p := by
  apply Undo.all_inv (fun t : State => t.fundingOutpoint = some p) outpoint
  intro c member t here
  cases c with
  | fundingConfirmed q => exact congrArg some (only q member)
  | _ => exact here

theorem mutual_of_closeChange
    (closed : closeChange prims provider tx txid = .ok (mutualCloseConfirmed txid p)) :
    decodeCommitmentNumber prims tx provider.getTransactionParameters = none := by
  unfold closeChange at closed
  split at closed
  · split at closed
    · obtain ⟨_, _, closed⟩ := Result.bind_eq_ok.mp closed
      obtain ⟨_, _, closed⟩ := Result.bind_eq_ok.mp closed
      cases closed
    · assumption
  · cases closed

theorem closeChange_mutual {provider' p' ours htlcs}
    (closed : closeChange prims provider tx txid = .ok (mutualCloseConfirmed txid p))
    (closed' : closeChange prims provider' tx txid
      = .ok (unilateralCloseConfirmed txid p' ours htlcs)) :
    False := by
  have absent := mutual_of_closeChange closed
  have absent' : decodeCommitmentNumber prims tx provider'.getTransactionParameters = none := by
    unfold decodeCommitmentNumber at absent ⊢
    split at absent
    · split at absent
      · simp_all
      · cases absent
    · simp_all
  unfold closeChange at closed'
  split at closed'
  · simp only [absent'] at closed'
    cases closed'
  · cases closed'

end Vls.Monitor
