import Mathlib.Tactic.MkIffOfInductiveProp
import Vls.Monitor.Decoded

/-! # Blocks that can be taken back

A block is consistent with a state of the monitor if it can come next on the chain that the state
tells of. It reads back if, moreover, what it brings does not build on what it brings itself. It is
reversible if nothing is lost, either, of what the state has on record. -/

namespace Vls.Monitor

open StateChange State List

def spends (txs : List Transaction) : List OutPoint :=
  txs.flatMap fun tx => tx.input.map (·.previousOutput)

variable (prims : Primitives) (provider : CommitmentPointProvider)

def Ordered : List Transaction → Prop
  | [] => True
  | tx :: rest => (∀ input ∈ tx.input,
      input.previousOutput.txid ∉ (tx :: rest).map prims.computeTxid) ∧ Ordered rest

def State.view (s : State) (txs : List Transaction) : State :=
  { s with
    fundingOutpoint :=
      (txs.findSome? fun tx => s.confirms (prims.computeTxid tx)).or s.fundingOutpoint }

/-- The block can come next on the chain that the state tells of: what is on record as spent,
    confirmed or closed is not spent, confirmed or closed again. -/
@[mk_iff]
structure Consistent (s : State) (txs : List Transaction) : Prop where
  ordered : Ordered prims txs
  spentOnce : (spends txs).Nodup
  txidsApart : (txs.map prims.computeTxid).Nodup
  inputsBounded : ∀ tx ∈ txs, tx.input.length ≤ 2 ^ 32
  confirmedOnce : ∀ tx ∈ txs, prims.computeTxid tx ∈ s.fundingTxids → s.fundingHeight = none
  closedOnce : ∀ tx ∈ txs, (s.view prims txs).Closes prims tx →
    s.unilateralClosingHeight = none ∧ s.mutualClosingHeight = none ∧ s.closingOutpoints = none
  ourOutput : ∀ c ∈ s.closingOutpoints, ∀ o ∈ spends txs, c.includesOurOutput o →
    c.ourOutput = some ⟨o.vout, false⟩
  htlcOutputs : ∀ c ∈ s.closingOutpoints, ∀ o ∈ spends txs, c.includesHtlcOutput o →
    Marked.markOf o.vout c.htlcOutputs = some false
  secondLevel : ∀ c ∈ s.closingOutpoints, ∀ o ∈ spends txs, c.includesSecondLevelHtlcOutput o →
    Marked.markOf o c.secondLevelHtlcOutputs = some false
  secondLevelOnce : ∀ c ∈ s.closingOutpoints, ∀ o ∈ c.secondLevelHtlcOutputs,
    o.key.txid ∉ txs.map prims.computeTxid

/-- The block reads the same when it is removed as when it is added: the funding that it confirms
    has its output, and only the funding transaction spends the outpoint that it replaces; a close
    can be read, and no output of a close is spent in the block that makes it one. -/
structure ReadsBack (s : State) (txs : List Transaction) : Prop where
  funding : ∀ tx ∈ txs, prims.computeTxid tx ∈ s.fundingTxids →
    ∀ vout ∈ s.fundingVouts, vout.toNat < tx.output.length
  replaced : ∀ tx ∈ txs, s.Closes prims tx →
    (s.view prims txs).fundingOutpoint = s.fundingOutpoint
  outputs : ∀ tx ∈ txs, s.spendsFunding tx ∨ (s.view prims txs).spendsFunding tx →
    tx.output.length ≤ BlockDecodeState.maxCommitmentOutputs
  close : ∀ tx ∈ txs, (s.view prims txs).Closes prims tx →
    ∃ c, closeChange prims provider tx (prims.computeTxid tx) = .ok c
      ∧ ∀ o ∈ c.makes, o ∉ spends txs
  htlcs : ∀ tx ∈ txs, ∀ entry ∈ tx.input.zipIdx,
    s.tracks entry.1.previousOutput = some .htlcOutput →
      (⟨prims.computeTxid tx, .ofNat 32 entry.2⟩ : OutPoint) ∉ spends txs

/-- The block can be taken back: it reads back, and the funding is confirmed only where no earlier
    funding outpoint and no double spend is on record. -/
structure Reversible (s : State) (txs : List Transaction) : Prop
    extends ReadsBack prims provider s txs where
  first : ∀ tx ∈ txs, prims.computeTxid tx ∈ s.fundingTxids →
    s.fundingOutpoint = none ∧ s.fundingDoubleSpentHeight = none

instance instDecidableOrdered : (txs : List Transaction) → Decidable (Ordered prims txs)
  | [] => .isTrue trivial
  | _ :: rest => @instDecidableAnd _ _ inferInstance (instDecidableOrdered rest)

instance (s : State) (txs : List Transaction) : Decidable (Consistent prims s txs) :=
  decidable_of_iff' _ (consistent_iff prims s txs)

instance (s : State) (txs : List Transaction) : Decidable (ReadsBack prims provider s txs) :=
  decidable_of_iff
    ((∀ tx ∈ txs, prims.computeTxid tx ∈ s.fundingTxids →
        s.fundingVouts.all fun vout => vout.toNat < tx.output.length)
      ∧ (∀ tx ∈ txs, s.Closes prims tx →
        (s.view prims txs).fundingOutpoint = s.fundingOutpoint)
      ∧ (∀ tx ∈ txs, s.spendsFunding tx ∨ (s.view prims txs).spendsFunding tx →
        tx.output.length ≤ BlockDecodeState.maxCommitmentOutputs)
      ∧ (∀ tx ∈ txs, (s.view prims txs).Closes prims tx →
        ∃ c ∈ (closeChange prims provider tx (prims.computeTxid tx)).toOption,
          ∀ o ∈ c.makes, o ∉ spends txs)
      ∧ ∀ tx ∈ txs, ∀ entry ∈ tx.input.zipIdx,
        s.tracks entry.1.previousOutput = some .htlcOutput →
          (⟨prims.computeTxid tx, .ofNat 32 entry.2⟩ : OutPoint) ∉ spends txs) (by
    simp only [Option.mem_def, Result.toOption_eq_some, all_eq_true, decide_eq_true_eq]
    exact ⟨fun ⟨a, b, c, d, e⟩ => ⟨a, b, c, d, e⟩, fun ⟨a, b, c, d, e⟩ => ⟨a, b, c, d, e⟩⟩)

instance (s : State) (txs : List Transaction) : Decidable (Reversible prims provider s txs) :=
  decidable_of_iff
    (ReadsBack prims provider s txs ∧ ∀ tx ∈ txs, prims.computeTxid tx ∈ s.fundingTxids →
      s.fundingOutpoint = none ∧ s.fundingDoubleSpentHeight = none)
    ⟨fun ⟨a, b⟩ => ⟨a, b⟩, fun ⟨a, b⟩ => ⟨a, b⟩⟩

structure Sound (s : State) : Prop where
  fundingTxids : s.fundingTxids.length ≤ 1
  fundingVouts : s.fundingVouts.length = s.fundingTxids.length
  closingSwept : s.isClosingSwept = false → s.closingSweptHeight = none
  ourOutputSwept : s.isOurOutputSwept = false → s.ourOutputSweptHeight = none
  doubleSpent : ∀ k ∈ s.fundingDoubleSpentHeight, k ≤ s.height

/-- The spend of an outpoint by a transaction makes a change. -/
inductive Arises (view : State) (tx : Transaction) : OutPoint → StateChange → Prop where
  | fundingInput {o} : Arises view tx o (fundingInputSpent o)
  | ourOutput {o} : view.tracks o = some .ourOutput → Arises view tx o (ourOutputSpent o.vout)
  | secondLevel {o} : view.tracks o = some .secondLevelHtlcOutput →
      Arises view tx o (secondLevelHtlcOutputSpent o)
  | htlcOutput {o input k} : (input, k) ∈ tx.input.zipIdx → input.previousOutput = o →
      view.tracks o = some .htlcOutput →
      Arises view tx o (htlcOutputSpent o.vout ⟨prims.computeTxid tx, .ofNat 32 k⟩)
  | close {o c} : view.Closes prims tx →
      closeChange prims provider tx (prims.computeTxid tx) = .ok c →
      some o = view.fundingOutpoint → Arises view tx o c

abbrev State.changesOf (s : State) (txs : List Transaction) : List StateChange :=
  txs.flatMap ((s.view prims txs).changesIn prims provider)

variable {prims provider} {view s : State} {tx : Transaction} {txs : List Transaction}
  {c d : StateChange} {o o' : OutPoint}

theorem arises_inputChanges {input : TxIn} (member : c ∈ view.inputChanges input.previousOutput) :
    Arises prims provider view tx input.previousOutput c := by
  rcases mem_append.mp member with funding | sweep
  · unfold fundingInputChanges at funding
    split at funding
    · obtain rfl := mem_singleton.mp funding
      exact .fundingInput
    · cases funding
  · unfold sweepChanges at sweep
    split at sweep
    · rename_i tracked
      obtain rfl := mem_singleton.mp sweep
      exact .ourOutput tracked
    · rename_i tracked
      obtain rfl := mem_singleton.mp sweep
      exact .secondLevel tracked
    · cases sweep

theorem mem_closeChanges (member : c ∈ view.closeChanges prims provider tx) :
    view.Closes prims tx ∧ closeChange prims provider tx (prims.computeTxid tx) = .ok c
      ∧ ∃ input ∈ tx.input, some input.previousOutput = view.fundingOutpoint := by
  unfold closeChanges at member
  split at member
  · rename_i closes
    cases closed : closeChange prims provider tx (prims.computeTxid tx) with
    | error => simp [closed, Except.toOption] at member
    | ok c' =>
      obtain rfl : c = c' := by simpa [closed, Except.toOption] using member
      obtain ⟨input, single, -⟩ := closeChange_cases closed
      have funding : some input.previousOutput = view.fundingOutpoint := by
        simpa [spendsFunding, single] using closes.1
      exact ⟨closes, rfl, input, by simp [single], funding⟩
  · cases member

/-- What a view must be like for the changes of a block to be apart: a close comes only where none
    is on record, and a second-level output on record is not one of the block. -/
structure Separate (prims : Primitives) (view : State)
    (txs : List Transaction) : Prop where
  closed : ∀ tx ∈ txs, view.Closes prims tx → ∀ o, view.tracks o = none
  secondLevel : ∀ o, view.tracks o = some .secondLevelHtlcOutput →
    o.txid ∉ txs.map prims.computeTxid

variable {tx' : Transaction}

theorem outpoint_ext {o o' : OutPoint} (txid : o.txid = o'.txid) (vout : o.vout = o'.vout) :
    o = o' := by
  cases o
  cases o'
  simp_all

theorem tracks_unique {kind : Tracked} (notSecond : kind ≠ .secondLevelHtlcOutput)
    (tracked : view.tracks o = some kind) (tracked' : view.tracks o' = some kind)
    (vout : o.vout = o'.vout) : o = o' := by
  obtain ⟨closing, found, is⟩ := tracks_some tracked
  obtain ⟨closing', found', is'⟩ := tracks_some tracked'
  obtain rfl := Option.mem_unique found found'
  cases kind with
  | ourOutput => exact outpoint_ext (is.1.symm.trans is'.1) vout
  | htlcOutput => exact outpoint_ext (is.1.symm.trans is'.1) vout
  | secondLevelHtlcOutput => exact absurd rfl notSecond

theorem ourOutput_unique (tracked : view.tracks o = some .ourOutput)
    (tracked' : view.tracks o' = some .ourOutput) : o = o' := by
  obtain ⟨closing, found, is⟩ := tracks_some tracked
  obtain ⟨closing', found', is'⟩ := tracks_some tracked'
  obtain rfl := Option.mem_unique found found'
  exact outpoint_ext (is.1.symm.trans is'.1) (Option.some.inj (is.2.symm.trans is'.2))

def StateChange.isClose : StateChange → Bool
  | unilateralCloseConfirmed .. => true
  | mutualCloseConfirmed .. => true
  | _ => false

theorem apart_close (separate : Separate prims view txs)
    (here : tx ∈ txs) (closes : view.Closes prims tx)
    (closed : closeChange prims provider tx (prims.computeTxid tx) = .ok c)
    (funding : some o = view.fundingOutpoint) (different : d.isClose → o ≠ o')
    (arises : Arises prims provider view tx' o' d) : c.Apart d ∧ d.Apart c := by
  have untracked := separate.closed tx here closes
  have once (closed' : closeChange prims provider tx' (prims.computeTxid tx') = .ok d)
      (funding' : some o' = view.fundingOutpoint) : c.Apart d ∧ d.Apart c := by
    have isClose : d.isClose := by
      obtain ⟨-, -, ⟨ours, htlcs, rfl⟩ | rfl⟩ := closeChange_cases closed' <;> rfl
    exact absurd (Option.some.inj (funding.trans funding'.symm)) (different isClose)
  obtain ⟨input, single, ⟨ours, htlcs, rfl⟩ | rfl⟩ := closeChange_cases closed
  · cases arises with
    | fundingInput => exact ⟨trivial, trivial⟩
    | ourOutput tracked => cases (untracked o').symm.trans tracked
    | secondLevel tracked => cases (untracked o').symm.trans tracked
    | htlcOutput _ _ tracked => cases (untracked _).symm.trans tracked
    | close _ closed' funding' => exact once closed' funding'
  · cases arises with
    | fundingInput | ourOutput | secondLevel | htlcOutput => exact ⟨trivial, trivial⟩
    | close _ closed' funding' => exact once closed' funding'

theorem apart_of_arises (separate : Separate prims view txs) (here : tx ∈ txs) (here' : tx' ∈ txs)
    (arises : Arises prims provider view tx o c) (arises' : Arises prims provider view tx' o' d)
    (different : o ≠ o')
    (secondLevels : ∀ v v' p p', c = htlcOutputSpent v p → d = htlcOutputSpent v' p' → p ≠ p') :
    c.Apart d := by
  have fromClose (closes : view.Closes prims tx')
      (closed : closeChange prims provider tx' (prims.computeTxid tx') = .ok d)
      (funding : some o' = view.fundingOutpoint) : c.Apart d :=
    (apart_close separate here' closes closed funding (fun _ => different.symm) arises).2
  cases arises with
  | close closes closed funding =>
    exact (apart_close separate here closes closed funding (fun _ => different) arises').1
  | fundingInput => cases d <;> trivial
  | ourOutput tracked =>
    cases arises' with
    | close closes closed funding => exact fromClose closes closed funding
    | ourOutput tracked' => exact absurd (ourOutput_unique tracked tracked') different
    | fundingInput | secondLevel | htlcOutput => trivial
  | secondLevel tracked =>
    cases arises' with
    | close closes closed funding => exact fromClose closes closed funding
    | secondLevel => exact different
    | htlcOutput =>
      rintro rfl
      exact separate.secondLevel _ tracked (mem_map_of_mem here')
    | fundingInput | ourOutput => trivial
  | htlcOutput _ _ tracked =>
    cases arises' with
    | close closes closed funding => exact fromClose closes closed funding
    | secondLevel tracked' =>
      rintro rfl
      exact separate.secondLevel _ tracked' (mem_map_of_mem here)
    | htlcOutput _ _ tracked' =>
      refine ⟨fun vout => different ?_, secondLevels _ _ _ _ rfl rfl⟩
      exact tracks_unique (by simp) tracked tracked' vout
    | fundingInput | ourOutput => trivial

theorem confirms_mem {txid} (confirms : view.confirms txid = some o) :
    txid ∈ view.fundingTxids ∧ o.txid = txid := by
  obtain ⟨ind, found, confirms⟩ := Option.bind_eq_some_iff.mp confirms
  obtain ⟨vout, -, rfl⟩ := Option.map_eq_some_iff.mp confirms
  obtain ⟨there, same, -⟩ := findIdx?_eq_some_iff_getElem.mp found
  have same : view.fundingTxids[ind] = txid := by simpa using same
  exact ⟨same ▸ getElem_mem there, rfl⟩

theorem eq_of_single {α : Type} {items : List α} {a b} (single : items.length ≤ 1)
    (first : a ∈ items) (second : b ∈ items) : a = b := by
  match items, single with
  | [], _ => cases first
  | [item], _ => exact (mem_singleton.mp first).trans (mem_singleton.mp second).symm

theorem mem_changesIn (member : c ∈ view.changesIn prims provider tx) :
    (∃ o, view.confirms (prims.computeTxid tx) = some o ∧ c = fundingConfirmed o)
      ∨ ∃ input ∈ tx.input, Arises prims provider view tx input.previousOutput c := by
  simp only [changesIn, endChanges, mem_append] at member
  rcases member with inputs | fundings | closes | htlcs
  · obtain ⟨input, there, member⟩ := mem_flatMap.mp inputs
    exact .inr ⟨input, there, arises_inputChanges member⟩
  · obtain ⟨o, confirms, rfl⟩ := mem_map.mp fundings
    exact .inl ⟨o, Option.mem_toList.mp confirms, rfl⟩
  · obtain ⟨closes, closed, input, there, funding⟩ := mem_closeChanges closes
    exact .inr ⟨input, there, .close closes closed funding⟩
  · obtain ⟨one, member, rfl⟩ := mem_map.mp htlcs
    obtain ⟨input, k, there, tracked, rfl⟩ := mem_spentHtlcs member
    exact .inr ⟨input, fst_mem_of_mem_zipIdx there, .htlcOutput there rfl tracked⟩

theorem apart_fundingConfirmed (arises : Arises prims provider view tx o c) {p} :
    c.Apart (fundingConfirmed p) ∧ (fundingConfirmed p).Apart c := by
  cases arises with
  | close _ closed _ =>
    obtain ⟨input, -, ⟨ours, htlcs, rfl⟩ | rfl⟩ := closeChange_cases closed <;>
      exact ⟨trivial, trivial⟩
  | _ => exact ⟨trivial, trivial⟩

theorem arises_htlc_txid {v : U32} {p}
    (arises : Arises prims provider view tx o (htlcOutputSpent v p)) :
    p.txid = prims.computeTxid tx := by
  cases arises with
  | htlcOutput => rfl
  | close _ closed _ =>
    obtain ⟨input, -, ⟨ours, htlcs, same⟩ | same⟩ := closeChange_cases closed <;> cases same

theorem apart_changesIn (separate : Separate prims view txs) (here : tx ∈ txs)
    (here' : tx' ∈ txs) (txidsApart : prims.computeTxid tx ≠ prims.computeTxid tx')
    (spentOnce : ∀ input ∈ tx.input, ∀ input' ∈ tx'.input,
      input.previousOutput ≠ input'.previousOutput)
    (single : view.fundingTxids.length ≤ 1) (member : c ∈ view.changesIn prims provider tx)
    (member' : d ∈ view.changesIn prims provider tx') : c.Apart d := by
  rcases mem_changesIn member with ⟨o, confirms, rfl⟩ | ⟨input, there, arises⟩
  · rcases mem_changesIn member' with ⟨o', confirms', rfl⟩ | ⟨input', there', arises'⟩
    · have funding := (confirms_mem confirms).1
      have funding' := (confirms_mem confirms').1
      exact absurd (eq_of_single single funding funding') txidsApart
    · exact (apart_fundingConfirmed arises').2
  · rcases mem_changesIn member' with ⟨o', confirms', rfl⟩ | ⟨input', there', arises'⟩
    · exact (apart_fundingConfirmed arises).1
    · refine apart_of_arises separate here here' arises arises' (spentOnce _ there _ there') ?_
      rintro v v' p p' rfl rfl rfl
      exact txidsApart ((arises_htlc_txid arises).symm.trans (arises_htlc_txid arises'))

theorem pairwise_inputChanges : (view.inputChanges o).Pairwise Apart := by
  unfold inputChanges fundingInputChanges sweepChanges
  rw [pairwise_append]
  refine ⟨?_, ?_, ?_⟩
  · split <;> simp
  · split <;> simp
  · intro c member d _
    split at member
    · obtain rfl := mem_singleton.mp member
      cases d <;> trivial
    · cases member

theorem pairwise_closeChanges : (view.closeChanges prims provider tx).Pairwise Apart := by
  unfold closeChanges
  split
  · cases closeChange prims provider tx (prims.computeTxid tx) <;> simp [Except.toOption]
  · exact .nil

theorem pairwise_zipIdx {inputs : List TxIn} (spentOnce : (inputs.map (·.previousOutput)).Nodup) :
    inputs.zipIdx.Pairwise fun entry entry' =>
      entry.1.previousOutput ≠ entry'.1.previousOutput ∧ entry.2 ≠ entry'.2 := by
  apply List.Pairwise.and
  · have outpoints : inputs.zipIdx.map (fun entry => entry.1.previousOutput)
        = inputs.map (·.previousOutput) := by
      rw [← zipIdx_map_fst 0 inputs, map_map, zipIdx_map_fst]
      rfl
    exact pairwise_map.mp (outpoints ▸ spentOnce)
  · have positions : (inputs.zipIdx.map Prod.snd).Pairwise (· ≠ ·) := by
      rw [zipIdx_map_snd]
      exact nodup_range'
    exact pairwise_map.mp positions

theorem pairwise_htlcChanges (bounded : tx.input.length ≤ 2 ^ 32)
    (spentOnce : (tx.input.map (·.previousOutput)).Nodup) :
    (view.htlcChanges prims tx).Pairwise Apart := by
  unfold htlcChanges spentHtlcs
  rw [pairwise_map, pairwise_flatMap]
  constructor
  · intro entry _
    split <;> simp
  · refine (pairwise_zipIdx spentOnce).imp_of_mem ?_
    rintro ⟨input, k⟩ ⟨input', k'⟩ member member' ⟨different, positions⟩ one there one' there'
    split at there
    · rename_i tracked
      split at there'
      · rename_i tracked'
        obtain rfl := mem_singleton.mp there
        obtain rfl := mem_singleton.mp there'
        refine ⟨fun vout => different (tracks_unique (by simp) tracked tracked' vout), ?_⟩
        intro same
        have below := snd_lt_of_mem_zipIdx member
        have below' := snd_lt_of_mem_zipIdx member'
        have same := congrArg OutPoint.vout same
        have same := congrArg BitVec.toNat same
        simp only [BitVec.toNat_ofNat] at same
        rw [Nat.mod_eq_of_lt (by omega), Nat.mod_eq_of_lt (by omega)] at same
        exact positions same
      · cases there'
    · cases there

theorem apart_closeChanges (separate : Separate prims view txs) (here : tx ∈ txs)
    (member : c ∈ view.closeChanges prims provider tx) (arises : Arises prims provider view tx o d)
    (notClose : d.isClose = false) : c.Apart d ∧ d.Apart c := by
  obtain ⟨closes, closed, input, -, funding⟩ := mem_closeChanges member
  refine apart_close separate here closes closed funding ?_ arises
  intro isClose
  cases notClose.symm.trans isClose

theorem pairwise_changesIn (separate : Separate prims view txs) (here : tx ∈ txs)
    (bounded : tx.input.length ≤ 2 ^ 32) (spentOnce : (tx.input.map (·.previousOutput)).Nodup) :
    (view.changesIn prims provider tx).Pairwise Apart := by
  have htlc {d : StateChange} (member : d ∈ view.htlcChanges prims tx) : ∃ o vout p,
      d = htlcOutputSpent vout p ∧ Arises prims provider view tx o d := by
    obtain ⟨one, spent, rfl⟩ := mem_map.mp member
    obtain ⟨input, k, there, tracked, rfl⟩ := mem_spentHtlcs spent
    exact ⟨_, _, _, rfl, .htlcOutput there rfl tracked⟩
  have swept {input : TxIn} {c : StateChange}
      (member : c ∈ view.inputChanges input.previousOutput) :
      Arises prims provider view tx input.previousOutput c := arises_inputChanges member
  rw [changesIn, endChanges, pairwise_append, pairwise_append, pairwise_append, pairwise_flatMap]
  refine ⟨⟨fun _ _ => pairwise_inputChanges, ?_⟩, ⟨?_, ⟨pairwise_closeChanges,
    pairwise_htlcChanges bounded spentOnce, ?_⟩, ?_⟩, ?_⟩
  · refine (pairwise_map.mp spentOnce).imp ?_
    intro input input' different c member d member'
    refine apart_of_arises separate here here (swept member) (swept member') different ?_
    rintro v v' p p' rfl -
    exact (inputChanges_quiet _ member).elim
  · cases view.confirms (prims.computeTxid tx) <;> simp
  · intro c member d member'
    obtain ⟨o, vout, p, rfl, arises⟩ := htlc member'
    exact (apart_closeChanges separate here member arises rfl).1
  · intro c member d member'
    obtain ⟨o, -, rfl⟩ := mem_map.mp member
    rcases mem_append.mp member' with member' | member'
    · obtain ⟨closes, closed, input, -, funding⟩ := mem_closeChanges member'
      exact (apart_fundingConfirmed (.close closes closed funding)).2
    · obtain ⟨o, vout, p, rfl, arises⟩ := htlc member'
      exact (apart_fundingConfirmed arises).2
  · intro c member d member'
    obtain ⟨input, -, member⟩ := mem_flatMap.mp member
    have arises := swept member
    have quiet := inputChanges_quiet c member
    simp only [mem_append] at member'
    rcases member' with member' | member' | member'
    · obtain ⟨o, -, rfl⟩ := mem_map.mp member'
      exact (apart_fundingConfirmed arises).1
    · refine (apart_closeChanges separate here member' arises ?_).2
      cases c <;> first | rfl | exact quiet.elim
    · obtain ⟨o, vout, p, rfl, arises'⟩ := htlc member'
      cases arises with
      | secondLevel tracked =>
        rintro rfl
        exact separate.secondLevel _ tracked (arises_htlc_txid arises' ▸ mem_map_of_mem here)
      | fundingInput | ourOutput => trivial
      | htlcOutput => exact quiet.elim
      | close _ closed _ =>
        obtain ⟨_, _, ⟨ours, htlcs, rfl⟩ | rfl⟩ := closeChange_cases closed
        · exact quiet.elim
        · exact quiet.elim

theorem pairwise_block (separate : Separate prims view txs)
    (bounded : ∀ tx ∈ txs, tx.input.length ≤ 2 ^ 32) (spentOnce : (spends txs).Nodup)
    (txidsApart : (txs.map prims.computeTxid).Nodup) (single : view.fundingTxids.length ≤ 1) :
    (txs.flatMap (view.changesIn prims provider)).Pairwise Apart := by
  obtain ⟨within, across⟩ := pairwise_flatMap.mp spentOnce
  rw [pairwise_flatMap]
  constructor
  · intro tx member
    exact pairwise_changesIn separate member (bounded tx member) (within tx member)
  · refine (across.and (pairwise_map.mp txidsApart)).imp_of_mem ?_
    rintro tx tx' there there' ⟨different, txids⟩ c member d member'
    refine apart_changesIn separate there there' txids ?_ single member member'
    intro input inputs input' inputs'
    exact different _ (mem_map_of_mem inputs) _ (mem_map_of_mem inputs')

section

variable (sound : Sound s) (consistent : Consistent prims s txs)
  (readsBack : ReadsBack prims provider s txs)
include consistent

theorem separate_view : Separate prims (s.view prims txs) txs where
  closed tx member closes o := by
    have fresh := (consistent.closedOnce tx member closes).2.2
    simp [tracks, view, fresh]
  secondLevel o tracked := by
    obtain ⟨c, found, has⟩ := tracks_some tracked
    obtain ⟨entry, member, rfl⟩ := mem_map.mp has
    exact consistent.secondLevelOnce c found entry member

include sound in
theorem apart_view : (s.changesOf prims provider txs).Pairwise Apart :=
  pairwise_block (separate_view consistent) consistent.inputsBounded consistent.spentOnce
    consistent.txidsApart sound.fundingTxids

theorem new_view : ∀ c ∈ s.changesOf prims provider txs, c.New s := by
  intro c member
  obtain ⟨tx, there, member⟩ := mem_flatMap.mp member
  rcases mem_changesIn member with ⟨o, confirms, rfl⟩ | ⟨input, spent, arises⟩
  · exact consistent.confirmedOnce tx there (confirms_mem confirms).1
  · have spent : input.previousOutput ∈ spends txs :=
      mem_flatMap.mpr ⟨tx, there, mem_map_of_mem spent⟩
    cases arises with
    | fundingInput => trivial
    | ourOutput tracked =>
      obtain ⟨o, found, is⟩ := tracks_some tracked
      exact ⟨o, found, consistent.ourOutput o found _ spent
        (ClosingOutpoints.includesOurOutput_iff.mpr is)⟩
    | secondLevel tracked =>
      obtain ⟨o, found, is⟩ := tracks_some tracked
      exact ⟨o, found, consistent.secondLevel o found _ spent
        (ClosingOutpoints.includesSecondLevelHtlcOutput_iff.mpr is)⟩
    | htlcOutput _ _ tracked =>
      obtain ⟨o, found, is⟩ := tracks_some tracked
      refine ⟨o, found, consistent.htlcOutputs o found _ spent
        (ClosingOutpoints.includesHtlcOutput_iff.mpr is), ?_⟩
      intro has
      obtain ⟨entry, member, same⟩ := mem_map.mp has
      apply consistent.secondLevelOnce o found entry member
      rw [same]
      exact mem_map_of_mem there
    | close closes closed _ =>
      obtain ⟨unilateral, mutually, closing⟩ := consistent.closedOnce tx there closes
      obtain ⟨_, _, ⟨ours, htlcs, rfl⟩ | rfl⟩ := closeChange_cases closed
      · exact ⟨unilateral, closing⟩
      · exact mutually

include sound readsBack in
theorem readable_view {o : Option OutPoint} (there : tx ∈ txs)
    (outputs : ({ s.view prims txs with fundingOutpoint := o } : State).spendsFunding tx →
      tx.output.length ≤ BlockDecodeState.maxCommitmentOutputs)
    (closes : ({ s.view prims txs with fundingOutpoint := o } : State).Closes prims tx
      ↔ (s.view prims txs).Closes prims tx) :
    Readable prims provider { s.view prims txs with fundingOutpoint := o } tx where
  funding ind found := by
    obtain ⟨inside, same, -⟩ := findIdx?_eq_some_iff_getElem.mp found
    have funding : prims.computeTxid tx ∈ s.fundingTxids := by
      have same : (s.view prims txs).fundingTxids[ind] = prims.computeTxid tx := by simpa using same
      exact same ▸ getElem_mem inside
    have inside : ind < s.fundingVouts.length := sound.fundingVouts ▸ inside
    refine ⟨s.fundingVouts[ind], getElem?_eq_getElem inside, ?_⟩
    exact readsBack.funding tx there funding _ (getElem_mem inside)
  outputs := outputs
  close here := by
    obtain ⟨c, closed, -⟩ := readsBack.close tx there (closes.mp here)
    exact ⟨c, closed⟩
  closedOnce c member _ input _ := by
    obtain ⟨here, -, -⟩ := mem_closeChanges member
    exact (separate_view consistent).closed tx there (closes.mp here) _

omit consistent in
include readsBack in
theorem notMade_view (spent : o ∈ spends txs) :
    ∀ c ∈ s.changesOf prims provider txs, o ∉ c.makes := by
  intro c member
  obtain ⟨tx, there, member⟩ := mem_flatMap.mp member
  rcases mem_changesIn member with ⟨p, confirms, rfl⟩ | ⟨input, -, arises⟩
  · exact not_mem_nil
  · cases arises with
    | fundingInput | ourOutput | secondLevel => exact not_mem_nil
    | htlcOutput entry same tracked =>
      intro made
      obtain rfl := mem_singleton.mp made
      exact readsBack.htlcs tx there _ entry (same ▸ tracked) spent
    | close closes closed _ =>
      obtain ⟨c', closed', unspent⟩ := readsBack.close tx there closes
      cases closed.symm.trans closed'
      exact fun made => unspent o made spent

end

end Vls.Monitor
