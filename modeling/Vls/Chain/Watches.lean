import Vls.Chain.Linked
import Vls.Chain.Toy

/-! # Watches across a reorganisation

The removal of a block is to undo what the block did to the watches. For the spends of HTLC outputs
and of second-level outputs the monitor hands its lists over the other way round. -/

namespace Vls.Chain

open Monitor

namespace ListenSlot

variable {slot : ListenSlot} {watch unwatch : Watch}

/-- A slot is as it was exactly if nothing that is removed in the end was there, and everything that
    is added in the end was there. -/
theorem revert_add_iff (adds : ∀ o ∈ watch.adds, o ∈ unwatch.adds ∨ o ∈ unwatch.removes)
    (removes : ∀ o ∈ watch.removes, o ∈ unwatch.adds ∨ o ∈ unwatch.removes) :
    ((slot.add watch).revert unwatch).watches = slot.watches
      ↔ (∀ o ∈ unwatch.adds, o ∉ slot.watches)
        ∧ ∀ o ∈ unwatch.removes, o ∉ unwatch.adds → o ∈ slot.watches := by
  have member (o : OutPoint) : o ∈ ((slot.add watch).revert unwatch).watches
      ↔ ((o ∈ slot.watches ∨ o ∈ watch.adds) ∧ o ∉ watch.removes ∨ o ∈ unwatch.removes)
        ∧ o ∉ unwatch.adds := by
    simp [add, revert]
  constructor
  · intro same
    constructor
    · intro o dropped watched
      rw [← same, member] at watched
      exact watched.2 dropped
    · intro o regained kept
      rw [← same, member]
      exact ⟨.inr regained, kept⟩
  · rintro ⟨dropped, regained⟩
    ext o
    rw [member]
    constructor
    · rintro ⟨⟨watched | added, -⟩ | again, kept⟩
      · exact watched
      · exact regained o ((adds o added).resolve_left kept) kept
      · exact regained o again kept
    · intro watched
      have kept : o ∉ unwatch.adds := fun added => dropped o added watched
      refine ⟨?_, kept⟩
      by_cases removed : o ∈ watch.removes
      · exact .inr ((removes o removed).resolve_left kept)
      · exact .inl ⟨.inl watched, removed⟩

end ListenSlot

end Vls.Chain

namespace Vls.Monitor

open StateChange

variable {prims : Primitives} {provider : CommitmentPointProvider} {view s : State}
  {c : StateChange} {tx : Transaction} {txs : List Transaction} {o : OutPoint}

variable {f : StateChange → Watch} {changes : List StateChange}

theorem mem_inputChanges : c ∈ view.inputChanges o
    ↔ (o ∈ view.fundingInputs ∧ c = fundingInputSpent o)
      ∨ (view.tracks o = some .ourOutput ∧ c = ourOutputSpent o.vout)
      ∨ view.tracks o = some .secondLevelHtlcOutput ∧ c = secondLevelHtlcOutputSpent o := by
  simp only [State.inputChanges, State.fundingInputChanges, State.sweepChanges, List.mem_append]
  apply or_congr
  · split <;> simp_all
  · split <;> simp_all

theorem mem_changesIn_iff : c ∈ view.changesIn prims provider tx
    ↔ (∃ input ∈ tx.input, c ∈ view.inputChanges input.previousOutput)
      ∨ (∃ o, view.confirms (prims.computeTxid tx) = some o ∧ c = fundingConfirmed o)
      ∨ (view.Closes prims tx ∧ closeChange prims provider tx (prims.computeTxid tx) = .ok c)
      ∨ ∃ entry ∈ tx.input.zipIdx, view.tracks entry.1.previousOutput = some .htlcOutput
        ∧ c = htlcOutputSpent entry.1.previousOutput.vout
          ⟨prims.computeTxid tx, .ofNat 32 entry.2⟩ := by
  simp only [State.changesIn, State.endChanges, List.mem_append, List.mem_flatMap]
  refine or_congr Iff.rfl (or_congr ?_ (or_congr ?_ ?_))
  · simp [eq_comm]
  · simp only [State.closeChanges]
    split
    · rename_i closes
      simp [closes, Option.mem_toList, Result.toOption_eq_some]
    · rename_i closes
      simp [closes]
  · simp only [State.htlcChanges, State.spentHtlcs, List.mem_map, List.mem_flatMap]
    constructor
    · rintro ⟨spent, ⟨entry, there, member⟩, rfl⟩
      split at member
      · rename_i tracked
        rw [List.mem_singleton.mp member]
        exact ⟨entry, there, tracked, rfl⟩
      · cases member
    · rintro ⟨entry, there, tracked, rfl⟩
      exact ⟨_, ⟨entry, there, by simp [tracked]; rfl⟩, rfl⟩

variable (prims provider)

/-- After the block was removed the outpoint is not watched: it was made by the block, or it is an
    HTLC output or a second-level output that was spent in the block. -/
def Dropped (s : State) (txs : List Transaction) (o : OutPoint) : Prop :=
  (∃ tx ∈ txs, s.confirms (prims.computeTxid tx) = some o)
  ∨ (∃ tx ∈ txs, (s.view prims txs).Closes prims tx
    ∧ ∃ c, closeChange prims provider tx (prims.computeTxid tx) = .ok c ∧ o ∈ c.makes)
  ∨ o ∈ spends txs ∧ (s.tracks o = some .htlcOutput ∨ s.tracks o = some .secondLevelHtlcOutput)

/-- After the removal the outpoint is watched: it is a funding input or our output that was spent in
    the block, the funding outpoint that was closed in it, or a second-level output made by it. -/
def Regained (s : State) (txs : List Transaction) (o : OutPoint) : Prop :=
  (o ∈ spends txs ∧ (o ∈ s.fundingInputs ∨ s.tracks o = some .ourOutput))
  ∨ (∃ tx ∈ txs, (s.view prims txs).Closes prims tx ∧ (s.view prims txs).fundingOutpoint = some o)
  ∨ ∃ tx ∈ txs, ∃ entry ∈ tx.input.zipIdx,
    s.tracks entry.1.previousOutput = some .htlcOutput
      ∧ o = ⟨prims.computeTxid tx, .ofNat 32 entry.2⟩

/-- The condition for a slot: nothing that is dropped is watched, everything else that is regained
    is. -/
def Rewatched (s : State) (txs : List Transaction) (watches : Finset OutPoint) : Prop :=
  (∀ o, Dropped prims provider s txs o → o ∉ watches)
    ∧ ∀ o, Regained prims s txs o → ¬ Dropped prims provider s txs o → o ∈ watches

variable {prims provider}

theorem outpoint_of_tracked {kind} (notSecond : kind ≠ .secondLevelHtlcOutput)
    (tracked : s.tracks o = some kind) : (⟨s.closeTxid, o.vout⟩ : OutPoint) = o := by
  obtain ⟨closing, found, is⟩ := tracks_some tracked
  have txid : s.closeTxid = closing.txid := by simp [State.closeTxid, Option.mem_def.mp found]
  cases kind with
  | ourOutput => exact outpoint_ext (txid.trans is.1) rfl
  | htlcOutput => exact outpoint_ext (txid.trans is.1) rfl
  | secondLevelHtlcOutput => exact absurd rfl notSecond

theorem mem_changesOf : c ∈ s.changesOf prims provider txs
    ↔ (∃ o ∈ spends txs, c ∈ s.inputChanges o)
      ∨ (∃ tx ∈ txs, ∃ o, s.confirms (prims.computeTxid tx) = some o ∧ c = fundingConfirmed o)
      ∨ (∃ tx ∈ txs, (s.view prims txs).Closes prims tx
        ∧ closeChange prims provider tx (prims.computeTxid tx) = .ok c)
      ∨ ∃ tx ∈ txs, ∃ entry ∈ tx.input.zipIdx,
        s.tracks entry.1.previousOutput = some .htlcOutput
          ∧ c = htlcOutputSpent entry.1.previousOutput.vout
            ⟨prims.computeTxid tx, .ofNat 32 entry.2⟩ := by
  simp only [State.changesOf, List.mem_flatMap, mem_changesIn_iff]
  constructor
  · rintro ⟨tx, there, ⟨input, inputs, member⟩ | ⟨o, confirms, rfl⟩ | close |
      ⟨entry, inputs, tracked, rfl⟩⟩
    · exact .inl ⟨input.previousOutput,
        List.mem_flatMap.mpr ⟨tx, there, List.mem_map_of_mem inputs⟩, member⟩
    · exact .inr (.inl ⟨tx, there, o, confirms, rfl⟩)
    · exact .inr (.inr (.inl ⟨tx, there, close⟩))
    · exact .inr (.inr (.inr ⟨tx, there, entry, inputs, tracked, rfl⟩))
  · rintro (⟨o, spent, member⟩ | ⟨tx, there, o, confirms, rfl⟩ | ⟨tx, there, close⟩ |
      ⟨tx, there, entry, inputs, tracked, rfl⟩)
    · obtain ⟨tx, there, spent⟩ := List.mem_flatMap.mp spent
      obtain ⟨input, inputs, rfl⟩ := List.mem_map.mp spent
      exact ⟨tx, there, .inl ⟨input, inputs, member⟩⟩
    · exact ⟨tx, there, .inr (.inl ⟨o, confirms, rfl⟩)⟩
    · exact ⟨tx, there, .inr (.inr (.inl close))⟩
    · exact ⟨tx, there, .inr (.inr (.inr ⟨entry, inputs, tracked, rfl⟩))⟩

theorem mem_watches_adds : o ∈ (watches f changes).adds ↔ ∃ c ∈ changes, o ∈ (f c).adds :=
  List.mem_flatMap

theorem mem_watches_removes :
    o ∈ (watches f changes).removes ↔ ∃ c ∈ changes, o ∈ (f c).removes :=
  List.mem_flatMap

theorem mem_unwatch_adds :
    o ∈ (watches (unwatch s.closeTxid) (s.changesOf prims provider txs)).adds
      ↔ Dropped prims provider s txs o := by
  rw [mem_watches_adds]
  simp only [mem_changesOf]
  constructor
  · rintro ⟨c, ⟨p, spent, member⟩ | ⟨tx, there, p, confirms, rfl⟩ | ⟨tx, there, closes, closed⟩ |
      ⟨tx, there, entry, inputs, tracked, rfl⟩, added⟩
    · rcases mem_inputChanges.mp member with ⟨-, rfl⟩ | ⟨-, rfl⟩ | ⟨tracked, rfl⟩
      · cases added
      · cases added
      · obtain rfl := List.mem_singleton.mp added
        exact .inr (.inr ⟨spent, .inr tracked⟩)
    · obtain rfl := List.mem_singleton.mp added
      exact .inl ⟨tx, there, confirms⟩
    · refine .inr (.inl ⟨tx, there, closes, c, closed, ?_⟩)
      obtain ⟨input, -, ⟨ours, htlcs, rfl⟩ | rfl⟩ := closeChange_cases closed
      · exact added
      · cases added
    · obtain rfl := List.mem_singleton.mp added
      rw [outpoint_of_tracked (by simp) tracked]
      refine .inr (.inr ⟨List.mem_flatMap.mpr ⟨tx, there, ?_⟩, .inl tracked⟩)
      exact List.mem_map_of_mem (List.fst_mem_of_mem_zipIdx inputs)
  · rintro (⟨tx, there, confirms⟩ | ⟨tx, there, closes, c, closed, made⟩ |
      ⟨spent, tracked | tracked⟩)
    · exact ⟨_, .inr (.inl ⟨tx, there, o, confirms, rfl⟩), List.mem_singleton_self o⟩
    · refine ⟨c, .inr (.inr (.inl ⟨tx, there, closes, closed⟩)), ?_⟩
      obtain ⟨input, -, ⟨ours, htlcs, rfl⟩ | rfl⟩ := closeChange_cases closed
      · exact made
      · cases made
    · obtain ⟨tx, there, spent⟩ := List.mem_flatMap.mp spent
      obtain ⟨input, inputs, rfl⟩ := List.mem_map.mp spent
      obtain ⟨i, inside, rfl⟩ := List.getElem_of_mem inputs
      refine ⟨_, .inr (.inr (.inr ⟨tx, there, (tx.input[i], i), ?_, tracked, rfl⟩)), ?_⟩
      · rw [List.mem_zipIdx_iff_getElem?]
        simp [inside]
      · exact List.mem_singleton.mpr (outpoint_of_tracked (by simp) tracked).symm
    · exact ⟨_, .inl ⟨o, spent, mem_inputChanges.mpr (.inr (.inr ⟨tracked, rfl⟩))⟩,
        List.mem_singleton_self o⟩

theorem mem_unwatch_removes (readsBack : ReadsBack prims provider s txs) :
    o ∈ (watches (unwatch s.closeTxid) (s.changesOf prims provider txs)).removes
      ↔ Regained prims s txs o := by
  have closed_outpoint {tx : Transaction} {input : TxIn} (single : tx.input = [input])
      (closes : (s.view prims txs).Closes prims tx) :
      (s.view prims txs).fundingOutpoint = some input.previousOutput := by
    simpa [State.spendsFunding, single, eq_comm] using closes.1
  rw [mem_watches_removes]
  simp only [mem_changesOf]
  constructor
  · rintro ⟨c, ⟨p, spent, member⟩ | ⟨tx, there, p, confirms, rfl⟩ | ⟨tx, there, closes, closed⟩ |
      ⟨tx, there, entry, inputs, tracked, rfl⟩, removed⟩
    · rcases mem_inputChanges.mp member with ⟨funding, rfl⟩ | ⟨tracked, rfl⟩ | ⟨-, rfl⟩
      · obtain rfl := List.mem_singleton.mp removed
        exact .inl ⟨spent, .inl funding⟩
      · obtain rfl := List.mem_singleton.mp removed
        rw [outpoint_of_tracked (by simp) tracked]
        exact .inl ⟨spent, .inr tracked⟩
      · cases removed
    · cases removed
    · refine .inr (.inl ⟨tx, there, closes, ?_⟩)
      obtain ⟨input, single, ⟨ours, htlcs, rfl⟩ | rfl⟩ := closeChange_cases closed
      · obtain rfl := List.mem_singleton.mp removed
        exact closed_outpoint single closes
      · obtain rfl := List.mem_singleton.mp removed
        exact closed_outpoint single closes
    · obtain rfl := List.mem_singleton.mp removed
      exact .inr (.inr ⟨tx, there, entry, inputs, tracked, rfl⟩)
  · rintro (⟨spent, funding | tracked⟩ | ⟨tx, there, closes, outpoint⟩ |
      ⟨tx, there, entry, inputs, tracked, rfl⟩)
    · exact ⟨_, .inl ⟨o, spent, mem_inputChanges.mpr (.inl ⟨funding, rfl⟩)⟩,
        List.mem_singleton_self o⟩
    · refine ⟨_, .inl ⟨o, spent, mem_inputChanges.mpr (.inr (.inl ⟨tracked, rfl⟩))⟩, ?_⟩
      exact List.mem_singleton.mpr (outpoint_of_tracked (by simp) tracked).symm
    · obtain ⟨c, closed, -⟩ := readsBack.close tx there closes
      refine ⟨c, .inr (.inr (.inl ⟨tx, there, closes, closed⟩)), ?_⟩
      obtain ⟨input, single, ⟨ours, htlcs, rfl⟩ | rfl⟩ := closeChange_cases closed
      · rw [Option.some.inj (outpoint.symm.trans (closed_outpoint single closes))]
        exact List.mem_singleton_self _
      · rw [Option.some.inj (outpoint.symm.trans (closed_outpoint single closes))]
        exact List.mem_singleton_self _
    · exact ⟨_, .inr (.inr (.inr ⟨tx, there, entry, inputs, tracked, rfl⟩)),
        List.mem_singleton_self _⟩

theorem watch_unwatch {close}
    (asked : o ∈ (watches (watch close) changes).adds
      ∨ o ∈ (watches (watch close) changes).removes) :
    o ∈ (watches (unwatch close) changes).adds ∨ o ∈ (watches (unwatch close) changes).removes := by
  have one (c : StateChange) (asked : o ∈ (watch close c).adds ∨ o ∈ (watch close c).removes) :
      o ∈ (unwatch close c).adds ∨ o ∈ (unwatch close c).removes := by
    cases c with
    | htlcOutputSpent => exact asked.symm
    | secondLevelHtlcOutputSpent => exact asked.symm
    | _ => exact asked
  simp only [mem_watches_adds, mem_watches_removes] at asked ⊢
  rcases asked with ⟨c, member, asked⟩ | ⟨c, member, asked⟩
  · rcases one c (.inl asked) with added | removed
    · exact .inl ⟨c, member, added⟩
    · exact .inr ⟨c, member, removed⟩
  · rcases one c (.inr asked) with added | removed
    · exact .inl ⟨c, member, added⟩
    · exact .inr ⟨c, member, removed⟩

theorem slot_restored_iff {slot : Chain.ListenSlot} (readsBack : ReadsBack prims provider s txs) :
    ((slot.add (watches (watch s.closeTxid) (s.changesOf prims provider txs))).revert
        (watches (unwatch s.closeTxid) (s.changesOf prims provider txs))).watches = slot.watches
      ↔ Rewatched prims provider s txs slot.watches := by
  rw [Chain.ListenSlot.revert_add_iff (fun _ added => watch_unwatch (.inl added))
    fun _ removed => watch_unwatch (.inr removed)]
  simp only [mem_unwatch_adds, mem_unwatch_removes readsBack, Rewatched]

end Vls.Monitor

namespace Vls.Chain

open Monitor ChainTracker

section

variable {L K D : Type} [DecidableEq K] {t t' : ChainTracker L K D} {o : OutPoint}

theorem mem_getAllForwardWatches : o ∈ t.getAllForwardWatches
    ↔ ∃ key entry, t.listeners.lookup key = some entry ∧ o ∈ entry.2.watches := by
  have loop (entries : List (L × ListenSlot)) (start : Finset OutPoint) :
      o ∈ entries.foldl (fun watches entry => watches ∪ entry.2.watches) start
        ↔ o ∈ start ∨ ∃ entry ∈ entries, o ∈ entry.2.watches := by
    induction entries generalizing start with
    | nil => simp
    | cons entry rest ih => simp [ih, or_assoc]
  rw [getAllForwardWatches, loop]
  simp only [Finset.notMem_empty, false_or, Map.mem_values]
  constructor
  · rintro ⟨entry, ⟨key, found⟩, watched⟩
    exact ⟨key, entry, found, watched⟩
  · rintro ⟨key, entry, found, watched⟩
    exact ⟨entry, ⟨key, found⟩, watched⟩

theorem getAllForwardWatches_congr
    (same : ∀ key,
      (t'.listeners.lookup key).map (·.2.watches) = (t.listeners.lookup key).map (·.2.watches)) :
    t'.getAllForwardWatches = t.getAllForwardWatches := by
  ext o
  have one {t t' : ChainTracker L K D}
      (same : ∀ key, (t'.listeners.lookup key).map (·.2.watches)
        = (t.listeners.lookup key).map (·.2.watches))
      (watched : o ∈ t'.getAllForwardWatches) : o ∈ t.getAllForwardWatches := by
    obtain ⟨key, entry, found, watched⟩ := mem_getAllForwardWatches.mp watched
    have here := same key
    rw [found, Option.map_some] at here
    obtain ⟨entry', found', equal⟩ := Option.map_eq_some_iff.mp here.symm
    exact mem_getAllForwardWatches.mpr ⟨key, entry', found', equal ▸ watched⟩
  exact ⟨one same, one fun key => (same key).symm⟩

end

variable {D : Type} {env : ChainEnv D} {prims : Primitives}
  {t t₁ : ChainTracker ChainMonitor OutPoint D} {txs : List Transaction} {header : BlockHeader}
  {prev : Headers} {content content' : List U8}
  {attestations attestations' : List (PublicKey × List U8)}

/-- A block that was added, and that reads back, can be removed again with a proof that is accepted.
    That restores what every slot watches for, and so what is watched for at all, exactly under the
    condition. -/
theorem watches_restored_iff
    (sound : ∀ key m slot, t.listeners.lookup key = some (m, slot) → Sound m.state)
    (valid : ∀ key m slot, t.listeners.lookup key = some (m, slot) →
      Consistent prims m.state txs ∧ ReadsBack prims m.commitmentPointProvider m.state txs)
    (added : addBlock env (listener prims env.blockHash) header
      ⟨attestations, .filter content txs⟩ t = .ok () t₁)
    (precedes : t₁.Precedes prev)
    (accepted : t₁.validateBlock env (t₁.height - 1) none prev t₁.tip
      ⟨attestations', .filter content' txs⟩ true = .ok ()) :
    ∃ t₂, removeBlock env (listener prims env.blockHash) ⟨attestations', .filter content' txs⟩ prev
        t₁ = .ok t₁.tip.header t₂
      ∧ (((∀ key, (t₂.listeners.lookup key).map (·.2.watches)
            = (t.listeners.lookup key).map (·.2.watches))
          ∧ t₂.getAllForwardWatches = t.getAllForwardWatches)
        ↔ ∀ key m slot, t.listeners.lookup key = some (m, slot) →
          Rewatched prims m.commitmentPointProvider m.state txs slot.watches) := by
  obtain ⟨-, -, _, given, listeners₁, heard₁, rfl⟩ := addBlock_ok.mp added
  cases given
  obtain ⟨listeners₂, heard₂⟩ : ∃ listeners₂, Map.traverse listeners₁
      (hearRemove (listener prims env.blockHash) (some txs) (env.blockHash prev.header))
        = .ok listeners₂ := by
    apply Map.traverse_ok
    intro key entry found
    obtain ⟨⟨m, slot⟩, there, told⟩ := Map.exists_of_lookup_traverse heard₁ found
    obtain ⟨consistent, readsBack⟩ := valid key m slot there
    obtain ⟨m', back⟩ := hear_back (sound key m slot there) consistent readsBack told
    exact ⟨_, back⟩
  refine ⟨_, removeBlock_ok.mpr ⟨precedes, ⟨rfl, rfl⟩, accepted, some txs, rfl, listeners₂, heard₂,
    rfl, rfl⟩, ?_⟩
  have slots (key : OutPoint) (m : ChainMonitor) (slot : ListenSlot)
      (found : t.listeners.lookup key = some (m, slot)) :
      ((listeners₂.lookup key).map (·.2.watches) = some slot.watches)
        ↔ Rewatched prims m.commitmentPointProvider m.state txs slot.watches := by
    obtain ⟨consistent, readsBack⟩ := valid key m slot found
    obtain ⟨entry₁, told₁, found₁⟩ := (Map.lookup_traverse heard₁).1 _ found
    obtain ⟨entry₂, told₂, found₂⟩ := (Map.lookup_traverse heard₂).1 _ found₁
    obtain ⟨m', told⟩ := hear_back (sound key m slot found) consistent readsBack told₁
    cases told₂.symm.trans told
    rw [found₂, Option.map_some, Option.some.injEq]
    exact slot_restored_iff readsBack
  constructor
  · rintro ⟨same, -⟩ key m slot found
    have here := same key
    rw [found, Option.map_some] at here
    exact (slots key m slot found).mp here
  · intro rewatched
    have same : ∀ key, (listeners₂.lookup key).map (·.2.watches)
        = (t.listeners.lookup key).map (·.2.watches) := by
      intro key
      cases found : t.listeners.lookup key with
      | none =>
        have absent := (Map.lookup_traverse heard₁).2 found
        rw [(Map.lookup_traverse heard₂).2 absent]
      | some entry =>
        exact (slots key entry.1 entry.2 found).mpr (rewatched key entry.1 entry.2 found)
    exact ⟨same, getAllForwardWatches_congr same⟩

end Vls.Chain

namespace Vls

open Monitor Chain ChainTracker

open Toy

/-- The confirmation of the funding is taken back: the funding outpoint is not watched any more, the
    input of the funding is watched again. -/
theorem funding_watches_restored : ∃ t₁ t₂ removedHeader,
    addBlock (chainEnv (blockHeader 2) []) chainListener (blockHeader 2)
      ⟨[], .filter [] [fundingTx]⟩ (trackerOf signedState {walletOutpoint})
      = .ok () t₁
    ∧ slotWatches t₁ = some {⟨1, 0⟩}
    ∧ removeBlock (chainEnv (blockHeader 2) []) chainListener
      ⟨[], .filter [] [fundingTx]⟩ ⟨blockHeader 1, 1⟩ t₁ = .ok removedHeader t₂
    ∧ slotWatches t₂ = some {walletOutpoint} := by
  obtain ⟨t₁, added, watched, precedes, accepted⟩ : ∃ t₁, addBlock (chainEnv (blockHeader 2) [])
      chainListener (blockHeader 2) ⟨[], .filter [] [fundingTx]⟩
        (trackerOf signedState {walletOutpoint}) = .ok () t₁
      ∧ slotWatches t₁ = some {⟨1, 0⟩} ∧ t₁.Precedes ⟨blockHeader 1, 1⟩
      ∧ t₁.validateBlock (chainEnv (blockHeader 2) []) (t₁.height - 1) none ⟨blockHeader 1, 1⟩
        t₁.tip ⟨[], .filter [] [fundingTx]⟩ true = .ok () :=
    ⟨_, Call.Ends.eq_ok (by decide +kernel), by decide +kernel, rfl, by decide +kernel⟩
  have sound : ∀ key m slot, (trackerOf signedState {walletOutpoint}).listeners.lookup key
      = some (m, slot) → Sound m.state := by
    intro key m slot found
    obtain ⟨rfl, -⟩ := lookup_trackerOf found
    exact ⟨by decide, by decide, fun _ => rfl, fun _ => rfl, fun k recorded => nomatch recorded⟩
  obtain ⟨t₂, removed, restored⟩ := watches_restored_iff sound (fun key m slot found => by
    obtain ⟨rfl, -⟩ := lookup_trackerOf found
    exact ⟨by decide +kernel, by decide +kernel⟩) added precedes accepted
  refine ⟨t₁, t₂, _, added, watched, removed, (restored.mpr ?_).1 ⟨1, 0⟩⟩
  intro key m slot found
  obtain ⟨rfl, rfl⟩ := lookup_trackerOf found
  have notClosed : ¬ (State.view Toy.prims signedState [fundingTx]).Closes Toy.prims
      fundingTx := by decide +kernel
  have confirms : signedState.confirms (Toy.prims.computeTxid fundingTx)
      = some ⟨1, 0⟩ := by decide +kernel
  constructor
  · rintro o (⟨tx, there, confirmed⟩ | ⟨tx, there, closes, -⟩ | ⟨-, tracked | tracked⟩)
    · obtain rfl := List.mem_singleton.mp there
      cases confirms.symm.trans confirmed
      decide
    · obtain rfl := List.mem_singleton.mp there
      exact absurd closes notClosed
    · cases tracked
    · cases tracked
  · rintro o (⟨spent, -⟩ | ⟨tx, there, closes, -⟩ | ⟨tx, there, entry, -, tracked, -⟩) -
    · exact Finset.mem_singleton.mpr (List.mem_singleton.mp spent)
    · obtain rfl := List.mem_singleton.mp there
      exact absurd closes notClosed
    · cases tracked

/-- The spend of an HTLC is taken back: the HTLC is not watched again, and the output it was spent
    into, which does not exist any more, is. -/
theorem htlc_watch_lost : ∃ t₁ t₂ removedHeader,
    Consistent Toy.prims closedState [htlcTx]
    ∧ ReadsBack Toy.prims Toy.provider closedState [htlcTx]
    ∧ addBlock (chainEnv (blockHeader 2) []) chainListener (blockHeader 2)
      ⟨[], .filter [] [htlcTx]⟩
      (trackerOf closedState {⟨0x20000001, 0⟩, ⟨0x20000001, 1⟩}) = .ok () t₁
    ∧ removeBlock (chainEnv (blockHeader 2) []) chainListener
      ⟨[], .filter [] [htlcTx]⟩ ⟨blockHeader 1, 1⟩ t₁ = .ok removedHeader t₂
    ∧ slotWatches t₂ = some {⟨0x20000001, 0⟩, ⟨4, 0⟩} := by
  exact ⟨_, _, blockHeader 2, by decide +kernel, by decide +kernel,
    Call.Ends.eq_ok (by decide +kernel), Call.Ends.eq_ok (by decide +kernel), by decide +kernel⟩

end Vls
