import Vls.Chain.Batch
import Vls.Monitor.RoundTrip

/-! # The chain of headers

The headers that the tracker keeps are linked by their hashes, its height counts the blocks, and the
monitors are at the height of the tracker. A block that was added can be removed again with a list
of its transactions. -/

namespace Vls.Monitor

variable {prims : Primitives} {m m' : ChainMonitor} {txs : List Transaction} {watch : Watch}
  {s s' : State} {changes : List StateChange}

theorem onAddBlockEnd_height (added : s.onAddBlockEnd changes = .ok (s', watch)) :
    s'.height = s.height + 1 := by
  obtain ⟨⟨applied, _⟩, changed, returned⟩ := Result.bind_eq_ok.mp added
  obtain rfl := applyChanges_ok (f := StateChange.forward)
    (fun here => by rw [applyForwardChange_ok here]) changed
  obtain rfl : _ = s' := congrArg Prod.fst (Except.ok.inj returned)
  exact forwards_kept.height

theorem onRemoveBlockEnd_height (removed : s.onRemoveBlockEnd changes = .ok (s', watch)) :
    s'.height = s.height - 1 := by
  obtain ⟨⟨applied, _⟩, changed, returned⟩ := Result.bind_eq_ok.mp removed
  obtain rfl := applyChanges_ok (f := StateChange.backward)
    (fun here => by rw [applyBackwardChange_ok here]) changed
  obtain rfl : _ = s' := congrArg Prod.fst (Except.ok.inj returned)
  exact congrArg (· - 1) backwards_kept.height

open Chain

variable {blockHash : BlockHeader → BlockHash} {header : BlockHeader} {event : PushEvent}
  {events : List PushEvent} {entry entry' : ChainMonitor × ListenSlot} {hash : BlockHash}

theorem whenReady_sawBlock {l l' : PushListener} {f} (returned : l.whenReady f = .ok l') :
    l'.sawBlock = l.sawBlock := by
  obtain ⟨ready, -, returned⟩ := Result.bind_eq_ok.mp returned
  split at returned
  · exact congrArg (·.sawBlock) (Except.ok.inj returned).symm
  · obtain ⟨decoded, -, returned⟩ := Result.bind_eq_ok.mp returned
    exact congrArg (·.sawBlock) (Except.ok.inj returned).symm

theorem onPush_state (told : m.onPush prims blockHash event = .ok m')
    (seen : m.state.sawBlock = true ∨ ∃ header, event = .blockStart header) :
    m'.state = m.state.saw := by
  obtain ⟨l, heard, returned⟩ := Result.bind_eq_ok.mp told
  cases returned
  suffices saw : l.sawBlock = true by simp [saw]
  cases event with
  | blockStart header =>
    simp only [PushListener.onEvent, PushListener.onBlockStart] at heard
    split at heard
    · cases heard
    · exact congrArg (·.sawBlock) (Except.ok.inj heard).symm
  | blockEnd =>
    cases heard
    exact seen.resolve_right (by simp)
  | _ =>
    simp only [PushListener.onEvent] at heard
    rw [whenReady_sawBlock heard]
    exact seen.resolve_right (by simp)

theorem hearEvents_state
    (heard : ChainTracker.hearEvents (listener prims blockHash) (.blockStart header :: events)
      entry = .ok entry') :
    entry'.1.state = entry.1.state.saw := by
  rw [ChainTracker.hearEvents, List.foldlM_cons] at heard
  obtain ⟨_, first, heard⟩ := Result.bind_eq_ok.mp heard
  obtain ⟨m', told, rfl⟩ := hearPush_ok.mp first
  have started := onPush_state told (.inr ⟨header, rfl⟩)
  apply Result.foldlM_inv (fun _ later => later.1.state = entry.1.state.saw) started _ heard
  intro _ event _ before after _ here more
  obtain ⟨m'', told, rfl⟩ := hearPush_ok.mp more
  exact (onPush_state told (.inl (by rw [here]))).trans (by rw [here])

theorem onStreamedBlockEnd_ok {finish} (saw : m.state.sawBlock = true)
    (returned : m.onStreamedBlockEnd finish hash = .ok (m', watch)) :
    m'.decodeState = none ∧ ∃ changes, finish m.state changes = .ok (m'.state, watch) := by
  simp only [ChainMonitor.onStreamedBlockEnd, saw, Bool.true_eq_false, if_false] at returned
  obtain ⟨decodeState, -, returned⟩ := Result.bind_eq_ok.mp returned
  split at returned
  · cases returned
  · obtain ⟨⟨state, _⟩, finished, returned⟩ := Result.bind_eq_ok.mp returned
    cases returned
    exact ⟨rfl, decodeState.changes, finished⟩

end Vls.Monitor

namespace Vls.Chain

open Monitor

variable {headers prev : Headers} {external : Option BlockHash} {isRemove : Bool}

namespace ChainTracker

def Linked {D : Type} (env : ChainEnv D) : Headers → List Headers → Prop
  | _, [] => True
  | tip, prev :: rest => tip.header.prevBlockhash = env.blockHash prev.header ∧ Linked env prev rest

def Request.height (n : Nat) : Request → Nat
  | add _ => n + 1
  | remove _ => n - 1

variable {D : Type} {env : ChainEnv D} {prims : Primitives}
  {t t' t₁ : ChainTracker ChainMonitor OutPoint D} {request : Request} {proof : TxoProof}
  {entry entry' : ChainMonitor × ListenSlot} {txs : List Transaction} {hash : BlockHash}
  {delivery : Delivery} {answer : Option BlockHeader}

theorem linked_take {tip headers} (linked : Linked env tip headers) (n : Nat) :
    Linked env tip (headers.take n) := by
  induction headers generalizing tip n with
  | nil => simp [Linked]
  | cons prev rest ih =>
    cases n with
    | zero => trivial
    | succ n => exact ⟨linked.1, ih linked.2 n⟩

theorem validateBlock_ok {L K : Type} {t : ChainTracker L K D} {height} :
    t.validateBlock env height external prev headers proof isRemove = .ok ()
      ↔ headers.header.prevBlockhash = env.blockHash prev.header
        ∧ env.validatePow headers.header = true
        ∧ t.validateDifficulty env height headers.header prev.header = .ok ()
        ∧ (prev.filterHeader = 0
          ∨ env.validateBlock proof (height + 1) headers.header external prev.filterHeader
            (if isRemove then t.getAllReverseWatches else t.getAllForwardWatches)
            t.trustedOraclePubkeys = .ok ()) := by
  simp only [validateBlock, ne_eq, Result.ite_err_eq_ok, not_not, Bool.not_eq_false,
    Result.bind_eq_ok]
  refine and_congr Iff.rfl (and_congr Iff.rfl ?_)
  cases t.validateDifficulty env height headers.header prev.header with
  | error fault => simp
  | ok _ => simp [or_iff_not_imp_left]

/-- Between two calls the headers are linked, no more are kept than allowed and than there are
    blocks, and the monitors, none of which waits for a block, are at the height of the tracker. -/
structure Steady (env : ChainEnv D) (t : ChainTracker ChainMonitor OutPoint D) : Prop where
  linked : Linked env t.tip t.headers
  bounded : t.headers.length ≤ maxReorgSize
  counted : t.headers.length ≤ t.height
  idle : t.decodeState = none
  monitors : ∀ key m slot, t.listeners.lookup key = some (m, slot) →
    m.state.height = t.height ∧ m.decodeState = none

theorem hear_some_moves
    (heard : request.hear (listener prims env.blockHash) (some txs) hash entry = .ok entry') :
    entry'.1.state.height = request.height entry.1.state.height
      ∧ entry'.1.decodeState = entry.1.decodeState := by
  cases request with
  | add header =>
    obtain ⟨m', watch, returned, rfl⟩ := hearAdd_ok.mp heard
    refine ⟨?_, onAddBlock_decodeState returned⟩
    obtain ⟨⟨state, _⟩, added, returned⟩ := Result.bind_eq_ok.mp returned
    obtain rfl : _ = m' := congrArg Prod.fst (Except.ok.inj returned)
    change state.height = _
    rw [onAddBlock_ok added, height_added]
    rfl
  | remove prev =>
    obtain ⟨m', watch, returned, rfl⟩ := hearRemove_ok.mp heard
    refine ⟨?_, onRemoveBlock_decodeState returned⟩
    obtain ⟨⟨state, _⟩, removed, returned⟩ := Result.bind_eq_ok.mp returned
    obtain rfl : _ = m' := congrArg Prod.fst (Except.ok.inj returned)
    change state.height = _
    rw [(onRemoveBlock_ok removed).1, height_removed]
    rfl

theorem hear_none_moves (saw : entry.1.state.sawBlock = true)
    (heard : request.hear (listener prims env.blockHash) none hash entry = .ok entry') :
    entry'.1.state.height = request.height entry.1.state.height ∧ entry'.1.decodeState = none := by
  cases request with
  | add header =>
    simp only [Request.hear, hearAdd, listener] at heard
    cases told : entry.1.onAddStreamedBlockEnd hash with
    | error fault =>
      rw [told] at heard
      cases heard
    | ok r =>
      rw [told] at heard
      cases heard
      obtain ⟨idle, changes, finished⟩ := onStreamedBlockEnd_ok saw told
      exact ⟨onAddBlockEnd_height finished, idle⟩
  | remove prev =>
    simp only [Request.hear, hearRemove, listener] at heard
    cases told : entry.1.onRemoveStreamedBlockEnd hash with
    | error fault =>
      rw [told] at heard
      cases heard
    | ok r =>
      rw [told] at heard
      cases heard
      obtain ⟨idle, changes, finished⟩ := onStreamedBlockEnd_ok saw told
      exact ⟨onRemoveBlockEnd_height finished, idle⟩

theorem monitors_run (ordered : env.Ordered) (steady : t.Steady env)
    (returned : delivery.run env (listener prims env.blockHash) t = .ok answer t') :
    ∀ key m slot, t'.listeners.lookup key = some (m, slot) →
      m.state.height = delivery.request.height t.height ∧ m.decodeState = none := by
  intro key m slot found
  obtain ⟨hash, chunks, request, proof⟩ := delivery
  obtain ⟨t₁, streamed, called⟩ := run_ok.mp returned
  obtain ⟨⟨external, checked⟩, -, txs, given, listeners, heard, rfl⟩ := call_ok.mp ⟨answer, called⟩
  have found : listeners.lookup key = some (m, slot) := by
    cases request <;> exact found
  obtain ⟨entry, there, told⟩ := Map.exists_of_lookup_traverse heard found
  cases chunks with
  | nil =>
    cases streamed
    rw [steady.idle] at external
    obtain ⟨txs, rfl⟩ := given_of_listed given external
    obtain ⟨height, waits⟩ := hear_some_moves told
    obtain ⟨height', idle⟩ := steady.monitors key entry.1 entry.2 there
    exact ⟨height.trans (congrArg request.height height'), waits.trans idle⟩
  | cons chunk rest =>
    obtain ⟨-, -, decoder, events, decoded, -, middle, heardBefore, rfl⟩ := stream_ok.mp streamed
    have spoken := ordered.complete _ _ _ decoded (checkDecoded_some.mp checked).1
    obtain ⟨header, events, rfl⟩ := (ordered.starts _ _ _ decoded).resolve_left spoken
    obtain ⟨first, there, pushed⟩ := Map.exists_of_lookup_traverse heardBefore there
    have state := hearEvents_state pushed
    have given : txs = none := by
      cases kind : proof.proof with
      | externalBlock =>
        rw [kind] at given
        exact (Option.some.inj given).symm
      | _ =>
        rw [kind] at external
        cases external
    subst given
    obtain ⟨height, waits⟩ := hear_none_moves (by rw [state]) told
    obtain ⟨height', -⟩ := steady.monitors key first.1 first.2 there
    refine ⟨height.trans (congrArg request.height ?_), waits⟩
    rw [state]
    exact height'

theorem steady_run (ordered : env.Ordered) (steady : t.Steady env)
    (deep : delivery.request.isRemove = true → t.headers = [] → 0 < t.height)
    (returned : delivery.run env (listener prims env.blockHash) t = .ok answer t') :
    t'.Steady env ∧ t'.height = delivery.request.height t.height
      ∧ (delivery.request.isRemove = true → 0 < t.height) := by
  have monitors := monitors_run ordered steady returned
  obtain ⟨hash, chunks, request, proof⟩ := delivery
  obtain ⟨t₁, streamed, called⟩ := run_ok.mp returned
  obtain ⟨middle, decodeState, rfl⟩ := streamFrom_frame streamed
  obtain ⟨-, accepted, txs, -, listeners, -, rfl⟩ := call_ok.mp ⟨answer, called⟩
  obtain ⟨linked, bounded, counted, -, -⟩ := steady
  cases request with
  | add header =>
    refine ⟨⟨⟨(validateBlock_ok.mp accepted).1, linked_take linked _⟩, ?_, ?_, rfl, monitors⟩, rfl,
      fun removal => nomatch removal⟩
    · change (t.tip :: t.headers.take (maxReorgSize - 1)).length ≤ maxReorgSize
      simp only [List.length_cons, List.length_take, maxReorgSize]
      omega
    · change (t.tip :: t.headers.take (maxReorgSize - 1)).length ≤ t.height + 1
      simp only [List.length_cons, List.length_take]
      omega
  | remove prev =>
    obtain ⟨precedes, -⟩ := accepted
    have positive : 0 < t.height := by
      cases headers : t.headers with
      | nil => exact deep rfl headers
      | cons first rest =>
        rw [headers, List.length_cons] at counted
        omega
    refine ⟨⟨?_, ?_, ?_, rfl, monitors⟩, rfl, fun _ => positive⟩
    · change Linked env prev t.headers.tail
      cases headers : t.headers with
      | nil => trivial
      | cons first rest =>
        simp only [Precedes, headers] at precedes
        rw [headers] at linked
        rw [precedes]
        exact linked.2
    · change t.headers.tail.length ≤ maxReorgSize
      rw [List.length_tail]
      omega
    · change t.headers.tail.length ≤ t.height - 1
      rw [List.length_tail]
      omega

def Delivers (env : ChainEnv D) (prims : Primitives) (txs : List Transaction)
    (delivery : Delivery) : Prop :=
  (delivery.chunks = [] ∧ ∃ content, delivery.proof.proof = .filter content txs)
  ∨ delivery.proof.proof = .externalBlock ∧ (∀ chunk ∈ delivery.chunks, chunk ≠ [])
    ∧ ∃ header, env.Parses prims header txs delivery.chunks.flatten

theorem batch_of_run (steady : t.Steady env) (delivers : Delivers env prims txs delivery)
    (returned : delivery.run env (listener prims env.blockHash) t = .ok answer t') :
    ∃ listeners, Map.traverse t.listeners (delivery.request.hear (listener prims env.blockHash)
        (some txs) (delivery.request.hash env)) = .ok listeners
      ∧ delivery.request.Accepted env t delivery.proof
      ∧ t' = delivery.request.result env t delivery.proof listeners := by
  obtain ⟨hash, chunks, request, proof⟩ := delivery
  obtain ⟨t₁, streamed, called⟩ := run_ok.mp returned
  obtain ⟨⟨external, checked⟩, accepted, told, given, listeners, heard, rfl⟩ :=
    call_ok.mp ⟨answer, called⟩
  rcases delivers with ⟨rfl, content, listed⟩ | ⟨streams, pieces, header, parses⟩
  · cases streamed
    rw [show proof.proof = .filter content txs from listed] at given
    obtain rfl : some txs = told := Option.some.inj given
    exact ⟨listeners, heard, accepted, rfl⟩
  · obtain ⟨chunk, rest, rfl⟩ := exists_chunk parses rfl pieces
    obtain ⟨decoder, decoded, -⟩ := parses _ rfl pieces
    obtain ⟨-, -, _, _, decoded', belongs, middle, pushed, rfl⟩ := stream_ok.mp streamed
    cases decoded.symm.trans decoded'
    rw [show proof.proof = .externalBlock from streams] at given
    obtain rfl : none = told := Option.some.inj given
    have sameHash :=
      (belongs (.blockStart header) List.mem_cons_self).trans (checkDecoded_some.mp checked).2
    have slots := Map.map_values_traverse (fun _ _ => hearEvents_slot) pushed
    refine ⟨listeners, ?_, (accepted_congr slots).mp accepted, ?_⟩
    · rw [← sameHash] at heard ⊢
      rw [← Map.traverse_comp.mpr ⟨middle, pushed, heard⟩]
      apply Map.traverse_congr
      intro key entry found
      exact (hear_streamed (steady.monitors key entry.1 entry.2 found).2).symm
    · cases request <;> rfl

/-- The block can be taken back from every monitor: its record is sound, and the block reads the
    same when it is removed. -/
def Returnable (prims : Primitives) (t : ChainTracker ChainMonitor OutPoint D)
    (txs : List Transaction) : Prop :=
  ∀ key m slot, t.listeners.lookup key = some (m, slot) → Sound m.state
    ∧ Consistent prims m.state txs ∧ ReadsBack prims m.commitmentPointProvider m.state txs

/-- The proof for the removal of a block is correct: it is accepted for what is watched, and was
    watched, after the block was added. -/
def Correct (env : ChainEnv D) (t t₁ : ChainTracker ChainMonitor OutPoint D) (proof : TxoProof) :
    Prop :=
  t.tip.filterHeader = 0
  ∨ env.validateBlock proof (t.height + 1) t₁.tip.header none t.tip.filterHeader
    t₁.getAllReverseWatches t.trustedOraclePubkeys = .ok ()

theorem hear_back {m : ChainMonitor} {slot : ListenSlot} {hash hash' : BlockHash} {entry}
    (sound : Sound m.state) (consistent : Consistent prims m.state txs)
    (readsBack : ReadsBack prims m.commitmentPointProvider m.state txs)
    (told : hearAdd (listener prims env.blockHash) (some txs) hash (m, slot) = .ok entry) :
    ∃ m', hearRemove (listener prims env.blockHash) (some txs) hash' entry
      = .ok (m', (slot.add (watches (StateChange.watch m.state.closeTxid)
          (m.state.changesOf prims m.commitmentPointProvider txs))).revert
        (watches (StateChange.unwatch m.state.closeTxid)
          (m.state.changesOf prims m.commitmentPointProvider txs))) := by
  have added := onAddBlock_eq sound consistent readsBack
  have removed := onRemoveBlock_eq sound consistent readsBack
  simp only [hearAdd, listener, ChainMonitor.onAddBlock, added, bind, Except.bind,
    Except.map] at told
  cases told
  simp only [hearRemove, listener, ChainMonitor.onRemoveBlock, removed, bind, Except.bind,
    Except.map]
  exact ⟨_, rfl⟩

theorem undone {header : BlockHeader} {content hash} (steady : t.Steady env)
    (delivers : Delivers env prims txs delivery) (adds : delivery.request = .add header)
    (returned : delivery.run env (listener prims env.blockHash) t = .ok answer t₁)
    (returnable : t.Returnable prims txs) (listed : proof.proof = .filter content txs)
    (correct : Correct env t t₁ proof) :
    ∃ t₂, Delivery.run env (listener prims env.blockHash) ⟨hash, [], .remove t.tip, proof⟩ t₁
        = .ok (some header) t₂
      ∧ t₂.tip = t.tip ∧ t₂.headers = t.headers.take (maxReorgSize - 1) ∧ t₂.height = t.height := by
  obtain ⟨listeners, heard, accepted, rfl⟩ := batch_of_run steady delivers returned
  rw [adds] at heard accepted correct ⊢
  obtain ⟨linked, pow, difficulty, -⟩ := validateBlock_ok.mp accepted
  have able : ∀ key entry, listeners.lookup key = some entry →
      ∃ entry', hearRemove (listener prims env.blockHash) (some txs)
        (env.blockHash t.tip.header) entry = .ok entry' := by
    intro key entry found
    obtain ⟨⟨m, slot⟩, there, told⟩ := Map.exists_of_lookup_traverse heard found
    obtain ⟨sound, consistent, readsBack⟩ := returnable key m slot there
    obtain ⟨m', back⟩ := hear_back sound consistent readsBack told
    exact ⟨_, back⟩
  obtain ⟨listeners', removed⟩ := Map.traverse_ok able
  have given : proof.proof.isExternal = false := by rw [listed]; rfl
  have noHash : externalHash proof (env.blockHash t.tip.header) = none := by
    simp [externalHash, given]
  have valid : ((Request.add header).result env t delivery.proof listeners).idle.validateBlock env
      t.height (externalHash proof (env.blockHash t.tip.header)) t.tip
      ⟨header, env.filterHeader delivery.proof⟩ proof true = .ok () := by
    rw [noHash]
    exact validateBlock_ok.mpr ⟨linked, pow, difficulty, correct⟩
  have precedes : ((Request.add header).result env t delivery.proof listeners).Precedes t.tip := rfl
  have called :=
    removeBlock_ok.mpr ⟨precedes, ⟨given, rfl⟩, valid, some txs, by rw [listed]; rfl, listeners',
      removed, rfl, rfl⟩
  exact ⟨_, run_ok.mpr ⟨_, rfl, call_remove_ok.mpr ⟨header, called, rfl⟩⟩, rfl, rfl, rfl⟩

def machine (env : ChainEnv D) (prims : Primitives) :
    Machine (ChainTracker ChainMonitor OutPoint D) Delivery (Option BlockHeader) where
  step t delivery :=
    match delivery.run env (listener prims env.blockHash) t with
    | .ok answer t' => some (answer, t')
    | .error .. => none

def count (isRemove : Bool) {σ : Type}
    (history : List (Machine.Step σ Delivery (Option BlockHeader))) : Nat :=
  history.countP fun step => step.input.request.isRemove == isRemove

theorem machine_step (stepped : (machine env prims).step t delivery = some (answer, t')) :
    delivery.run env (listener prims env.blockHash) t = .ok answer t' := by
  simp only [machine] at stepped
  split at stepped
  · rename_i here
    cases stepped
    exact here
  · cases stepped

/-- In every run from an initial tip that does not remove a block at height zero, the headers are
    linked and few, the height counts the blocks, the monitors are at that height, and a block that
    is added next can be removed again with a list of its transactions. -/
theorem chain_kept (ordered : env.Ordered) {start : ChainTracker ChainMonitor OutPoint D}
    {history : List
      (Machine.Step (ChainTracker ChainMonitor OutPoint D) Delivery (Option BlockHeader))}
    (initial : start.headers = [] ∧ start.decodeState = none)
    (registered : ∀ key m slot, start.listeners.lookup key = some (m, slot) →
      m.state.height = start.height ∧ m.decodeState = none)
    (run : (machine env prims).Run start history t)
    (deep : Machine.Meets (fun _ t delivery => delivery.request.isRemove = true → t.headers = [] →
      0 < t.height) history) :
    Linked env t.tip t.headers ∧ t.headers.length ≤ maxReorgSize
      ∧ t.height + count true history = start.height + count false history
      ∧ (∀ key m slot, t.listeners.lookup key = some (m, slot) → m.state.height = t.height)
      ∧ ∀ {delivery header txs answer t₁ proof content hash},
        delivery.request = .add header → Delivers env prims txs delivery →
        delivery.run env (listener prims env.blockHash) t = .ok answer t₁ →
        t.Returnable prims txs → proof.proof = .filter content txs → Correct env t t₁ proof →
        ∃ t₂, Delivery.run env (listener prims env.blockHash) ⟨hash, [], .remove t.tip, proof⟩ t₁
            = .ok (some header) t₂
          ∧ t₂.tip = t.tip ∧ t₂.headers = t.headers.take (maxReorgSize - 1)
          ∧ t₂.height = t.height := by
  have first : start.Steady env := by
    refine ⟨?_, ?_, ?_, initial.2, registered⟩
    · rw [initial.1]
      trivial
    · rw [initial.1]
      exact Nat.zero_le _
    · rw [initial.1]
      exact Nat.zero_le _
  have inv : t.Steady env ∧ t.height + count true history = start.height + count false history := by
    refine run.inv (fun history t =>
      t.Steady env ∧ t.height + count true history = start.height + count false history)
      deep ⟨first, rfl⟩ ?_
    rintro history t delivery answer t' ⟨steady, counts⟩ deep stepped
    obtain ⟨steady', height, positive⟩ := steady_run ordered steady deep (machine_step stepped)
    refine ⟨steady', ?_⟩
    rw [height]
    obtain ⟨_, _, request, _⟩ := delivery
    cases request with
    | add header =>
      simp only [count, List.countP_cons, Request.isRemove, Request.height] at counts ⊢
      simp only [beq_self_eq_true, if_true, Bool.false_beq, Bool.not_true, Bool.false_eq_true,
        if_false]
      omega
    | remove prev =>
      have positive := positive rfl
      simp only [count, List.countP_cons, Request.isRemove, Request.height] at counts ⊢
      simp only [beq_self_eq_true, if_true, Bool.true_beq, Bool.false_eq_true, if_false]
      omega
  obtain ⟨steady, counts⟩ := inv
  refine ⟨steady.linked, steady.bounded, counts, ?_, ?_⟩
  · intro key m slot found
    exact (steady.monitors key m slot found).1
  · intro delivery header txs answer t₁ proof content hash adds delivers returned returnable listed
      correct
    exact undone steady delivers adds returned returnable listed correct

end ChainTracker

end Vls.Chain

namespace Vls

open Monitor Chain ChainTracker

open Toy

def Toy.startTracker : ChainTracker ChainMonitor OutPoint (List U8) :=
  { trackerOf signedState {walletOutpoint} with height := 0 }

/-- The block that funds the toy channel is streamed and added, and then removed again. -/
theorem funding_block_undone : ∃ t₁ t₂,
    (fundingDelivery (blockHeader 2) [[1], [2]]).run
      (chainEnv (blockHeader 2) [fundingTx]) chainListener startTracker
      = .ok none t₁
    ∧ t₁.height = 1
    ∧ Delivery.run (chainEnv (blockHeader 2) [fundingTx]) chainListener
      ⟨0, [], .remove startTracker.tip, ⟨[], .filter [] [fundingTx]⟩⟩ t₁
      = .ok (some (blockHeader 2)) t₂
    ∧ t₂.height = 0 := by
  have runs : Call.Ends ((fundingDelivery (blockHeader 2) [[1], [2]]).run
      (chainEnv (blockHeader 2) [fundingTx]) chainListener) startTracker
      (fun answer t₁ => answer = none ∧ t₁.height = 1) fun _ _ => False := by decide +kernel
  obtain ⟨_, t₁, added, rfl, height⟩ := runs.returns
  have found {key m slot} (found : startTracker.listeners.lookup key = some (m, slot)) :
      m = chainMonitor signedState := (lookup_trackerOf found).1
  have registered : ∀ key m slot, startTracker.listeners.lookup key = some (m, slot) →
      m.state.height = startTracker.height ∧ m.decodeState = none := by
    intro key m slot there
    obtain rfl := found there
    exact ⟨rfl, rfl⟩
  have run : (ChainTracker.machine (chainEnv (blockHeader 2) [fundingTx])
      Toy.prims).Run startTracker [] startTracker := .init
  have kept := chain_kept (ordered_chainEnv (blockHeader 2) [fundingTx]) ⟨rfl, rfl⟩
    registered run trivial
  have delivers : Delivers (chainEnv (blockHeader 2) [fundingTx]) Toy.prims
      [fundingTx] (fundingDelivery (blockHeader 2) [[1], [2]]) :=
    .inr ⟨rfl, by decide, _, parses_chainEnv _ _⟩
  have returnable : startTracker.Returnable Toy.prims [fundingTx] := by
    intro key m slot there
    obtain rfl := found there
    exact ⟨⟨by decide, by decide, fun _ => rfl, fun _ => rfl, fun k recorded => nomatch recorded⟩,
      by decide +kernel, by decide +kernel⟩
  have correct : Correct (chainEnv (blockHeader 2) [fundingTx]) startTracker t₁
      ⟨[], .filter [] [fundingTx]⟩ := .inr rfl
  obtain ⟨t₂, removed, -, -, height'⟩ := kept.2.2.2.2 rfl delivers added returnable rfl correct
  exact ⟨t₁, t₂, added, height, removed, height'⟩

/-- A block that was streamed and added is not removed again if it is streamed. -/
theorem streamed_block_not_undone : ∃ t₁ t₂,
    (fundingDelivery (blockHeader 2) [[1, 2]]).run
      (chainEnv (blockHeader 2) [fundingTx]) chainListener startTracker
      = .ok none t₁
    ∧ Delivery.run (chainEnv (blockHeader 2) [fundingTx]) chainListener
      ⟨2, [[1, 2]], .remove startTracker.tip, ⟨[], .externalBlock⟩⟩ t₁
      = .error (.err .blockDecodeError) t₂
    ∧ t₂.tip = t₁.tip ∧ t₂.headers ≠ t₁.headers := by
  exact ⟨_, _, Call.Ends.eq_ok (by decide +kernel), Call.Ends.eq_error (by decide +kernel),
    by decide +kernel⟩

end Vls
