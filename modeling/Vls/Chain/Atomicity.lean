import Vls.Chain.Streaming
import Vls.Chain.Toy

/-! # Calls of the tracker that fail

A call that fails is to leave the tracker such that the same call, with correct data, succeeds. But
the headers before the tip are taken off before a removal is checked, and a listener that was told
of the start of a block is not told that it came to nothing. -/

namespace Vls.Monitor

open Chain PushListener

variable {prims : Primitives} {blockHash : BlockHeader → BlockHash} {m m' : ChainMonitor}
  {event : PushEvent} {txs : List Transaction} {watch : Watch}

variable {header : BlockHeader} {hash : BlockHash}

/-- The monitor has been told of the start of a block, and of no end. -/
def ChainMonitor.Begun (m : ChainMonitor) : Prop :=
  ∃ decodeState, m.decodeState = some decodeState ∧ decodeState.blockHash.isSome = true

theorem PushListener.whenReady_blockHash {l l' : PushListener} {f}
    (returned : l.whenReady f = .ok l') : l'.decodeState.blockHash = l.decodeState.blockHash := by
  obtain ⟨ready, -, returned⟩ := Result.bind_eq_ok.mp returned
  split at returned
  · exact congrArg (·.decodeState.blockHash) (Except.ok.inj returned).symm
  · obtain ⟨decoded, -, returned⟩ := Result.bind_eq_ok.mp returned
    exact congrArg (·.decodeState.blockHash) (Except.ok.inj returned).symm

theorem onPush_blockStart (told : m.onPush prims blockHash (.blockStart header) = .ok m') :
    ¬ m.Begun ∧ m'.Begun := by
  obtain ⟨l, started, returned⟩ := Result.bind_eq_ok.mp told
  cases returned
  simp only [onEvent, onBlockStart] at started
  split at started
  · cases started
  · rename_i fresh
    cases started
    refine ⟨?_, _, rfl, rfl⟩
    rintro ⟨decodeState, pending, begun⟩
    rw [pending] at fresh
    exact fresh begun

theorem onPush_begun (begun : m.Begun) (told : m.onPush prims blockHash event = .ok m') :
    m'.Begun := by
  obtain ⟨decodeState, pending, some⟩ := begun
  obtain ⟨l, heard, returned⟩ := Result.bind_eq_ok.mp told
  cases returned
  rw [pending] at heard
  refine ⟨_, rfl, ?_⟩
  cases event with
  | blockStart header =>
    simp only [onEvent, onBlockStart, Option.getD_some, some, if_true] at heard
    cases heard
  | blockEnd =>
    cases heard
    exact some
  | _ =>
    simp only [onEvent] at heard
    rw [whenReady_blockHash heard]
    exact some

theorem onAddBlock_decodeState (returned : m.onAddBlock prims txs = .ok (m', watch)) :
    m'.decodeState = m.decodeState := by
  obtain ⟨_, -, returned⟩ := Result.bind_eq_ok.mp returned
  exact congrArg (·.1.decodeState) (Except.ok.inj returned).symm

theorem onRemoveBlock_decodeState (returned : m.onRemoveBlock prims txs = .ok (m', watch)) :
    m'.decodeState = m.decodeState := by
  obtain ⟨_, -, returned⟩ := Result.bind_eq_ok.mp returned
  exact congrArg (·.1.decodeState) (Except.ok.inj returned).symm

variable {events : List PushEvent} {entry entry' : ChainMonitor × ListenSlot}

theorem hearPush_ok : ChainTracker.hearPush (listener prims blockHash) event entry = .ok entry'
    ↔ ∃ m', entry.1.onPush prims blockHash event = .ok m' ∧ (m', entry.2) = entry' := by
  simp only [ChainTracker.hearPush, listener]
  cases entry.1.onPush prims blockHash event <;> simp [Except.map]

theorem hearAdd_ok :
    ChainTracker.hearAdd (listener prims blockHash) (some txs) hash entry = .ok entry'
      ↔ ∃ m' watch, entry.1.onAddBlock prims txs = .ok (m', watch)
        ∧ (m', entry.2.add watch) = entry' := by
  simp only [ChainTracker.hearAdd, listener]
  cases entry.1.onAddBlock prims txs with
  | error fault => simp [Except.map]
  | ok told =>
    obtain ⟨m', watch⟩ := told
    simp [Except.map]

theorem hearRemove_ok :
    ChainTracker.hearRemove (listener prims blockHash) (some txs) hash entry = .ok entry'
      ↔ ∃ m' watch, entry.1.onRemoveBlock prims txs = .ok (m', watch)
        ∧ (m', entry.2.revert watch) = entry' := by
  simp only [ChainTracker.hearRemove, listener]
  cases entry.1.onRemoveBlock prims txs with
  | error fault => simp [Except.map]
  | ok told =>
    obtain ⟨m', watch⟩ := told
    simp [Except.map]

theorem hearEvents_blockStart
    (heard : ChainTracker.hearEvents (listener prims blockHash) (.blockStart header :: events)
      entry = .ok entry') :
    ¬ entry.1.Begun ∧ entry'.1.Begun := by
  rw [ChainTracker.hearEvents, List.foldlM_cons] at heard
  obtain ⟨_, first, heard⟩ := Result.bind_eq_ok.mp heard
  obtain ⟨m', told, rfl⟩ := hearPush_ok.mp first
  obtain ⟨fresh, begun⟩ := onPush_blockStart told
  refine ⟨fresh, ?_⟩
  apply Result.foldlM_inv (fun _ entry => entry.1.Begun) begun _ heard
  intro _ event _ before after _ begun more
  obtain ⟨m', told, rfl⟩ := hearPush_ok.mp more
  exact onPush_begun begun told

end Vls.Monitor

namespace Vls.Chain

open Monitor

variable {request : Request} {hash : BlockHash} {chunks : List (List U8)} {key : OutPoint}
  {entry : ChainMonitor × ListenSlot} {prev : Headers}

/-- What is relied on of the decoder: it tells of the start of a block before anything else, and a
    block is not complete before it has told of its start. -/
structure ChainEnv.Ordered {D : Type} (env : ChainEnv D) : Prop where
  starts : ∀ chunks decoder events, env.decode env.newDecoder chunks = some (decoder, events) →
    events = [] ∨ ∃ header rest, events = .blockStart header :: rest
  complete : ∀ chunks decoder events, env.decode env.newDecoder chunks = some (decoder, events) →
    env.finish decoder = true → events ≠ []

namespace ChainTracker

variable {D : Type} {env : ChainEnv D} {prims : Primitives}
  {t t' t₂ : ChainTracker ChainMonitor OutPoint D} {failing correct : Delivery}
  {answer : Option BlockHeader} {e : TrackerError} {proof : TxoProof}

def Refused {L K : Type} (t : ChainTracker L K D) : Request → Prop
  | .add _ => False
  | .remove prev => ¬ t.Precedes prev

def left {L K : Type} (t : ChainTracker L K D) : Request → ChainTracker L K D
  | .add _ => t.idle
  | .remove _ => t.popped.idle

theorem call_err {L K : Type} [DecidableEq K] {I} {t t' : ChainTracker L K D}
    (failed : request.call env I proof t = .error (.err e) t') :
    t.Refused request ∧ t' = t ∨ ¬ t.Refused request ∧ t' = t.left request := by
  cases request with
  | add header =>
    rcases Call.bind_error.mp failed with failed | ⟨_, _, -, failed⟩
    · exact .inr ⟨id, addBlock_err failed⟩
    · exact absurd failed Call.pure_error
  | remove prev =>
    rcases Call.bind_error.mp failed with failed | ⟨_, _, -, failed⟩
    · rcases removeBlock_err failed with ⟨refused, same⟩ | ⟨precedes, rest⟩
      · exact .inl ⟨refused, same⟩
      · exact .inr ⟨not_not.mpr precedes, rest⟩
    · exact absurd failed Call.pure_error

/-- A failure does no harm: a removal that is refused at once was not streamed; otherwise no block
    was being received, no listener was told of the start of a block, and no header is lost that the
    tracker could not do without. -/
def Harmless (env : ChainEnv D) (t : ChainTracker ChainMonitor OutPoint D) (failing : Delivery) :
    Prop :=
  (t.Refused failing.request → failing.chunks = [])
  ∧ (¬ t.Refused failing.request → t.decodeState = none ∧ (t.listeners = ∅
      ∨ ∀ decoder events, env.decode env.newDecoder failing.chunks = some (decoder, events) →
        events = [])
    ∧ (failing.request.isRemove = true → t.allowDeepReorgs = true ∧ t.headers.length ≤ 1))

theorem streamFrom_frame {L K : Type} [DecidableEq K] {I} {t t₁ : ChainTracker L K D}
    (streamed : streamFrom env I hash 0 chunks t = .ok t₁) :
    ∃ listeners decodeState,
      t₁ = { t with listeners := listeners, decodeState := decodeState } := by
  cases chunks with
  | nil => exact ⟨t.listeners, t.decodeState, (Except.ok.inj streamed).symm⟩
  | cons chunk rest =>
    obtain ⟨-, -, _, _, -, -, listeners, -, rfl⟩ := stream_ok.mp streamed
    exact ⟨listeners, _, rfl⟩

theorem streamFrom_idle {t₁}
    (streamed : streamFrom env (listener prims env.blockHash) hash 0 chunks t = .ok t₁)
    (nothing : t.decodeState = none)
    (untold : t.listeners = ∅ ∨ ∀ decoder events,
      env.decode env.newDecoder chunks = some (decoder, events) → events = []) :
    t₁.idle = t := by
  cases chunks with
  | nil =>
    cases streamed
    exact idle_of_none nothing
  | cons chunk rest =>
    obtain ⟨-, -, decoder, events, decoded, -, listeners, heard, rfl⟩ := stream_ok.mp streamed
    have same : listeners = t.listeners := by
      rcases untold with none | silent
      · rw [none] at heard ⊢
        exact (Except.ok.inj heard).symm
      · obtain rfl := silent decoder events decoded
        exact Except.ok.inj (heard.symm.trans Map.traverse_pure)
    subst same
    exact idle_of_none nothing

theorem call_isExternal {L K : Type} [DecidableEq K] {I} {t t' : ChainTracker L K D}
    (returned : request.call env I proof t = .ok answer t') :
    ∃ hash, Finished env t proof hash := by
  cases request with
  | add header => exact ⟨_, (addBlock_ok.mp (call_add_ok.mp returned).1).1⟩
  | remove prev =>
    obtain ⟨_, taken, -⟩ := call_remove_ok.mp returned
    exact ⟨_, (removeBlock_ok.mp taken).2.1⟩

theorem given_of_listed {kind : ProofType} {txs} (listed : txs ∈ kind.given)
    (given : kind.isExternal = false) : ∃ l, txs = some l := by
  cases kind with
  | filter content l => exact ⟨l, (Option.some.inj listed).symm⟩
  | block => cases listed
  | externalBlock => cases given

theorem call_decodeState
    (returned : request.call env (listener prims env.blockHash) proof t = .ok answer t')
    (given : proof.proof.isExternal = false) (found : t.listeners.lookup key = some entry) :
    ∃ entry', t'.listeners.lookup key = some entry'
      ∧ entry'.1.decodeState = entry.1.decodeState := by
  cases request with
  | add header =>
    obtain ⟨-, -, txs, listed, listeners, heard, rfl⟩ :=
      addBlock_ok.mp (call_add_ok.mp returned).1
    obtain ⟨txs, rfl⟩ := given_of_listed listed given
    obtain ⟨_, told, found'⟩ := (Map.lookup_traverse heard).1 _ found
    obtain ⟨m', watch, returned, rfl⟩ := hearAdd_ok.mp told
    exact ⟨_, found', onAddBlock_decodeState returned⟩
  | remove prev =>
    obtain ⟨_, taken, -⟩ := call_remove_ok.mp returned
    obtain ⟨-, -, -, txs, listed, listeners, heard, -, rfl⟩ := removeBlock_ok.mp taken
    obtain ⟨txs, rfl⟩ := given_of_listed listed given
    obtain ⟨_, told, found'⟩ := (Map.lookup_traverse heard).1 _ found
    obtain ⟨m', watch, returned, rfl⟩ := hearRemove_ok.mp told
    exact ⟨_, found', onRemoveBlock_decodeState returned⟩

theorem call_remove_headers {L K : Type} [DecidableEq K] {I} {t t' : ChainTracker L K D}
    (returned : (Request.remove prev).call env I proof t = .ok answer t') :
    t.Precedes prev ∧ t'.headers = t.headers.tail := by
  obtain ⟨_, taken, -⟩ := call_remove_ok.mp returned
  obtain ⟨precedes, -, -, _, -, _, -, -, rfl⟩ := removeBlock_ok.mp taken
  exact ⟨precedes, rfl⟩

theorem tail_of_short {headers : List Headers} (short : headers.length ≤ 1) :
    headers.tail = [] := by
  apply List.eq_nil_of_length_eq_zero
  rw [List.length_tail]
  omega

/-- The header before the tip can be done without, if the tracker may rely on the one that it is
    given. -/
theorem call_remove_short {L K : Type} [DecidableEq K] {I} {t t' : ChainTracker L K D}
    (allowed : t.allowDeepReorgs = true) (short : t.headers.length ≤ 1)
    (returned : (Request.remove prev).call env I proof t = .ok answer t') :
    (Request.remove prev).call env I proof { t with headers := [] } = .ok answer t' := by
  obtain ⟨removed, taken, rfl⟩ := call_remove_ok.mp returned
  obtain ⟨-, finished, valid, txs, given, listeners, heard, rfl, rfl⟩ := removeBlock_ok.mp taken
  refine call_remove_ok.mpr ⟨_, removeBlock_ok.mpr
    ⟨allowed, finished, valid, txs, given, listeners, heard, rfl, ?_⟩, rfl⟩
  simp [popped, idle, tail_of_short short]

theorem again_of_harmless (same : failing.request.isRemove = correct.request.isRemove)
    (failed : failing.run env (listener prims env.blockHash) t = .error (.err e) t')
    (returned : correct.run env (listener prims env.blockHash) t = .ok answer t₂)
    (harmless : t.Harmless env failing) :
    correct.run env (listener prims env.blockHash) t' = .ok answer t₂ := by
  obtain ⟨hash, chunks, request, proof⟩ := failing
  obtain ⟨t₁, streamed, failed⟩ := run_err failed
  obtain ⟨listeners, decodeState, frame⟩ := streamFrom_frame streamed
  rcases call_err failed with ⟨refused, rfl⟩ | ⟨accepted, rfl⟩
  · have refusedBefore : t.Refused request := by
      subst frame
      exact refused
    obtain rfl := harmless.1 refusedBefore
    cases streamed
    exact returned
  · have acceptedBefore : ¬ t.Refused request := by
      subst frame
      exact accepted
    obtain ⟨nothing, untold, deep⟩ := harmless.2 acceptedBefore
    have back := streamFrom_idle streamed nothing untold
    cases request with
    | add header =>
      rw [show t₁.left (.add header) = t from back]
      exact returned
    | remove prev =>
      obtain ⟨allowed, short⟩ := deep rfl
      have popped : t₁.left (.remove prev) = { t with headers := [] } := by
        rw [show t₁.left (.remove prev) = t₁.idle.popped from rfl, back, ChainTracker.popped,
          tail_of_short short]
      obtain ⟨hash', chunks', request', proof'⟩ := correct
      obtain ⟨t₃, streamed', returned⟩ := run_ok.mp returned
      obtain ⟨listeners', decodeState', rfl⟩ := streamFrom_frame streamed'
      cases request' with
      | add header => cases same
      | remove prev' =>
        rw [popped]
        exact run_ok.mpr ⟨_, streamFrom_headers streamed',
          call_remove_short allowed short returned⟩

theorem receiving_of_again {t t₁ : ChainTracker ChainMonitor OutPoint D}
    (returned : correct.run env (listener prims env.blockHash) t = .ok answer t₂)
    (again : correct.run env (listener prims env.blockHash) t₁ = .ok answer t₂) :
    t.decodeState.isSome = t₁.decodeState.isSome := by
  obtain ⟨hash, chunks, request, proof⟩ := correct
  obtain ⟨t₄, streamed, returned⟩ := run_ok.mp returned
  obtain ⟨t₅, streamed', again⟩ := run_ok.mp again
  cases chunks with
  | nil =>
    cases streamed
    cases streamed'
    obtain ⟨_, external, -⟩ := call_isExternal returned
    obtain ⟨_, external', -⟩ := call_isExternal again
    exact external.symm.trans external'
  | cons chunk rest => rw [(stream_ok.mp streamed).2.1, (stream_ok.mp streamed').2.1]

/-- A delivery does not return from a tracker in the same way as from one whose listeners were not
    told of the start of a block yet. -/
theorem not_again_of_told (ordered : env.Ordered) {entry' : ChainMonitor × ListenSlot}
    (nothing : t.decodeState = none) (found : t.listeners.lookup key = some entry)
    (fresh : ¬ entry.1.Begun) (found' : t'.listeners.lookup key = some entry')
    (begun : entry'.1.Begun)
    (returned : correct.run env (listener prims env.blockHash) t = .ok answer t₂) :
    ¬ correct.run env (listener prims env.blockHash) t' = .ok answer t₂ := by
  intro again
  obtain ⟨hash, chunks, request, proof⟩ := correct
  obtain ⟨t₃, streamed, returned⟩ := run_ok.mp returned
  obtain ⟨t₄, streamed', again⟩ := run_ok.mp again
  obtain ⟨_, external, complete⟩ := call_isExternal returned
  cases chunks with
  | nil =>
    -- the listener still waits for the end of the block that it was told of
    cases streamed
    cases streamed'
    have given : proof.proof.isExternal = false := by
      rw [external, nothing]
      rfl
    obtain ⟨last, there, kept⟩ := call_decodeState returned given found
    obtain ⟨last', there', kept'⟩ := call_decodeState again given found'
    cases there.symm.trans there'
    have pending := kept.symm.trans kept'
    obtain ⟨decodeState, waits, started⟩ := begun
    exact fresh ⟨decodeState, pending.trans waits, started⟩
  | cons chunk rest =>
    -- the listener panics at the start of the block
    obtain ⟨-, -, decoder, events, decoded, -, _, -, rfl⟩ := stream_ok.mp streamed
    obtain ⟨-, -, _, _, decoded', -, _, heard, -⟩ := stream_ok.mp streamed'
    cases decoded.symm.trans decoded'
    have finished : env.finish decoder = true := by
      simp only [checkDecoded] at complete
      split at complete
      · cases complete
      · rename_i finished
        simpa using finished
    have some := ordered.complete _ _ _ decoded finished
    obtain ⟨header, events, rfl⟩ := (ordered.starts _ _ _ decoded).resolve_left some
    obtain ⟨_, told, -⟩ := (Map.lookup_traverse heard).1 _ found'
    exact (hearEvents_blockStart told).1 begun

theorem harmless_of_again (ordered : env.Ordered)
    (same : failing.request.isRemove = correct.request.isRemove)
    (failed : failing.run env (listener prims env.blockHash) t = .error (.err e) t')
    (returned : correct.run env (listener prims env.blockHash) t = .ok answer t₂)
    (again : correct.run env (listener prims env.blockHash) t' = .ok answer t₂) :
    t.Harmless env failing := by
  obtain ⟨hash, chunks, request, proof⟩ := failing
  obtain ⟨t₁, streamed, failed⟩ := run_err failed
  obtain ⟨listeners, decodeState, frame⟩ := streamFrom_frame streamed
  have receiving := receiving_of_again returned again
  rcases call_err failed with ⟨refused, rfl⟩ | ⟨accepted, rfl⟩
  · have refusedBefore : t.Refused request := by
      subst frame
      exact refused
    refine ⟨fun _ => ?_, fun accepted => absurd refusedBefore accepted⟩
    cases chunks with
    | nil => rfl
    | cons chunk rest =>
      obtain ⟨-, nothing, _, _, -, -, _, -, rfl⟩ := stream_ok.mp streamed
      rw [nothing] at receiving
      cases receiving
  · have acceptedBefore : ¬ t.Refused request := by
      subst frame
      exact accepted
    have nothing : t.decodeState = none := by
      have idle : (t₁.left request).decodeState = none := by
        cases request <;> rfl
      rw [idle] at receiving
      exact Option.isSome_eq_false_iff.mp receiving |> Option.isNone_iff_eq_none.mp
    refine ⟨fun refused => absurd refused acceptedBefore, fun _ => ⟨nothing, ?_, ?_⟩⟩
    · by_contra told
      obtain ⟨listening, told⟩ := not_or.mp told
      push Not at told
      obtain ⟨decoder, events, decoded, spoken⟩ := told
      cases chunks with
      | nil => exact spoken (Prod.mk.inj (Option.some.inj decoded)).2.symm
      | cons chunk rest =>
        obtain ⟨-, -, _, _, decoded', -, listeners', heard, rfl⟩ := stream_ok.mp streamed
        cases decoded.symm.trans decoded'
        obtain ⟨header, events, rfl⟩ := (ordered.starts _ _ _ decoded).resolve_left spoken
        obtain ⟨key, entry, found⟩ := Map.exists_lookup listening
        obtain ⟨entry', told, found'⟩ := (Map.lookup_traverse heard).1 _ found
        obtain ⟨fresh, begun⟩ := hearEvents_blockStart told
        refine not_again_of_told ordered nothing found fresh ?_ begun returned again
        cases request <;> exact found'
    · intro isRemove
      cases request with
      | add header => cases isRemove
      | remove prev =>
        obtain ⟨hash', chunks', request', proof'⟩ := correct
        obtain ⟨t₃, streamed₃, returned⟩ := run_ok.mp returned
        obtain ⟨t₄, streamed₄, again⟩ := run_ok.mp again
        obtain ⟨_, _, rfl⟩ := streamFrom_frame streamed₃
        obtain ⟨_, _, rfl⟩ := streamFrom_frame streamed₄
        subst frame
        cases request' with
        | add header => cases same
        | remove prev' =>
          obtain ⟨-, headers⟩ := call_remove_headers returned
          obtain ⟨precedes, headers'⟩ := call_remove_headers again
          have lengths : t.headers.tail.tail = t.headers.tail := headers'.symm.trans headers
          have short : t.headers.length ≤ 1 := by
            have lengths := congrArg List.length lengths
            simp only [List.length_tail] at lengths
            omega
          refine ⟨?_, short⟩
          simp only [Precedes, left, popped, idle, tail_of_short short] at precedes
          exact precedes

/-- The same call with correct data returns after a failure exactly as it would have without, if and
    only if the failure was harmless. -/
theorem failure_undone_iff (ordered : env.Ordered)
    (same : failing.request.isRemove = correct.request.isRemove)
    (failed : failing.run env (listener prims env.blockHash) t = .error (.err e) t')
    (returned : correct.run env (listener prims env.blockHash) t = .ok answer t₂) :
    correct.run env (listener prims env.blockHash) t' = .ok answer t₂ ↔ t.Harmless env failing := by
  constructor
  · intro again
    exact harmless_of_again ordered same failed returned again
  · intro harmless
    exact again_of_harmless same failed returned harmless

end ChainTracker

end Vls.Chain

namespace Vls

open Chain ChainTracker

open Toy

theorem Toy.decode_chainEnv {header txs read decoder chunks events} (partly : read ≠ blockBytes)
    (decoded : (chainEnv header txs).decode read chunks = some (decoder, events)) :
    (events = [] ∨ ∃ header rest, events = .blockStart header :: rest)
      ∧ (decoder = blockBytes → events ≠ []) := by
  induction chunks generalizing read events with
  | nil =>
    cases decoded
    exact ⟨.inl rfl, fun whole => absurd whole partly⟩
  | cons chunk rest ih =>
    obtain ⟨middle, first, more, next, others, rfl⟩ := decode_cons.mp decoded
    cases next
    by_cases whole : read ++ chunk = blockBytes
    · simp [whole]
    · simp only [whole, if_false, List.nil_append]
      exact ih whole others

theorem Toy.ordered_chainEnv (header : BlockHeader) (txs : List Transaction) :
    (chainEnv header txs).Ordered where
  starts _ _ _ decoded := (decode_chainEnv (List.cons_ne_nil 1 [2]).symm decoded).1
  complete _ _ _ decoded finished :=
    (decode_chainEnv (List.cons_ne_nil 1 [2]).symm decoded).2 (of_decide_eq_true finished)

def Toy.fundingDelivery (header : BlockHeader) (chunks : List (List U8)) : Delivery :=
  ⟨2, chunks, .add header, ⟨[], .externalBlock⟩⟩

/-- A block that was cut short before its header is streamed once more. -/
theorem short_block_streamed_again : ∃ t' t₂,
    (fundingDelivery (blockHeader 2) [[1]]).run
      (chainEnv (blockHeader 2) [fundingTx]) chainListener
      (trackerOf signedState {walletOutpoint}) = .error (.err .blockDecodeError) t'
    ∧ slotWatches t₂ = some {⟨1, 0⟩}
    ∧ (fundingDelivery (blockHeader 2) [[1], [2]]).run
      (chainEnv (blockHeader 2) [fundingTx]) chainListener t' = .ok none t₂ := by
  have returned : (fundingDelivery (blockHeader 2) [[1], [2]]).run
      (chainEnv (blockHeader 2) [fundingTx]) chainListener (trackerOf signedState {walletOutpoint})
      = .ok none _ := Call.Ends.eq_ok (by decide +kernel)
  have failed : (fundingDelivery (blockHeader 2) [[1]]).run
      (chainEnv (blockHeader 2) [fundingTx]) chainListener (trackerOf signedState {walletOutpoint})
      = .error (.err .blockDecodeError) _ := Call.Ends.eq_error (by decide +kernel)
  refine ⟨_, _, failed, ?_,
    (failure_undone_iff (ordered_chainEnv _ _) (by rfl) failed returned).mpr ⟨?_, ?_⟩⟩
  · decide +kernel
  · exact False.elim
  · refine fun _ => ⟨rfl, .inr fun decoder events decoded => ?_, fun removal => nomatch removal⟩
    exact (Prod.mk.inj (Option.some.inj decoded)).2.symm

/-- A block is streamed, and the call that is to add it names another header. When the block is
    streamed again, the monitor panics. -/
theorem failed_block_not_streamed_again : ∃ t' t₂ t₃,
    (fundingDelivery (blockHeader 3) [[1, 2]]).run
      (chainEnv (blockHeader 2) [fundingTx]) chainListener
      (trackerOf signedState {walletOutpoint}) = .error (.err .blockDecodeError) t'
    ∧ (fundingDelivery (blockHeader 2) [[1, 2]]).run
      (chainEnv (blockHeader 2) [fundingTx]) chainListener
      (trackerOf signedState {walletOutpoint}) = .ok none t₂
    ∧ (fundingDelivery (blockHeader 2) [[1, 2]]).run
      (chainEnv (blockHeader 2) [fundingTx]) chainListener t'
      = .error (.panic "saw more than one on_block_start") t₃ := by
  exact ⟨_, _, _, Call.Ends.eq_error (by decide +kernel), Call.Ends.eq_ok (by decide +kernel),
    Call.Ends.eq_error (by decide +kernel)⟩

end Vls
