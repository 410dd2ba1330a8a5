import Vls.Chain.Steps
import Vls.Lib.Panic

/-! # Streamed blocks

A streamed block comes in chunks, and is then added or removed by a call whose proof lists no
transactions. Every listener is told the events that the decoder makes of the chunks. -/

namespace Vls.Chain

open Result Call Map

variable {L K D : Type} [DecidableEq K]

variable {chunk : List U8} {decoder : D} {rest : List (List U8)} {proof : TxoProof}

def ChainEnv.decode (env : ChainEnv D) : D → List (List U8) → Option (D × List PushEvent)
  | decoder, [] => some (decoder, [])
  | decoder, chunk :: rest => do
    let (decoder, events) ← env.decodeNext decoder chunk
    let (decoder, more) ← env.decode decoder rest
    some (decoder, events ++ more)

namespace ChainTracker

section

variable (env : ChainEnv D) (I : ChainListener L K)

def streamFrom (hash : BlockHash) :
    Nat → List (List U8) → ChainTracker L K D → Result TrackerError (ChainTracker L K D)
  | _, [], t => .ok t
  | offset, chunk :: rest, t => do
    let t ← blockChunk env I t hash offset chunk
    streamFrom hash (offset + chunk.length) rest t

def hearEvents (events : List PushEvent) (entry : L × ListenSlot) : Result Empty (L × ListenSlot) :=
  events.foldlM (fun entry event => hearPush I event entry) entry

def Belongs (hash : BlockHash) : PushEvent → Prop
  | .blockStart header => env.blockHash header = hash
  | _ => True

end

inductive Request where
  | add (header : BlockHeader)
  | remove (prev : Headers)

def Request.isRemove : Request → Bool
  | add _ => false
  | remove _ => true

/-- The delivery of a block: its chunks, if it is streamed, and the call that follows. -/
structure Delivery where
  hash : BlockHash
  chunks : List (List U8)
  request : Request
  proof : TxoProof

/-- The call that adds or removes the block, which returns the header of a block that was
    removed. -/
def Request.call (env : ChainEnv D) (I : ChainListener L K) (proof : TxoProof) :
    Request → Call TrackerError (ChainTracker L K D) (Option BlockHeader)
  | add header => do
    addBlock env I header proof
    pure none
  | remove prev => do
    let removed ← removeBlock env I proof prev
    pure (some removed)

def Delivery.run (env : ChainEnv D) (I : ChainListener L K) (delivery : Delivery) :
    Call TrackerError (ChainTracker L K D) (Option BlockHeader) := do
  let t ← get
  let t ← streamFrom env I delivery.hash 0 delivery.chunks t
  set t
  delivery.request.call env I delivery.proof

variable {env : ChainEnv D} {I : ChainListener L K} {t t' : ChainTracker L K D} {hash : BlockHash}
  {event : PushEvent} {events : List PushEvent} {offset : Nat} {chunks : List (List U8)}
  {decodeState : DecodeState D}

theorem pushEvent_ok : pushEvent env I t hash event = .ok t' ↔ Belongs env hash event ∧ ∃ listeners,
      traverse t.listeners (hearPush I event) = .ok listeners
        ∧ { t with listeners := listeners } = t' := by
  have told : (do
      let listeners ← mapErr Empty.elim (traverse t.listeners (hearPush I event))
      (.ok { t with listeners := listeners } : Result TrackerError (ChainTracker L K D))) = .ok t'
        ↔ ∃ listeners, traverse t.listeners (hearPush I event) = .ok listeners
          ∧ { t with listeners := listeners } = t' := by
    simp [bind_eq_ok, mapErr_eq_ok]
  cases event with
  | blockStart header =>
    by_cases belongs : env.blockHash header = hash
    · simp only [pushEvent, Belongs, belongs, ne_eq, not_true_eq_false, if_false, true_and]
      exact told
    · simp only [pushEvent, Belongs, belongs, ne_eq, not_false_eq_true, if_true, false_and,
        iff_false]
      exact panic_ne_ok
  | _ =>
    simp only [Belongs, true_and]
    exact told

theorem pushEvents_ok : events.foldlM (fun t event => pushEvent env I t hash event) t = .ok t'
    ↔ (∀ event ∈ events, Belongs env hash event) ∧ ∃ listeners,
      traverse t.listeners (hearEvents I events) = .ok listeners
        ∧ { t with listeners := listeners } = t' := by
  induction events generalizing t with
  | nil =>
    have unchanged : traverse t.listeners (hearEvents I []) = .ok t.listeners :=
      traverse_pure
    simp [unchanged, pure, Except.pure]
  | cons event rest ih =>
    have told : traverse t.listeners (hearEvents I (event :: rest))
        = traverse t.listeners fun entry => hearPush I event entry >>= hearEvents I rest := rfl
    rw [List.foldlM_cons, told]
    simp only [bind_eq_ok, pushEvent_ok, ih, traverse_comp, List.forall_mem_cons]
    constructor
    · rintro ⟨_, ⟨belongs, listeners, heard, rfl⟩, others, listeners', heard', rfl⟩
      exact ⟨⟨belongs, others⟩, listeners', ⟨listeners, heard, heard'⟩, rfl⟩
    · rintro ⟨⟨belongs, others⟩, listeners', ⟨listeners, heard, heard'⟩, rfl⟩
      exact ⟨_, ⟨belongs, listeners, heard, rfl⟩, others, listeners', heard', rfl⟩

theorem blockChunk_ok : blockChunk env I t hash offset chunk = .ok t'
    ↔ ∃ decodeState decoder events, decoderFor env hash offset t.decodeState = .ok decodeState
      ∧ env.decodeNext decodeState.decoder chunk = some (decoder, events)
      ∧ (∀ event ∈ events, Belongs env hash event)
      ∧ ∃ listeners, traverse t.listeners (hearEvents I events) = .ok listeners ∧ { t with
          listeners := listeners
          decodeState := some ⟨decoder, offset + chunk.length, decodeState.blockHash⟩ } = t' := by
  simp only [blockChunk, bind_eq_ok, expect_eq_ok, Prod.exists, pushEvents_ok, Except.ok.injEq]
  constructor
  · rintro ⟨decodeState, ready, decoder, events, decoded, _, ⟨belongs, listeners, heard, rfl⟩, rfl⟩
    exact ⟨decodeState, decoder, events, ready, decoded, belongs, listeners, heard, rfl⟩
  · rintro ⟨decodeState, decoder, events, ready, decoded, belongs, listeners, heard, rfl⟩
    exact ⟨decodeState, ready, decoder, events, decoded, _, ⟨belongs, listeners, heard, rfl⟩, rfl⟩

def Streamed (env : ChainEnv D) (I : ChainListener L K) (hash : BlockHash) (decoder : D)
    (offset : Nat) (chunks : List (List U8)) (t t' : ChainTracker L K D) : Prop :=
  ∃ decoder' events, env.decode decoder chunks = some (decoder', events)
    ∧ (∀ event ∈ events, Belongs env hash event)
    ∧ ∃ listeners, traverse t.listeners (hearEvents I events) = .ok listeners ∧ { t with
        listeners := listeners
        decodeState := some ⟨decoder', offset + chunks.flatten.length, hash⟩ } = t'

theorem traverse_hearEvents_append {more} {listeners : Map K (L × ListenSlot)}
    {m : Map K (L × ListenSlot)} :
    traverse m (hearEvents I (events ++ more)) = .ok listeners
      ↔ ∃ middle, traverse m (hearEvents I events) = .ok middle
        ∧ traverse middle (hearEvents I more) = .ok listeners := by
  have told : hearEvents I (events ++ more)
      = fun entry => hearEvents I events entry >>= hearEvents I more := by
    funext entry
    exact List.foldlM_append
  rw [told, traverse_comp]

theorem decode_cons {decoder' : D} :
    env.decode decoder (chunk :: rest) = some (decoder', events)
      ↔ ∃ middle first more, env.decodeNext decoder chunk = some (middle, first)
        ∧ env.decode middle rest = some (decoder', more) ∧ first ++ more = events := by
  simp only [ChainEnv.decode, Option.bind_eq_bind, Option.bind_eq_some_iff, Prod.exists,
    Option.some.injEq, Prod.mk.injEq]
  constructor
  · rintro ⟨middle, first, decoded, _, more, decoded', rfl, rfl⟩
    exact ⟨middle, first, more, decoded, decoded', rfl⟩
  · rintro ⟨middle, first, more, decoded, decoded', rfl⟩
    exact ⟨middle, first, decoded, decoder', more, decoded', rfl, rfl⟩

theorem streamed_cons :
    Streamed env I hash decoder offset (chunk :: rest) t t'
      ↔ ∃ middle events listeners, env.decodeNext decoder chunk = some (middle, events)
        ∧ (∀ event ∈ events, Belongs env hash event)
        ∧ traverse t.listeners (hearEvents I events) = .ok listeners
        ∧ Streamed env I hash middle (offset + chunk.length) rest
          { t with
            listeners := listeners
            decodeState := some ⟨middle, offset + chunk.length, hash⟩ } t' := by
  constructor
  · rintro ⟨decoder', events, decoded, belongs, listeners, heard, rfl⟩
    obtain ⟨middle, first, more, decodedFirst, decodedMore, rfl⟩ := decode_cons.mp decoded
    obtain ⟨listeners', heardFirst, heardMore⟩ := traverse_hearEvents_append.mp heard
    obtain ⟨belongs, belongs'⟩ := List.forall_mem_append.mp belongs
    exact ⟨middle, first, listeners', decodedFirst, belongs, heardFirst, decoder', more,
      decodedMore, belongs', listeners, heardMore, by simp [Nat.add_assoc]⟩
  · rintro ⟨middle, first, listeners', decoded, belongs, heard, decoder', more, decoded', belongs',
      listeners, heard', rfl⟩
    exact ⟨decoder', first ++ more, decode_cons.mpr ⟨middle, first, more, decoded, decoded', rfl⟩,
      List.forall_mem_append.mpr ⟨belongs, belongs'⟩, listeners,
      traverse_hearEvents_append.mpr ⟨listeners', heard, heard'⟩, by simp [Nat.add_assoc]⟩

theorem streamFrom_ok (started : offset ≠ 0 ∨ chunks = [])
    (decoding : t.decodeState = some ⟨decoder, offset, hash⟩) :
    streamFrom env I hash offset chunks t = .ok t'
      ↔ Streamed env I hash decoder offset chunks t t' := by
  induction chunks generalizing t decoder offset with
  | nil =>
    have unchanged : traverse t.listeners (hearEvents I []) = .ok t.listeners :=
      traverse_pure
    obtain ⟨headers, tip, height, network, listeners, _, trusted, deep⟩ := t
    obtain rfl := decoding
    simp [streamFrom, Streamed, ChainEnv.decode, unchanged]
  | cons chunk rest ih =>
    have started : offset ≠ 0 := started.resolve_right (List.cons_ne_nil _ _)
    have later : offset + chunk.length ≠ 0 ∨ rest = [] := by omega
    have ready : decoderFor env hash offset t.decodeState = .ok ⟨decoder, offset, hash⟩ := by
      simp [decoding, decoderFor, started]
    rw [streamFrom, streamed_cons]
    simp only [bind_eq_ok, blockChunk_ok, ready, Except.ok.injEq]
    constructor
    · rintro ⟨_, ⟨_, middle, events, rfl, decoded, belongs, listeners, heard, rfl⟩, streamed⟩
      exact ⟨middle, events, listeners, decoded, belongs, heard, (ih later rfl).mp streamed⟩
    · rintro ⟨middle, events, listeners, decoded, belongs, heard, streamed⟩
      exact ⟨_, ⟨_, middle, events, rfl, decoded, belongs, listeners, heard, rfl⟩,
        (ih later rfl).mpr streamed⟩

theorem blockChunk_first (started : blockChunk env I t hash 0 chunk = .ok t') :
    t.decodeState = none := by
  obtain ⟨_, _, _, ready, -⟩ := blockChunk_ok.mp started
  cases decoding : t.decodeState with
  | none => rfl
  | some decodeState =>
    rw [decoding] at ready
    exact absurd ready panic_ne_ok

/-- A block is streamed from its first chunk on. A first chunk that is empty has no second one. -/
theorem stream_ok :
    streamFrom env I hash 0 (chunk :: rest) t = .ok t'
      ↔ (0 + chunk.length ≠ 0 ∨ rest = []) ∧ t.decodeState = none
        ∧ Streamed env I hash env.newDecoder 0 (chunk :: rest) t t' := by
  rw [streamFrom, streamed_cons, bind_eq_ok]
  constructor
  · rintro ⟨t₁, first, others⟩
    have nothing := blockChunk_first first
    obtain ⟨_, middle, events, ready, decoded, belongs, listeners, heard, rfl⟩ :=
      blockChunk_ok.mp first
    rw [nothing] at ready
    cases ready
    have later : 0 + chunk.length ≠ 0 ∨ rest = [] := by
      cases rest with
      | nil => exact .inr rfl
      | cons next rest =>
        refine .inl fun empty => ?_
        rw [streamFrom, empty, bind_eq_ok] at others
        obtain ⟨_, second, -⟩ := others
        cases blockChunk_first second
    exact ⟨later, nothing, middle, events, listeners, decoded, belongs, heard,
      (streamFrom_ok later rfl).mp others⟩
  · rintro ⟨later, nothing, middle, events, listeners, decoded, belongs, heard, streamed⟩
    have ready : decoderFor env hash 0 t.decodeState = .ok ⟨env.newDecoder, 0, hash⟩ := by
      rw [nothing]
      rfl
    exact ⟨_, blockChunk_ok.mpr ⟨_, middle, events, ready, decoded, belongs, listeners, heard, rfl⟩,
      (streamFrom_ok later rfl).mpr streamed⟩

theorem streamFrom_headers {headers} (streamed : streamFrom env I hash 0 chunks t = .ok t') :
    streamFrom env I hash 0 chunks { t with headers := headers }
      = .ok { t' with headers := headers } := by
  cases chunks with
  | nil =>
    cases streamed
    rfl
  | cons chunk rest =>
    obtain ⟨later, nothing, decoder, events, decoded, belongs, listeners, heard, rfl⟩ :=
      stream_ok.mp streamed
    exact stream_ok.mpr
      ⟨later, nothing, decoder, events, decoded, belongs, listeners, heard, rfl⟩

theorem pushEvent_onlyPanics : (pushEvent env I t hash event).OnlyPanics := by
  have told : (do
      let listeners ← mapErr Empty.elim (traverse t.listeners (hearPush I event))
      (.ok { t with listeners := listeners } : Result TrackerError (ChainTracker L K D))
      ).OnlyPanics := by
    simp [onlyPanics_bind, onlyPanics_mapErr, onlyPanics_ok]
  cases event with
  | blockStart header =>
    by_cases belongs : env.blockHash header = hash
    · simp only [pushEvent, belongs, ne_eq, not_true_eq_false, if_false]
      exact told
    · simp only [pushEvent, belongs, ne_eq, not_false_eq_true, if_true]
      exact onlyPanics_panic
  | _ => exact told

theorem streamFrom_onlyPanics : (streamFrom env I hash offset chunks t).OnlyPanics := by
  induction chunks generalizing offset t with
  | nil => exact onlyPanics_ok
  | cons chunk rest ih =>
    have ready : (decoderFor env hash offset t.decodeState).OnlyPanics := by
      cases t.decodeState <;> simp [decoderFor]
    simp only [streamFrom, blockChunk, onlyPanics_bind, ready, onlyPanics_expect,
      onlyPanics_ok, ih, implies_true, and_true, true_and]
    intros
    exact .foldlM fun t event => pushEvent_onlyPanics

variable {delivery : Delivery} {answer : Option BlockHeader} {e : TrackerError}

theorem run_ok : delivery.run env I t = .ok answer t'
    ↔ ∃ t₁, streamFrom env I delivery.hash 0 delivery.chunks t = .ok t₁
      ∧ delivery.request.call env I delivery.proof t₁ = .ok answer t' := by
  simp [Delivery.run, bind_ok, get_ok, lift_ok, set_ok]

theorem run_err (failed : delivery.run env I t = .error (.err e) t') :
    ∃ t₁, streamFrom env I delivery.hash 0 delivery.chunks t = .ok t₁
      ∧ delivery.request.call env I delivery.proof t₁ = .error (.err e) t' := by
  rcases bind_error.mp failed with failed | ⟨_, _, got, failed⟩
  · exact absurd failed get_error
  · obtain ⟨rfl, rfl⟩ := get_ok.mp got
    rcases bind_error.mp failed with failed | ⟨t₁, _, lifted, failed⟩
    · exact absurd (lift_error.mp failed).1 (streamFrom_onlyPanics e)
    · obtain ⟨streamed, rfl⟩ := lift_ok.mp lifted
      rcases bind_error.mp failed with failed | ⟨⟨⟩, _, stored, failed⟩
      · exact absurd failed set_error
      · obtain rfl := set_ok.mp stored
        exact ⟨t₁, streamed, failed⟩

theorem call_add_ok {header} :
    (Request.add header).call env I proof t = .ok answer t'
      ↔ addBlock env I header proof t = .ok () t' ∧ answer = none := by
  simp only [Request.call, bind_ok, pure_ok]
  grind

theorem call_remove_ok {prev} :
    (Request.remove prev).call env I proof t = .ok answer t'
      ↔ ∃ removed, removeBlock env I proof prev t = .ok removed t' ∧ answer = some removed := by
  simp only [Request.call, bind_ok, pure_ok]
  grind

end ChainTracker

end Vls.Chain
