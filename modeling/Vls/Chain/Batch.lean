import Vls.Chain.Atomicity
import Vls.Monitor.Streamed

/-! # Streaming a block and listing its transactions

A block that is streamed in chunks, however it is cut, and then added, leaves monitors and slots as
the list of its transactions would have. One that is streamed to be removed is refused: its hash is
compared with that of the block before it. -/

namespace Vls.Chain

open Monitor

/-- What is relied on of the decoder: however the bytes of the block are cut, it tells of the start
    of the block, of its transactions in order and of its end, and is then at the end. -/
def ChainEnv.Parses {D : Type} (env : ChainEnv D) (prims : Primitives) (header : BlockHeader)
    (txs : List Transaction) (bytes : List U8) : Prop :=
  ∀ chunks : List (List U8), chunks.flatten = bytes → (∀ chunk ∈ chunks, chunk ≠ []) → ∃ decoder,
    env.decode env.newDecoder chunks = some (decoder, blockEvents prims header txs)
      ∧ env.finish decoder = true

namespace ChainTracker

section

variable {L K D : Type} [DecidableEq K] (env : ChainEnv D) (I : ChainListener L K)

def Request.hash : Request → BlockHash
  | add header => env.blockHash header
  | remove prev => env.blockHash prev.header

def Request.hear (txs : Option (List Transaction)) (hash : BlockHash) :
    Request → L × ListenSlot → Result Empty (L × ListenSlot)
  | add _ => hearAdd I txs hash
  | remove _ => hearRemove I txs hash

def Request.Accepted (t : ChainTracker L K D) (proof : TxoProof) : Request → Prop
  | add header => t.validateBlock env t.height (externalHash proof (env.blockHash header)) t.tip
      ⟨header, env.filterHeader proof⟩ proof false = .ok ()
  | remove prev => t.Precedes prev
      ∧ t.validateBlock env (t.height - 1) (externalHash proof (env.blockHash prev.header)) prev
        t.tip proof true = .ok ()

def Request.result (t : ChainTracker L K D) (proof : TxoProof)
    (listeners : Map K (L × ListenSlot)) : Request → ChainTracker L K D
  | add header =>
    { t.idle with listeners := listeners }.withTip ⟨header, env.filterHeader proof⟩
  | remove prev =>
    { t.popped.idle with listeners := listeners, tip := prev, height := t.height - 1 }

variable {env I} {t t' : ChainTracker L K D} {proof : TxoProof} {request : Request}
  {answer : Option BlockHeader}

theorem call_ok : (∃ answer, request.call env I proof t = .ok answer t')
    ↔ Finished env t proof (request.hash env) ∧ request.Accepted env t proof
      ∧ ∃ txs ∈ proof.proof.given, ∃ listeners,
        Map.traverse t.listeners (request.hear I txs (request.hash env)) = .ok listeners
          ∧ request.result env t proof listeners = t' := by
  cases request with
  | add header =>
    simp only [call_add_ok, addBlock_ok, exists_eq_right]
    exact Iff.rfl
  | remove prev =>
    simp only [call_remove_ok, removeBlock_ok, Request.Accepted]
    constructor
    · rintro ⟨_, _, ⟨precedes, finished, valid, txs, given, listeners, heard, rfl, rfl⟩, rfl⟩
      exact ⟨finished, ⟨precedes, valid⟩, txs, given, listeners, heard, rfl⟩
    · rintro ⟨finished, ⟨precedes, valid⟩, txs, given, listeners, heard, rfl⟩
      exact ⟨_, _, ⟨precedes, finished, valid, txs, given, listeners, heard, rfl, rfl⟩, rfl⟩

omit [DecidableEq K] in
theorem accepted_congr {listeners : Map K (L × ListenSlot)} {decodeState}
    (slots : listeners.values.map Prod.snd = t.listeners.values.map Prod.snd) :
    request.Accepted env { t with listeners := listeners, decodeState := decodeState } proof
      ↔ request.Accepted env t proof := by
  have watches (keep : Finset OutPoint → ListenSlot → Finset OutPoint) :
      listeners.values.foldl (fun watches entry => keep watches entry.2) ∅
        = t.listeners.values.foldl (fun watches entry => keep watches entry.2) ∅ := by
    have throughSlots (entries : List (L × ListenSlot)) :
        entries.foldl (fun watches entry => keep watches entry.2) ∅
          = (entries.map Prod.snd).foldl keep ∅ := List.foldl_map.symm
    rw [throughSlots, throughSlots, slots]
  have forward := watches fun watches slot => watches ∪ slot.watches
  have reverse := watches fun watches slot => watches ∪ slot.watches ∪ slot.seen
  cases request with
  | add header =>
    simp only [Request.Accepted, validateBlock, getAllForwardWatches, getAllReverseWatches, forward,
      reverse]
    exact Iff.rfl
  | remove prev =>
    simp only [Request.Accepted, validateBlock, getAllForwardWatches, getAllReverseWatches, forward,
      reverse]
    exact Iff.rfl

end

variable {D : Type} {env : ChainEnv D} {prims : Primitives} {header : BlockHeader}
  {txs : List Transaction} {entry entry' : ChainMonitor × ListenSlot} {request : Request}
  {events : List PushEvent} {blockHash : BlockHeader → BlockHash}

theorem hearEvents_eq : hearEvents (listener prims blockHash) events entry
    = (events.foldlM (fun (m : ChainMonitor) event => m.onPush prims blockHash event) entry.1).map
      fun m => (m, entry.2) := by
  have step (m : ChainMonitor) (event : PushEvent) :
      hearPush (listener prims blockHash) event (m, entry.2)
        = (m.onPush prims blockHash event).map fun m => (m, entry.2) := rfl
  exact Result.foldlM_map (f := fun entry event => hearPush (listener prims blockHash) event entry)
    (fun m => (m, entry.2)) step events entry.1

theorem hearEvents_slot (heard : hearEvents (listener prims blockHash) events entry = .ok entry') :
    entry'.2 = entry.2 := by
  rw [hearEvents_eq] at heard
  cases told : events.foldlM (fun (m : ChainMonitor) event => m.onPush prims blockHash event)
      entry.1 with
  | error fault =>
    rw [told] at heard
    cases heard
  | ok m =>
    rw [told] at heard
    cases heard
    rfl

theorem hear_streamed (idle : entry.1.decodeState = none) :
    (hearEvents (listener prims blockHash) (blockEvents prims header txs) entry
        >>= request.hear (listener prims blockHash) none (blockHash header))
      = request.hear (listener prims blockHash) (some txs) (blockHash header) entry := by
  rw [hearEvents_eq]
  cases request with
  | add _ =>
    have same : _ = entry.1.onAddBlock prims txs :=
      (@streamed_eq State.onAddBlockEnd prims blockHash entry.1 header txs idle).trans (map_state _)
    simp only [Request.hear, hearAdd, listener]
    rw [← same]
    cases (blockEvents prims header txs).foldlM (fun m event => m.onPush prims blockHash event)
      entry.1 <;> rfl
  | remove _ =>
    have same : _ = entry.1.onRemoveBlock prims txs :=
      (@streamed_eq State.onRemoveBlockEnd prims blockHash entry.1 header txs idle).trans
        (map_state _)
    simp only [Request.hear, hearRemove, listener]
    rw [← same]
    cases (blockEvents prims header txs).foldlM (fun m event => m.onPush prims blockHash event)
      entry.1 <;> rfl

variable {t : ChainTracker ChainMonitor OutPoint D} {proof : TxoProof} {bytes : List U8}
  {chunks : List (List U8)} {listeners : Map OutPoint (ChainMonitor × ListenSlot)}

def Request.About (t : ChainTracker ChainMonitor OutPoint D) (header : BlockHeader) : Request → Prop
  | add header' => header' = header
  | remove _ => t.tip.header = header

theorem belongs_blockEvents :
    ∀ event ∈ blockEvents prims header txs, Belongs env (env.blockHash header) event := by
  intro event member
  cases event with
  | blockStart header' =>
    simp only [blockEvents, List.cons_append, List.mem_cons, List.mem_append, List.mem_flatMap,
      PushEvent.blockStart.injEq, List.not_mem_nil, reduceCtorEq, or_false] at member
    rcases member with rfl | ⟨tx, -, member⟩
    · rfl
    · exact absurd rfl (not_blockStart_of_mem member header')
  | _ => trivial

theorem exists_chunk (parses : env.Parses prims header txs bytes) (cut : chunks.flatten = bytes)
    (pieces : ∀ chunk ∈ chunks, chunk ≠ []) : ∃ chunk rest, chunks = chunk :: rest := by
  cases chunks with
  | nil =>
    obtain ⟨decoder, decoded, -⟩ := parses [] cut pieces
    cases decoded
  | cons chunk rest => exact ⟨chunk, rest, rfl⟩

omit prims header txs bytes in
theorem checkDecoded_some {hash : BlockHash} {decodeState} :
    checkDecoded env hash (some decodeState) = .ok ()
      ↔ env.finish decodeState.decoder = true ∧ decodeState.blockHash = hash := by
  cases finished : env.finish decodeState.decoder <;>
    simp [checkDecoded, finished]

/-- However a block is cut, streaming it leaves every monitor and every slot as its list of
    transactions does, if and only if nothing else is being received, and the block is to be added,
    or else has the same hash as the one before it. -/
theorem streamed_as_batch_iff (parses : env.Parses prims header txs bytes)
    (cut : chunks.flatten = bytes) (pieces : ∀ chunk ∈ chunks, chunk ≠ [])
    (about : request.About t header) (external : proof.proof = .externalBlock)
    (accepted : request.Accepted env t proof)
    (registered : ∀ key m slot, t.listeners.lookup key = some (m, slot) →
      ∀ pending ∈ m.decodeState, pending.blockHash.isSome = true)
    (batch : Map.traverse t.listeners
      (request.hear (listener prims env.blockHash) (some txs) (env.blockHash header))
      = .ok listeners) :
    (∃ answer t', Delivery.run env (listener prims env.blockHash)
        ⟨env.blockHash header, chunks, request, proof⟩ t = .ok answer t'
      ∧ ∀ key, (t'.listeners.lookup key).map (fun entry => (entry.1.state, entry.2))
        = (listeners.lookup key).map fun entry => (entry.1.state, entry.2))
    ↔ t.decodeState = none
      ∧ (∀ key m slot, t.listeners.lookup key = some (m, slot) → m.decodeState = none)
      ∧ ∀ prev, request = .remove prev → env.blockHash header = env.blockHash prev.header := by
  obtain ⟨chunk, rest, rfl⟩ := exists_chunk parses cut pieces
  obtain ⟨decoder, decoded, finished⟩ := parses _ cut pieces
  constructor
  · rintro ⟨answer, t', returned, -⟩
    obtain ⟨t₁, streamed, called⟩ := run_ok.mp returned
    obtain ⟨-, nothing, _, _, decoded', -, listeners₁, heard, rfl⟩ := stream_ok.mp streamed
    cases decoded.symm.trans decoded'
    refine ⟨nothing, ?_, ?_⟩
    · intro key m slot found
      obtain ⟨_, told, -⟩ := (Map.lookup_traverse heard).1 _ found
      have fresh := (hearEvents_blockStart told).1
      cases pending : m.decodeState with
      | none => rfl
      | some decodeState =>
        exact absurd ⟨decodeState, pending, registered key m slot found decodeState pending⟩ fresh
    · rintro prev rfl
      obtain ⟨⟨-, checked⟩, -⟩ := call_ok.mp ⟨answer, called⟩
      exact (checkDecoded_some.mp checked).2
  · rintro ⟨nothing, idle, sameHash⟩
    have hash : request.hash env = env.blockHash header := by
      cases request with
      | add header' => exact congrArg env.blockHash about
      | remove prev => exact (sameHash prev rfl).symm
    have told :=
      (Map.traverse_congr fun key entry found => hear_streamed (idle key _ _ found)).trans batch
    obtain ⟨middle, heard, ended⟩ := Map.traverse_comp.mp told
    have whole : chunk ≠ [] := pieces chunk List.mem_cons_self
    have streamed := stream_ok.mpr ⟨.inl (by simpa using whole), nothing, decoder, _, decoded,
      belongs_blockEvents, middle, heard, rfl⟩
    have goes : Finished env
        { t with
          listeners := middle
          decodeState := some
            ⟨decoder, 0 + (chunk :: rest).flatten.length, env.blockHash header⟩ }
        proof (request.hash env) := by
      refine ⟨?_, checkDecoded_some.mpr ⟨finished, hash.symm⟩⟩
      rw [external]
      rfl
    have given : none ∈ proof.proof.given := by
      rw [external]
      rfl
    have slots := Map.map_values_traverse (fun _ _ => hearEvents_slot) heard
    rw [← hash] at ended
    obtain ⟨answer, called⟩ := call_ok.mpr
      ⟨goes, (accepted_congr slots).mpr accepted, none, given, listeners, ended, rfl⟩
    refine ⟨answer, _, run_ok.mpr ⟨_, streamed, called⟩, ?_⟩
    intro key
    cases request <;> rfl

end ChainTracker

end Vls.Chain

namespace Vls

open Monitor Chain ChainTracker

open Toy

theorem Toy.decode_whole {header txs read chunks} (partly : read ≠ blockBytes)
    (cut : read ++ chunks.flatten = blockBytes) (pieces : ∀ chunk ∈ chunks, chunk ≠ []) :
    (chainEnv header txs).decode read chunks
      = some (blockBytes, blockEvents Toy.prims header txs) := by
  induction chunks generalizing read with
  | nil =>
    rw [List.flatten_nil, List.append_nil] at cut
    exact absurd cut partly
  | cons chunk rest ih =>
    obtain ⟨-, later⟩ := List.forall_mem_cons.mp pieces
    rw [List.flatten_cons, ← List.append_assoc] at cut
    by_cases whole : read ++ chunk = blockBytes
    · have nothing : rest = [] := by
        rw [whole] at cut
        cases rest with
        | nil => rfl
        | cons next _ =>
          have empty := List.append_cancel_left (cut.trans (List.append_nil _).symm)
          exact absurd (List.append_eq_nil_iff.mp empty).1 (later next List.mem_cons_self)
      subst nothing
      have decoded : (chainEnv header txs).decode (read ++ chunk) [] = some (blockBytes, []) := by
        rw [whole]
        rfl
      refine decode_cons.mpr ⟨_, _, [], rfl, decoded, ?_⟩
      rw [if_pos whole, List.append_nil]
      rfl
    · refine decode_cons.mpr ⟨_, _, _, rfl, ih whole cut later, ?_⟩
      simp [whole]

theorem Toy.parses_chainEnv (header : BlockHeader) (txs : List Transaction) :
    (chainEnv header txs).Parses Toy.prims header txs blockBytes := by
  intro chunks cut pieces
  exact ⟨_, decode_whole (List.cons_ne_nil 1 [2]).symm cut pieces, rfl⟩

/-- The block that funds the toy channel, cut in two, is streamed and added. -/
theorem funding_streamed_as_batch : ∃ listeners answer t',
    Map.traverse (trackerOf signedState {walletOutpoint}).listeners
      (hearAdd chainListener (some [fundingTx]) 2) = .ok listeners
    ∧ (fundingDelivery (blockHeader 2) [[1], [2]]).run
      (chainEnv (blockHeader 2) [fundingTx]) chainListener
      (trackerOf signedState {walletOutpoint}) = .ok answer t'
    ∧ ∀ key, (t'.listeners.lookup key).map (fun entry => (entry.1.state, entry.2))
      = (listeners.lookup key).map fun entry => (entry.1.state, entry.2) := by
  have able : ∀ key entry,
      (trackerOf signedState {walletOutpoint}).listeners.lookup key = some entry →
        ∃ entry', hearAdd chainListener (some [fundingTx]) 2 entry = .ok entry' := by
    rintro key ⟨m, slot⟩ found
    obtain ⟨rfl, rfl⟩ := lookup_trackerOf found
    have returns : (hearAdd chainListener (some [fundingTx]) 2
        (chainMonitor signedState, ⟨∅, {walletOutpoint}, ∅⟩)).toOption.isSome = true := by
      decide +kernel
    obtain ⟨entry', returned⟩ := Option.isSome_iff_exists.mp returns
    exact ⟨entry', Result.toOption_eq_some.mp returned⟩
  obtain ⟨listeners, batch⟩ := Map.traverse_ok able
  have idle : ∀ key m slot,
      (trackerOf signedState {walletOutpoint}).listeners.lookup key = some (m, slot) →
        m.decodeState = none := by
    intro key m slot found
    obtain ⟨rfl, -⟩ := lookup_trackerOf found
    rfl
  have registered : ∀ key m slot,
      (trackerOf signedState {walletOutpoint}).listeners.lookup key = some (m, slot) →
        ∀ pending ∈ m.decodeState, pending.blockHash.isSome = true := by
    intro key m slot found pending there
    rw [idle key m slot found] at there
    cases there
  have cut : [[1], [2]].flatten = blockBytes := rfl
  have about : (Request.add (blockHeader 2)).About
      (trackerOf signedState {walletOutpoint}) (blockHeader 2) := rfl
  have accepted : (Request.add (blockHeader 2)).Accepted
      (chainEnv (blockHeader 2) [fundingTx])
      (trackerOf signedState {walletOutpoint}) ⟨[], .externalBlock⟩ := rfl
  have streamed := streamed_as_batch_iff (parses_chainEnv (blockHeader 2) [fundingTx])
    cut (by decide) about rfl accepted registered batch
  obtain ⟨answer, t', returned, same⟩ :=
    streamed.mpr ⟨rfl, idle, fun prev removal => nomatch removal⟩
  exact ⟨listeners, answer, t', batch, returned, same⟩

/-- The block that funds the toy channel was added. It can be removed with the list of its
    transactions, but not if it is streamed. -/
theorem funding_not_removed_streamed : ∃ t₁ t₂ t₃ removed,
    addBlock (chainEnv (blockHeader 2) [fundingTx]) chainListener
      (blockHeader 2) ⟨[], .filter [] [fundingTx]⟩
      (trackerOf signedState {walletOutpoint}) = .ok () t₁
    ∧ removeBlock (chainEnv (blockHeader 2) [fundingTx]) chainListener
      ⟨[], .filter [] [fundingTx]⟩ ⟨blockHeader 1, 1⟩ t₁ = .ok removed t₂
    ∧ Delivery.run (chainEnv (blockHeader 2) [fundingTx]) chainListener
      ⟨2, [[1, 2]], .remove ⟨blockHeader 1, 1⟩, ⟨[], .externalBlock⟩⟩ t₁
      = .error (.err .blockDecodeError) t₃ := by
  exact ⟨_, _, _, blockHeader 2, Call.Ends.eq_ok (by decide +kernel),
    Call.Ends.eq_ok (by decide +kernel), Call.Ends.eq_error (by decide +kernel)⟩

end Vls
