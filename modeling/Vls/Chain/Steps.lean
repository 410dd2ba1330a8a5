import Vls.Chain.Tracker

/-! # What the calls of the tracker do

How a call that returned has changed the tracker, and what a call that failed has left behind. -/

namespace Vls.Chain

def ProofType.given : ProofType → Option (Option (List Transaction))
  | .filter _ txs => some (some txs)
  | .block .. => none
  | .externalBlock => some none

namespace ChainTracker

open Call

variable {L K D : Type} [DecidableEq K] {env : ChainEnv D} {I : ChainListener L K}
  {t t' : ChainTracker L K D} {proof : TxoProof} {hash : BlockHash} {header removed : BlockHeader}
  {prev : Headers} {e : TrackerError} {hear : L × ListenSlot → Result Empty (L × ListenSlot)}

variable {told : Option (List Transaction) → L × ListenSlot → Result Empty (L × ListenSlot)}
  {kind : ProofType} {u : Unit}

omit [DecidableEq K] in
theorem idle_of_none (nothing : t.decodeState = none) : t.idle = t := by
  obtain ⟨headers, tip, height, network, listeners, decodeState, trusted, deep⟩ := t
  obtain rfl : decodeState = none := nothing
  rfl

/-- The proof goes with what was streamed: a block, complete, with the given hash, if the proof asks
    for one, and none otherwise. -/
def Finished (env : ChainEnv D) (t : ChainTracker L K D) (proof : TxoProof) (hash : BlockHash) :
    Prop :=
  proof.proof.isExternal = t.decodeState.isSome ∧ checkDecoded env hash t.decodeState = .ok ()

omit [DecidableEq K] in
theorem maybeFinishDecodingBlock_ok :
    maybeFinishDecodingBlock env proof hash t = .ok u t'
      ↔ Finished env t proof hash ∧ t.idle = t' := by
  simp only [maybeFinishDecodingBlock, bind_ok, get_ok]
  constructor
  · rintro ⟨_, _, ⟨rfl, rfl⟩, finished⟩
    split at finished
    · exact absurd finished throw_ok
    · rename_i goes
      obtain ⟨_, _, stored, checked⟩ := bind_ok.mp finished
      obtain rfl := set_ok.mp stored
      obtain ⟨checked, same⟩ := lift_ok.mp checked
      exact ⟨⟨not_not.mp goes, checked⟩, same⟩
  · rintro ⟨⟨goes, checked⟩, rfl⟩
    refine ⟨t, t, ⟨rfl, rfl⟩, ?_⟩
    rw [if_neg (not_not.mpr goes)]
    exact bind_ok.mpr ⟨(), _, set_ok.mpr rfl, lift_ok.mpr ⟨checked, rfl⟩⟩

omit [DecidableEq K] in
theorem maybeFinishDecodingBlock_err
    (failed : maybeFinishDecodingBlock env proof hash t = .error (.err e) t') : t' = t.idle := by
  simp only [maybeFinishDecodingBlock, bind_error, get_ok, get_error, false_or] at failed
  obtain ⟨_, _, ⟨rfl, rfl⟩, failed⟩ := failed
  split at failed
  · obtain ⟨same, -⟩ := throw_error.mp failed
    cases same
  · rcases bind_error.mp failed with failed | ⟨_, _, stored, checked⟩
    · exact absurd failed set_error
    · obtain rfl := set_ok.mp stored
      exact (lift_error.mp checked).2.symm

theorem notifyListeners_ok :
    notifyListeners hear t = .ok u t' ↔ ∃ listeners, Map.traverse t.listeners hear = .ok listeners
        ∧ { t with listeners := listeners } = t' := by
  simp only [notifyListeners, bind_ok, get_ok, lift_ok, set_ok, Result.mapErr_eq_ok]
  constructor
  · rintro ⟨_, _, ⟨rfl, rfl⟩, listeners, _, ⟨heard, rfl⟩, rfl⟩
    exact ⟨listeners, heard, rfl⟩
  · rintro ⟨listeners, heard, rfl⟩
    exact ⟨t, t, ⟨rfl, rfl⟩, listeners, t, ⟨heard, rfl⟩, rfl⟩

theorem notifyListeners_err : ¬ notifyListeners hear t = .error (.err e) t' := by
  intro failed
  simp only [notifyListeners, bind_error, get_ok, get_error, false_or] at failed
  obtain ⟨_, _, ⟨rfl, rfl⟩, failed⟩ := failed
  rcases failed with failed | ⟨_, _, -, failed⟩
  · obtain ⟨failed, -⟩ := lift_error.mp failed
    cases heard : Map.traverse t.listeners hear with
    | ok listeners => simp [heard, Result.mapErr] at failed
    | error fault =>
      cases fault with
      | err impossible => exact impossible.elim
      | panic message => simp [heard, Result.mapErr, Fault.mapErr] at failed
  · exact set_error failed

theorem notifyListenersOf_err
    (failed : notifyListenersOf (fun txs => notifyListeners (told txs)) kind t
      = .error (.err e) t') : t' = t := by
  cases kind with
  | filter _ txs => exact absurd failed notifyListeners_err
  | block => exact (throw_error.mp failed).2.symm
  | externalBlock => exact absurd failed notifyListeners_err

theorem notifyListenersOf_ok :
    notifyListenersOf (fun txs => notifyListeners (told txs)) kind t = .ok u t'
      ↔ ∃ txs ∈ kind.given, ∃ listeners, Map.traverse t.listeners (told txs) = .ok listeners
        ∧ { t with listeners := listeners } = t' := by
  cases kind with
  | filter content txs => simp [notifyListenersOf, notifyListeners_ok, ProofType.given]
  | block => simp [notifyListenersOf, throw_ok, ProofType.given]
  | externalBlock => simp [notifyListenersOf, notifyListeners_ok, ProofType.given]

def externalHash (proof : TxoProof) (hash : BlockHash) : Option BlockHash :=
  if proof.proof.isExternal then some hash else none

def withTip (t : ChainTracker L K D) (headers : Headers) : ChainTracker L K D :=
  { t with
    headers := t.tip :: t.headers.take (maxReorgSize - 1)
    tip := headers
    height := t.height + 1 }

theorem addBlock_ok : addBlock env I header proof t = .ok () t'
    ↔ Finished env t proof (env.blockHash header)
      ∧ t.idle.validateBlock env t.height (externalHash proof (env.blockHash header)) t.tip
        ⟨header, env.filterHeader proof⟩ proof false = .ok ()
      ∧ ∃ txs ∈ proof.proof.given, ∃ listeners,
        Map.traverse t.listeners (hearAdd I txs (env.blockHash header)) = .ok listeners
          ∧ ({ t.idle with listeners := listeners }.withTip ⟨header, env.filterHeader proof⟩)
            = t' := by
  simp only [addBlock, notifyListenersAdd, bind_ok, maybeFinishDecodingBlock_ok, get_ok, lift_ok,
    notifyListenersOf_ok, modify_ok]
  constructor
  · rintro ⟨_, _, ⟨goes, rfl⟩, _, _, ⟨rfl, rfl⟩, _, _, ⟨valid, rfl⟩, _, _,
      ⟨txs, given, listeners, heard, rfl⟩, rfl⟩
    exact ⟨goes, valid, txs, given, listeners, heard, rfl⟩
  · rintro ⟨goes, valid, txs, given, listeners, heard, rfl⟩
    exact ⟨(), _, ⟨goes, rfl⟩, _, _, ⟨rfl, rfl⟩, (), _, ⟨valid, rfl⟩, (), _,
      ⟨txs, given, listeners, heard, rfl⟩, rfl⟩

/-- A block that was not added has cost the decoder, and nothing else of the tracker. -/
theorem addBlock_err (failed : addBlock env I header proof t = .error (.err e) t') :
    t' = t.idle := by
  simp only [addBlock, notifyListenersAdd, bind_error, maybeFinishDecodingBlock_ok, get_ok,
    get_error, lift_ok, lift_error, modify_error, false_or, and_false, exists_false,
    or_false] at failed
  rcases failed with failed | ⟨_, _, ⟨-, rfl⟩, _, _, ⟨rfl, rfl⟩,
    ⟨-, rfl⟩ | ⟨_, _, ⟨-, rfl⟩, failed⟩⟩
  · exact maybeFinishDecodingBlock_err failed
  · rfl
  · exact notifyListenersOf_err failed

/-- The headers that are given can be those before the tip, as far as the tracker remembers. -/
def Precedes (t : ChainTracker L K D) (prev : Headers) : Prop :=
  match t.headers with
  | [] => t.allowDeepReorgs = true
  | first :: _ => prev = first

def popped (t : ChainTracker L K D) : ChainTracker L K D := { t with headers := t.headers.tail }

omit [DecidableEq K] in
theorem popHeaders_ok : popHeaders prev t = .ok u t' ↔ t.Precedes prev ∧ t.popped = t' := by
  obtain ⟨headers, tip, height, network, listeners, decodeState, trusted, deep⟩ := t
  cases headers with
  | nil =>
    cases deep with
    | true => exact ⟨fun popped => ⟨rfl, (pure_ok.mp popped).2⟩, fun ⟨_, same⟩ => same ▸ rfl⟩
    | false => exact ⟨fun popped => absurd popped throw_ok, fun ⟨allowed, _⟩ => nomatch allowed⟩
  | cons first rest =>
    by_cases same : prev = first
    · subst same
      simp only [popHeaders, bind_ok, get_ok, Precedes, ChainTracker.popped, List.tail_cons]
      constructor
      · rintro ⟨_, _, ⟨rfl, rfl⟩, popped⟩
        simp only [ne_eq, not_true_eq_false, if_false] at popped
        exact ⟨trivial, set_ok.mp popped⟩
      · rintro ⟨-, rfl⟩
        refine ⟨_, _, ⟨rfl, rfl⟩, ?_⟩
        simp only [ne_eq, not_true_eq_false, if_false]
        rfl
    · simp only [popHeaders, bind_ok, get_ok, Precedes]
      constructor
      · rintro ⟨_, _, ⟨rfl, rfl⟩, popped⟩
        simp only [ne_eq, same, not_false_eq_true, if_true] at popped
        exact absurd popped throw_ok
      · rintro ⟨same', -⟩
        exact absurd same' same

omit [DecidableEq K] in
theorem popHeaders_err (failed : popHeaders prev t = .error (.err e) t') :
    ¬ t.Precedes prev ∧ t' = t := by
  obtain ⟨headers, tip, height, network, listeners, decodeState, trusted, deep⟩ := t
  cases headers with
  | nil =>
    cases deep with
    | true => exact absurd failed pure_error
    | false =>
      refine ⟨?_, (throw_error.mp failed).2.symm⟩
      intro allowed
      cases allowed
  | cons first rest =>
    simp only [popHeaders, bind_error, get_ok, get_error, false_or] at failed
    obtain ⟨_, _, ⟨rfl, rfl⟩, failed⟩ := failed
    by_cases same : prev = first
    · simp only [ne_eq, same, not_true_eq_false, if_false] at failed
      exact absurd failed set_error
    · simp only [ne_eq, same, not_false_eq_true, if_true] at failed
      exact ⟨same, (throw_error.mp failed).2.symm⟩

theorem removeBlock_ok : removeBlock env I proof prev t = .ok removed t'
    ↔ t.Precedes prev ∧ Finished env t proof (env.blockHash prev.header)
      ∧ t.idle.validateBlock env (t.height - 1) (externalHash proof (env.blockHash prev.header))
        prev t.tip proof true = .ok ()
      ∧ ∃ txs ∈ proof.proof.given, ∃ listeners,
        Map.traverse t.listeners (hearRemove I txs (env.blockHash prev.header)) = .ok listeners
          ∧ removed = t.tip.header
          ∧ { t.popped.idle with
            listeners := listeners, tip := prev, height := t.height - 1 } = t' := by
  simp only [removeBlock, notifyListenersRemove, bind_ok, popHeaders_ok,
    maybeFinishDecodingBlock_ok, get_ok, lift_ok, notifyListenersOf_ok, modify_ok, pure_ok]
  constructor
  · rintro ⟨_, _, ⟨precedes, rfl⟩, _, _, ⟨goes, rfl⟩, _, _, ⟨rfl, rfl⟩, _, _, ⟨valid, rfl⟩, _, _,
      ⟨txs, given, listeners, heard, rfl⟩, _, _, rfl, rfl, rfl⟩
    exact ⟨precedes, goes, valid, txs, given, listeners, heard, rfl, rfl⟩
  · rintro ⟨precedes, goes, valid, txs, given, listeners, heard, rfl, rfl⟩
    exact ⟨(), _, ⟨precedes, rfl⟩, (), _, ⟨goes, rfl⟩, _, _, ⟨rfl, rfl⟩, (), _, ⟨valid, rfl⟩, (), _,
      ⟨txs, given, listeners, heard, rfl⟩, (), _, rfl, rfl, rfl⟩

/-- A block that was not removed has cost nothing if the headers that were given are refused, and
    the decoder and the headers before the tip otherwise. -/
theorem removeBlock_err (failed : removeBlock env I proof prev t = .error (.err e) t') :
    ¬ t.Precedes prev ∧ t' = t ∨ t.Precedes prev ∧ t' = t.popped.idle := by
  simp only [removeBlock, notifyListenersRemove, bind_error, popHeaders_ok,
    maybeFinishDecodingBlock_ok, get_ok, get_error, lift_ok, lift_error, modify_error, pure_error,
    false_or, and_false, exists_false, or_false] at failed
  rcases failed with failed | ⟨_, _, ⟨precedes, rfl⟩, failed | ⟨_, _, ⟨-, rfl⟩, _, _, ⟨rfl, rfl⟩,
    ⟨-, rfl⟩ | ⟨_, _, ⟨-, rfl⟩, failed⟩⟩⟩
  · exact .inl (popHeaders_err failed)
  · exact .inr ⟨precedes, maybeFinishDecodingBlock_err failed⟩
  · exact .inr ⟨precedes, rfl⟩
  · exact .inr ⟨precedes, notifyListenersOf_err failed⟩

end ChainTracker

end Vls.Chain
