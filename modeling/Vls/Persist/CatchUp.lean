import Vls.Lib.Trace
import Vls.Persist.Backup

/-! # The backup catches up

A restart rewrites some keys and leaves the others: the stubs, and whatever the main store does not
have. Two stores that agree on the others agree on everything after it. -/

namespace Vls.Backup

open Store List

section stores

variable {S T R : Type} {services : Services S T R}

variable {puts : List (Key × Option (Datum S T R))} {id' id : NodeId}
  {store main backup : Store S T R} {writes : List (Write S T R)} {key : Key}
  {nodes : List (NodeId × NodeEntry × S)} {p : Persister S T R}

namespace Store

variable {store main backup : Store S T R} {key : Key}

theorem lookup_put (store : Store S T R) (entry : Key × Option (Datum S T R)) (key : Key) :
    (store.put entry).lookup key = if key = entry.1 then entry.2 else store.lookup key := by
  obtain ⟨key', datum⟩ := entry
  cases datum with
  | some datum => exact Map.lookup_insert_ite _ _ _ _
  | none =>
    simp only [put]
    split
    · rename_i same
      rw [same]
      exact AList.lookup_erase key' store
    · rename_i other
      exact AList.lookup_erase_ne other

theorem lookup_puts_of_notMem (apart : key ∉ puts.map Prod.fst) :
    (puts.foldl put store).lookup key = store.lookup key := by
  induction puts generalizing store with
  | nil => rfl
  | cons entry rest ih =>
    rw [map_cons, mem_cons, not_or] at apart
    rw [foldl_cons, ih apart.2, lookup_put, if_neg apart.1]

theorem puts_agree (agree : key ∈ puts.map Prod.fst ∨ main.lookup key = backup.lookup key) :
    (puts.foldl put main).lookup key = (puts.foldl put backup).lookup key := by
  induction puts generalizing main backup with
  | nil => exact agree.resolve_left not_mem_nil
  | cons entry rest ih =>
    rw [foldl_cons, foldl_cons]
    apply ih
    rw [lookup_put, lookup_put]
    split
    · exact .inr rfl
    · rename_i other
      exact agree.imp_left fun mem => (mem_cons.mp mem).resolve_left other

theorem apply_agree {write} (agree : main.lookup key = backup.lookup key) :
    (main.apply write).lookup key = (backup.apply write).lookup key := by
  refine puts_agree (.inr ?_)
  split
  · rfl
  · exact agree

end Store

/-- The writes with which a node brings the stores in step. -/
inductive Syncs (id : NodeId) : Write S T R → Prop where
  | node {entry state} : Syncs id (.newNode id entry state)
  | allowlist {entries} : Syncs id (.updateNodeAllowlist id entries)
  | tracker {tracker} : Syncs id (.updateTracker id tracker)
  | channel {channelId channel} : Syncs id (.updateChannel id channelId channel)

def Write.keys (write : Write S T R) : List Key := write.puts.map Prod.fst

section sync

variable {id : NodeId} {write : Write S T R} {writes : List (Write S T R)}
  {store main backup : Store S T R} {key : Key}

section

variable (syncs : Syncs id write)
include syncs

theorem Syncs.apply_eq (store : Store S T R) :
    store.apply write = write.puts.foldl put store := by
  cases syncs <;> rfl

theorem Syncs.node_eq (mem : key ∈ write.keys): key.node = id := by
  cases syncs <;> simp only [Write.keys, Write.puts, map_cons, map_nil, mem_cons,
    not_mem_nil, or_false] at mem <;> rcases mem with rfl | rfl <;> rfl

theorem Syncs.lookup_of_notMem (apart : key ∉ write.keys) :
    (store.apply write).lookup key = store.lookup key := by
  rw [syncs.apply_eq]
  exact lookup_puts_of_notMem apart

theorem Syncs.agree (agree : key ∈ write.keys ∨ main.lookup key = backup.lookup key) :
    (main.apply write).lookup key = (backup.apply write).lookup key := by
  rw [syncs.apply_eq, syncs.apply_eq]
  exact puts_agree agree

theorem Syncs.entry_kept (present : (store.lookup (.nodeEntry id')).isSome) :
    ((store.apply write).lookup (.nodeEntry id')).isSome := by
  rw [syncs.apply_eq]
  cases syncs with
  | node =>
    simp only [Write.puts, foldl_cons, foldl_nil, lookup_put]
    split
    · rfl
    · simpa using present
  | allowlist | tracker | channel => simpa [Write.puts, lookup_put] using present

end

def Rewritten (store : Store S T R) (key : Key) : Prop :=
  (store.lookup (.nodeEntry key.node)).isSome ∧ match key with
    | .channel id channelId =>
      ∃ channel, store.lookup (.channel id channelId) = some (.channel (.ready channel))
    | _ => True

theorem Syncs.rewritten (syncs : Syncs id write) (mem : key ∈ write.keys)
    (present : (store.lookup (.nodeEntry id)).isSome) : Rewritten (store.apply write) key := by
  refine ⟨syncs.node_eq mem ▸ syncs.entry_kept present, ?_⟩
  cases syncs with
  | node =>
    simp only [Write.keys, Write.puts, map_cons, map_nil, mem_cons, not_mem_nil, or_false] at mem
    rcases mem with rfl | rfl <;> trivial
  | allowlist | tracker =>
    obtain rfl := mem_singleton.mp mem
    trivial
  | @channel channelId channel =>
    obtain rfl := mem_singleton.mp mem
    exact ⟨channel, by simp [apply, Write.clears, Write.puts, put]⟩

theorem Rewritten.of_notMem (rewritten : Rewritten store key) (syncs : Syncs id write)
    (apart : key ∉ write.keys) : Rewritten (store.apply write) key := by
  refine ⟨syncs.entry_kept rewritten.1, ?_⟩
  cases key with
  | channel id' channelId =>
    obtain ⟨channel, here⟩ := rewritten.2
    exact ⟨channel, (syncs.lookup_of_notMem apart).trans here⟩
  | nodeEntry | nodeState | allowlist | tracker => trivial

end sync

theorem Store.mem_getNodeChannels {channelId entry}
    (here : store.lookup (.channel id channelId) = some (.channel entry)) :
    (channelId, entry) ∈ store.getNodeChannels id := by
  refine mem_filterMap.mpr ⟨⟨.channel id channelId, .channel entry⟩,
    of_mem_dlookup here, ?_⟩
  simp

theorem mem_readyWrites {channels} {write : Write S T R} :
    write ∈ readyWrites id channels ↔ ∃ channelId channel, (channelId, .ready channel) ∈ channels ∧
        write = .updateChannel id channelId channel := by
  simp only [readyWrites, mem_filterMap]
  constructor
  · rintro ⟨⟨channelId, entry⟩, mem, made⟩
    cases entry with
    | stub blockheight => cases made
    | ready channel => exact ⟨channelId, channel, mem, (Option.some.inj made).symm⟩
  · rintro ⟨channelId, channel, mem, rfl⟩
    exact ⟨_, mem, rfl⟩

/-- A restore writes all of its node's keys that are to be rewritten, and no other node's. -/
theorem syncWrites_eq_some {source} {node : NodeId × NodeEntry × S}
    (made : syncWrites services source node = some writes) :
    (∀ write ∈ writes, Syncs node.1 write) ∧
      ∀ key, key.node = node.1 → Rewritten source key → ∃ write ∈ writes, key ∈ write.keys := by
  obtain ⟨id, entry, state⟩ := node
  simp only [syncWrites, Option.bind_eq_bind, Option.bind_eq_some_iff] at made
  obtain ⟨entries, -, allowlist, -, tracker, -, left, -, made⟩ := made
  split at made
  · cases made
  · cases made
    constructor
    · intro write mem
      simp only [cons_append, nil_append, mem_cons, mem_readyWrites] at mem
      rcases mem with rfl | rfl | rfl | ⟨channelId, channel, -, rfl⟩
      · exact .node
      · exact .allowlist
      · exact .tracker
      · exact .channel
    · intro key same rewritten
      cases key with
      | nodeEntry id' | nodeState id' =>
        obtain rfl : id' = id := same
        exact ⟨_, .head _, by simp [Write.keys, Write.puts]⟩
      | allowlist id' =>
        obtain rfl : id' = id := same
        exact ⟨_, .tail _ (.head _), by simp [Write.keys, Write.puts]⟩
      | tracker id' =>
        obtain rfl : id' = id := same
        exact ⟨_, .tail _ (.tail _ (.head _)), by simp [Write.keys, Write.puts]⟩
      | channel id' channelId =>
        obtain rfl : id' = id := same
        obtain ⟨channel, here⟩ := rewritten.2
        refine ⟨.updateChannel id' channelId channel, mem_append_right _ ?_, .head _⟩
        exact mem_readyWrites.mpr ⟨channelId, channel, mem_getNodeChannels here, rfl⟩

/-- The stores agree but for keys that the restore of some nodes will rewrite. -/
def Behind (ids : List NodeId) (main backup : Store S T R) : Prop :=
  ∀ key, main.lookup key = backup.lookup key ∨ key.node ∈ ids ∧ Rewritten main key

section behind

variable {id : NodeId} {ids : List NodeId} {main backup : Store S T R}

theorem syncs_agree (syncs : ∀ write ∈ writes, Syncs id write)
    (agree : (∃ write ∈ writes, key ∈ write.keys) ∨ main.lookup key = backup.lookup key) :
    (writes.foldl apply main).lookup key = (writes.foldl apply backup).lookup key := by
  induction writes generalizing main backup with
  | nil => exact agree.resolve_left fun ⟨_, mem, _⟩ => by cases mem
  | cons write rest ih =>
    rw [foldl_cons, foldl_cons]
    apply ih fun w mem => syncs w (.tail _ mem)
    by_cases later : ∃ w ∈ rest, key ∈ w.keys
    · exact .inl later
    · refine .inr ((syncs write (.head _)).agree (agree.imp_left ?_))
      rintro ⟨w, mem, touched⟩
      obtain rfl | mem := mem_cons.mp mem
      · exact touched
      · exact absurd ⟨w, mem, touched⟩ later

theorem rewritten_syncs_of_notMem (syncs : ∀ write ∈ writes, Syncs id write)
    (apart : ∀ write ∈ writes, key ∉ write.keys) (rewritten : Rewritten store key) :
    Rewritten (writes.foldl apply store) key := by
  induction writes generalizing store with
  | nil => exact rewritten
  | cons write rest ih =>
    exact ih (fun w mem => syncs w (.tail _ mem)) (fun w mem => apart w (.tail _ mem))
      (rewritten.of_notMem (syncs write (.head _)) (apart write (.head _)))

theorem entry_kept_syncs (syncs : ∀ write ∈ writes, Syncs id write)
    (present : (store.lookup (.nodeEntry id')).isSome) :
    ((writes.foldl apply store).lookup (.nodeEntry id')).isSome := by
  induction writes generalizing store with
  | nil => exact present
  | cons write rest ih =>
    exact ih (fun w mem => syncs w (.tail _ mem)) ((syncs write (.head _)).entry_kept present)

theorem Behind.sync (behind : Behind (id :: ids) main backup)
    (syncs : ∀ write ∈ writes, Syncs id write)
    (all : ∀ key, key.node = id → Rewritten main key → ∃ write ∈ writes, key ∈ write.keys) :
    Behind ids (writes.foldl apply main) (writes.foldl apply backup) := by
  intro key
  by_cases touched : ∃ write ∈ writes, key ∈ write.keys
  · exact .inl (syncs_agree syncs (.inl touched))
  · have apart := fun write mem among => touched ⟨write, mem, among⟩
    obtain agree | ⟨mem, rewritten⟩ := behind key
    · exact .inl (syncs_agree syncs (.inr agree))
    · obtain same | mem := mem_cons.mp mem
      · exact absurd (all key same rewritten) touched
      · exact .inr ⟨mem, rewritten_syncs_of_notMem syncs apart rewritten⟩

end behind

/-- The stores agree but for keys that a restart rewrites. -/
def CatchesUp (main backup : Store S T R) : Prop :=
  ∀ key, main.lookup key = backup.lookup key ∨ Rewritten main key

theorem Behind.catchesUp {ids} (behind : Behind ids main backup) : CatchesUp main backup :=
  fun key => (behind key).imp_right And.right

theorem Store.mem_nodeIds : id ∈ store.nodeIds ↔ (store.lookup (.nodeEntry id)).isSome := by
  simp only [nodeIds, mem_filterMap]
  constructor
  · rintro ⟨key, mem, made⟩
    cases key with
    | nodeEntry id' =>
      cases made
      exact Map.mem_of_lookup.mp mem
    | nodeState | allowlist | tracker | channel => cases made
  · intro present
    exact ⟨_, Map.mem_of_lookup.mpr present, rfl⟩

theorem CatchesUp.behind (catchesUp : CatchesUp main backup) : Behind main.nodeIds main backup :=
  fun key => (catchesUp key).imp_right fun rewritten =>
    ⟨mem_nodeIds.mpr rewritten.1, rewritten⟩

theorem Store.getNodes_ids (got : store.getNodes = some nodes) :
    nodes.map Prod.fst = store.nodeIds := by
  unfold getNodes at got
  generalize store.nodeIds = ids at got
  induction ids generalizing nodes with
  | nil =>
    cases got
    rfl
  | cons id rest ih =>
    simp only [mapM_cons, Option.bind_eq_bind, Option.bind_eq_some_iff, Option.pure_def,
      Option.some.injEq] at got
    obtain ⟨node, ⟨entry, -, state, -, rfl⟩, nodes, later, rfl⟩ := got
    rw [map_cons, ih later]

namespace Persister

variable {p p' : Persister S T R}

theorem foldl_write (services : Services S T R) (writes : List (Write S T R))
    (complete : p.initialRestoreComplete = true) :
    writes.foldl (write services) p =
      ⟨writes.foldl apply p.main, writes.foldl apply p.backup, true⟩ := by
  induction writes generalizing p with
  | nil =>
    obtain ⟨main, backup, flag⟩ := p
    obtain rfl : flag = true := complete
    rfl
  | cons first rest ih =>
    have once : p.write services first = ⟨p.main.apply first, p.backup.apply first, true⟩ := by
      simp [write, writeMain, mainIsReady, complete]
    rw [foldl_cons, once, ih rfl]
    rfl

theorem restoreNode_eq_some {node} (ready : p.mainIsReady services)
    (restored : p.restoreNode services node = some p') :
    ∃ writes, syncWrites services p.main node = some writes ∧
      p' = ⟨writes.foldl apply p.main, writes.foldl apply p.backup, true⟩ := by
  simp only [restoreNode, source, ready, if_true, Option.bind_eq_bind,
    Option.bind_eq_some_iff] at restored
  obtain ⟨writes, made, same⟩ := restored
  refine ⟨writes, made, ?_⟩
  rw [← Option.some.inj same]
  exact foldl_write services writes rfl

theorem restoreNodes_behind (ready : p.mainIsReady services)
    (behind : Behind (nodes.map Prod.fst) p.main p.backup)
    (restored : nodes.foldlM (restoreNode services) p = some p') : Behind [] p'.main p'.backup := by
  induction nodes generalizing p with
  | nil =>
    cases restored
    exact behind
  | cons node rest ih =>
    rw [foldlM_cons, Option.bind_eq_bind, Option.bind_eq_some_iff] at restored
    obtain ⟨next, first, later⟩ := restored
    obtain ⟨writes, made, rfl⟩ := restoreNode_eq_some ready first
    obtain ⟨syncs, all⟩ := syncWrites_eq_some made
    exact ih (by simp [mainIsReady]) (behind.sync syncs all) later

theorem restoreUntil_catchesUp {count} (ready : p.mainIsReady services)
    (behind : Behind (nodes.map Prod.fst) p.main p.backup)
    (present : ∀ node ∈ nodes, (p.main.lookup (.nodeEntry node.1)).isSome)
    (restored : restoreUntil services count p nodes = some p') : CatchesUp p'.main p'.backup := by
  induction nodes generalizing p count with
  | nil =>
    cases restored
    exact behind.catchesUp
  | cons node rest ih =>
    simp only [restoreUntil, source, ready, if_true, Option.bind_eq_bind,
      Option.bind_eq_some_iff] at restored
    obtain ⟨writes, made, restored⟩ := restored
    obtain ⟨syncs, all⟩ := syncWrites_eq_some made
    have begun := foldl_write services (p := { p with initialRestoreComplete := true })
      (writes.take count) rfl
    rw [begun] at restored
    have early : ∀ write ∈ writes.take count, Syncs node.1 write :=
      fun write mem => syncs write (mem_of_mem_take mem)
    cases remaining : writes.drop count with
    | nil =>
      have whole : writes.take count = writes :=
        take_of_length_le (drop_eq_nil_iff.mp remaining)
      rw [remaining, whole] at restored
      refine ih (by simp [mainIsReady]) (behind.sync syncs all) (fun node' mem => ?_) restored
      exact entry_kept_syncs syncs (present node' (.tail _ mem))
    | cons next later =>
      rw [remaining] at restored
      cases restored
      have nextSyncs : Syncs node.1 next :=
        syncs next (mem_of_mem_drop (remaining ▸ mem_cons_self))
      have stillPresent := entry_kept_syncs early (present node (.head _))
      simp only [writeMain, mainIsReady, Bool.or_true, Bool.true_or, if_true]
      intro key
      by_cases last : key ∈ next.keys
      · exact .inr (nextSyncs.rewritten last stillPresent)
      · rw [nextSyncs.lookup_of_notMem last]
        by_cases touched : ∃ write ∈ writes.take count, key ∈ write.keys
        · exact .inl (syncs_agree early (.inl touched))
        · obtain agree | ⟨-, rewritten⟩ := behind key
          · exact .inl (syncs_agree early (.inr agree))
          · have apart := fun write mem among => touched ⟨write, mem, among⟩
            exact .inr ((rewritten_syncs_of_notMem early apart rewritten).of_notMem nextSyncs last)

end Persister

/-- What may be lost between the stores: the main store does not ask for a recovery, and a write at
    which the signer stops changes no key but those that the next restart writes again. -/
def Signer.Recoverable (services : Services S T R) (s : Signer S T R) (event : Event S T R) :
    Prop :=
  services.recoveryRequired s.persister.main = false ∧ match event with
    | .crash write => CatchesUp (s.persister.main.apply write) s.persister.main
    | _ => True

theorem Syncs.catchesUp {write} (syncs : Syncs id write)
    (present : (store.lookup (.nodeEntry id)).isSome) : CatchesUp (store.apply write) store := by
  intro key
  by_cases touched : key ∈ write.keys
  · exact .inr (syncs.rewritten touched present)
  · exact .inl (syncs.lookup_of_notMem touched)

/-- While the signer runs the stores agree, and when it has stopped the next restart will make them
    agree. -/
structure InStep (s : Signer S T R) : Prop where
  same : s.running → ∀ key, s.persister.main.lookup key = s.persister.backup.lookup key
  catchesUp : CatchesUp s.persister.main s.persister.backup

theorem InStep.of_same {running} (same : ∀ key, p.main.lookup key = p.backup.lookup key) :
    InStep (⟨p, running⟩ : Signer S T R) :=
  ⟨fun _ => same, fun key => .inl (same key)⟩

theorem InStep.of_catchesUp (catchesUp : CatchesUp p.main p.backup) :
    InStep (⟨p, false⟩ : Signer S T R) :=
  ⟨nofun, catchesUp⟩

theorem InStep.step {s s' event} (inStep : InStep s) (recoverable : s.Recoverable services event)
    (stepped : s.step services event = some ((), s')) : InStep s' := by
  obtain ⟨recovers, lost⟩ := recoverable
  have ready (flag : Bool) :
      Persister.mainIsReady services { s.persister with initialRestoreComplete := flag } := by
    simp [Persister.mainIsReady, recovers]
  cases event with
  | write write =>
    simp only [Signer.step] at stepped
    split at stepped
    · rename_i running
      obtain ⟨-, rfl⟩ := Prod.mk.inj (Option.some.inj stepped)
      refine .of_same fun key => ?_
      have ready : s.persister.mainIsReady services := ready _
      simp only [Persister.write, Persister.writeMain, ready, Bool.true_or, if_true]
      exact apply_agree (inStep.same running key)
    · cases stepped
  | crash write =>
    simp only [Signer.step] at stepped
    split at stepped
    · rename_i running
      obtain ⟨-, rfl⟩ := Prod.mk.inj (Option.some.inj stepped)
      refine .of_catchesUp fun key => ?_
      have ready : s.persister.mainIsReady services := ready _
      simp only [Persister.writeMain, ready, Bool.true_or, if_true]
      exact (lost key).imp_left fun kept => kept.trans (inStep.same running key)
    · cases stepped
  | restart =>
    simp only [Signer.step, Option.map_eq_some_iff, Persister.restart, Persister.source, ready,
      if_true, Option.bind_eq_bind, Option.bind_eq_some_iff] at stepped
    obtain ⟨p, ⟨nodes, got, restored⟩, same⟩ := stepped
    obtain ⟨-, rfl⟩ := Prod.mk.inj same
    have behind := inStep.catchesUp.behind
    rw [← getNodes_ids got] at behind
    have settled := Persister.restoreNodes_behind (ready false) behind restored
    exact .of_same fun key => (settled key).resolve_right fun ⟨mem, _⟩ => by cases mem
  | crashedRestart count =>
    simp only [Signer.step, Option.map_eq_some_iff, Persister.restartUntil, Persister.source,
      ready, if_true, Option.bind_eq_bind, Option.bind_eq_some_iff] at stepped
    obtain ⟨p, ⟨nodes, got, restored⟩, same⟩ := stepped
    obtain ⟨-, rfl⟩ := Prod.mk.inj same
    have behind := inStep.catchesUp.behind
    have ids := getNodes_ids got
    rw [← ids] at behind
    refine .of_catchesUp (Persister.restoreUntil_catchesUp (ready false) behind ?_ restored)
    intro node mem
    exact mem_nodeIds.mp (ids ▸ mem_map_of_mem mem)

/-- In every run, whatever the stores held that a restart rewrites, whose interrupted writes are of
    keys that a restart rewrites: the stores hold the same whenever the signer runs. -/
theorem backup_catches_up (services : Services S T R) (start : Signer S T R)
    (stopped : start.running = false)
    (behind : CatchesUp start.persister.main start.persister.backup)
    (history : List (Machine.Step (Signer S T R) (Event S T R) Unit)) (s : Signer S T R)
    (run : (machine services).Run start history s)
    (meets : Machine.Meets (fun _ s event => s.Recoverable services event) history) :
    s.running → ∀ key, s.persister.main.lookup key = s.persister.backup.lookup key := by
  have begun : InStep start := ⟨fun running => by simp [stopped] at running, behind⟩
  exact (run.inv (fun _ s => InStep s) meets begun
    fun _ _ _ _ _ inStep recoverable stepped => inStep.step recoverable stepped).same

end stores

namespace Toy

def services : Services Nat (List OutPoint) OutPoint where
  recoveryRequired := fun _ => false
  restoreState := id
  restoreAllowlist := fun _ entries => some entries
  restoreTracker := id
  listeners := id
  fundingOutpoint := id

def node : NodeId := [2]

def funding : OutPoint := ⟨7, 0⟩

def start : Signer Nat (List OutPoint) OutPoint := ⟨⟨∅, ∅, false⟩, false⟩

def losesUpdateOnly (s : Signer Nat (List OutPoint) OutPoint) :
    Event Nat (List OutPoint) OutPoint → Bool
  | .crash (.updateChannel id _ _) => (s.persister.main.lookup (.nodeEntry id)).isSome
  | .crash _ => false
  | _ => true

def newNode (listeners : List OutPoint) : List (Event Nat (List OutPoint) OutPoint) :=
  [.restart, .write (.updateNodeAllowlist node []), .write (.newNode node ⟨0, "regtest"⟩ 0),
    .write (.newTracker node listeners)]

end Toy

/-- A ready channel that reached the main store only is in both after the restart. -/
theorem lost_channel_update_made_good :
    ∃ history s, (machine Toy.services).Run Toy.start history s ∧ s.running = true ∧
      s.persister.main.lookup (.channel Toy.node [1]) = some (.channel (.ready Toy.funding)) ∧
      s.persister.main.lookup (.channel Toy.node [1])
        = s.persister.backup.lookup (.channel Toy.node [1]) := by
  obtain ⟨history, s, run, running, found, harmless⟩ :
      ∃ history s, (machine Toy.services).Run Toy.start history s ∧ s.running = true ∧
        s.persister.main.lookup (.channel Toy.node [1]) = some (.channel (.ready Toy.funding)) ∧
        Machine.Meets (fun _ s event => Toy.losesUpdateOnly s event = true) history :=
    Machine.exists_run (Toy.newNode [Toy.funding] ++
      [.crash (.updateChannel Toy.node [1] Toy.funding), .restart]) (by decide +kernel)
  refine ⟨history, s, run, running, found, ?_⟩
  refine backup_catches_up Toy.services Toy.start rfl (fun _ => .inl rfl) history s run
    (harmless.mono fun _ s event harmless => ⟨rfl, ?_⟩) running _
  cases event with
  | crash write =>
    cases write with
    | updateChannel id channelId channel => exact Syncs.channel.catchesUp harmless
    | _ => cases harmless
  | write | restart | crashedRestart => trivial

/-- A stub that reached the main store only, and a deleted stub that is still in the backup. -/
theorem lost_stub_not_made_good :
    (∃ history s, (machine Toy.services).Run Toy.start history s ∧ s.running = true ∧
      s.persister.main.lookup (.channel Toy.node [1]) = some (.channel (.stub 7)) ∧
      s.persister.backup.lookup (.channel Toy.node [1]) = none) ∧
    ∃ history s, (machine Toy.services).Run Toy.start history s ∧ s.running = true ∧
      s.persister.main.lookup (.channel Toy.node [1]) = none ∧
      s.persister.backup.lookup (.channel Toy.node [1]) = some (.channel (.stub 7)) :=
  ⟨Machine.exists_run (Toy.newNode [] ++ [.crash (.newChannel Toy.node [1] 7), .restart])
      (by decide +kernel),
    Machine.exists_run (Toy.newNode [] ++ [.write (.newChannel Toy.node [1] 7),
      .crash (.deleteChannel Toy.node [1]), .restart]) (by decide +kernel)⟩

end Vls.Backup
