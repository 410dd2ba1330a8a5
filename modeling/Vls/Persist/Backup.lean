import Vls.Lib.Machine
import Vls.Lib.Map
import Vls.Tx

/-! # A persister with a backup

The signer may write everything twice, first to a main store and then to a backup. If it stops
between the two writes the backup is behind, and so a restored node writes what it has read to both
stores again. The stores are maps from keys to what their bytes encode. -/

namespace Vls.Backup

abbrev NodeId := List U8

abbrev ChannelId := List U8

structure NodeEntry where
  keyDerivationStyle : U8
  network : String
deriving DecidableEq

/-- What is stored of a channel: of one without a setup only the height at which it was made, of
    one that is ready its setups, ids and enforcement state. -/
inductive ChannelEntry (R : Type) where
  | stub (blockheight : Nat)
  | ready (channel : R)
deriving DecidableEq

inductive Key where
  | nodeEntry (id : NodeId)
  | nodeState (id : NodeId)
  | allowlist (id : NodeId)
  | tracker (id : NodeId)
  | channel (id : NodeId) (channelId : ChannelId)
deriving DecidableEq

def Key.node : Key → NodeId
  | nodeEntry id | nodeState id | allowlist id | tracker id | channel id _ => id

inductive Datum (S T R : Type) where
  | nodeEntry (entry : NodeEntry)
  | nodeState (state : S)
  | allowlist (entries : List String)
  | tracker (tracker : T)
  | channel (entry : ChannelEntry R)
deriving DecidableEq

inductive Write (S T R : Type) where
  | newNode (id : NodeId) (entry : NodeEntry) (state : S)
  | updateNode (id : NodeId) (state : S)
  | deleteNode (id : NodeId)
  | newChannel (id : NodeId) (channelId : ChannelId) (blockheight : Nat)
  | deleteChannel (id : NodeId) (channelId : ChannelId)
  | newTracker (id : NodeId) (tracker : T)
  | updateTracker (id : NodeId) (tracker : T)
  | updateChannel (id : NodeId) (channelId : ChannelId) (channel : R)
  | updateNodeAllowlist (id : NodeId) (entries : List String)
  | clearDatabase

variable {S T R : Type}

abbrev Store (S T R : Type) := Map Key (Datum S T R)

def Write.puts : Write S T R → List (Key × Option (Datum S T R))
  | newNode id entry state =>
    [(.nodeState id, some (.nodeState state)), (.nodeEntry id, some (.nodeEntry entry))]
  | updateNode id state => [(.nodeState id, some (.nodeState state))]
  | deleteNode id => [(.nodeEntry id, none), (.nodeState id, none)]
  | newChannel id channelId blockheight =>
    [(.channel id channelId, some (.channel (.stub blockheight)))]
  | deleteChannel id channelId => [(.channel id channelId, none)]
  | newTracker id tracker | updateTracker id tracker => [(.tracker id, some (.tracker tracker))]
  | updateChannel id channelId channel =>
    [(.channel id channelId, some (.channel (.ready channel)))]
  | updateNodeAllowlist id entries => [(.allowlist id, some (.allowlist entries))]
  | clearDatabase => []

def Write.clears : Write S T R → Bool
  | clearDatabase => true
  | _ => false

namespace Store

def put (store : Store S T R) (entry : Key × Option (Datum S T R)) : Store S T R :=
  match entry.2 with
  | some datum => store.insert entry.1 datum
  | none => store.erase entry.1

def apply (store : Store S T R) (write : Write S T R) : Store S T R :=
  write.puts.foldl put (if write.clears then ∅ else store)

def getNodeEntry (store : Store S T R) (id : NodeId) : Option NodeEntry :=
  match store.lookup (.nodeEntry id) with
  | some (.nodeEntry entry) => some entry
  | _ => none

def getNodeState (store : Store S T R) (id : NodeId) : Option S :=
  match store.lookup (.nodeState id) with
  | some (.nodeState state) => some state
  | _ => none

def getNodeAllowlist (store : Store S T R) (id : NodeId) : Option (List String) :=
  match store.lookup (.allowlist id) with
  | some (.allowlist entries) => some entries
  | _ => none

def getTracker (store : Store S T R) (id : NodeId) : Option T :=
  match store.lookup (.tracker id) with
  | some (.tracker tracker) => some tracker
  | _ => none

def getNodeChannels (store : Store S T R) (id : NodeId) : List (ChannelId × ChannelEntry R) :=
  store.entries.filterMap fun entry =>
    match entry.1, entry.2 with
    | .channel id' channelId, .channel channel =>
      if id' = id then some (channelId, channel) else none
    | _, _ => none

def nodeIds (store : Store S T R) : List NodeId :=
  store.keys.filterMap fun key => match key with
    | .nodeEntry id => some id
    | _ => none

def getNodes (store : Store S T R) : Option (List (NodeId × NodeEntry × S)) :=
  store.nodeIds.mapM fun id => do
    let entry ← store.getNodeEntry id
    let state ← store.getNodeState id
    return (id, entry, state)

end Store

/-- What restoring makes of what it reads, which is what it then writes: of a state, an allowlist
    and a tracker. A ready channel is written as it was read. -/
structure Services (S T R : Type) where
  recoveryRequired : Store S T R → Bool
  restoreState : S → S
  restoreAllowlist : String → List String → Option (List String)
  restoreTracker : T → T
  listeners : T → List OutPoint
  fundingOutpoint : R → OutPoint

structure Persister (S T R : Type) where
  main : Store S T R
  backup : Store S T R
  initialRestoreComplete : Bool

section persister

variable (services : Services S T R)

namespace Persister

def mainIsReady (p : Persister S T R) : Bool :=
  !services.recoveryRequired p.main || p.initialRestoreComplete

def writeMain (p : Persister S T R) (write : Write S T R) : Persister S T R :=
  if p.mainIsReady services || write.clears then { p with main := p.main.apply write } else p

def write (p : Persister S T R) (write : Write S T R) : Persister S T R :=
  { p.writeMain services write with backup := p.backup.apply write }

def source (p : Persister S T R) : Store S T R :=
  if p.mainIsReady services then p.main else p.backup

end Persister

/-- A ready channel takes the listener under its funding outpoint; without it the restore panics. -/
def takeListener (listeners : List OutPoint) (channel : ChannelId × ChannelEntry R) :
    Option (List OutPoint) :=
  match channel.2 with
  | .stub _ => some listeners
  | .ready channel =>
    if services.fundingOutpoint channel ∈ listeners then
      some (listeners.erase (services.fundingOutpoint channel))
    else none

/-- A restored node writes everything again, but for its stubs. -/
def readyWrites (id : NodeId) (channels : List (ChannelId × ChannelEntry R)) :
    List (Write S T R) :=
  channels.filterMap fun channel => match channel.2 with
    | .stub _ => none
    | .ready ready => some (.updateChannel id channel.1 ready)

/-- What the restore of a node reads, and then writes to bring the stores in step. Nothing, if it
    panics. -/
def syncWrites (source : Store S T R) (node : NodeId × NodeEntry × S) :
    Option (List (Write S T R)) := do
  let (id, entry, state) := node
  let entries ← source.getNodeAllowlist id
  let allowlist ← services.restoreAllowlist entry.network entries
  let tracker ← source.getTracker id
  let channels := source.getNodeChannels id
  let left ← channels.foldlM (takeListener services) (services.listeners tracker)
  if left ≠ [] then none
  return [.newNode id entry (services.restoreState state), .updateNodeAllowlist id allowlist,
    .updateTracker id (services.restoreTracker tracker)] ++ readyWrites id channels

namespace Persister

def restoreNode (p : Persister S T R) (node : NodeId × NodeEntry × S) :
    Option (Persister S T R) := do
  let writes ← syncWrites services (p.source services) node
  return writes.foldl (write services) { p with initialRestoreComplete := true }

def restart (p : Persister S T R) : Option (Persister S T R) := do
  let p := { p with initialRestoreComplete := false }
  let nodes ← (p.source services).getNodes
  nodes.foldlM (restoreNode services) p

def restoreUntil (count : Nat) (p : Persister S T R) :
    List (NodeId × NodeEntry × S) → Option (Persister S T R)
  | [] => some p
  | node :: rest => do
    let writes ← syncWrites services (p.source services) node
    let begun :=
      (writes.take count).foldl (write services) { p with initialRestoreComplete := true }
    match writes.drop count with
    | next :: _ => return begun.writeMain services next
    | [] => restoreUntil (count - writes.length) begun rest

def restartUntil (count : Nat) (p : Persister S T R) : Option (Persister S T R) := do
  let p := { p with initialRestoreComplete := false }
  let nodes ← (p.source services).getNodes
  restoreUntil services count p nodes

end Persister

/-- The signer runs, or has stopped and waits to be started again. -/
structure Signer (S T R : Type) where
  persister : Persister S T R
  running : Bool

inductive Event (S T R : Type) where
  | write (write : Write S T R)
  /-- The signer stops after the write to the main store. -/
  | crash (write : Write S T R)
  | restart
  /-- The signer stops again while it brings the stores in step. -/
  | crashedRestart (count : Nat)

def Signer.step (s : Signer S T R) : Event S T R → Option (Unit × Signer S T R)
  | .write write => if s.running then some ((), ⟨s.persister.write services write, true⟩) else none
  | .crash write =>
    if s.running then some ((), ⟨s.persister.writeMain services write, false⟩) else none
  | .restart => (s.persister.restart services).map fun p => ((), ⟨p, true⟩)
  | .crashedRestart count => (s.persister.restartUntil services count).map fun p => ((), ⟨p, false⟩)

def machine : Machine (Signer S T R) (Event S T R) Unit := ⟨Signer.step services⟩

end persister

end Vls.Backup
