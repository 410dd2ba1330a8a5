import Vls.Lib.Machine
import Vls.Lib.Map
import Vls.Lib.Word

/-! # The proxy's protocol adapter

The proxy passes the requests of the node to the signer and the replies back. The signer connects
as often as it likes. The writer of a connection sends the init message, the requests without a
reply, and then whatever the node asks. All writers share the table of requests and the receiving
end of the node's channel, each under a lock; a writer may be suspended with the lock in its hands.

A step is one poll of a writer, or something that happens around the writers. -/

namespace Vls.Proxy

def dummyRequestId : Nat := 2 ^ 64 - 1

structure ClientId where
  peerId : List U8
  dbid : U64
deriving DecidableEq

/-- A request of the node. Its reply goes to the channel made for it. -/
structure ChannelRequest where
  message : List U8
  replyTx : Nat
  clientId : Option ClientId
deriving DecidableEq

structure ChannelReply where
  reply : List U8
  isTemporaryFailure : Bool
  error : Option String

structure HsmRequestContext where
  peerId : List U8
  dbid : U64
  capabilities : U64
deriving DecidableEq

structure SignerRequest where
  requestId : Nat
  message : List U8
  context : Option HsmRequestContext
deriving DecidableEq

structure SignerResponse where
  requestId : Nat
  message : List U8
  error : String
  isTemporaryFailure : Bool

def makeSignerRequest (requestId : Nat) (req : ChannelRequest) : SignerRequest :=
  { requestId, message := req.message,
    context := req.clientId.map fun client => ⟨client.peerId, client.dbid, 0⟩ }

def initRequest (message : List U8) : SignerRequest := ⟨dummyRequestId, message, none⟩

inductive Phase where
  | starting
  /-- About to look for a request with an id from here on. -/
  | retransmitting (ind : Nat)
  /-- Suspended after one, with the lock of the table. -/
  | retransmitted (ind : Nat)
  /-- Waiting for the lock of the receiver. -/
  | waiting
  /-- Waiting for the node's next request, with the lock of the receiver. -/
  | reading
  /-- Waiting for the lock of the table, with a request the table does not have yet. -/
  | taken (req : ChannelRequest)
  /-- Suspended after a new request, with both locks. -/
  | recorded
  | finished
deriving DecidableEq

structure Writer where
  /-- The init message that was cached when the connection was made. -/
  init : Option (List U8)
  phase : Phase
deriving DecidableEq

structure State where
  /-- The node's channel. -/
  queue : List ChannelRequest
  /-- How many reply channels the node has made. -/
  replyChannels : Nat
  requests : Map Nat ChannelRequest
  requestId : Nat
  requestsLock : Option Nat
  receiverLock : Option Nat
  writers : Map Nat Writer
  /-- How many connections there have been. -/
  connections : Nat
  initMessage : Option (List U8)
  shutdown : Bool

def State.initial : State where
  queue := []
  replyChannels := 0
  requests := ∅
  requestId := 0
  requestsLock := none
  receiverLock := none
  writers := ∅
  connections := 0
  initMessage := none
  shutdown := false

inductive Event where
  /-- The node asks something. -/
  | send (message : List U8) (clientId : Option ClientId)
  /-- The signer loop caches the init message. -/
  | cacheInit (message : List U8)
  | connect
  | poll (connection : Nat)
  /-- A writer sees that the proxy shuts down. -/
  | finish (connection : Nat)
  /-- A stream is dropped, wherever its writer stands. -/
  | disconnect (connection : Nat)
  /-- Some connection's reader gets a response. -/
  | reply (response : SignerResponse)
  | shutDown

inductive Output where
  | nothing
  /-- A message sent again, or the init message. -/
  | sent (connection : Nat) (request : SignerRequest)
  /-- A message sent for the first time, and the channel its reply goes to. -/
  | recorded (connection : Nat) (replyTx : Nat) (request : SignerRequest)
  | delivered (requestId : Nat) (replyTx : Nat) (reply : ChannelReply)

namespace State

def setPhase (s : State) (connection : Nat) (writer : Writer) (phase : Phase) : State :=
  { s with writers := s.writers.insert connection { writer with phase } }

def nextRequest (s : State) (ind : Nat) : Option (Nat × ChannelRequest) :=
  match (s.requests.keys.filter (ind ≤ ·)).min? with
  | some id => (s.requests.lookup id).map fun req => (id, req)
  | none => none

def send (s : State) (message : List U8) (clientId : Option ClientId) : State :=
  { s with queue := s.queue ++ [⟨message, s.replyChannels, clientId⟩],
           replyChannels := s.replyChannels + 1 }

def connect (s : State) : State :=
  { s with writers := s.writers.insert s.connections ⟨s.initMessage, .starting⟩,
           connections := s.connections + 1 }

def pollWriter (s : State) (connection : Nat) (writer : Writer) : Output × State :=
  match writer.phase with
  | .starting =>
    match writer.init with
    | some message =>
      (.sent connection (initRequest message), s.setPhase connection writer (.retransmitting 0))
    | none => (.nothing, s.setPhase connection writer (.retransmitting 0))
  | .retransmitting ind =>
    if s.requestsLock ≠ none then (.nothing, s)
    else
      match s.nextRequest ind with
      | some (id, req) =>
        (.sent connection (makeSignerRequest id req),
          { s.setPhase connection writer (.retransmitted ((id + 1) % 2 ^ 64)) with
            requestsLock := some connection })
      | none => (.nothing, s.setPhase connection writer .waiting)
  | .retransmitted ind =>
    (.nothing, { s.setPhase connection writer (.retransmitting ind) with requestsLock := none })
  | .waiting =>
    if s.receiverLock ≠ none then (.nothing, s)
    else (.nothing, { s.setPhase connection writer .reading with receiverLock := some connection })
  | .reading =>
    match s.queue with
    | [] => (.nothing, s)
    | req :: rest => (.nothing, { s.setPhase connection writer (.taken req) with queue := rest })
  | .taken req =>
    if s.requestsLock ≠ none then (.nothing, s)
    else
      (.recorded connection req.replyTx (makeSignerRequest s.requestId req),
        { s.setPhase connection writer .recorded with
          requests := s.requests.insert s.requestId req,
          requestId := (s.requestId + 1) % 2 ^ 64,
          requestsLock := some connection })
  | .recorded =>
    (.nothing, { s.setPhase connection writer .reading with requestsLock := none })
  | .finished => (.nothing, s)

def poll (s : State) (connection : Nat) : Output × State :=
  match s.writers.lookup connection with
  | some writer => s.pollWriter connection writer
  | none => (.nothing, s)

def released (lock : Option Nat) (connection : Nat) : Option Nat :=
  if lock = some connection then none else lock

def finish (s : State) (connection : Nat) : State :=
  match s.writers.lookup connection with
  | some writer =>
    if s.shutdown ∧ writer.phase = .reading then
      { s.setPhase connection writer .finished with
        receiverLock := released s.receiverLock connection }
    else s
  | none => s

/-- A dropped stream gives back its locks, and loses the request it has in its hands. -/
def disconnect (s : State) (connection : Nat) : State :=
  { s with writers := s.writers.erase connection,
           requestsLock := released s.requestsLock connection,
           receiverLock := released s.receiverLock connection }

def reply (s : State) (response : SignerResponse) : Output × State :=
  let permanentError :=
    if response.error ≠ "" ∧ ¬ response.isTemporaryFailure then some response.error else none
  if response.requestId = dummyRequestId then
    (.nothing, { s with shutdown := s.shutdown || permanentError.isSome })
  else if s.requestsLock ≠ none then (.nothing, s)
  else
    match s.requests.lookup response.requestId with
    | some req =>
      (.delivered response.requestId req.replyTx
          ⟨response.message, response.isTemporaryFailure, permanentError⟩,
        { s with requests := s.requests.erase response.requestId })
    | none => (.nothing, s)

def step (s : State) : Event → Output × State
  | .send message clientId => (.nothing, s.send message clientId)
  | .cacheInit message => (.nothing, { s with initMessage := some message })
  | .connect => (.nothing, s.connect)
  | .poll connection => s.poll connection
  | .finish connection => (.nothing, s.finish connection)
  | .disconnect connection => (.nothing, s.disconnect connection)
  | .reply response => s.reply response
  | .shutDown => (.nothing, { s with shutdown := true })

end State

def machine : Machine State Event Output := ⟨fun s event => some (s.step event)⟩

abbrev History := List (Machine.Step State Event Output)

namespace History

def recorded (history : History) : List (Nat × Nat) :=
  history.filterMap fun step => match step.output with
    | .recorded _ replyTx request => some (request.requestId, replyTx)
    | _ => none

def delivered (history : History) : List (Nat × Nat) :=
  history.filterMap fun step => match step.output with
    | .delivered requestId replyTx _ => some (requestId, replyTx)
    | _ => none

def sentOn (connection : Nat) (history : History) : List SignerRequest :=
  history.filterMap fun step => match step.output with
    | .sent connection' request => if connection' = connection then some request else none
    | .recorded connection' _ request => if connection' = connection then some request else none
    | _ => none

end History

end Vls.Proxy
