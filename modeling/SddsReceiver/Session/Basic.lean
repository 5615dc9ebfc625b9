import SddsReceiver.Network.Host
import SddsReceiver.Receiver.Basic

/-!
# Sessions

A session receives at most one stream at a time. A stream is attached to an endpoint and runs
while the session is started; or, where the configuration says so, a fixed endpoint runs in
place of any attachment, which is then only recorded.

Streams share one pool, the counters and the outside description, so a live stream holds none
of them; they are lent to its tasks for each operation. The session's state and the addresses
of its sockets are noted when they change, so that a reader need not look at the streams.
-/
namespace SddsReceiver

/-- Where a socket is bound. -/
structure SocketAddress where
  address : Network.Address
  port : UInt16
  deriving DecidableEq, Repr

/-- A bound socket. Datagrams wait in it until they are read or thrown away. -/
structure Socket where
  bound : SocketAddress
  /-- Datagrams that wait, oldest first. -/
  waiting : List (List UInt8)
  deriving DecidableEq, Repr

/-- A stream whose two tasks run. -/
structure LiveStream where
  socket : Socket
  batch : Nat
  ingest : Ingest
  reconstruction : Reconstruction
  deriving Repr

/-- How far an attachment has come. -/
inductive AttachmentRun where
  /-- Recorded only; no socket is bound. -/
  | unbound
  /-- Bound and not receiving. -/
  | parked (socket : Socket) (pipeline : Pipeline) (hasRun : Bool)
  | live (stream : LiveStream)
  deriving Repr

structure Attachment where
  id : String
  endpoint : Network.Endpoint
  /-- Where it was bound, if it was. -/
  bound : Option SocketAddress
  run : AttachmentRun
  deriving Repr

/-- The stream that runs in place of an attachment. -/
structure OverridingStream where
  bound : SocketAddress
  stream : LiveStream
  deriving Repr

inductive SessionState where
  /-- Not started and nothing attached. -/
  | idle
  /-- Started, and waiting for an attachment. -/
  | armed
  /-- Attached and never run. -/
  | attached
  | running
  /-- Attached, and stopped after a run. -/
  | stopped
  deriving DecidableEq, Repr

structure Session where
  config : Config
  started : Bool
  attachment : Option Attachment
  overriding : Option OverridingStream
  /-- The state to report. -/
  state : SessionState
  /-- Empty slots to report while nothing runs. -/
  headroom : Nat
  pool : Pool
  counters : Counters
  /-- The description given from outside. -/
  external : Option Sri
  deriving Repr

/-- What surrounds a session: the host's network, its clock and its year. -/
structure SessionHost where
  network : Network.Host
  clock : Timestamp
  year : Int

/-- What an operation leaves and hands on, and what it answers. -/
structure Outcome (α : Type) where
  session : Session
  pushes : List Push
  result : Except ReceiverError α

namespace Socket

/-- Throw away what waits. -/
def discardWaiting (socket : Socket) : Socket := { socket with waiting := [] }

def receive (socket : Socket) (datagrams : List (List UInt8)) : Socket :=
  { socket with waiting := socket.waiting ++ datagrams }

end Socket

namespace LiveStream

/-- The stream's tasks with what they share. -/
def toReceiver (l : LiveStream) (pool : Pool) (counters : Counters) : Receiver :=
  ⟨l.batch, pool, l.ingest, l.reconstruction, counters, []⟩

/-- The stream after its tasks have gone on. -/
def ofReceiver (socket : Socket) (r : Receiver) : LiveStream :=
  ⟨socket, r.batch, r.ingest, r.reconstruction⟩

end LiveStream

namespace AttachmentRun

def stream? : AttachmentRun → Option LiveStream
  | live stream => some stream
  | unbound | parked _ _ _ => none

def socket? : AttachmentRun → Option Socket
  | unbound => none
  | parked socket _ _ => some socket
  | live stream => some stream.socket

end AttachmentRun

namespace Session

/-- The name of the stream that runs in place of an attachment. -/
def overrideId : String := "attachment_override"

/-- A session before its first operation. -/
def initial (config : Config) : Session where
  config := config
  started := false
  attachment := none
  overriding := none
  state := .idle
  headroom := config.headroom
  pool := .initial
  counters := Counters.initial.setOrder config.order
  external := none

def ofConfig (config : Config) : Except ReceiverError Session :=
  match config.validate with
  | .error fault => .error fault
  | .ok config => .ok (initial config)

def surroundings (s : Session) (host : SessionHost) : Surroundings := ⟨s.external, host.clock⟩

/-- The session with the pool and the counters as a stream's tasks leave them. -/
def withShared (s : Session) (r : Receiver) : Session :=
  { s with pool := r.pool, counters := r.counters }

/-- The state that follows from what the session holds. -/
def currentState (s : Session) : SessionState :=
  match s.overriding, s.attachment with
  | some _, _ => .running
  | none, none => if s.started then .armed else .idle
  | none, some attachment =>
      match attachment.run with
      | .live _ => .running
      | .parked _ _ true => .stopped
      | .parked _ _ false | .unbound => .attached

/-- Note the state. -/
def syncState (s : Session) : Session := { s with state := s.currentState }

/-- Where the session receives: the overriding stream's address while one runs, the
attachment's otherwise. -/
def localAddress (s : Session) : Option SocketAddress :=
  match s.overriding with
  | some overriding => some overriding.bound
  | none => s.attachment.bind Attachment.bound

def attachId (s : Session) : Option String := s.attachment.map Attachment.id

/-- The figures to report, the depth of a port's queue being the host's. While nothing runs,
the pool counts as it would at rest. -/
def status (s : Session) (queueDepth : UInt16 → UInt64) : Status :=
  let depth := match s.counters.port with
    | some port => queueDepth port
    | none => 0
  if s.state = .running then
    s.counters.snapshot (UInt64.ofNat s.pool.empty.length) (UInt64.ofNat s.pool.full.length) depth
  else s.counters.snapshot (UInt64.ofNat s.headroom) 0 depth

end Session

end SddsReceiver
