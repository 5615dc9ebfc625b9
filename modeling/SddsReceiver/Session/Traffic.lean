import SddsReceiver.Session.Lifecycle

/-!
# Datagrams for a session

Datagrams wait in a socket until the receiving task of its stream reads them; those for a
parked attachment wait until it runs. The tasks of a live stream go on one operation at a
time, in any order, and the host decides how each read is answered and whether a datagram
arrives at all. Catching up is one such order: what waits is used up datagram by datagram.
-/
namespace SddsReceiver

/-- How a socket answers a read. -/
inductive SocketAnswer where
  /-- The datagram that has waited longest, if one waits. -/
  | oldest
  | nothing
  | failure
  deriving DecidableEq, Repr

/-- One operation of one task of a live stream. -/
inductive TaskOperation where
  | ingest (answer : SocketAnswer)
  | reconstruct
  deriving DecidableEq, Repr

/-- What a stream runs for. -/
inductive StreamOwner where
  | attachment
  | override
  deriving DecidableEq, Repr

namespace Socket

def reading (socket : Socket) : SocketAnswer → Reading
  | .oldest =>
      match socket.waiting with
      | [] => .nothing
      | datagram :: _ => .datagram datagram
  | .nothing => .nothing
  | .failure => .failure

def afterRead (socket : Socket) : SocketAnswer → Socket
  | .oldest => { socket with waiting := socket.waiting.drop 1 }
  | .nothing | .failure => socket

end Socket

/-- One operation of the stream with what it shares. -/
def LiveStream.operate (l : LiveStream) (pool : Pool) (counters : Counters) (s : Surroundings) :
    TaskOperation → LiveStream × Receiver
  | .ingest answer =>
      let r := (l.toReceiver pool counters).ingestStep (l.socket.reading answer)
      let socket := if l.ingest.reads l.batch then l.socket.afterRead answer else l.socket
      (.ofReceiver socket r, r)
  | .reconstruct =>
      let r := (l.toReceiver pool counters).reconstructStep s
      (.ofReceiver l.socket r, r)

def AttachmentRun.receive (run : AttachmentRun) (datagrams : List (List UInt8)) : AttachmentRun :=
  match run with
  | unbound => unbound
  | parked socket pipeline hasRun => parked (socket.receive datagrams) pipeline hasRun
  | live stream => live { stream with socket := stream.socket.receive datagrams }

namespace Session

def stream? (s : Session) : StreamOwner → Option LiveStream
  | .attachment => s.attachment.bind fun attachment => attachment.run.stream?
  | .override => s.overriding.map OverridingStream.stream

def putStream (s : Session) (owner : StreamOwner) (stream : LiveStream) : Session :=
  match owner with
  | .attachment =>
      { s with attachment := s.attachment.map fun attachment =>
          { attachment with run := .live stream } }
  | .override =>
      { s with overriding := s.overriding.map fun overriding =>
          { overriding with stream := stream } }

/-- One operation of a task, with the pushes that it hands on. -/
def operate (s : Session) (host : SessionHost) (owner : StreamOwner) (operation : TaskOperation) :
    Session × List Push :=
  match s.stream? owner with
  | none => (s, [])
  | some stream =>
      let (next, r) := stream.operate s.pool s.counters (s.surroundings host) operation
      ((s.withShared r).putStream owner next, r.pushes)

def operateAll (s : Session) (host : SessionHost) (owner : StreamOwner) :
    List TaskOperation → Session × List Push
  | [] => (s, [])
  | operation :: rest =>
      let (next, pushes) := s.operate host owner operation
      let (last, later) := next.operateAll host owner rest
      (last, pushes ++ later)

/-- Datagrams arrive at a socket. -/
def arrive (s : Session) (owner : StreamOwner) (datagrams : List (List UInt8)) : Session :=
  match owner with
  | .attachment =>
      { s with attachment := s.attachment.map fun attachment =>
          { attachment with run := attachment.run.receive datagrams } }
  | .override =>
      { s with overriding := s.overriding.map fun overriding =>
          { overriding with
            stream.socket := overriding.stream.socket.receive datagrams } }

/-- Whose socket the session's address names. -/
def addressee (s : Session) : StreamOwner :=
  if s.overriding.isSome then .override else .attachment

/-- What became of datagrams sent to the session's address. -/
inductive Delivery where
  /-- No socket is bound. -/
  | unbound
  /-- The host does not carry them. -/
  | lost
  | arrived
  deriving DecidableEq, Repr

/-- Send datagrams to the session's address. -/
def send (s : Session) (host : SessionHost) (datagrams : List (List UInt8)) :
    Session × Delivery :=
  if s.localAddress.isNone then (s, .unbound)
  else if host.network.delivers || datagrams.isEmpty then
    (s.arrive s.addressee datagrams, .arrived)
  else (s, .lost)

/-- Operations in which a stream that has nothing queued reads a datagram and uses it up. -/
def oneByOne : List TaskOperation :=
  [.ingest .oldest, .ingest .nothing, .ingest .nothing] ++ List.replicate 4 .reconstruct

/-- Let the stream that runs take its slots and use up what waits in its socket. -/
def catchUp (s : Session) (host : SessionHost) : Session × List Push :=
  let waiting := match s.stream? s.addressee with
    | none => 0
    | some stream => stream.socket.waiting.length
  s.operateAll host s.addressee (.ingest .nothing :: (List.replicate waiting oneByOne).flatten)

end Session

end SddsReceiver
