import SddsReceiver.Session.Basic

/-!
# Control of a session

Attaching, detaching, starting, stopping and configuring. Stopping ends the stream and keeps
the attachment with its socket, and starting again goes on from there without what has
arrived in between. Every operation is a function of the session and of what the host
answers.
-/
namespace SddsReceiver

namespace Session

/-- An operation that fails and changes nothing. -/
def refuse {α : Type} (s : Session) (error : ReceiverError) : Outcome α := ⟨s, [], .error error⟩

/-- Bind an endpoint and set up a fresh pipeline. The stream's counters start over. -/
def openStream (s : Session) (host : SessionHost) (id : String) (endpoint : Network.Endpoint)
    (config : Config) : Except ReceiverError (Session × Socket × Pipeline) :=
  match host.network.bind endpoint config.interface with
  | .error fault => .error fault
  | .ok port =>
      let counters := (s.counters.resetStream.setSocket (some port)
        (host.network.receiveBuffer config.socketBuffer)).setOrder config.order
      .ok ({ s with counters := counters }, ⟨⟨endpoint.address, port⟩, []⟩,
        .ofConfig id config host.year)

/-- Fill the pool and start both tasks on a socket. -/
def launch (s : Session) (socket : Socket) (pipeline : Pipeline) (config : Config) :
    Session × LiveStream :=
  let (resumed, counters) := pipeline.resume s.external s.counters config
  let r := Receiver.launch config.poolSlots config.readBatch resumed counters
  (s.withShared r, .ofReceiver socket r)

/-- Cancel a stream and let its tasks run to their ends. -/
@[irreducible] def halt (s : Session) (host : SessionHost) (stream : LiveStream) : Receiver :=
  (stream.toReceiver s.pool s.counters).shutdown (s.surroundings host)

/-- The session after a stream has ended: what it shared is kept, but the pool is given up. -/
def afterHalt (s : Session) (ended : Receiver) : Session :=
  { s.withShared ended with pool := .shutdown }

/-- Run an attachment on its socket. -/
def runAttachment (s : Session) (attachment : Attachment) (socket : Socket)
    (pipeline : Pipeline) : Session :=
  let (launched, stream) := s.launch socket pipeline s.config
  { launched with attachment := some { attachment with run := .live stream } }

/-- Run the attachment, if there is one; it is bound now if it was only recorded. What waits
for one that has run before is thrown away. -/
def spawn (s : Session) (host : SessionHost) : Except ReceiverError Session :=
  match s.attachment with
  | none => .ok s
  | some attachment =>
      match attachment.run with
      | .live _ => .ok s
      | .parked socket pipeline hasRun =>
          .ok (s.runAttachment attachment (if hasRun then socket.discardWaiting else socket)
            pipeline)
      | .unbound =>
          match s.openStream host attachment.id attachment.endpoint s.config with
          | .error fault => .error fault
          | .ok (opened, socket, pipeline) =>
              .ok (opened.runAttachment { attachment with bound := some socket.bound } socket
                pipeline)

/-- Attach to an endpoint under its own name or, if it has none, under a fresh one. -/
def attach (s : Session) (host : SessionHost) (endpoint : Network.Endpoint) (freshId : String) :
    Outcome String :=
  match s.attachment with
  | some existing => s.refuse (.alreadyAttached existing.id)
  | none =>
      let id := if endpoint.streamId.isEmpty then freshId else endpoint.streamId
      if s.config.override.enabled then
        let recorded := { s with attachment := some ⟨id, endpoint, none, .unbound⟩ }
        ⟨recorded.syncState, [], .ok id⟩
      else
        match s.openStream host id endpoint s.config with
        | .error fault => s.refuse fault
        | .ok (opened, socket, pipeline) =>
            let parked := { opened with
              attachment := some ⟨id, endpoint, some socket.bound, .parked socket pipeline false⟩ }
            if s.started then
              match parked.spawn host with
              | .error fault => ⟨parked, [], .error fault⟩
              | .ok running => ⟨running.syncState, [], .ok id⟩
            else ⟨parked.syncState, [], .ok id⟩

/-- Forget the socket, unless the overriding stream holds one. -/
def releaseSocket (s : Session) : Session :=
  if s.overriding.isNone then { s with counters := s.counters.setSocket none 0 } else s

/-- End what an attachment runs. A stream ends even if it never ran, unless it was never
bound. -/
def endAttachment (s : Session) (host : SessionHost) : AttachmentRun → Session × List Push
  | .live stream =>
      let ended := s.halt host stream
      (s.afterHalt ended, ended.pushes)
  | .parked _ pipeline _ => (s, (pipeline.finish host.clock).2)
  | .unbound => (s, [])

/-- Give an attachment up. The description given from outside goes with it. -/
def detach (s : Session) (host : SessionHost) (id : String) : Outcome Unit :=
  match s.attachment with
  | none => s.refuse .notAttached
  | some attachment =>
      if attachment.id ≠ id then s.refuse (.unknownAttachment id (some attachment.id))
      else
        let ended := s.endAttachment host attachment.run
        let cleared := { ended.1 with attachment := none, external := none }
        ⟨cleared.releaseSocket.syncState, ended.2, .ok ()⟩

/-- Bind and run the fixed endpoint. -/
def startOverride (s : Session) (host : SessionHost) : Except ReceiverError Session :=
  let config := s.config.forOverride
  match s.openStream host overrideId s.config.override.endpoint config with
  | .error fault => .error fault
  | .ok (opened, socket, pipeline) =>
      let (launched, stream) := opened.launch socket pipeline config
      .ok { launched with overriding := some ⟨socket.bound, stream⟩ }

/-- Begin to receive, or wait for an attachment to receive from. -/
def start (s : Session) (host : SessionHost) : Outcome Unit :=
  if s.started then ⟨s, [], .ok ()⟩
  else
    match if s.config.override.enabled then s.startOverride host else s.spawn host with
    | .error fault => s.refuse fault
    | .ok running =>
        let started := { running with started := true }
        ⟨started.syncState, [], .ok ()⟩

/-- Close the stream that runs in place of an attachment. -/
def closeOverride (s : Session) (host : SessionHost) : Session × List Push :=
  match s.overriding with
  | none => (s, [])
  | some overriding =>
      let ended := s.halt host overriding.stream
      ({ s.afterHalt ended with
          overriding := none
          counters := ended.counters.setSocket none 0 },
        ended.pushes)

/-- End the attachment's stream and keep its socket. -/
def parkAttachment (s : Session) (host : SessionHost) : Session × List Push :=
  match s.attachment with
  | none => (s, [])
  | some attachment =>
      match attachment.run with
      | .live stream =>
          let ended := s.halt host stream
          let run := .parked stream.socket ended.reconstruction.pipeline true
          ({ s.afterHalt ended with attachment := some { attachment with run := run } },
            ended.pushes)
      | .unbound | .parked _ _ _ => (s, [])

/-- Stop receiving. The attachment stays, with its socket. -/
def stop (s : Session) (host : SessionHost) : Outcome Unit :=
  if s.started then
    let closed := { s with started := false }.closeOverride host
    let parked := closed.1.parkAttachment host
    ⟨parked.1.syncState, closed.2 ++ parked.2, .ok ()⟩
  else ⟨s, [], .ok ()⟩

/-- Give a description from outside, for the frames from now on. -/
def describe (s : Session) (sri : Sri) : Session := { s with external := some sri }

/-- What keeps a session from taking a configuration. -/
def configFault? (s : Session) (config : Config) : Option ReceiverError :=
  match config.fault? with
  | some fault => some fault.toError
  | none =>
      match s.state, s.config.firstDifference config with
      | .running, some setting => some (.config setting.name "cannot change while running")
      | _, _ =>
          if s.started && s.config.override != config.override then
            some (.config Config.Setting.override.name "cannot change while started")
          else none

/-- Replace the configuration. A stream that runs goes on unchanged. -/
def configure (s : Session) (config : Config) : Outcome Unit :=
  match s.configFault? config with
  | some fault => s.refuse fault
  | none =>
      ⟨{ s with
          config := config
          headroom := config.headroom
          counters := if s.attachment.isNone then s.counters.setOrder config.order
            else s.counters },
        [], .ok ()⟩

end Session

end SddsReceiver
