import SddsReceiver.Session.Traffic

/-!
# What happens to a session

A session is called, and between any two calls its streams' tasks go on and datagrams arrive
at its sockets. The host of each event is free, so that every bind may succeed or fail.

An event is described once by what it makes of a session, in a case for each way in which it
can end. Later proofs go through these cases and open no operation again. A log keeps the
events latest first, and the sessions that a log has led through are its past.
-/
namespace SddsReceiver

inductive SessionCall where
  | attach (endpoint : Network.Endpoint) (freshId : String)
  | detach (id : String)
  | start
  | stop
  | configure (config : Config)
  | describe (sri : Sri)

inductive SessionEvent where
  | call (call : SessionCall)
  | operate (owner : StreamOwner) (operation : TaskOperation)
  | arrive (owner : StreamOwner) (datagrams : List (List UInt8))

theorem AttachmentRun.stream?_eq_some {run : AttachmentRun} {stream : LiveStream}
    (h : run.stream? = some stream) : run = .live stream := by
  cases run with
  | live l => exact congrArg live (Option.some.inj h)
  | unbound => cases h
  | parked socket pipeline hasRun => cases h

namespace Session

def call (s : Session) (host : SessionHost) : SessionCall → Session × List Push
  | .attach endpoint freshId =>
      let outcome := s.attach host endpoint freshId
      (outcome.session, outcome.pushes)
  | .detach id =>
      let outcome := s.detach host id
      (outcome.session, outcome.pushes)
  | .start =>
      let outcome := s.start host
      (outcome.session, outcome.pushes)
  | .stop =>
      let outcome := s.stop host
      (outcome.session, outcome.pushes)
  | .configure config =>
      let outcome := s.configure config
      (outcome.session, outcome.pushes)
  | .describe sri => (s.describe sri, [])

/-- What an event leaves of a session, and the pushes that it hands on. -/
def event (s : Session) (host : SessionHost) : SessionEvent → Session × List Push
  | .call c => s.call host c
  | .operate owner operation => s.operate host owner operation
  | .arrive owner datagrams => (s.arrive owner datagrams, [])

/-- The session after the events of a log, which has the latest event first. -/
def after (first : Session) : List (SessionHost × SessionEvent) → Session
  | [] => first
  | (host, e) :: earlier => ((first.after earlier).event host e).1

/-- The sessions that a log has led through, latest first. -/
def past (first : Session) : List (SessionHost × SessionEvent) → List Session
  | [] => [first]
  | x :: earlier => first.after (x :: earlier) :: first.past earlier

/-- Something was so at some time since a condition last began to hold, and the condition
holds still. -/
def everSince (condition found : Session → Bool) (past : List Session) : Bool :=
  (past.takeWhile condition).any found

theorem everSince_cons (condition found : Session → Bool) (s : Session) (past : List Session) :
    everSince condition found (s :: past) =
      (condition s && (found s || everSince condition found past)) := by
  cases h : condition s <;> simp [everSince, h]

section Open
variable {s opened : Session} {host : SessionHost} {id : String} {endpoint : Network.Endpoint}
  {config : Config} {socket : Socket} {pipeline : Pipeline}

theorem openStream_eq_ok
    (h : s.openStream host id endpoint config = .ok (opened, socket, pipeline)) :
    ∃ port, host.network.bind endpoint config.interface = .ok port ∧
      opened = { s with
        counters := (s.counters.resetStream.setSocket (some port)
          (host.network.receiveBuffer config.socketBuffer)).setOrder config.order } ∧
      socket = ⟨⟨endpoint.address, port⟩, []⟩ ∧ pipeline = .ofConfig id config host.year := by
  unfold openStream at h
  cases hbind : host.network.bind endpoint config.interface with
  | error fault => simp [hbind] at h
  | ok port =>
      simp only [hbind, Except.ok.injEq, Prod.mk.injEq] at h
      obtain ⟨rfl, rfl, rfl⟩ := h
      exact ⟨port, rfl, rfl, rfl, rfl⟩

end Open

/-- Beside the overriding stream no other is recorded. -/
def OneStream (s : Session) : Prop := s.overriding.isSome → s.stream? .attachment = none

theorem stream?_of_held {s : Session} {attachment : Attachment}
    (held : s.attachment = some attachment) :
    s.stream? .attachment = attachment.run.stream? := by
  rw [stream?, held]
  rfl

theorem stream?_of_live {s : Session} {attachment : Attachment} {stream : LiveStream}
    (held : s.attachment = some attachment) (live : attachment.run = .live stream) :
    s.stream? .attachment = some stream := by
  rw [stream?_of_held held, live]
  rfl

theorem stream?_of_overriding {s : Session} {overriding : OverridingStream}
    (running : s.overriding = some overriding) : s.stream? .override = some overriding.stream := by
  rw [stream?, running]
  rfl

theorem stream?_of_alone {s : Session} (alone : s.overriding = none) :
    s.stream? .override = none := by
  rw [stream?, alone]
  rfl

theorem OneStream.override_eq_none {s : Session} {attachment : Attachment} {stream : LiveStream}
    (h : s.OneStream) (held : s.attachment = some attachment)
    (live : attachment.run = .live stream) :
    s.overriding = none := by
  have hsome := stream?_of_live held live
  cases hrunning : s.overriding with
  | none => rfl
  | some overriding =>
      rw [h (Option.isSome_of_eq_some hrunning)] at hsome
      cases hsome

/-- Of an attachment that is given up only the counters tell whether its socket was. -/
theorem releaseSocket_giveUp (s : Session) :
    releaseSocket { s with attachment := none, external := none } =
      { s with
        attachment := none
        external := none
        counters := s.releaseSocket.counters } := by
  unfold releaseSocket
  dsimp only
  split <;> rfl

/-- What an event makes of a session with at most one stream, and the pushes that it hands
on. -/
inductive Changes (host : SessionHost) (s : Session) : Session → List Push → Prop
  /-- A call is refused, or finds nothing to do. -/
  | keep : Changes host s s []
  /-- An attachment is recorded beside the fixed endpoint. -/
  | record (id : String) (endpoint : Network.Endpoint) (free : s.attachment = none)
      (fixed : s.config.override.enabled = true) :
      Changes host s (syncState { s with attachment := some ⟨id, endpoint, none, .unbound⟩ }) []
  /-- An attachment is bound while the session is not started. -/
  | bind {opened : Session} {socket : Socket} {pipeline : Pipeline} (id : String)
      (endpoint : Network.Endpoint) (free : s.attachment = none)
      (unfixed : s.config.override.enabled = false) (stopped : s.started = false)
      (opens : s.openStream host id endpoint s.config = .ok (opened, socket, pipeline)) :
      Changes host s
        (syncState { opened with
          attachment := some ⟨id, endpoint, some socket.bound, .parked socket pipeline false⟩ }) []
  /-- An attachment is bound and runs at once. -/
  | bindAndRun {opened : Session} {socket : Socket} {pipeline : Pipeline} (id : String)
      (endpoint : Network.Endpoint) (free : s.attachment = none)
      (unfixed : s.config.override.enabled = false) (started : s.started = true)
      (opens : s.openStream host id endpoint s.config = .ok (opened, socket, pipeline)) :
      Changes host s
        (syncState (opened.runAttachment
          ⟨id, endpoint, some socket.bound, .parked socket pipeline false⟩ socket pipeline)) []
  /-- An attachment that runs is given up, and its stream ends. -/
  | giveUpLive {attachment : Attachment} {stream : LiveStream}
      (held : s.attachment = some attachment) (live : attachment.run = .live stream)
      (alone : s.overriding = none) :
      Changes host s
        (syncState { s.afterHalt (s.halt host stream) with
          attachment := none
          external := none
          counters := (s.halt host stream).counters.setSocket none 0 })
        (s.halt host stream).pushes
  /-- An attachment that does not run is given up; if it is parked, its pipeline ends once
  more. -/
  | giveUpIdle {attachment : Attachment} (held : s.attachment = some attachment)
      (idle : attachment.run.stream? = none) :
      Changes host s
        (syncState { s with
          attachment := none
          external := none
          counters := s.releaseSocket.counters })
        (s.endAttachment host attachment.run).2
  /-- The session is started with nothing to run. -/
  | arm (stopped : s.started = false) (unfixed : s.config.override.enabled = false)
      (idle : ∀ attachment, s.attachment = some attachment → ∃ l, attachment.run = .live l) :
      Changes host s (syncState { s with started := true }) []
  /-- The fixed endpoint is bound and runs. -/
  | override {opened : Session} {socket : Socket} {pipeline : Pipeline}
      (stopped : s.started = false) (fixed : s.config.override.enabled = true)
      (opens : s.openStream host overrideId s.config.override.endpoint s.config.forOverride =
        .ok (opened, socket, pipeline)) :
      Changes host s
        (syncState { (opened.launch socket pipeline s.config.forOverride).1 with
          overriding :=
            some ⟨socket.bound, (opened.launch socket pipeline s.config.forOverride).2⟩
          started := true }) []
  /-- A parked attachment runs again, or for the first time. -/
  | run {attachment : Attachment} {socket : Socket} {pipeline : Pipeline} {hasRun : Bool}
      (stopped : s.started = false) (unfixed : s.config.override.enabled = false)
      (held : s.attachment = some attachment)
      (parked : attachment.run = .parked socket pipeline hasRun) :
      Changes host s
        (syncState { s.runAttachment attachment
            (if hasRun then socket.discardWaiting else socket) pipeline with
          started := true }) []
  /-- A recorded attachment is bound and runs. -/
  | bindRecorded {attachment : Attachment} {opened : Session} {socket : Socket}
      {pipeline : Pipeline} (stopped : s.started = false)
      (unfixed : s.config.override.enabled = false) (held : s.attachment = some attachment)
      (unbound : attachment.run = .unbound)
      (opens : s.openStream host attachment.id attachment.endpoint s.config =
        .ok (opened, socket, pipeline)) :
      Changes host s
        (syncState { opened.runAttachment { attachment with bound := some socket.bound } socket
            pipeline with
          started := true }) []
  /-- The session is stopped, and the overriding stream ends. -/
  | close {overriding : OverridingStream} (started : s.started = true)
      (running : s.overriding = some overriding) :
      Changes host s
        (syncState { s.afterHalt (s.halt host overriding.stream) with
          started := false
          overriding := none
          counters := (s.halt host overriding.stream).counters.setSocket none 0 })
        (s.halt host overriding.stream).pushes
  /-- The session is stopped, and the attachment's stream ends. -/
  | park {attachment : Attachment} {stream : LiveStream} (started : s.started = true)
      (held : s.attachment = some attachment) (live : attachment.run = .live stream)
      (alone : s.overriding = none) :
      Changes host s
        (syncState { s.afterHalt (s.halt host stream) with
          started := false
          attachment := some { attachment with
            run := .parked stream.socket (s.halt host stream).reconstruction.pipeline true } })
        (s.halt host stream).pushes
  /-- The session is stopped while nothing runs. -/
  | disarm (started : s.started = true) (alone : s.overriding = none)
      (idle : s.stream? .attachment = none) :
      Changes host s (syncState { s with started := false }) []
  | configure (config : Config) (accepted : s.configFault? config = none) :
      Changes host s
        { s with
          config := config
          headroom := config.headroom
          counters := if s.attachment.isNone then s.counters.setOrder config.order
            else s.counters } []
  | describe (sri : Sri) : Changes host s (s.describe sri) []
  | operate {owner : StreamOwner} {stream : LiveStream} (operation : TaskOperation)
      (held : s.stream? owner = some stream) :
      Changes host s
        (putStream
          (s.withShared (stream.operate s.pool s.counters (s.surroundings host) operation).2)
          owner (stream.operate s.pool s.counters (s.surroundings host) operation).1)
        (stream.operate s.pool s.counters (s.surroundings host) operation).2.pushes
  | arrive (owner : StreamOwner) (datagrams : List (List UInt8)) :
      Changes host s (s.arrive owner datagrams) []

section Calls
variable (s : Session) (host : SessionHost)

theorem attach_changes (endpoint : Network.Endpoint) (freshId : String) :
    Changes host s (s.attach host endpoint freshId).session
      (s.attach host endpoint freshId).pushes := by
  cases hfree : s.attachment with
  | some existing =>
      simp only [attach, hfree]
      exact .keep
  | none =>
      cases hfixed : s.config.override.enabled with
      | true =>
          simp only [attach, hfree, hfixed, if_true]
          exact .record _ endpoint hfree hfixed
      | false =>
          simp only [attach, hfree, hfixed, Bool.false_eq_true, if_false]
          split
          · exact .keep
          · rename_i opened socket pipeline hopens
            cases hstarted : s.started with
            | true =>
                have hruns := Changes.bindAndRun _ endpoint hfree hfixed hstarted hopens
                simp only [if_true, spawn]
                exact hruns
            | false =>
                simp only [Bool.false_eq_true, if_false]
                exact .bind _ endpoint hfree hfixed hstarted hopens

theorem detach_eq {attachment : Attachment} (held : s.attachment = some attachment) :
    s.detach host attachment.id =
      ⟨syncState (releaseSocket { (s.endAttachment host attachment.run).1 with
          attachment := none
          external := none }),
        (s.endAttachment host attachment.run).2, .ok ()⟩ := by
  simp only [Session.detach, held, ne_eq, not_true, if_false]

theorem endAttachment_of_idle {run : AttachmentRun} (idle : run.stream? = none) :
    (s.endAttachment host run).1 = s := by
  cases run with
  | live stream => cases idle
  | parked socket pipeline hasRun => rfl
  | unbound => rfl

theorem detach_changes (hone : s.OneStream) (id : String) :
    Changes host s (s.detach host id).session (s.detach host id).pushes := by
  cases hheld : s.attachment with
  | none =>
      simp only [Session.detach, hheld]
      exact .keep
  | some attachment =>
      by_cases hid : attachment.id = id
      · subst hid
        rw [detach_eq s host hheld]
        cases hrun : attachment.run.stream? with
        | none =>
            rw [s.endAttachment_of_idle host hrun, releaseSocket_giveUp]
            exact .giveUpIdle hheld hrun
        | some stream =>
            have hlive := AttachmentRun.stream?_eq_some hrun
            have halone := hone.override_eq_none hheld hlive
            have hends := @Changes.giveUpLive host s _ _ hheld hlive halone
            simpa only [hlive, endAttachment, releaseSocket, afterHalt, withShared, halone,
              Option.isNone_none, if_true] using hends
      · simp only [Session.detach, hheld, hid, ne_eq, not_false_eq_true, if_true]
        exact .keep

theorem start_eq (hstopped : s.started = false) :
    s.start host =
      match if s.config.override.enabled then s.startOverride host else s.spawn host with
      | .error fault => s.refuse fault
      | .ok running => ⟨syncState { running with started := true }, [], .ok ()⟩ := by
  rw [Session.start, hstopped]
  rfl

theorem start_changes : Changes host s (s.start host).session (s.start host).pushes := by
  cases hstopped : s.started with
  | true =>
      simp only [Session.start, hstopped, if_true]
      exact .keep
  | false =>
      rw [start_eq s host hstopped]
      cases hfixed : s.config.override.enabled with
      | true =>
          cases hopens : s.openStream host overrideId s.config.override.endpoint
              s.config.forOverride with
          | error fault =>
              simp only [if_true, startOverride, hopens]
              exact .keep
          | ok stream =>
              simp only [if_true, startOverride, hopens]
              exact .override hstopped hfixed hopens
      | false =>
          cases hheld : s.attachment with
          | none =>
              have hspawn : s.spawn host = .ok s := by simp only [spawn, hheld]
              simp only [Bool.false_eq_true, if_false, hspawn]
              exact .arm hstopped hfixed (by simp [hheld])
          | some attachment =>
              cases hrun : attachment.run with
              | live stream =>
                  have hspawn : s.spawn host = .ok s := by simp only [spawn, hheld, hrun]
                  simp only [Bool.false_eq_true, if_false, hspawn]
                  exact .arm hstopped hfixed (by simp [hheld, hrun])
              | parked socket pipeline hasRun =>
                  simp only [Bool.false_eq_true, if_false, spawn, hheld, hrun]
                  exact .run hstopped hfixed hheld hrun
              | unbound =>
                  cases hopens : s.openStream host attachment.id attachment.endpoint
                      s.config with
                  | error fault =>
                      simp only [Bool.false_eq_true, if_false, spawn, hheld, hrun, hopens]
                      exact .keep
                  | ok stream =>
                      simp only [Bool.false_eq_true, if_false, spawn, hheld, hrun, hopens]
                      exact .bindRecorded hstopped hfixed hheld hrun hopens

theorem halt_started (started : Bool) (stream : LiveStream) :
    halt { s with started := started } host stream = s.halt host stream := by
  unfold halt
  rfl

theorem parkAttachment_of_idle (idle : s.stream? .attachment = none) :
    s.parkAttachment host = (s, []) := by
  cases hheld : s.attachment with
  | none => simp only [parkAttachment, hheld]
  | some attachment =>
      cases hrun : attachment.run with
      | live stream => simp [stream?, hheld, hrun, AttachmentRun.stream?] at idle
      | parked socket pipeline hasRun => simp only [parkAttachment, hheld, hrun]
      | unbound => simp only [parkAttachment, hheld, hrun]

theorem parkAttachment_of_live {attachment : Attachment} {stream : LiveStream}
    (held : s.attachment = some attachment) (live : attachment.run = .live stream) :
    s.parkAttachment host =
      ({ s.afterHalt (s.halt host stream) with
          attachment := some { attachment with
            run := .parked stream.socket (s.halt host stream).reconstruction.pipeline true } },
        (s.halt host stream).pushes) := by
  simp only [parkAttachment, held, live]

theorem closeOverride_of_none (alone : s.overriding = none) :
    s.closeOverride host = (s, []) := by
  simp only [closeOverride, alone]

theorem closeOverride_of_some {overriding : OverridingStream}
    (running : s.overriding = some overriding) :
    s.closeOverride host =
      ({ s.afterHalt (s.halt host overriding.stream) with
          overriding := none
          counters := (s.halt host overriding.stream).counters.setSocket none 0 },
        (s.halt host overriding.stream).pushes) := by
  simp only [closeOverride, running]

theorem stop_eq {closed parked : Session} {first second : List Push}
    (hstarted : s.started = true)
    (hclosed : closeOverride { s with started := false } host = (closed, first))
    (hparked : closed.parkAttachment host = (parked, second)) :
    s.stop host = ⟨parked.syncState, first ++ second, .ok ()⟩ := by
  simp only [Session.stop, hstarted, if_true, hclosed, hparked]

theorem stop_changes (hone : s.OneStream) :
    Changes host s (s.stop host).session (s.stop host).pushes := by
  -- A session that is being stopped is marked so before its streams end; how they end does
  -- not depend on it.
  let t : Session := { s with started := false }
  cases hstarted : s.started with
  | false =>
      rw [Session.stop, hstarted]
      exact .keep
  | true =>
      rcases hrunning : s.overriding with _ | overriding
      · have hclosed := closeOverride_of_none t host hrunning
        rcases hlive : s.stream? .attachment with _ | stream
        · rw [stop_eq s host hstarted hclosed (parkAttachment_of_idle t host hlive)]
          exact .disarm hstarted hrunning hlive
        · obtain ⟨attachment, hheld, hrun⟩ := Option.bind_eq_some_iff.mp hlive
          have hlive := AttachmentRun.stream?_eq_some hrun
          rw [stop_eq s host hstarted hclosed (parkAttachment_of_live t host hheld hlive),
            halt_started]
          exact .park hstarted hheld hlive hrunning
      · have hidle : s.stream? .attachment = none := hone (Option.isSome_of_eq_some hrunning)
        have hclosed := closeOverride_of_some t host hrunning
        rw [stop_eq s host hstarted hclosed (parkAttachment_of_idle _ host hidle),
          List.append_nil, halt_started]
        exact .close hstarted hrunning

theorem configure_changes (config : Config) :
    Changes host s (s.configure config).session (s.configure config).pushes := by
  cases hfault : s.configFault? config with
  | some fault =>
      simp only [Session.configure, hfault]
      exact .keep
  | none =>
      simp only [Session.configure, hfault]
      exact .configure config hfault

theorem operate_changes (owner : StreamOwner) (operation : TaskOperation) :
    Changes host s (s.operate host owner operation).1 (s.operate host owner operation).2 := by
  cases hheld : s.stream? owner with
  | none =>
      simp only [Session.operate, hheld]
      exact .keep
  | some stream =>
      simp only [Session.operate, hheld]
      exact .operate operation hheld

/-- Every event ends in one of these ways. -/
theorem event_changes (hone : s.OneStream) (e : SessionEvent) :
    Changes host s (s.event host e).1 (s.event host e).2 := by
  cases e with
  | call c =>
      cases c with
      | attach endpoint freshId => exact s.attach_changes host endpoint freshId
      | detach id => exact s.detach_changes host hone id
      | start => exact s.start_changes host
      | stop => exact s.stop_changes host hone
      | configure config => exact s.configure_changes host config
      | describe sri => exact .describe sri
  | operate owner operation => exact s.operate_changes host owner operation
  | arrive owner datagrams => exact .arrive owner datagrams

end Calls

end Session

end SddsReceiver
