import SddsReceiver.Proofs.Session.Events

/-!
# A refused call leaves no trace

A call is made of steps, and each step changes the session for good, so that a call that fails
half way would leave a half-made change. A start takes the run out of an attachment before it
tries to bind; opening a stream starts the counters over in several steps; an attachment is put
in place before it runs. Here every call is written in its steps, in their order, and an error
keeps what was done before it.

Written so, the calls are the operations of the session, and a call that is refused has left
everything as it was.
-/
namespace SddsReceiver

namespace Session

/-- A call in steps, over the session and the pushes handed on. An error keeps both as they
are. -/
abbrev Stepwise := ExceptT ReceiverError (StateM (Session × List Push))

namespace Stepwise

def session : Stepwise Session := return (← get).1

def change (f : Session → Session) : Stepwise Unit := modify fun t => (f t.1, t.2)

def perform (f : Session → Session × List Push) : Stepwise Unit :=
  modify fun t => ((f t.1).1, t.2 ++ (f t.1).2)

def setRun (run : AttachmentRun) : Stepwise Unit :=
  change fun s => { s with attachment := s.attachment.map fun a => { a with run := run } }

def openStream (host : SessionHost) (id : String) (endpoint : Network.Endpoint)
    (config : Config) : Stepwise (Socket × Pipeline) := do
  let port ← MonadExcept.ofExcept (host.network.bind endpoint config.interface)
  change fun s => { s with counters := s.counters.resetStream }
  change fun s => { s with
    counters := s.counters.setSocket (some port) (host.network.receiveBuffer config.socketBuffer) }
  change fun s => { s with counters := s.counters.setOrder config.order }
  return (⟨⟨endpoint.address, port⟩, []⟩, .ofConfig id config host.year)

def launch (socket : Socket) (pipeline : Pipeline) : Stepwise Unit :=
  change fun s => match s.attachment with
    | none => s
    | some attachment => s.runAttachment attachment socket pipeline

/-- The run is taken out of the attachment first, and a new one put in last. -/
def spawn (host : SessionHost) : Stepwise Unit := do
  let s ← session
  match s.attachment with
  | none => return ()
  | some attachment =>
      setRun .unbound
      match attachment.run with
      | .live stream => setRun (.live stream)
      | .parked socket pipeline hasRun =>
          launch (if hasRun then socket.discardWaiting else socket) pipeline
      | .unbound =>
          let (socket, pipeline) ← openStream host attachment.id attachment.endpoint s.config
          change fun s => { s with
            attachment := s.attachment.map fun a => { a with bound := some socket.bound } }
          launch socket pipeline

def attach (host : SessionHost) (endpoint : Network.Endpoint) (freshId : String) :
    Stepwise String := do
  let s ← session
  match s.attachment with
  | some existing => throw (.alreadyAttached existing.id)
  | none =>
      let id := if endpoint.streamId.isEmpty then freshId else endpoint.streamId
      if s.config.override.enabled then
        change fun s => { s with attachment := some ⟨id, endpoint, none, .unbound⟩ }
        change syncState
        return id
      else
        let (socket, pipeline) ← openStream host id endpoint s.config
        change fun s => { s with
          attachment := some ⟨id, endpoint, some socket.bound, .parked socket pipeline false⟩ }
        if s.started then
          spawn host
        change syncState
        return id

def detach (host : SessionHost) (id : String) : Stepwise Unit := do
  match (← session).attachment with
  | none => throw .notAttached
  | some attachment =>
      if attachment.id ≠ id then throw (.unknownAttachment id (some attachment.id))
      else
        change fun s => { s with attachment := none }
        perform fun s => s.endAttachment host attachment.run
        change fun s => { s with external := none }
        change releaseSocket
        change syncState

def startOverride (host : SessionHost) : Stepwise Unit := do
  let s ← session
  let config := s.config.forOverride
  let (socket, pipeline) ← openStream host overrideId s.config.override.endpoint config
  change fun s => { (s.launch socket pipeline config).1 with
    overriding := some ⟨socket.bound, (s.launch socket pipeline config).2⟩ }

def start (host : SessionHost) : Stepwise Unit := do
  let s ← session
  if s.started then return ()
  else
    if s.config.override.enabled then startOverride host else spawn host
    change fun s => { s with started := true }
    change syncState

def stop (host : SessionHost) : Stepwise Unit := do
  if (← session).started then
    change fun s => { s with started := false }
    perform fun s => s.closeOverride host
    perform fun s => s.parkAttachment host
    change syncState

/-- Three checks, one after another. -/
def configure (config : Config) : Stepwise Unit := do
  if let some fault := config.fault? then throw fault.toError
  let s ← session
  if s.state = .running then
    if let some setting := s.config.firstDifference config then
      throw (.config setting.name "cannot change while running")
  if s.started && s.config.override != config.override then
    throw (.config Config.Setting.override.name "cannot change while started")
  change fun s => { s with headroom := config.headroom }
  change fun s => { s with
    counters := if s.attachment.isNone then s.counters.setOrder config.order else s.counters }
  change fun s => { s with config := config }

def call (host : SessionHost) : SessionCall → Stepwise Unit
  | .attach endpoint freshId => (fun _ => ()) <$> attach host endpoint freshId
  | .detach id => detach host id
  | .start => start host
  | .stop => stop host
  | .configure config => configure config
  | .describe sri => change fun s => s.describe sri

/-- What the steps answer, and what they leave of the session and of the pushes. -/
def go {α : Type} (x : Stepwise α) (t : Session × List Push) :
    Except ReceiverError α × Session × List Push := Id.run (StateT.run (ExceptT.run x) t)

section Go
variable {α β : Type} (t : Session × List Push)

@[simp] theorem go_bind (x : Stepwise α) (f : α → Stepwise β) :
    (x >>= f).go t = match x.go t with
      | (.error fault, u) => (.error fault, u)
      | (.ok a, u) => (f a).go u := by
  unfold go
  rw [ExceptT.run_bind, StateT.run_bind, Id.run_bind]
  rcases Id.run (StateT.run (ExceptT.run x) t) with ⟨_ | _, u⟩ <;> rfl

@[simp] theorem go_pure (a : α) : (pure a : Stepwise α).go t = (.ok a, t) := rfl

@[simp] theorem go_throw (fault : ReceiverError) :
    (throw fault : Stepwise α).go t = (.error fault, t) := rfl

@[simp] theorem go_ofExcept (x : Except ReceiverError α) :
    (MonadExcept.ofExcept x : Stepwise α).go t = (x, t) := by
  cases x <;> rfl

@[simp] theorem go_session : session.go t = (.ok t.1, t) := rfl

@[simp] theorem go_change (f : Session → Session) : (change f).go t = (.ok (), f t.1, t.2) := by
  unfold change go
  rfl

@[simp] theorem go_perform (f : Session → Session × List Push) :
    (perform f).go t = (.ok (), (f t.1).1, t.2 ++ (f t.1).2) := by
  unfold perform go
  rfl

@[simp] theorem go_map (x : Stepwise α) (f : α → β) :
    (f <$> x).go t = ((x.go t).1.map f, (x.go t).2) := by
  rw [map_eq_pure_bind, go_bind]
  rcases x.go t with ⟨_ | _, u⟩ <;> rfl

end Go

end Stepwise

/-- What a call answers, but for the name of a new attachment. -/
def answer (s : Session) (host : SessionHost) : SessionCall → Except ReceiverError Unit
  | .attach endpoint freshId => (s.attach host endpoint freshId).result.map fun _ => ()
  | .detach id => (s.detach host id).result
  | .start => (s.start host).result
  | .stop => (s.stop host).result
  | .configure config => (s.configure config).result
  | .describe _ => .ok ()

section Steps
variable (s : Session) (host : SessionHost) (out : List Push)

theorem attachment_restored {s : Session} {held : Option Attachment} (h : s.attachment = held) :
    { s with attachment := held } = s := by
  rw [← h]

theorem openStream_steps (id : String) (endpoint : Network.Endpoint) (config : Config) :
    (Stepwise.openStream host id endpoint config).go (s, out) =
      match s.openStream host id endpoint config with
      | .error fault => (.error fault, s, out)
      | .ok (opened, socket, pipeline) => (.ok (socket, pipeline), opened, out) := by
  cases hbind : host.network.bind endpoint config.interface with
  | error fault => simp [Stepwise.openStream, openStream, hbind]
  | ok port =>
      simp [Stepwise.openStream, openStream, hbind, Except.map]

theorem spawn_steps :
    (Stepwise.spawn host).go (s, out) = match s.spawn host with
      | .error fault => (.error fault, s, out)
      | .ok next => (.ok (), next, out) := by
  cases hheld : s.attachment with
  | none => simp [Stepwise.spawn, Session.spawn, hheld]
  | some attachment =>
      obtain ⟨id, endpoint, bound, run⟩ := attachment
      have hrestored := attachment_restored hheld
      cases run with
      | live stream =>
          simpa [Stepwise.spawn, Stepwise.setRun, Session.spawn, hheld] using hrestored
      | parked socket pipeline hasRun =>
          simp [Stepwise.spawn, Stepwise.setRun, Stepwise.launch, Session.spawn, hheld,
            runAttachment, Session.launch, withShared]
      | unbound =>
          -- The run taken out of a recorded attachment is no loss if its endpoint cannot be bound.
          cases hbind : host.network.bind endpoint s.config.interface with
          | error fault =>
              simpa [Stepwise.spawn, Stepwise.setRun, Session.spawn, hheld, openStream_steps,
                Session.openStream, hbind] using hrestored
          | ok port =>
              simp [Stepwise.spawn, Stepwise.setRun, Stepwise.launch, Session.spawn, hheld,
                openStream_steps, Session.openStream, hbind, runAttachment, Session.launch,
                withShared]

theorem startOverride_steps :
    (Stepwise.startOverride host).go (s, out) = match s.startOverride host with
      | .error fault => (.error fault, s, out)
      | .ok next => (.ok (), next, out) := by
  cases hopens : s.openStream host overrideId s.config.override.endpoint s.config.forOverride with
  | error fault =>
      simp [Stepwise.startOverride, Session.startOverride, openStream_steps, hopens]
  | ok o =>
      obtain ⟨opened, socket, pipeline⟩ := o
      simp [Stepwise.startOverride, Session.startOverride, openStream_steps, hopens]

theorem attach_steps (endpoint : Network.Endpoint) (freshId : String) :
    (Stepwise.attach host endpoint freshId).go (s, []) =
      ((s.attach host endpoint freshId).result, (s.attach host endpoint freshId).session,
        (s.attach host endpoint freshId).pushes) := by
  cases hheld : s.attachment with
  | some existing => simp [Stepwise.attach, Session.attach, hheld, refuse]
  | none =>
      cases hfixed : s.config.override.enabled with
      | true => simp [Stepwise.attach, Session.attach, hheld, hfixed, Except.map]
      | false =>
          simp only [Stepwise.attach, Session.attach, hheld, hfixed, Stepwise.go_bind,
            Stepwise.go_session, Bool.false_eq_true, if_false]
          generalize (if endpoint.streamId.isEmpty then freshId else endpoint.streamId) = id
          rw [openStream_steps]
          cases hopens : s.openStream host id endpoint s.config with
          | error fault => rfl
          | ok o =>
              obtain ⟨opened, socket, pipeline⟩ := o
              cases hstarted : s.started <;> simp [spawn_steps, Session.spawn, Except.map]

theorem endAttachment_taken (run : AttachmentRun) :
    endAttachment { s with attachment := none } host run =
      ({ (s.endAttachment host run).1 with attachment := none },
        (s.endAttachment host run).2) := by
  cases run with
  | live stream =>
      have hhalt : halt { s with attachment := none } host stream = s.halt host stream := by
        unfold halt
        rfl
      simp only [endAttachment, hhalt]
      rfl
  | parked socket pipeline hasRun => rfl
  | unbound => rfl

theorem detach_steps (id : String) :
    (Stepwise.detach host id).go (s, []) =
      ((s.detach host id).result, (s.detach host id).session, (s.detach host id).pushes) := by
  cases hheld : s.attachment with
  | none => simp [Stepwise.detach, Session.detach, hheld, refuse]
  | some attachment =>
      by_cases hid : attachment.id = id
      · simp [Stepwise.detach, Session.detach, hheld, hid, endAttachment_taken]
      · simp [Stepwise.detach, Session.detach, hheld, hid, refuse]

theorem start_steps :
    (Stepwise.start host).go (s, []) =
      ((s.start host).result, (s.start host).session, (s.start host).pushes) := by
  cases hstarted : s.started with
  | true => simp [Stepwise.start, Session.start, hstarted]
  | false =>
      cases hfixed : s.config.override.enabled with
      | true =>
          cases hruns : s.startOverride host <;>
            simp [Stepwise.start, Session.start, hstarted, hfixed, startOverride_steps, hruns,
              refuse]
      | false =>
          cases hruns : s.spawn host <;>
            simp [Stepwise.start, Session.start, hstarted, hfixed, spawn_steps, hruns, refuse]

theorem stop_steps :
    (Stepwise.stop host).go (s, []) =
      ((s.stop host).result, (s.stop host).session, (s.stop host).pushes) := by
  cases hstarted : s.started <;> simp [Stepwise.stop, Session.stop, hstarted]

theorem configure_steps (config : Config) :
    (Stepwise.configure config).go (s, []) =
      ((s.configure config).result, (s.configure config).session,
        (s.configure config).pushes) := by
  cases hvalid : config.fault? with
  | some fault => simp [Stepwise.configure, Session.configure, configFault?, hvalid, refuse]
  | none =>
      by_cases hoverride : s.started = true ∧ ¬s.config.override = config.override <;>
        by_cases hrunning : s.state = .running <;>
        cases hlocked : s.config.firstDifference config <;>
        simp [Stepwise.configure, Session.configure, configFault?, hvalid, hoverride, hrunning,
          hlocked, refuse]

/-- In its steps a call answers, leaves and hands on what the operation does. -/
theorem call_steps (c : SessionCall) :
    (Stepwise.call host c).go (s, []) = (s.answer host c, s.call host c) := by
  cases c with
  | attach endpoint freshId =>
      simp [Stepwise.call, attach_steps, answer, call]
  | detach id => exact s.detach_steps host id
  | start => exact s.start_steps host
  | stop => exact s.stop_steps host
  | configure config => exact s.configure_steps config
  | describe sri => simp [Stepwise.call, answer, call]

end Steps

inductive Refuses (s : Session) (host : SessionHost) : SessionCall → ReceiverError → Prop
  | attached {existing : Attachment} (endpoint : Network.Endpoint) (freshId : String)
      (held : s.attachment = some existing) :
      Refuses s host (.attach endpoint freshId) (.alreadyAttached existing.id)
  | unbindable {endpoint : Network.Endpoint} (freshId : String) {fault : ReceiverError}
      (free : s.attachment = none) (unfixed : s.config.override.enabled = false)
      (fails : host.network.bind endpoint s.config.interface = .error fault) :
      Refuses s host (.attach endpoint freshId) fault
  | notAttached (id : String) (free : s.attachment = none) :
      Refuses s host (.detach id) .notAttached
  | unknown {id : String} {attachment : Attachment} (held : s.attachment = some attachment)
      (other : attachment.id ≠ id) :
      Refuses s host (.detach id) (.unknownAttachment id (some attachment.id))
  | overrideUnbindable {fault : ReceiverError} (stopped : s.started = false)
      (fixed : s.config.override.enabled = true)
      (fails : host.network.bind s.config.override.endpoint s.config.forOverride.interface =
        .error fault) :
      Refuses s host .start fault
  | recordedUnbindable {attachment : Attachment} {fault : ReceiverError}
      (stopped : s.started = false) (unfixed : s.config.override.enabled = false)
      (held : s.attachment = some attachment) (unbound : attachment.run = .unbound)
      (fails : host.network.bind attachment.endpoint s.config.interface = .error fault) :
      Refuses s host .start fault
  | invalid {config : Config} {fault : Config.Fault} (invalid : config.fault? = some fault) :
      Refuses s host (.configure config) fault.toError
  | locked {config : Config} {setting : Config.Setting} (valid : config.fault? = none)
      (running : s.state = .running)
      (differs : s.config.firstDifference config = some setting) :
      Refuses s host (.configure config)
        (.config setting.name "cannot change while running")
  | overrideChanged {config : Config} (valid : config.fault? = none)
      (idle : s.state ≠ .running) (started : s.started = true)
      (differs : s.config.override ≠ config.override) :
      Refuses s host (.configure config)
        (.config Config.Setting.override.name "cannot change while started")

section Refused
variable {s : Session} {host : SessionHost} {c : SessionCall} {fault : ReceiverError}

theorem openStream_of_unbindable {id : String} {endpoint : Network.Endpoint} {config : Config}
    (fails : host.network.bind endpoint config.interface = .error fault) :
    s.openStream host id endpoint config = .error fault := by
  simp only [openStream, fails]

theorem Refuses.answer_eq (h : s.Refuses host c fault) :
    s.answer host c = .error fault ∧ s.call host c = (s, []) := by
  cases h with
  | attached endpoint freshId held =>
      simp [answer, call, attach, held, refuse, Except.map]
  | unbindable freshId free unfixed fails =>
      simp [answer, call, attach, free, unfixed, openStream_of_unbindable fails, refuse, Except.map]
  | notAttached id free => simp [answer, call, Session.detach, free, refuse]
  | unknown held other => simp [answer, call, Session.detach, held, other, refuse]
  | overrideUnbindable stopped fixed fails =>
      simp [answer, call, start, startOverride, stopped, fixed, openStream_of_unbindable fails,
        refuse]
  | recordedUnbindable stopped unfixed held unbound fails =>
      simp [answer, call, start, spawn, stopped, unfixed, held, unbound,
        openStream_of_unbindable fails, refuse]
  | invalid invalid => simp [answer, call, Session.configure, configFault?, invalid, refuse]
  | locked valid running differs =>
      simp [answer, call, Session.configure, configFault?, valid, running, differs, refuse]
  | overrideChanged valid idle started differs =>
      simp [answer, call, Session.configure, configFault?, valid, idle, started, differs, refuse]

theorem unbindable_of_openStream {id : String} {endpoint : Network.Endpoint} {config : Config}
    (h : s.openStream host id endpoint config = .error fault) :
    host.network.bind endpoint config.interface = .error fault := by
  cases hbind : host.network.bind endpoint config.interface with
  | error reason =>
      rw [openStream_of_unbindable hbind, Except.error.injEq] at h
      rw [h]
  | ok port => simp [openStream, hbind] at h

theorem refuses_attach {endpoint : Network.Endpoint} {freshId : String}
    (h : s.answer host (.attach endpoint freshId) = .error fault) :
    s.Refuses host (.attach endpoint freshId) fault := by
  cases hheld : s.attachment with
  | some existing =>
      simp only [answer, attach, hheld, refuse, Except.map, Except.error.injEq] at h
      subst h
      exact .attached endpoint freshId hheld
  | none =>
      cases hfixed : s.config.override.enabled with
      | true => simp [answer, attach, hheld, hfixed, Except.map] at h
      | false =>
          simp only [answer, attach, hheld, hfixed, Bool.false_eq_true, if_false] at h
          split at h
          · rename_i reason hopens
            simp only [refuse, Except.map, Except.error.injEq] at h
            subst h
            exact .unbindable freshId hheld hfixed (unbindable_of_openStream hopens)
          · -- What has just been bound runs without fail.
            cases hstarted : s.started <;> simp [hstarted, spawn, Except.map] at h

theorem refuses_detach {id : String} (h : s.answer host (.detach id) = .error fault) :
    s.Refuses host (.detach id) fault := by
  cases hheld : s.attachment with
  | none =>
      simp only [answer, Session.detach, hheld, refuse, Except.error.injEq] at h
      subst h
      exact .notAttached id hheld
  | some attachment =>
      by_cases hid : attachment.id = id
      · simp [answer, Session.detach, hheld, hid] at h
      · simp only [answer, Session.detach, hheld, ne_eq, hid, not_false_iff, if_true, refuse,
          Except.error.injEq] at h
        subst h
        exact .unknown hheld hid

theorem unbindable_of_startOverride (h : s.startOverride host = .error fault) :
    host.network.bind s.config.override.endpoint s.config.forOverride.interface =
      .error fault := by
  cases hopens : s.openStream host overrideId s.config.override.endpoint s.config.forOverride with
  | error reason =>
      simp only [startOverride, hopens, Except.error.injEq] at h
      rw [← h]
      exact unbindable_of_openStream hopens
  | ok o => simp [startOverride, hopens] at h

/-- Only an attachment that has never been bound can fail to run. -/
theorem unbindable_of_spawn (h : s.spawn host = .error fault) :
    ∃ attachment, s.attachment = some attachment ∧ attachment.run = .unbound ∧
      host.network.bind attachment.endpoint s.config.interface = .error fault := by
  cases hheld : s.attachment with
  | none => simp [spawn, hheld] at h
  | some attachment =>
      refine ⟨attachment, rfl, ?_⟩
      cases hrun : attachment.run with
      | live stream => simp [spawn, hheld, hrun] at h
      | parked socket pipeline hasRun => simp [spawn, hheld, hrun] at h
      | unbound =>
          cases hopens : s.openStream host attachment.id attachment.endpoint s.config with
          | error reason =>
              simp only [spawn, hheld, hrun, hopens, Except.error.injEq] at h
              rw [← h]
              exact ⟨rfl, unbindable_of_openStream hopens⟩
          | ok o => simp [spawn, hheld, hrun, hopens] at h

theorem refuses_start (h : s.answer host .start = .error fault) : s.Refuses host .start fault := by
  cases hstarted : s.started with
  | true => simp [answer, start, hstarted] at h
  | false =>
      cases hfixed : s.config.override.enabled with
      | true =>
          cases hruns : s.startOverride host with
          | error reason =>
              simp only [answer, start, hstarted, hfixed, hruns, refuse, if_true,
                Bool.false_eq_true, if_false, Except.error.injEq] at h
              subst h
              exact .overrideUnbindable hstarted hfixed (unbindable_of_startOverride hruns)
          | ok next => simp [answer, start, hstarted, hfixed, hruns] at h
      | false =>
          cases hruns : s.spawn host with
          | error reason =>
              simp only [answer, start, hstarted, hfixed, hruns, refuse, Bool.false_eq_true,
                if_false, Except.error.injEq] at h
              subst h
              obtain ⟨attachment, hheld, hrun, hfails⟩ := unbindable_of_spawn hruns
              exact .recordedUnbindable hstarted hfixed hheld hrun hfails
          | ok next => simp [answer, start, hstarted, hfixed, hruns] at h

theorem refuses_configure {config : Config}
    (h : s.answer host (.configure config) = .error fault) :
    s.Refuses host (.configure config) fault := by
  have hfault : s.configFault? config = some fault := by
    simp only [answer, Session.configure] at h
    split at h
    · rename_i reason hreason
      cases h
      exact hreason
    · cases h
  unfold configFault? at hfault
  split at hfault
  · rename_i reason hinvalid
    cases hfault
    exact .invalid hinvalid
  · rename_i hvalid
    split at hfault
    · rename_i setting hrunning hdiffers
      cases hfault
      exact .locked hvalid hrunning hdiffers
    · rename_i hlocked
      simp only [Option.ite_none_right_eq_some, Bool.and_eq_true, bne_iff_ne,
        Option.some.injEq] at hfault
      obtain ⟨⟨hstarted, hdiffers⟩, rfl⟩ := hfault
      refine .overrideChanged hvalid ?_ hstarted hdiffers
      intro hrunning
      -- While a stream runs a different override is a difference like any other.
      cases hdifference : s.config.firstDifference config with
      | some setting => exact hlocked setting hrunning hdifference
      | none => exact hdiffers (by rw [(Config.firstDifference_eq_none _ _).mp hdifference])

theorem refuses_of_answer (h : s.answer host c = .error fault) : s.Refuses host c fault := by
  cases c with
  | attach endpoint freshId => exact refuses_attach h
  | detach id => exact refuses_detach h
  | start => exact refuses_start h
  | stop =>
      simp only [answer, Session.stop] at h
      split at h <;> cases h
  | configure config => exact refuses_configure h
  | describe sri => cases h

end Refused

/-- Whatever state a session is in, a call either succeeds or changes nothing. It is refused
exactly for the reasons listed, with their errors; and then its steps have left the session as
it was, with its streams, and have handed on no push. A start of a started session and a stop of
one that is not started succeed and change nothing either. -/
theorem call_atomic (s : Session) (host : SessionHost) (c : SessionCall) :
    (Stepwise.call host c).go (s, []) = (s.answer host c, s.call host c) ∧
      (∀ fault, s.answer host c = .error fault ↔ s.Refuses host c fault) ∧
      (∀ fault, s.Refuses host c fault → s.call host c = (s, [])) ∧
      (s.started = true →
        s.answer host .start = .ok () ∧ s.call host .start = (s, [])) ∧
      (s.started = false →
        s.answer host .stop = .ok () ∧ s.call host .stop = (s, [])) := by
  refine ⟨s.call_steps host c, ?_, ?_, ?_, ?_⟩
  · intro fault
    exact ⟨refuses_of_answer, fun h => h.answer_eq.1⟩
  · intro fault h
    exact h.answer_eq.2
  · intro hstarted
    simp [answer, call, start, hstarted]
  · intro hstopped
    simp [answer, call, stop, hstopped]

end Session

end SddsReceiver
