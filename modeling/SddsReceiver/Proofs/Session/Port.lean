import SddsReceiver.Proofs.Receiver.Figures
import SddsReceiver.Proofs.Session.Exclusion

/-!
# The address and the port of a session

A session tells where it receives in two ways. Its address follows from what it holds: it is
that of the overriding stream's socket while that stream runs, and that of the attachment's
socket otherwise. Its port is a figure among the counters, written when a socket is bound or
given up.

The two agree, but for one loss. Closing the overriding stream clears the port even when a
parked attachment holds a socket beside it, and nothing sets the port again until that socket
is given up or another stream overrides.
-/
namespace SddsReceiver

section Tasks

theorem Ingest.step_port (i : Ingest) (pool : Pool) (c : Counters) (batch : Nat)
    (reading : Reading) : (i.step pool c batch reading).2.2.port = c.port := by
  obtain ⟨malformed, hcounters⟩ := i.step_counters pool c batch reading
  rw [hcounters]
  rfl

theorem Reconstruction.step_port (r : Reconstruction) (pool : Pool) (c : Counters) (batch : Nat)
    (s : Surroundings) : (r.step pool c batch s).2.2.1.port = c.port := by
  unfold step
  split
  · rfl
  · rfl
  · dsimp only
    split
    · rfl
    · exact (Pipeline.handleAll_sameSocket s.external c r.pipeline _).port
  · rfl
  · dsimp only
    split <;> rfl
  · rfl

end Tasks

theorem AttachmentRun.receive_bound (run : AttachmentRun) (datagrams : List (List UInt8)) :
    (run.receive datagrams).socket?.map Socket.bound = run.socket?.map Socket.bound := by
  cases run <;> rfl

theorem Socket.afterRead_bound (socket : Socket) (answer : SocketAnswer) :
    (socket.afterRead answer).bound = socket.bound := by
  cases answer <;> rfl

namespace LiveStream
variable (l : LiveStream) (pool : Pool) (c : Counters) (s : Surroundings)

theorem operate_port (operation : TaskOperation) :
    (l.operate pool c s operation).2.counters.port = c.port := by
  cases operation with
  | ingest answer => exact l.ingest.step_port pool c l.batch (l.socket.reading answer)
  | reconstruct => exact l.reconstruction.step_port pool c l.batch s

theorem operate_bound (operation : TaskOperation) :
    (l.operate pool c s operation).1.socket.bound = l.socket.bound := by
  cases operation with
  | ingest answer =>
      simp only [operate, ofReceiver]
      split
      · exact l.socket.afterRead_bound answer
      · rfl
  | reconstruct => rfl

end LiveStream

theorem Receiver.shutdown_port (r : Receiver) (s : Surroundings) :
    (r.shutdown s).counters.port = r.counters.port :=
  shutdown_keeps (P := fun last => last.counters.port = r.counters.port)
    (fun last h => (last.ingest.step_port last.pool last.counters last.batch .cancelled).trans h)
    (fun last h => (last.reconstruction.step_port last.pool last.counters last.batch s).trans h)
    rfl

namespace Session

theorem halt_port (s : Session) (host : SessionHost) (stream : LiveStream) :
    (s.halt host stream).counters.port = s.counters.port := by
  unfold halt
  exact Receiver.shutdown_port _ _

/-- The socket that the session receives at: the overriding stream's, else the attachment's. -/
def socket? (s : Session) : Option Socket :=
  match s.overriding with
  | some overriding => some overriding.stream.socket
  | none => s.attachmentSocket?

structure Addressed (s : Session) : Prop where
  attachment_eq : s.attachment.bind Attachment.bound = s.attachmentSocket?.map Socket.bound
  overriding_eq : s.overriding.map OverridingStream.bound =
    s.overriding.map fun overriding => overriding.stream.socket.bound

theorem Addressed.attachment_bound {s : Session} (h : s.Addressed) {attachment : Attachment}
    (held : s.attachment = some attachment) :
    attachment.bound = attachment.run.socket?.map Socket.bound := by
  have heq := h.attachment_eq
  rwa [attachmentSocket?, held] at heq

theorem Addressed.overriding_bound {s : Session} (h : s.Addressed)
    {overriding : OverridingStream} (running : s.overriding = some overriding) :
    overriding.bound = overriding.stream.socket.bound := by
  have heq := h.overriding_eq
  rw [running] at heq
  exact Option.some.inj heq

theorem Addressed.localAddress_eq {s : Session} (h : s.Addressed) :
    s.localAddress = s.socket?.map Socket.bound := by
  cases hrunning : s.overriding with
  | none =>
      rw [localAddress, socket?, hrunning]
      exact h.attachment_eq
  | some overriding =>
      rw [localAddress, socket?, hrunning]
      exact congrArg some (h.overriding_bound hrunning)

theorem Addressed.changes {s next : Session} {host : SessionHost} {pushes : List Push}
    (h : s.Addressed) (hc : Changes host s next pushes) : next.Addressed := by
  cases hc with
  | keep => exact h
  | record id endpoint free fixed => exact ⟨rfl, h.overriding_eq⟩
  | bind id endpoint free unfixed stopped opens =>
      obtain ⟨port, -, rfl, -, -⟩ := openStream_eq_ok opens
      exact ⟨rfl, h.overriding_eq⟩
  | bindAndRun id endpoint free unfixed started opens =>
      obtain ⟨port, -, rfl, -, -⟩ := openStream_eq_ok opens
      exact ⟨rfl, h.overriding_eq⟩
  | giveUpLive held live alone => exact ⟨rfl, h.overriding_eq⟩
  | giveUpIdle held idle => exact ⟨rfl, h.overriding_eq⟩
  | arm stopped unfixed idle => exact ⟨h.attachment_eq, h.overriding_eq⟩
  | override stopped fixed opens =>
      obtain ⟨port, -, rfl, -, -⟩ := openStream_eq_ok opens
      exact ⟨h.attachment_eq, rfl⟩
  | @run attachment socket pipeline hasRun stopped unfixed held parked =>
      have hbound := h.attachment_bound held
      rw [parked] at hbound
      refine ⟨hbound.trans ?_, h.overriding_eq⟩
      cases hasRun <;> rfl
  | bindRecorded stopped unfixed held unbound opens =>
      obtain ⟨port, -, rfl, -, -⟩ := openStream_eq_ok opens
      exact ⟨rfl, h.overriding_eq⟩
  | close started running => exact ⟨h.attachment_eq, rfl⟩
  | park started held live alone =>
      have hbound := h.attachment_bound held
      rw [live] at hbound
      exact ⟨hbound, h.overriding_eq⟩
  | disarm started alone idle => exact ⟨h.attachment_eq, h.overriding_eq⟩
  | configure config accepted => exact ⟨h.attachment_eq, h.overriding_eq⟩
  | describe sri => exact ⟨h.attachment_eq, h.overriding_eq⟩
  | @operate owner stream operation held =>
      have hstays := stream.operate_bound s.pool s.counters (s.surroundings host) operation
      cases owner with
      | attachment =>
          obtain ⟨attachment, hheld, hrun⟩ := Option.bind_eq_some_iff.mp held
          have hbound := h.attachment_bound hheld
          rw [AttachmentRun.stream?_eq_some hrun] at hbound
          refine ⟨?_, h.overriding_eq⟩
          simp only [putStream, withShared, hheld, attachmentSocket?, Option.map_some,
            Option.bind_some, AttachmentRun.socket?, hstays]
          exact hbound
      | override =>
          obtain ⟨overriding, hrunning, rfl⟩ := Option.map_eq_some_iff.mp held
          refine ⟨h.attachment_eq, ?_⟩
          simp only [putStream, withShared, hrunning, Option.map_some, hstays]
          exact congrArg some (h.overriding_bound hrunning)
  | arrive owner datagrams =>
      cases owner with
      | attachment =>
          refine ⟨?_, h.overriding_eq⟩
          rcases hheld : s.attachment with _ | attachment
          · simp [Session.arrive, attachmentSocket?, hheld]
          · have hbound := h.attachment_bound hheld
            have hreceived := attachment.run.receive_bound datagrams
            simpa [Session.arrive, attachmentSocket?, hheld, hreceived] using hbound
      | override =>
          refine ⟨h.attachment_eq, ?_⟩
          rcases hrunning : s.overriding with _ | overriding
          · simp [Session.arrive, hrunning]
          · have hbound := h.overriding_bound hrunning
            simp [Session.arrive, hrunning, hbound, Socket.receive]

theorem after_addressed (config : Config) (log : List (SessionHost × SessionEvent)) :
    ((initial config).after log).Addressed := by
  induction log with
  | nil => exact ⟨rfl, rfl⟩
  | cons x earlier ih =>
      exact ih.changes (event_changes _ x.1 (after_exclusive config earlier).oneStream x.2)

theorem putStream_bounds (s : Session) (owner : StreamOwner) (stream : LiveStream) :
    (s.putStream owner stream).overriding.map OverridingStream.bound =
        s.overriding.map OverridingStream.bound ∧
      (s.putStream owner stream).attachment.bind Attachment.bound =
        s.attachment.bind Attachment.bound := by
  cases owner with
  | attachment => exact ⟨rfl, by cases hheld : s.attachment <;> simp [putStream, hheld]⟩
  | override => exact ⟨by cases hrunning : s.overriding <;> simp [putStream, hrunning], rfl⟩

theorem arrive_bounds (s : Session) (owner : StreamOwner) (datagrams : List (List UInt8)) :
    (s.arrive owner datagrams).overriding.map OverridingStream.bound =
        s.overriding.map OverridingStream.bound ∧
      (s.arrive owner datagrams).attachment.bind Attachment.bound =
        s.attachment.bind Attachment.bound := by
  cases owner with
  | attachment => exact ⟨rfl, by cases hheld : s.attachment <;> simp [Session.arrive, hheld]⟩
  | override =>
      exact ⟨by cases hrunning : s.overriding <;> simp [Session.arrive, hrunning], rfl⟩

theorem localAddress_eq_or (s : Session) :
    s.localAddress = (s.overriding.map OverridingStream.bound).or
      (s.attachment.bind Attachment.bound) := by
  unfold localAddress
  split
  · simp [*]
  · simp [*]

/-- An overriding stream has run beside the socket that the attachment holds. -/
def overridden (past : List Session) : Bool :=
  everSince (fun s => s.attachmentSocket?.isSome) (fun s => s.overriding.isSome) past

/-- The same, given whether it was so before the last event. -/
def nowOverridden (s : Session) (before : Bool) : Bool :=
  s.attachmentSocket?.isSome && (s.overriding.isSome || before)

theorem overridden_cons (s : Session) (past : List Session) :
    overridden (s :: past) = s.nowOverridden (overridden past) :=
  everSince_cons _ _ s past

theorem nowOverridden_nowOverridden (s : Session) (before : Bool) :
    s.nowOverridden (s.nowOverridden before) = s.nowOverridden before := by
  unfold nowOverridden
  cases s.attachmentSocket?.isSome <;> cases s.overriding.isSome <;> rfl

/-- The port of the session's address, unless an overriding stream that is gone has cleared
it. -/
def toldPort (s : Session) (cleared : Bool) : Option UInt16 :=
  if s.overriding.isNone && cleared then none else s.localAddress.map SocketAddress.port

theorem toldPort_of_overriding {s : Session} (running : s.overriding.isSome) (cleared : Bool) :
    s.toldPort cleared = s.localAddress.map SocketAddress.port := by
  rw [toldPort, ← Option.not_isSome, running]
  rfl

theorem toldPort_false (s : Session) :
    s.toldPort false = s.localAddress.map SocketAddress.port := by
  simp [toldPort]

/-- The counters tell the port, where it is known whether a stream has overridden the
attachment's socket. -/
structure Told (s : Session) (cleared : Bool) : Prop where
  cleared_eq : s.nowOverridden cleared = cleared
  port_eq : s.counters.port = s.toldPort cleared

theorem Addressed.isSome_eq {s : Session} (h : s.Addressed) :
    s.attachmentSocket?.isSome = (s.attachment.bind Attachment.bound).isSome := by
  rw [h.attachment_eq, Option.isSome_map]

section Told
variable {s next : Session} {cleared : Bool}

theorem Told.same (h : s.Told cleared) (hs : s.Addressed) (hnext : next.Addressed)
    (hoverriding : next.overriding.map OverridingStream.bound =
      s.overriding.map OverridingStream.bound)
    (hattachment : next.attachment.bind Attachment.bound = s.attachment.bind Attachment.bound)
    (hport : next.counters.port = s.counters.port) :
    next.Told (next.nowOverridden cleared) := by
  have hrunning : next.overriding.isSome = s.overriding.isSome := by
    simpa using congrArg Option.isSome hoverriding
  have hsocket : next.attachmentSocket?.isSome = s.attachmentSocket?.isSome := by
    rw [hnext.isSome_eq, hs.isSome_eq, hattachment]
  have haddress : next.localAddress = s.localAddress := by
    rw [localAddress_eq_or, localAddress_eq_or, hoverriding, hattachment]
  have hcleared : next.nowOverridden cleared = cleared := by
    rw [nowOverridden, hsocket, hrunning]
    exact h.cleared_eq
  refine ⟨nowOverridden_nowOverridden _ _, ?_⟩
  rw [hport, h.port_eq, hcleared, toldPort, toldPort, haddress, ← Option.not_isSome,
    ← Option.not_isSome, hrunning]

theorem Told.of_overriding (running : next.overriding.isSome)
    (hport : next.counters.port = next.localAddress.map SocketAddress.port) :
    next.Told (next.nowOverridden cleared) :=
  ⟨nowOverridden_nowOverridden _ _, hport.trans (toldPort_of_overriding running _).symm⟩

/-- Where no stream has overridden a socket, it is told, as is that there is none. -/
theorem Told.of_alone (alone : next.overriding = none)
    (huncleared : next.nowOverridden cleared = false)
    (hport : next.counters.port = (next.attachment.bind Attachment.bound).map SocketAddress.port) :
    next.Told (next.nowOverridden cleared) := by
  refine ⟨nowOverridden_nowOverridden _ _, ?_⟩
  rw [huncleared, toldPort_false, hport, localAddress, alone]

theorem Told.of_bound (h : s.Told cleared) (hs : s.Addressed)
    (hnone : s.attachment.bind Attachment.bound = none) (alone : next.overriding = none)
    (hport : next.counters.port = (next.attachment.bind Attachment.bound).map SocketAddress.port) :
    next.Told (next.nowOverridden cleared) := by
  have huncleared : cleared = false := by
    rw [← h.cleared_eq, nowOverridden, hs.isSome_eq, hnone]
    rfl
  refine .of_alone alone ?_ hport
  rw [huncleared, nowOverridden, alone, Option.isSome_none, Bool.or_false, Bool.and_false]

/-- When the overriding stream is closed the port is cleared, and from then on the
attachment's socket, if it holds one, is not told. -/
theorem Told.of_closed (h : s.Told cleared) (hs : s.Addressed) (running : s.overriding.isSome)
    (alone : next.overriding = none) (hattachment : next.attachment = s.attachment)
    (hport : next.counters.port = none) : next.Told (next.nowOverridden cleared) := by
  have hsocket : next.attachmentSocket? = s.attachmentSocket? := by
    rw [attachmentSocket?, hattachment, attachmentSocket?]
  have hcleared : cleared = s.attachmentSocket?.isSome := by
    rw [← h.cleared_eq, nowOverridden, running, Bool.true_or, Bool.and_true]
  have hnow : next.nowOverridden cleared = s.attachmentSocket?.isSome := by
    rw [nowOverridden, hsocket, alone, hcleared, Option.isSome_none, Bool.false_or, Bool.and_self]
  cases hheld : s.attachmentSocket? with
  | none =>
      refine .of_alone alone (by rw [hnow, hheld, Option.isSome_none]) ?_
      rw [hport, hattachment, hs.attachment_eq, hheld]
      rfl
  | some socket =>
      refine ⟨nowOverridden_nowOverridden _ _, ?_⟩
      rw [hport, hnow, hheld, toldPort, alone]
      rfl

end Told

theorem openStream_port {s opened : Session} {host : SessionHost} {id : String}
    {endpoint : Network.Endpoint} {config : Config} {socket : Socket} {pipeline : Pipeline}
    (hport : host.network.ephemeralPort ≠ 0)
    (opens : s.openStream host id endpoint config = .ok (opened, socket, pipeline)) :
    opened.counters.port = some socket.bound.port := by
  obtain ⟨port, hbind, rfl, rfl, -⟩ := openStream_eq_ok opens
  have hne := Network.Host.bind_ne_zero hport hbind
  simp [Counters.setOrder, Counters.setSocket, hne]

theorem Told.changes {s next : Session} {host : SessionHost} {pushes : List Push} {cleared : Bool}
    (h : s.Told cleared) (hs : s.Exclusive) (ha : s.Addressed)
    (hport : host.network.ephemeralPort ≠ 0) (hc : Changes host s next pushes) :
    next.Told (next.nowOverridden cleared) := by
  -- Every case is one of four: nothing of the sockets changes, one is bound, the last one is
  -- given up, or the overriding stream comes or goes.
  have hn : next.Addressed := ha.changes hc
  cases hc with
  | keep => exact h.same ha hn rfl rfl rfl
  | record id endpoint free fixed => exact h.same ha hn rfl (by rw [free]; rfl) rfl
  | bind id endpoint free unfixed stopped opens =>
      have hopened := openStream_port hport opens
      obtain ⟨port, -, rfl, -, -⟩ := openStream_eq_ok opens
      exact h.of_bound ha (by rw [free]; rfl) (hs.override_eq_none (.inl stopped)) hopened
  | bindAndRun id endpoint free unfixed started opens =>
      have hopened := openStream_port hport opens
      obtain ⟨port, -, rfl, -, -⟩ := openStream_eq_ok opens
      exact h.of_bound ha (by rw [free]; rfl) (hs.override_eq_none (.inr unfixed)) hopened
  | giveUpLive held live alone => exact .of_alone alone rfl rfl
  | giveUpIdle held idle =>
      -- Beside the overriding stream the port is that stream's, and stays.
      by_cases hsome : s.overriding.isSome
      · have htold := h.port_eq.trans (toldPort_of_overriding hsome cleared)
        refine .of_overriding hsome ?_
        obtain ⟨overriding, hrunning⟩ := Option.isSome_iff_exists.mp hsome
        simp only [syncState, releaseSocket, hrunning, localAddress] at htold ⊢
        exact htold
      · have halone : s.overriding = none := by simpa using hsome
        refine .of_alone halone rfl ?_
        simp only [syncState, releaseSocket, halone]
        rfl
  | arm stopped unfixed idle => exact h.same ha hn rfl rfl rfl
  | override stopped fixed opens =>
      have hopened := openStream_port hport opens
      exact .of_overriding rfl hopened
  | run stopped unfixed held parked => exact h.same ha hn rfl (by rw [held]; rfl) rfl
  | bindRecorded stopped unfixed held unbound opens =>
      have hopened := openStream_port hport opens
      obtain ⟨port, -, rfl, -, -⟩ := openStream_eq_ok opens
      have hnone : s.attachment.bind Attachment.bound = none := by
        rw [ha.attachment_eq, attachmentSocket?, held, Option.bind_some, unbound]
        rfl
      exact h.of_bound ha hnone (hs.override_eq_none (.inl stopped)) hopened
  | close started running => exact h.of_closed ha (Option.isSome_of_eq_some running) rfl rfl rfl
  | park started held live alone =>
      exact h.same ha hn rfl (by rw [held]; rfl) (s.halt_port host _)
  | disarm started alone idle => exact h.same ha hn rfl rfl rfl
  | configure config accepted => exact h.same ha hn rfl rfl (by dsimp only; split <;> rfl)
  | describe sri => exact h.same ha hn rfl rfl rfl
  | @operate owner stream operation held =>
      let went := stream.operate s.pool s.counters (s.surroundings host) operation
      obtain ⟨hoverriding, hattachment⟩ := (s.withShared went.2).putStream_bounds owner went.1
      have hkept := stream.operate_port s.pool s.counters (s.surroundings host) operation
      exact h.same ha hn hoverriding hattachment (by cases owner <;> exact hkept)
  | arrive owner datagrams =>
      obtain ⟨hoverriding, hattachment⟩ := s.arrive_bounds owner datagrams
      exact h.same ha hn hoverriding hattachment (by cases owner <;> rfl)

theorem after_told (config : Config) (log : List (SessionHost × SessionEvent))
    (hports : ∀ x ∈ log, x.1.network.ephemeralPort ≠ 0) :
    ((initial config).after log).Told (overridden ((initial config).past log)) := by
  induction log with
  | nil => exact ⟨rfl, rfl⟩
  | cons x earlier ih =>
      have hbefore := after_exclusive config earlier
      have htold := ih fun y hy => hports y (List.mem_cons_of_mem x hy)
      rw [past, overridden_cons]
      exact htold.changes hbefore (after_addressed config earlier)
        (hports x List.mem_cons_self) (event_changes _ x.1 hbefore.oneStream x.2)

theorem status_port (s : Session) (queueDepth : UInt16 → UInt64) :
    (s.status queueDepth).counters.port = s.counters.port := by
  unfold status
  dsimp only
  split <;> rfl

theorem Told.socket?_isSome {s : Session} {cleared : Bool} (h : s.Told cleared)
    (hcleared : (s.overriding.isNone && cleared) = true) : s.socket?.isSome := by
  obtain ⟨halone, hwas⟩ := Bool.and_eq_true_iff.mp hcleared
  have hnow := h.cleared_eq
  rw [hwas, nowOverridden] at hnow
  rw [socket?, Option.isNone_iff_eq_none.mp halone]
  exact (Bool.and_eq_true_iff.mp hnow).1

end Session

end SddsReceiver
