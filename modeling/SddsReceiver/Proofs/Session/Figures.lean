import SddsReceiver.Proofs.Session.Port

/-!
# What the counters tell of an attachment

A session has one set of counters. Opening a stream clears what belongs to a stream, and then
the counters follow the pipeline of whatever stream runs.

So they show the attachment's pipeline from the time its socket is bound, over any stops and
starts. They show the overriding stream's while that runs, and the attachment's no more: the
attachment is parked with all that it knows, but nothing writes its figures back when it runs
again. From then on the counters follow it from where the overriding stream has left them.
-/
namespace SddsReceiver

namespace AttachmentRun

def pipeline? : AttachmentRun → Option Pipeline
  | unbound => none
  | parked _ pipeline _ => some pipeline
  | live stream => some stream.reconstruction.pipeline

theorem isSome_pipeline? (run : AttachmentRun) : run.pipeline?.isSome = run.socket?.isSome := by
  cases run <;> rfl

theorem receive_pipeline? (run : AttachmentRun) (datagrams : List (List UInt8)) :
    (run.receive datagrams).pipeline? = run.pipeline? := by
  cases run <;> rfl

end AttachmentRun

theorem Counters.Show.of_same {c d : Counters} {p : Pipeline} (h : c.Show p)
    (hdropped : d.dropped = c.dropped) (htimeSlips : d.timeSlips = c.timeSlips)
    (hexpected : d.expected = c.expected) (hbits : d.bitsPerSample = c.bitsPerSample) :
    d.Show p :=
  ⟨hdropped.trans h.dropped, htimeSlips.trans h.timeSlips, hexpected.trans h.expected,
    hbits.trans h.bits⟩

namespace Session

def attachmentPipeline? (s : Session) : Option Pipeline :=
  s.attachment.bind fun attachment => attachment.run.pipeline?

theorem isSome_attachmentPipeline? (s : Session) :
    s.attachmentPipeline?.isSome = s.attachmentSocket?.isSome := by
  rcases hheld : s.attachment with _ | attachment
  · simp [attachmentPipeline?, attachmentSocket?, hheld]
  · simp [attachmentPipeline?, attachmentSocket?, hheld, attachment.run.isSome_pipeline?]

/-- Datagrams that the attachment's receiving task has read from one session to the next: those
that have left its socket while it ran. -/
def datagramsBetween (s next : Session) : Nat :=
  match s.stream? .attachment, next.stream? .attachment with
  | some before, some now => before.socket.waiting.length - now.socket.waiting.length
  | _, _ => 0

/-- Datagrams read since the attachment's socket was bound, or since the past begins. -/
def datagramsRead : List Session → Nat
  | next :: s :: earlier =>
      if next.attachmentSocket?.isSome then
        datagramsRead (s :: earlier) + s.datagramsBetween next
      else 0
  | _ => 0

theorem past_eq_cons (first : Session) (log : List (SessionHost × SessionEvent)) :
    ∃ earlier, first.past log = first.after log :: earlier := by
  cases log with
  | nil => exact ⟨[], rfl⟩
  | cons x log => exact ⟨first.past log, rfl⟩

theorem datagramsRead_past (first : Session) (x : SessionHost × SessionEvent)
    (log : List (SessionHost × SessionEvent)) :
    datagramsRead (first.past (x :: log)) =
      if (first.after (x :: log)).attachmentSocket?.isSome then
        datagramsRead (first.past log) + (first.after log).datagramsBetween (first.after (x :: log))
      else 0 := by
  obtain ⟨earlier, hpast⟩ := first.past_eq_cons log
  rw [past, hpast, datagramsRead]

theorem datagramsRead_of_none {s : Session} {earlier : List Session}
    (hnone : s.attachmentSocket?.isSome = false) : datagramsRead (s :: earlier) = 0 := by
  cases earlier with
  | nil => rfl
  | cons before earlier => simp [datagramsRead, hnone]

theorem after_append (first : Session) (recent log : List (SessionHost × SessionEvent)) :
    first.after (recent ++ log) = (first.after log).after recent := by
  induction recent with
  | nil => rfl
  | cons x recent ih =>
      obtain ⟨host, e⟩ := x
      rw [List.cons_append, after, after, ih]

section Between
variable {s next : Session}

theorem datagramsBetween_of_idle (h : s.stream? .attachment = none) :
    s.datagramsBetween next = 0 := by
  rw [datagramsBetween, h]

theorem datagramsBetween_of_stopped (h : next.stream? .attachment = none) :
    s.datagramsBetween next = 0 := by
  rw [datagramsBetween, h]
  split <;> simp_all

theorem datagramsBetween_of_same (h : next.stream? .attachment = s.stream? .attachment) :
    s.datagramsBetween next = 0 := by
  rw [datagramsBetween, h]
  split <;> simp_all

end Between

theorem halt_follow (s : Session) (host : SessionHost) (stream : LiveStream) :
    s.counters.Follow stream.reconstruction.pipeline 0 (s.halt host stream).counters
      (s.halt host stream).reconstruction.pipeline := by
  unfold halt
  exact (stream.toReceiver s.pool s.counters).shutdown_follow (s.surroundings host)

theorem launch_follow (s : Session) (socket : Socket) (pipeline : Pipeline) (config : Config) :
    s.counters.Follow pipeline 0 (s.launch socket pipeline config).1.counters
      (s.launch socket pipeline config).2.reconstruction.pipeline :=
  pipeline.resume_follow s.external s.counters config

theorem openStream_show {s opened : Session} {host : SessionHost} {id : String}
    {endpoint : Network.Endpoint} {config : Config} {socket : Socket} {pipeline : Pipeline}
    (opens : s.openStream host id endpoint config = .ok (opened, socket, pipeline)) :
    opened.counters.Show pipeline ∧ opened.counters.received = 0 := by
  obtain ⟨port, -, rfl, -, rfl⟩ := openStream_eq_ok opens
  exact ⟨Pipeline.ofConfig_show _ _ _ _ _ _ _, rfl⟩

theorem launch_opened_show {s opened : Session} {host : SessionHost} {id : String}
    {endpoint : Network.Endpoint} {config : Config} {socket : Socket} {pipeline : Pipeline}
    (opens : s.openStream host id endpoint config = .ok (opened, socket, pipeline))
    (settings : Config) :
    (opened.launch socket pipeline settings).1.counters.Show
        (opened.launch socket pipeline settings).2.reconstruction.pipeline ∧
      (opened.launch socket pipeline settings).1.counters.received = 0 := by
  obtain ⟨hshow, hnone⟩ := openStream_show opens
  have hfollow := opened.launch_follow socket pipeline settings
  refine ⟨hfollow.show hshow, ?_⟩
  rw [hfollow.received, hnone]
  rfl

section Changes
variable {s next : Session} {host : SessionHost} {pushes : List Push}

theorem attachmentPipeline?_of_held {attachment : Attachment}
    (held : s.attachment = some attachment) :
    s.attachmentPipeline? = attachment.run.pipeline? := by
  rw [attachmentPipeline?, held]
  rfl

theorem attachmentPipeline?_of_free (free : s.attachment = none) :
    s.attachmentPipeline? = none := by
  rw [attachmentPipeline?, free]
  rfl

theorem arrive_attachmentPipeline? (s : Session) (owner : StreamOwner)
    (datagrams : List (List UInt8)) :
    (s.arrive owner datagrams).attachmentPipeline? = s.attachmentPipeline? := by
  cases owner with
  | attachment =>
      rcases hheld : s.attachment with _ | attachment
      · simp [Session.arrive, attachmentPipeline?, hheld]
      · simp [Session.arrive, attachmentPipeline?, hheld, AttachmentRun.receive_pipeline?]
  | override => rfl

theorem follow_of_attachment {p q : Pipeline} (hattachment : next.attachment = s.attachment)
    (hs : s.attachmentPipeline? = some p) (hnext : next.attachmentPipeline? = some q)
    (hcounters : s.counters.Follow p 0 next.counters p) :
    s.counters.Follow p (s.datagramsBetween next) next.counters q := by
  have hstream : next.stream? .attachment = s.stream? .attachment := by
    rw [stream?, stream?, hattachment]
  have hpipeline : next.attachmentPipeline? = s.attachmentPipeline? := by
    rw [attachmentPipeline?, attachmentPipeline?, hattachment]
  rw [hpipeline, hs] at hnext
  cases hnext
  rw [datagramsBetween_of_same hstream]
  exact hcounters

theorem datagramsBetween_arrive (s : Session) (owner : StreamOwner)
    (datagrams : List (List UInt8)) : s.datagramsBetween (s.arrive owner datagrams) = 0 := by
  have hstream := s.arrive_stream? owner .attachment datagrams
  cases owner with
  | override => exact datagramsBetween_of_same hstream
  | attachment =>
      rw [if_pos rfl] at hstream
      rw [datagramsBetween, hstream]
      cases s.stream? .attachment with
      | none => rfl
      | some stream => simp [Socket.receive]

/-- What the counters tell of a stream's step, they tell of the attachment that runs it. -/
theorem putStream_follow {before now : LiveStream} (r : Receiver)
    (held : s.stream? .attachment = some before) {p q : Pipeline}
    (hs : s.attachmentPipeline? = some p)
    (hnext : (putStream (s.withShared r) .attachment now).attachmentPipeline? = some q)
    (h : s.counters.Follow before.reconstruction.pipeline
      (before.socket.waiting.length - now.socket.waiting.length) r.counters
      now.reconstruction.pipeline) :
    s.counters.Follow p (s.datagramsBetween (putStream (s.withShared r) .attachment now))
      r.counters q := by
  obtain ⟨attachment, hheld, hrun⟩ := Option.bind_eq_some_iff.mp held
  rw [attachmentPipeline?_of_held hheld, AttachmentRun.stream?_eq_some hrun] at hs
  cases hs
  have hput : (putStream (s.withShared r) .attachment now).attachment =
      some { attachment with run := .live now } := congrArg (Option.map _) hheld
  rw [attachmentPipeline?_of_held hput] at hnext
  cases hnext
  rw [datagramsBetween, held, stream?_of_live hput rfl]
  exact h

/-- While no stream overrides, the counters follow the attachment's pipeline. -/
theorem Changes.follow (hc : Changes host s next pushes) {p q : Pipeline}
    (hs : s.attachmentPipeline? = some p) (hnext : next.attachmentPipeline? = some q)
    (alone : s.overriding = none) (stays : next.overriding = none) :
    s.counters.Follow p (s.datagramsBetween next) next.counters q := by
  cases hc with
  | keep => exact follow_of_attachment rfl hs hnext (.refl _ _)
  | record id endpoint free fixed => rw [attachmentPipeline?_of_free free] at hs; cases hs
  | bind id endpoint free unfixed stopped opens =>
      rw [attachmentPipeline?_of_free free] at hs; cases hs
  | bindAndRun id endpoint free unfixed started opens =>
      rw [attachmentPipeline?_of_free free] at hs; cases hs
  | giveUpLive held live alone => cases hnext
  | giveUpIdle held idle => cases hnext
  | arm stopped unfixed idle => exact follow_of_attachment rfl hs hnext (.refl _ _)
  | override stopped fixed opens => cases stays
  | @run attachment socket pipeline hasRun stopped unfixed held parked =>
      rw [attachmentPipeline?_of_held held, parked] at hs
      cases hs
      cases hnext
      rw [datagramsBetween_of_idle (by rw [stream?_of_held held, parked]; rfl)]
      exact s.launch_follow (if hasRun then socket.discardWaiting else socket) p s.config
  | bindRecorded stopped unfixed held unbound opens =>
      rw [attachmentPipeline?_of_held held, unbound] at hs; cases hs
  | close started running => rw [running] at alone; cases alone
  | park started held live alone =>
      rw [attachmentPipeline?_of_held held, live] at hs
      cases hs
      cases hnext
      rw [datagramsBetween_of_stopped rfl]
      exact s.halt_follow host _
  | disarm started alone idle => exact follow_of_attachment rfl hs hnext (.refl _ _)
  | configure config accepted =>
      refine follow_of_attachment rfl hs hnext ?_
      dsimp only
      split
      · exact .of_same rfl rfl rfl rfl (by simp [Counters.setOrder]) rfl rfl rfl
      · exact .refl _ _
  | describe sri => exact follow_of_attachment rfl hs hnext (.refl _ _)
  | @operate owner stream operation held =>
      cases owner with
      | attachment =>
          exact putStream_follow _ held hs hnext
            (stream.operate_follow s.pool s.counters (s.surroundings host) operation)
      | override => rw [stream?_of_alone alone] at held; cases held
  | arrive owner datagrams =>
      rw [arrive_attachmentPipeline?, hs] at hnext
      cases hnext
      rw [datagramsBetween_arrive]
      cases owner <;> exact .refl _ _

theorem Changes.fresh (hc : Changes host s next pushes) {q : Pipeline}
    (hs : s.attachmentPipeline? = none) (hnext : next.attachmentPipeline? = some q) :
    next.counters.Show q ∧ next.counters.received = 0 ∧ s.stream? .attachment = none := by
  have hkept (h : next.attachmentPipeline? = s.attachmentPipeline?) : False := by
    rw [h, hs] at hnext
    cases hnext
  cases hc with
  | keep => exact (hkept rfl).elim
  | record id endpoint free fixed => cases hnext
  | bind id endpoint free unfixed stopped opens =>
      obtain ⟨hshow, hnone⟩ := openStream_show opens
      cases hnext
      exact ⟨hshow, hnone, by simp [stream?, free]⟩
  | bindAndRun id endpoint free unfixed started opens =>
      obtain ⟨hshow, hnone⟩ := launch_opened_show opens s.config
      obtain ⟨port, -, rfl, -, -⟩ := openStream_eq_ok opens
      cases hnext
      exact ⟨hshow, hnone, by simp [stream?, free]⟩
  | giveUpLive held live alone => cases hnext
  | giveUpIdle held idle => cases hnext
  | arm stopped unfixed idle => exact (hkept rfl).elim
  | override stopped fixed opens =>
      obtain ⟨port, -, rfl, -, -⟩ := openStream_eq_ok opens
      exact (hkept rfl).elim
  | run stopped unfixed held parked =>
      rw [attachmentPipeline?_of_held held, parked] at hs; cases hs
  | bindRecorded stopped unfixed held unbound opens =>
      obtain ⟨hshow, hnone⟩ := launch_opened_show opens s.config
      obtain ⟨port, -, rfl, -, -⟩ := openStream_eq_ok opens
      cases hnext
      exact ⟨hshow, hnone, by rw [stream?_of_held held, unbound]; rfl⟩
  | close started running => exact (hkept rfl).elim
  | park started held live alone =>
      rw [attachmentPipeline?_of_held held, live] at hs; cases hs
  | disarm started alone idle => exact (hkept rfl).elim
  | configure config accepted => exact (hkept rfl).elim
  | describe sri => exact (hkept rfl).elim
  | @operate owner stream operation held =>
      cases owner with
      | attachment =>
          obtain ⟨attachment, hheld, hrun⟩ := Option.bind_eq_some_iff.mp held
          rw [attachmentPipeline?_of_held hheld, AttachmentRun.stream?_eq_some hrun] at hs
          cases hs
      | override => exact (hkept rfl).elim
  | arrive owner datagrams => exact (hkept (s.arrive_attachmentPipeline? owner datagrams)).elim

/-- While a stream overrides, the counters show its pipeline. -/
theorem Changes.overriding_show (hs : s.Exclusive) (hc : Changes host s next pushes)
    (h : ∀ o, s.overriding = some o → s.counters.Show o.stream.reconstruction.pipeline)
    {o : OverridingStream} (running : next.overriding = some o) :
    next.counters.Show o.stream.reconstruction.pipeline := by
  have hnever (hnone : s.overriding = none) (hsame : next.overriding = s.overriding) : False := by
    rw [hsame, hnone] at running
    cases running
  cases hc with
  | keep => exact h o running
  | record id endpoint free fixed => exact h o running
  | bind id endpoint free unfixed stopped opens =>
      obtain ⟨port, -, rfl, -, -⟩ := openStream_eq_ok opens
      exact (hnever (hs.override_eq_none (.inl stopped)) rfl).elim
  | bindAndRun id endpoint free unfixed started opens =>
      obtain ⟨port, -, rfl, -, -⟩ := openStream_eq_ok opens
      exact (hnever (hs.override_eq_none (.inr unfixed)) rfl).elim
  | giveUpLive held live alone => exact (hnever alone rfl).elim
  | giveUpIdle held idle =>
      have hcounters : s.releaseSocket.counters = s.counters := by
        have hrunning : s.overriding = some o := running
        simp [releaseSocket, hrunning]
      simp only [syncState, hcounters]
      exact h o running
  | arm stopped unfixed idle => exact h o running
  | override stopped fixed opens =>
      cases running
      exact (launch_opened_show opens s.config.forOverride).1
  | run stopped unfixed held parked =>
      exact (hnever (hs.override_eq_none (.inl stopped)) rfl).elim
  | bindRecorded stopped unfixed held unbound opens =>
      obtain ⟨port, -, rfl, -, -⟩ := openStream_eq_ok opens
      exact (hnever (hs.override_eq_none (.inl stopped)) rfl).elim
  | close started running' => cases running
  | park started held live alone => exact (hnever alone rfl).elim
  | disarm started alone idle => exact (hnever alone rfl).elim
  | configure config accepted =>
      have hshow := h o running
      dsimp only
      split
      · exact hshow.of_same rfl rfl rfl rfl
      · exact hshow
  | describe sri => exact h o running
  | @operate owner stream operation held =>
      cases owner with
      | attachment =>
          have hunfixed := (hs.unfixed_of_live held).2
          exact (hnever (hs.override_eq_none (.inr hunfixed)) rfl).elim
      | override =>
          obtain ⟨before, hbefore, rfl⟩ := Option.map_eq_some_iff.mp held
          have hfollow := before.stream.operate_follow s.pool s.counters (s.surroundings host)
            operation
          simp only [putStream, withShared, hbefore, Option.map_some, Option.some.injEq] at running
          subst running
          exact hfollow.show (h before hbefore)
  | arrive owner datagrams =>
      cases owner with
      | attachment => exact h o running
      | override =>
          obtain ⟨before, hbefore, rfl⟩ := Option.map_eq_some_iff.mp running
          exact h before hbefore

end Changes

section After
variable (config : Config) (log : List (SessionHost × SessionEvent))

theorem after_overriding_show : ∀ o, ((initial config).after log).overriding = some o →
    ((initial config).after log).counters.Show o.stream.reconstruction.pipeline := by
  induction log with
  | nil =>
      intro o running
      cases running
  | cons x earlier ih =>
      intro o running
      have hbefore := after_exclusive config earlier
      exact Changes.overriding_show hbefore (event_changes _ x.1 hbefore.oneStream x.2) ih running

/-- A socket that no stream has overridden since it was bound is not overridden now. -/
theorem alone_of_not_overridden {s : Session} {earlier : List Session}
    (hnever : overridden (s :: earlier) = false) (held : s.attachmentSocket?.isSome) :
    s.overriding = none ∧ overridden earlier = false := by
  rw [overridden_cons, nowOverridden, held, Bool.true_and, Bool.or_eq_false_iff] at hnever
  exact ⟨by simpa using hnever.1, hnever.2⟩

theorem after_attachment_show {p : Pipeline}
    (held : ((initial config).after log).attachmentPipeline? = some p)
    (hnever : overridden ((initial config).past log) = false) :
    ((initial config).after log).counters.Show p ∧
      ((initial config).after log).counters.received =
        UInt64.ofNat (datagramsRead ((initial config).past log)) := by
  induction log generalizing p with
  | nil => cases held
  | cons x earlier ih =>
      let s := (initial config).after earlier
      let next := (initial config).after (x :: earlier)
      have hbefore : s.Exclusive := after_exclusive config earlier
      have hchanges : Changes x.1 s next _ := event_changes _ x.1 hbefore.oneStream x.2
      have hsocket : next.attachmentSocket?.isSome := by
        rw [← isSome_attachmentPipeline?, held]
        rfl
      obtain ⟨hstays, hnever⟩ := alone_of_not_overridden hnever hsocket
      obtain ⟨rest, hpast⟩ := (initial config).past_eq_cons earlier
      rw [datagramsRead_past, if_pos hsocket]
      cases hs : s.attachmentPipeline? with
      | none =>
          -- The socket was bound by this event, and nothing has been read yet.
          have hnone : s.attachmentSocket?.isSome = false := by
            rw [← isSome_attachmentPipeline?, hs]
            rfl
          obtain ⟨hshow, hreceived, hidle⟩ := hchanges.fresh hs held
          have hread : datagramsRead ((initial config).past earlier) = 0 := by
            rw [hpast, datagramsRead_of_none hnone]
          refine ⟨hshow, ?_⟩
          rw [hread, datagramsBetween_of_idle hidle]
          exact hreceived
      | some q =>
          have hbound : s.attachmentSocket?.isSome := by
            rw [← isSome_attachmentPipeline?, hs]
            rfl
          have halone := (alone_of_not_overridden (hpast ▸ hnever) hbound).1
          obtain ⟨hshow, hreceived⟩ := ih hs hnever
          have hfollow := hchanges.follow hs held halone hstays
          refine ⟨hfollow.show hshow, ?_⟩
          rw [UInt64.ofNat_add, ← hreceived]
          exact hfollow.received

/-- As long as an attachment holds its socket and no stream overrides it, the counters follow
it. -/
theorem after_attachment_follow (recent : List (SessionHost × SessionEvent))
    (hheld : ∀ s ∈ ((initial config).after log).past recent,
      s.attachmentSocket?.isSome ∧ s.overriding = none) {p q : Pipeline}
    (hfirst : ((initial config).after log).attachmentPipeline? = some p)
    (hlast : (((initial config).after log).after recent).attachmentPipeline? = some q) :
    ((initial config).after log).counters.Follow p
      (datagramsRead (((initial config).after log).past recent))
      (((initial config).after log).after recent).counters q := by
  induction recent generalizing q with
  | nil =>
      cases hfirst.symm.trans hlast
      exact .refl _ _
  | cons x recent ih =>
      let first := (initial config).after log
      let s := first.after recent
      have hs : s.Exclusive := by
        have hafter := after_exclusive config (recent ++ log)
        rwa [after_append] at hafter
      have hchanges := event_changes s x.1 hs.oneStream x.2
      obtain ⟨rest, hpast⟩ := first.past_eq_cons recent
      obtain ⟨hsocket, halone⟩ := hheld s (List.mem_cons_of_mem _ (hpast ▸ List.mem_cons_self))
      obtain ⟨hnow, hstays⟩ := hheld _ List.mem_cons_self
      rw [← isSome_attachmentPipeline?] at hsocket
      obtain ⟨r, hr⟩ := Option.isSome_iff_exists.mp hsocket
      have hbefore := ih (fun t ht => hheld t (List.mem_cons_of_mem _ ht)) hr
      rw [datagramsRead_past, if_pos hnow]
      exact hbefore.trans (hchanges.follow hr hlast halone hstays)

end After

theorem status_counters (s : Session) (queueDepth : UInt16 → UInt64) :
    (s.status queueDepth).counters = s.counters := by
  unfold status
  dsimp only
  split <;> rfl

/-- An attachment runs, and two datagrams of a width that no lane has are read and tracked. Two
more have been lost between them. -/
def twoDatagrams : List SessionEvent :=
  let datagram (n : UInt8) : List UInt8 := 0x82 :: 0x0c :: 0 :: n :: List.replicate 1076 0
  let operations := .ingest .nothing :: oneByOne ++ oneByOne
  [.call (.attach ⟨"a", .loopback, 0, 0⟩ ""), .call .start,
    .arrive .attachment [datagram 0, datagram 3]] ++ operations.map (.operate .attachment)

end Session

end SddsReceiver
