import SddsReceiver.Proofs.Receiver.Running
import SddsReceiver.Proofs.Session.Events

/-!
# One stream at a time

All streams of a session share one pool, so no two of them may run at once. What runs follows
from three things: whether the session is started, whether the configuration fixes an
endpoint, and whether there is an attachment. The lock on the fixed endpoint while the session
is started keeps it so, and every operation that lets a stream go has seen it end.

A recorded stream goes on by itself and never ends, and the state that is noted always agrees
with what the session holds.
-/
namespace SddsReceiver

/-- Both tasks of the stream run, and neither has begun to end. -/
def LiveStream.alive (l : LiveStream) : Bool := l.ingest.receives && !l.reconstruction.hasEnded

/-- The attachment runs, or has been noted to have run. -/
def AttachmentRun.hasRun : AttachmentRun → Bool
  | unbound => false
  | parked _ _ hasRun => hasRun
  | live _ => true

theorem StreamOwner.exists {p : StreamOwner → Prop} :
    (∃ owner, p owner) ↔ p .attachment ∨ p .override := by
  constructor
  · rintro ⟨owner, h⟩
    cases owner
    · exact .inl h
    · exact .inr h
  · rintro (h | h)
    · exact ⟨_, h⟩
    · exact ⟨_, h⟩

theorem StreamOwner.forall {p : StreamOwner → Prop} :
    (∀ owner, p owner) ↔ p .attachment ∧ p .override :=
  ⟨fun h => ⟨h _, h _⟩, fun h owner => match owner with
    | .attachment => h.1
    | .override => h.2⟩

namespace Session

def alive (s : Session) (owner : StreamOwner) : Bool := (s.stream? owner).any LiveStream.alive

def attachmentSocket? (s : Session) : Option Socket :=
  s.attachment.bind fun attachment => attachment.run.socket?

/-- The attachment's stream has been alive at some time since the attachment was made. -/
def attachmentHasRun (past : List Session) : Bool :=
  everSince (fun s => s.attachment.isSome) (fun s => s.alive .attachment) past

/-- At most one stream is recorded, as the configuration has it, and it goes on. -/
structure Exclusive (s : Session) : Prop where
  override_eq : (s.stream? .override).isSome = (s.started && s.config.override.enabled)
  attachment_eq : (s.stream? .attachment).isSome =
    (s.started && !s.config.override.enabled && s.attachment.isSome)
  state_eq : s.state = s.currentState
  goesOn : ∀ owner stream, s.stream? owner = some stream →
    (stream.toReceiver s.pool s.counters).GoesOn

theorem Exclusive.initial (config : Config) : (Session.initial config).Exclusive where
  override_eq := rfl
  attachment_eq := rfl
  state_eq := rfl
  goesOn owner stream held := by cases owner <;> cases held

theorem currentState_of_override {s : Session} {overriding : OverridingStream}
    (running : s.overriding = some overriding) : s.currentState = .running := by
  rw [currentState, running]

theorem currentState_of_live {s : Session} {attachment : Attachment} {stream : LiveStream}
    (alone : s.overriding = none) (held : s.attachment = some attachment)
    (live : attachment.run = .live stream) : s.currentState = .running := by
  simp only [currentState, alone, held, live]

theorem goesOn_of_counters {stream : LiveStream} {pool : Pool} {c : Counters} (d : Counters)
    (h : (stream.toReceiver pool c).GoesOn) : (stream.toReceiver pool d).GoesOn :=
  ⟨h.receives, h.orderly, h.reconstruction⟩

theorem goesOn_launch (s : Session) (socket : Socket) (pipeline : Pipeline) (config : Config) :
    let launched := s.launch socket pipeline config
    (launched.2.toReceiver launched.1.pool launched.1.counters).GoesOn :=
  .launch _ _ _ _

namespace Exclusive
variable {s : Session}

theorem override_eq_none (h : s.Exclusive)
    (hno : s.started = false ∨ s.config.override.enabled = false) : s.overriding = none := by
  have hnone : (s.stream? .override).isSome = false := by
    rw [h.override_eq]
    rcases hno with hno | hno <;> simp [hno]
  simpa [stream?] using hnone

theorem attachment_eq_none (h : s.Exclusive)
    (hno : s.started = false ∨ s.config.override.enabled = true) :
    s.stream? .attachment = none := by
  have hnone : (s.stream? .attachment).isSome = false := by
    rw [h.attachment_eq]
    rcases hno with hno | hno <;> simp [hno]
  simpa using hnone

theorem fixed_of_override (h : s.Exclusive) (hsome : s.overriding.isSome) :
    s.started = true ∧ s.config.override.enabled = true := by
  rw [← Bool.and_eq_true_iff, ← h.override_eq, stream?, Option.isSome_map, hsome]

theorem attachment_eq_none_of_override (h : s.Exclusive) (hsome : s.overriding.isSome) :
    s.stream? .attachment = none :=
  h.attachment_eq_none (.inr (h.fixed_of_override hsome).2)

theorem alive_eq (h : s.Exclusive) (owner : StreamOwner) :
    s.alive owner = (s.stream? owner).isSome := by
  cases hheld : s.stream? owner with
  | none => simp [alive, hheld]
  | some stream =>
      have hgoes := h.goesOn owner stream hheld
      have halive : stream.alive = true := by
        rw [LiveStream.alive, Bool.and_eq_true_iff, Bool.not_eq_true']
        exact ⟨hgoes.receives, hgoes.reconstruction.hasEnded_eq⟩
      simp [alive, hheld, halive]

theorem oneStream (h : s.Exclusive) : s.OneStream := h.attachment_eq_none_of_override

theorem of_none {next : Session} (hoverride : next.overriding = none)
    (hattachment : next.stream? .attachment = none)
    (hstate : next.state = next.currentState)
    (hidle : next.started = false ∨
      (next.config.override.enabled = false ∧ next.attachment = none)) : next.Exclusive := by
  have hnone := stream?_of_alone hoverride
  refine ⟨?_, ?_, hstate, ?_⟩
  · rw [hnone]
    rcases hidle with hidle | hidle <;> simp [hidle]
  · rw [hattachment]
    rcases hidle with hidle | hidle <;> simp [hidle]
  · intro owner stream held
    cases owner
    · rw [hattachment] at held; cases held
    · rw [hnone] at held; cases held

theorem of_attachment {next : Session} {attachment : Attachment} {stream : LiveStream}
    (hstarted : next.started = true) (hunfixed : next.config.override.enabled = false)
    (hoverride : next.overriding = none) (hheld : next.attachment = some attachment)
    (hlive : attachment.run = .live stream) (hstate : next.state = next.currentState)
    (hgoes : (stream.toReceiver next.pool next.counters).GoesOn) : next.Exclusive := by
  have hnone := stream?_of_alone hoverride
  have hsome := stream?_of_live hheld hlive
  refine ⟨?_, ?_, hstate, ?_⟩
  · rw [hnone, hstarted, hunfixed]
    rfl
  · rw [hsome, hstarted, hunfixed, hheld]
    rfl
  · intro owner other held
    cases owner
    · rw [hsome] at held
      cases held
      exact hgoes
    · rw [hnone] at held; cases held

theorem of_override {next : Session} {overriding : OverridingStream}
    (hstarted : next.started = true) (hfixed : next.config.override.enabled = true)
    (hrunning : next.overriding = some overriding)
    (hattachment : next.stream? .attachment = none) (hstate : next.state = next.currentState)
    (hgoes : (overriding.stream.toReceiver next.pool next.counters).GoesOn) : next.Exclusive := by
  have hsome := stream?_of_overriding hrunning
  refine ⟨?_, ?_, hstate, ?_⟩
  · rw [hsome, hstarted, hfixed]
    rfl
  · rw [hattachment, hstarted, hfixed]
    rfl
  · intro owner other held
    cases owner
    · rw [hattachment] at held; cases held
    · rw [hsome] at held
      cases held
      exact hgoes

theorem beside {next : Session} (h : s.Exclusive) (hconfig : next.config = s.config)
    (hstarted : next.started = s.started) (hoverride : next.overriding = s.overriding)
    (hpool : next.pool = s.pool) (hattachment : next.stream? .attachment = none)
    (hstate : next.state = next.currentState)
    (hidle : next.attachment = none ∨ s.config.override.enabled = true) : next.Exclusive := by
  have hsame : next.stream? .override = s.stream? .override := by rw [stream?, stream?, hoverride]
  refine ⟨?_, ?_, hstate, ?_⟩
  · rw [hsame, hconfig, hstarted]
    exact h.override_eq
  · rw [hattachment, hconfig]
    rcases hidle with hidle | hidle <;> simp [hidle]
  · intro owner stream held
    cases owner
    · rw [hattachment] at held; cases held
    · rw [hpool]
      exact goesOn_of_counters _ (h.goesOn .override stream (hsame ▸ held))

/-- Only a running attachment lets an endpoint be unfixed and the session started. -/
theorem unfixed_of_live (h : s.Exclusive) {stream : LiveStream}
    (hlive : s.stream? .attachment = some stream) :
    s.started = true ∧ s.config.override.enabled = false := by
  have heq := h.attachment_eq
  rw [hlive] at heq
  have hboth := (Bool.and_eq_true_iff.mp heq.symm).1
  simpa using hboth

end Exclusive

section Configure
variable {s : Session} {config : Config}

theorem override_of_accepted (accepted : s.configFault? config = none) :
    s.started = false ∨ s.config.override = config.override := by
  unfold configFault? at accepted
  split at accepted
  · cases accepted
  · split at accepted
    · cases accepted
    · cases hstarted : s.started with
      | false => exact .inl rfl
      | true =>
          simp only [hstarted, Bool.true_and, bne_iff_ne, ne_eq, ite_not,
            ite_eq_left_iff, reduceCtorEq, imp_false, not_not] at accepted
          exact .inr accepted

theorem Exclusive.configure (h : s.Exclusive) (accepted : s.configFault? config = none)
    (headroom : Nat) (counters : Counters) :
    Exclusive { s with config := config, headroom := headroom, counters := counters } := by
  have hoverride : ∀ b, (s.started && (b && s.config.override.enabled)) =
      (s.started && (b && config.override.enabled)) := by
    intro b
    rcases override_of_accepted accepted with hstopped | hsame
    · rw [hstopped]; rfl
    · rw [hsame]
  refine ⟨?_, ?_, h.state_eq, fun owner stream held =>
    goesOn_of_counters _ (h.goesOn owner stream held)⟩
  · exact h.override_eq.trans (by simpa using hoverride true)
  · refine h.attachment_eq.trans ?_
    rcases override_of_accepted accepted with hstopped | hsame
    · simp [hstopped]
    · simp [hsame]

end Configure

section Operate
variable {s : Session} {host : SessionHost}

theorem reading_ne_cancelled (socket : Socket) (answer : SocketAnswer) :
    socket.reading answer ≠ .cancelled := by
  cases answer with
  | oldest => cases hwaiting : socket.waiting <;> simp [Socket.reading, hwaiting]
  | nothing => exact nofun
  | failure => exact nofun

/-- A stream goes on after each operation of its tasks. -/
theorem goesOn_operate {stream : LiveStream} {pool : Pool} {c : Counters}
    (h : (stream.toReceiver pool c).GoesOn) (t : Surroundings) (operation : TaskOperation) :
    ((stream.operate pool c t operation).1.toReceiver (stream.operate pool c t operation).2.pool
      (stream.operate pool c t operation).2.counters).GoesOn := by
  cases operation with
  | ingest answer =>
      obtain ⟨hreceives, horderly, hreconstruction⟩ :=
        h.ingestStep (reading_ne_cancelled stream.socket answer)
      exact ⟨hreceives, horderly, hreconstruction⟩
  | reconstruct =>
      obtain ⟨hreceives, horderly, hreconstruction⟩ := h.reconstructStep (s := t)
      exact ⟨hreceives, horderly, hreconstruction⟩

theorem Exclusive.putStream (h : s.Exclusive) {owner : StreamOwner} {stream next : LiveStream}
    (held : s.stream? owner = some stream) {r : Receiver}
    (hgoes : (next.toReceiver r.pool r.counters).GoesOn) :
    ((s.withShared r).putStream owner next).Exclusive := by
  cases owner with
  | attachment =>
      obtain ⟨hstarted, hunfixed⟩ := h.unfixed_of_live held
      obtain ⟨attachment, hheld, hrun⟩ := Option.bind_eq_some_iff.mp held
      have halone := h.override_eq_none (.inr hunfixed)
      have hbeside : ((s.withShared r).putStream .attachment next).overriding = none := halone
      have hput : ((s.withShared r).putStream .attachment next).attachment =
          some { attachment with run := .live next } := congrArg (Option.map _) hheld
      have hstate : s.state = .running := h.state_eq.trans
        (currentState_of_live halone hheld (AttachmentRun.stream?_eq_some hrun))
      exact .of_attachment hstarted hunfixed hbeside hput rfl
        (hstate.trans (currentState_of_live hbeside hput rfl).symm) hgoes
  | override =>
      obtain ⟨overriding, hheld, hstream⟩ := Option.map_eq_some_iff.mp held
      obtain ⟨hstarted, hfixed⟩ := h.fixed_of_override (Option.isSome_of_eq_some hheld)
      have hput : ((s.withShared r).putStream .override next).overriding =
          some { overriding with stream := next } := congrArg (Option.map _) hheld
      have hstate : s.state = .running := h.state_eq.trans (currentState_of_override hheld)
      exact .of_override hstarted hfixed hput (h.attachment_eq_none (.inr hfixed))
        (hstate.trans (currentState_of_override hput).symm) hgoes

theorem receive_stream? (run : AttachmentRun) (datagrams : List (List UInt8)) :
    (run.receive datagrams).stream? =
      run.stream?.map fun l => { l with socket := l.socket.receive datagrams } := by
  cases run <;> rfl

theorem arrive_currentState (s : Session) (owner : StreamOwner) (datagrams : List (List UInt8)) :
    (s.arrive owner datagrams).currentState = s.currentState := by
  cases owner with
  | attachment =>
      rcases hrunning : s.overriding with _ | overriding
      · rcases hheld : s.attachment with _ | ⟨id, endpoint, bound, run⟩
        · simp [Session.arrive, currentState, hrunning, hheld]
        · rcases run with _ | ⟨socket, pipeline, hasRun⟩ | stream
          · simp [Session.arrive, currentState, hrunning, hheld, AttachmentRun.receive]
          · cases hasRun <;>
              simp [Session.arrive, currentState, hrunning, hheld, AttachmentRun.receive]
          · simp [Session.arrive, currentState, hrunning, hheld, AttachmentRun.receive]
      · simp [Session.arrive, currentState, hrunning]
  | override =>
      rcases hrunning : s.overriding with _ | overriding
      · simp [Session.arrive, currentState, hrunning]
      · simp [Session.arrive, currentState, hrunning]

theorem arrive_stream? (s : Session) (owner other : StreamOwner)
    (datagrams : List (List UInt8)) :
    (s.arrive owner datagrams).stream? other =
      if owner = other then
        (s.stream? other).map fun l => { l with socket := l.socket.receive datagrams }
      else s.stream? other := by
  cases owner <;> cases other
  · rcases hheld : s.attachment with _ | attachment
    · simp [Session.arrive, stream?, hheld]
    · simp [Session.arrive, stream?, hheld, receive_stream?]
  · simp [Session.arrive, stream?]
  · simp [Session.arrive, stream?]
  · simp [Session.arrive, stream?, Function.comp_def]

theorem Exclusive.arrive (h : s.Exclusive) (owner : StreamOwner)
    (datagrams : List (List UInt8)) : (s.arrive owner datagrams).Exclusive := by
  have hsome : ∀ other, ((s.arrive owner datagrams).stream? other).isSome =
      (s.stream? other).isSome := by
    intro other
    rw [arrive_stream?]
    split <;> simp
  have hattachment : (s.arrive owner datagrams).attachment.isSome = s.attachment.isSome := by
    cases owner <;> simp [Session.arrive]
  have hshared : (s.arrive owner datagrams).started = s.started ∧
      (s.arrive owner datagrams).config = s.config ∧
      (s.arrive owner datagrams).state = s.state ∧
      (s.arrive owner datagrams).pool = s.pool := by cases owner <;> exact ⟨rfl, rfl, rfl, rfl⟩
  obtain ⟨hstarted, hconfig, hstate, hpool⟩ := hshared
  refine ⟨?_, ?_, ?_, ?_⟩
  · rw [hsome, hstarted, hconfig]
    exact h.override_eq
  · rw [hsome, hstarted, hconfig, hattachment]
    exact h.attachment_eq
  · rw [hstate, arrive_currentState]
    exact h.state_eq
  · -- The tasks' part of a stream is the one it had before the datagrams arrived.
    intro other stream held
    rw [arrive_stream?] at held
    rw [hpool]
    split at held
    · obtain ⟨l, hl, rfl⟩ := Option.map_eq_some_iff.mp held
      obtain ⟨hreceives, horderly, hreconstruction⟩ := h.goesOn other l hl
      exact ⟨hreceives, horderly, hreconstruction⟩
    · exact goesOn_of_counters _ (h.goesOn other stream held)

end Operate

theorem Exclusive.changes {s next : Session} {host : SessionHost} {pushes : List Push}
    (h : s.Exclusive) (hc : Changes host s next pushes) : next.Exclusive := by
  cases hc with
  | keep => exact h
  | record id endpoint free fixed => exact h.beside rfl rfl rfl rfl rfl rfl (.inr fixed)
  | bind id endpoint free unfixed stopped opens =>
      obtain ⟨port, -, rfl, -, -⟩ := openStream_eq_ok opens
      exact .of_none (h.override_eq_none (.inl stopped)) rfl rfl (.inl stopped)
  | bindAndRun id endpoint free unfixed started opens =>
      obtain ⟨port, -, rfl, -, -⟩ := openStream_eq_ok opens
      exact .of_attachment started unfixed (h.override_eq_none (.inr unfixed)) rfl rfl rfl
        (goesOn_launch _ _ _ _)
  | giveUpLive held live alone =>
      have hlive := stream?_of_live held live
      exact .of_none alone rfl rfl (.inr ⟨(h.unfixed_of_live hlive).2, rfl⟩)
  | giveUpIdle held idle => exact h.beside rfl rfl rfl rfl rfl rfl (.inl rfl)
  | arm stopped unfixed idle =>
      -- What is idle is only what runs already, and nothing runs while the session is stopped.
      have hnone := h.attachment_eq_none (.inl stopped)
      have hfree : s.attachment = none := by
        by_contra hsome
        obtain ⟨attachment, hheld⟩ := Option.ne_none_iff_exists'.mp hsome
        obtain ⟨stream, hlive⟩ := idle attachment hheld
        rw [stream?_of_live hheld hlive] at hnone
        cases hnone
      exact .of_none (h.override_eq_none (.inl stopped)) hnone rfl (.inr ⟨unfixed, hfree⟩)
  | override stopped fixed opens =>
      obtain ⟨port, -, rfl, -, -⟩ := openStream_eq_ok opens
      exact .of_override rfl fixed rfl (h.attachment_eq_none (.inl stopped)) rfl
        (goesOn_launch _ _ _ _)
  | run stopped unfixed held parked =>
      exact .of_attachment rfl unfixed (h.override_eq_none (.inl stopped)) rfl rfl rfl
        (goesOn_launch _ _ _ _)
  | bindRecorded stopped unfixed held unbound opens =>
      obtain ⟨port, -, rfl, -, -⟩ := openStream_eq_ok opens
      exact .of_attachment rfl unfixed (h.override_eq_none (.inl stopped)) rfl rfl rfl
        (goesOn_launch _ _ _ _)
  | close started running =>
      have hidle := h.attachment_eq_none_of_override (Option.isSome_of_eq_some running)
      exact .of_none rfl hidle rfl (.inl rfl)
  | park started held live alone => exact .of_none alone rfl rfl (.inl rfl)
  | disarm started alone idle => exact .of_none alone idle rfl (.inl rfl)
  | configure config accepted => exact h.configure accepted _ _
  | describe sri => exact ⟨h.override_eq, h.attachment_eq, h.state_eq, h.goesOn⟩
  | operate operation held =>
      exact h.putStream held (goesOn_operate (h.goesOn _ _ held) (s.surroundings host) operation)
  | arrive owner datagrams => exact h.arrive owner datagrams

theorem after_exclusive (config : Config) (log : List (SessionHost × SessionEvent)) :
    ((initial config).after log).Exclusive := by
  induction log with
  | nil => exact .initial config
  | cons x earlier ih => exact ih.changes (event_changes _ x.1 ih.oneStream x.2)

theorem hasRun_of_stream (s : Session) :
    (s.attachment.isSome && ((s.stream? .attachment).isSome ||
      s.attachment.any fun a => a.run.hasRun)) = s.attachment.any fun a => a.run.hasRun := by
  rcases hheld : s.attachment with _ | attachment
  · rfl
  · cases hrun : attachment.run <;>
      simp [stream?, hheld, hrun, AttachmentRun.stream?, AttachmentRun.hasRun]

/-- An attachment is noted to have run when its stream stops, and never before. -/
theorem hasRun_changes {s next : Session} {host : SessionHost} {pushes : List Push}
    (hc : Changes host s next pushes) :
    (next.attachment.isSome && ((next.stream? .attachment).isSome ||
      s.attachment.any fun a => a.run.hasRun)) = next.attachment.any fun a => a.run.hasRun := by
  cases hc with
  | keep => exact s.hasRun_of_stream
  | record id endpoint free fixed => rw [free]; rfl
  | bind id endpoint free unfixed stopped opens => rw [free]; rfl
  | bindAndRun id endpoint free unfixed started opens => rfl
  | giveUpLive held live alone => rfl
  | giveUpIdle held idle => rfl
  | arm stopped unfixed idle => exact s.hasRun_of_stream
  | override stopped fixed opens =>
      obtain ⟨port, -, rfl, -, -⟩ := openStream_eq_ok opens
      exact s.hasRun_of_stream
  | run stopped unfixed held parked => rfl
  | bindRecorded stopped unfixed held unbound opens => rfl
  | close started running => exact s.hasRun_of_stream
  | park started held live alone =>
      rw [held, Option.any_some, live]
      rfl
  | disarm started alone idle => exact s.hasRun_of_stream
  | configure config accepted => exact s.hasRun_of_stream
  | describe sri => exact s.hasRun_of_stream
  | @operate owner stream operation held =>
      cases owner with
      | attachment =>
          obtain ⟨attachment, hheld, hrun⟩ := Option.bind_eq_some_iff.mp held
          simp [putStream, withShared, stream?, hheld, AttachmentRun.stream?, AttachmentRun.hasRun]
      | override => exact s.hasRun_of_stream
  | arrive owner datagrams =>
      cases owner with
      | attachment =>
          rcases hheld : s.attachment with _ | attachment
          · simp [Session.arrive, hheld]
          · cases hrun : attachment.run <;>
              simp [Session.arrive, stream?, hheld, hrun, AttachmentRun.receive,
                AttachmentRun.stream?, AttachmentRun.hasRun]
      | override => exact s.hasRun_of_stream

theorem after_hasRun (config : Config) (log : List (SessionHost × SessionEvent)) :
    attachmentHasRun ((initial config).past log) =
      ((initial config).after log).attachment.any fun a => a.run.hasRun := by
  induction log with
  | nil => rfl
  | cons x earlier ih =>
      -- One more session in the past decides by what is alive in it and what was so before.
      have hbefore := after_exclusive config earlier
      have hchanges := event_changes _ x.1 hbefore.oneStream x.2
      rw [attachmentHasRun] at ih ⊢
      rw [past, everSince_cons, ih, (after_exclusive config (x :: earlier)).alive_eq]
      exact hasRun_changes hchanges

/-- What a session with at most one stream may be found doing. -/
inductive Situation (s : Session) : Prop
  | overriding {overriding : OverridingStream} (started : s.started = true)
      (fixed : s.config.override.enabled = true) (running : s.overriding = some overriding)
      (idle : s.stream? .attachment = none) (state : s.state = .running)
  | running {attachment : Attachment} {stream : LiveStream} (started : s.started = true)
      (unfixed : s.config.override.enabled = false) (alone : s.overriding = none)
      (held : s.attachment = some attachment) (live : attachment.run = .live stream)
      (state : s.state = .running)
  | parked {attachment : Attachment} {socket : Socket} {pipeline : Pipeline} {hasRun : Bool}
      (stopped : s.started = false) (alone : s.overriding = none)
      (held : s.attachment = some attachment)
      (parked : attachment.run = .parked socket pipeline hasRun)
      (state : s.state = if hasRun then .stopped else .attached)
  | recorded {attachment : Attachment} (stopped : s.started = false)
      (alone : s.overriding = none) (held : s.attachment = some attachment)
      (unbound : attachment.run = .unbound) (state : s.state = .attached)
  | free (alone : s.overriding = none) (free : s.attachment = none)
      (unfixed : s.started = true → s.config.override.enabled = false)
      (state : s.state = if s.started then .armed else .idle)

theorem Exclusive.stopped_of_idle {s : Session} (h : s.Exclusive) (alone : s.overriding = none)
    (held : s.attachment.isSome) (idle : s.stream? .attachment = none) : s.started = false := by
  have hoverride := h.override_eq
  have hattachment := h.attachment_eq
  rw [stream?, alone] at hoverride
  rw [idle, held] at hattachment
  cases hstarted : s.started with
  | false => rfl
  | true => cases hfixed : s.config.override.enabled <;> simp_all

theorem Exclusive.situation {s : Session} (h : s.Exclusive) : s.Situation := by
  have hstate := h.state_eq
  rcases hrunning : s.overriding with _ | overriding
  · rcases hheld : s.attachment with _ | attachment
    · have hunfixed : s.started = true → s.config.override.enabled = false := by
        intro hstarted
        have hoverride := h.override_eq
        rw [stream?, hrunning, hstarted] at hoverride
        simpa using hoverride.symm
      rw [currentState, hrunning, hheld] at hstate
      exact .free hrunning hheld hunfixed hstate
    · have hsome : s.attachment.isSome := Option.isSome_of_eq_some hheld
      rcases hrun : attachment.run with _ | ⟨socket, pipeline, hasRun⟩ | stream
      · have hidle : s.stream? .attachment = none := by
          rw [stream?_of_held hheld, hrun]
          rfl
        refine .recorded (h.stopped_of_idle hrunning hsome hidle) hrunning hheld hrun ?_
        simpa only [currentState, hrunning, hheld, hrun] using hstate
      · have hidle : s.stream? .attachment = none := by
          rw [stream?_of_held hheld, hrun]
          rfl
        refine .parked (h.stopped_of_idle hrunning hsome hidle) hrunning hheld hrun ?_
        rw [hstate]
        cases hasRun <;> simp [currentState, hrunning, hheld, hrun]
      · obtain ⟨hstarted, hunfixed⟩ := h.unfixed_of_live (stream?_of_live hheld hrun)
        exact .running hstarted hunfixed hrunning hheld hrun
          (hstate.trans (currentState_of_live hrunning hheld hrun))
  · have hsome : s.overriding.isSome := Option.isSome_of_eq_some hrunning
    obtain ⟨hstarted, hfixed⟩ := h.fixed_of_override hsome
    exact .overriding hstarted hfixed hrunning (h.attachment_eq_none_of_override hsome)
      (hstate.trans (currentState_of_override hrunning))

/-- A stream that its session gives up ends with both of its tasks. -/
theorem Exclusive.halt_ended {s : Session} (h : s.Exclusive) (host : SessionHost)
    {owner : StreamOwner} {stream : LiveStream} (held : s.stream? owner = some stream) :
    (s.halt host stream).ingest.phase = .ended ∧
      (s.halt host stream).reconstruction.hasEnded := by
  unfold halt
  exact Receiver.shutdown_hasEnded (h.goesOn owner stream held).orderly

end Session

end SddsReceiver
