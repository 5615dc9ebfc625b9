import SddsReceiver.Proofs.Receiver.Taken
import SddsReceiver.Proofs.Session.Figures

/-!
# What a call makes of the attachment's socket

A call keeps the attachment's socket as it is, or drops it, or binds one in which nothing waits.
Only a start makes a parked attachment run, and only a stop parks it again. Whether a start
throws away what waits depends on one mark that the attachment carries, which says whether it
has run. The pipeline goes on behind the socket: no call but a stop shows it any frame.
-/
namespace SddsReceiver

namespace Session

def onTheWay (s : Session) : List Frame :=
  match s.stream? .attachment with
  | none => []
  | some stream => (stream.toReceiver s.pool s.counters).onTheWay

inductive Carries (s : Session) (host : SessionHost) (next : Session) (c : SessionCall) : Prop
  /-- It stays as it is. -/
  | keep (run : next.attachment.map Attachment.run = s.attachment.map Attachment.run)
      (way : next.onTheWay = s.onTheWay) (idle : c = .stop → s.stream? .attachment = none)
  | drop (gone : next.attachmentSocket? = none) (call : c ≠ .start)
  /-- A socket is bound, and nothing waits in it. -/
  | bind {attachment : Attachment} {socket : Socket} {pipeline : Pipeline}
      (unbound : s.attachmentSocket? = none)
      (held : next.attachment = some attachment) (bound : attachment.run.socket? = some socket)
      (empty : socket.waiting = []) (way : next.onTheWay = [])
      (piped : attachment.run.pipeline? = some pipeline) (fresh : pipeline.HasSeen [])
  /-- The attachment runs. What waits is thrown away if it has run before. -/
  | resume {attachment : Attachment} {socket : Socket} {pipeline : Pipeline} {hasRun : Bool}
      {stream : LiveStream} (call : c = .start)
      (before : s.attachment = some attachment)
      (parked : attachment.run = .parked socket pipeline hasRun)
      (held : next.attachment = some { attachment with run := .live stream })
      (socket_eq : stream.socket = if hasRun then socket.discardWaiting else socket)
      (way : next.onTheWay = [])
      (unseen : ∀ seen, pipeline.HasSeen seen → stream.reconstruction.pipeline.HasSeen seen)
  /-- The stream is stopped, and its socket kept. -/
  | park {attachment : Attachment} {stream : LiveStream} {pipeline : Pipeline} (call : c = .stop)
      (before : s.attachment = some attachment) (live : attachment.run = .live stream)
      (held : next.attachment = some { attachment with run := .parked stream.socket pipeline true })
      (last : ∀ seen, stream.reconstruction.pipeline.HasSeen seen →
        pipeline.HasSeen (seen ++
          (stream.toReceiver s.pool s.counters).takenLast (s.surroundings host)))

section Calls
variable {s : Session} {host : SessionHost}

theorem onTheWay_of_idle (idle : s.stream? .attachment = none) : s.onTheWay = [] := by
  rw [onTheWay, idle]

theorem stream?_of_unbound (unbound : s.attachmentSocket? = none) :
    s.stream? .attachment = none := by
  cases hheld : s.attachment with
  | none => simp [stream?, hheld]
  | some attachment =>
      rw [attachmentSocket?, hheld, Option.bind_some] at unbound
      rw [stream?_of_held hheld]
      cases hrun : attachment.run with
      | live stream => simp [hrun, AttachmentRun.socket?] at unbound
      | parked socket pipeline hasRun => rfl
      | unbound => rfl

theorem stream?_of_run {next : Session}
    (run : next.attachment.map Attachment.run = s.attachment.map Attachment.run) :
    next.stream? .attachment = s.stream? .attachment := by
  have hboth := congrArg (·.bind AttachmentRun.stream?) run
  simpa only [stream?, Option.bind_map, Function.comp_def] using hboth

theorem Carries.keep_idle {next : Session} {c : SessionCall}
    (run : next.attachment.map Attachment.run = s.attachment.map Attachment.run)
    (idle : s.stream? .attachment = none) : s.Carries host next c :=
  have still : next.stream? .attachment = none := (stream?_of_run run).trans idle
  .keep run ((onTheWay_of_idle still).trans (onTheWay_of_idle idle).symm) fun _ => idle

theorem Carries.refl {c : SessionCall} (idle : c = .stop → s.stream? .attachment = none) :
    s.Carries host s c := .keep rfl rfl idle

theorem openStream_hasSeen {opened : Session} {id : String} {endpoint : Network.Endpoint}
    {config : Config} {socket : Socket} {pipeline : Pipeline}
    (opens : s.openStream host id endpoint config = .ok (opened, socket, pipeline)) :
    socket.waiting = [] ∧ pipeline.HasSeen [] := by
  obtain ⟨port, -, -, rfl, rfl⟩ := openStream_eq_ok opens
  exact ⟨rfl, .ofConfig id config host.year⟩

theorem attach_carries (host : SessionHost) (endpoint : Network.Endpoint) (freshId : String) :
    s.Carries host (s.attach host endpoint freshId).session (.attach endpoint freshId) := by
  cases hfree : s.attachment with
  | some existing =>
      simp only [Session.attach, hfree]
      exact .refl (by simp)
  | none =>
      have hunbound : s.attachmentSocket? = none := by simp [attachmentSocket?, hfree]
      cases hfixed : s.config.override.enabled with
      | true =>
          simp only [Session.attach, hfree, hfixed, if_true]
          exact .drop rfl (by simp)
      | false =>
          simp only [Session.attach, hfree, hfixed, Bool.false_eq_true, if_false]
          split
          · exact .refl (by simp)
          · rename_i opened socket pipeline hopens
            obtain ⟨hempty, hfresh⟩ := openStream_hasSeen hopens
            cases hstarted : s.started with
            | true =>
                simp only [if_true, spawn]
                exact .bind hunbound rfl rfl hempty rfl rfl
                  (hfresh.resume opened.external opened.counters _)
            | false =>
                simp only [Bool.false_eq_true, if_false]
                exact .bind hunbound rfl rfl hempty rfl rfl hfresh

theorem detach_carries (host : SessionHost) (id : String) :
    s.Carries host (s.detach host id).session (.detach id) := by
  cases hheld : s.attachment with
  | none =>
      simp only [Session.detach, hheld]
      exact .refl (by simp)
  | some attachment =>
      by_cases hid : attachment.id = id
      · subst hid
        rw [detach_eq s host hheld]
        refine .drop ?_ (by simp)
        unfold releaseSocket
        split <;> rfl
      · simp only [Session.detach, hheld, hid, ne_eq, not_false_eq_true, if_true]
        exact .refl (by simp)

theorem start_carries (host : SessionHost) (hs : s.Exclusive) :
    s.Carries host (s.start host).session .start := by
  cases hstarted : s.started with
  | true =>
      simp only [Session.start, hstarted, if_true]
      exact .refl (by simp)
  | false =>
      have hidle : s.stream? .attachment = none := hs.attachment_eq_none (.inl hstarted)
      rw [start_eq s host hstarted]
      cases hfixed : s.config.override.enabled with
      | true =>
          cases hopens : s.openStream host overrideId s.config.override.endpoint
              s.config.forOverride with
          | error fault =>
              simp only [if_true, startOverride, hopens]
              exact .refl (by simp)
          | ok stream =>
              obtain ⟨port, -, hopened, -, -⟩ := openStream_eq_ok hopens
              simp only [if_true, startOverride, hopens, hopened]
              exact .keep_idle rfl hidle
      | false =>
          cases hheld : s.attachment with
          | none =>
              have hspawn : s.spawn host = .ok s := by simp only [spawn, hheld]
              simp only [Bool.false_eq_true, if_false, hspawn]
              exact .keep rfl rfl (by simp)
          | some attachment =>
              cases hrun : attachment.run with
              | live stream =>
                  rw [stream?_of_live hheld hrun] at hidle
                  cases hidle
              | parked socket pipeline hasRun =>
                  simp only [Bool.false_eq_true, if_false, spawn, hheld, hrun]
                  exact .resume rfl hheld hrun rfl rfl rfl
                    fun _ h => h.resume s.external s.counters _
              | unbound =>
                  have hunbound : s.attachmentSocket? = none := by
                    simp [attachmentSocket?, hheld, hrun, AttachmentRun.socket?]
                  cases hopens : s.openStream host attachment.id attachment.endpoint
                      s.config with
                  | error fault =>
                      simp only [Bool.false_eq_true, if_false, spawn, hheld, hrun, hopens]
                      exact .refl (by simp)
                  | ok opened =>
                      obtain ⟨hempty, hfresh⟩ := openStream_hasSeen hopens
                      simp only [Bool.false_eq_true, if_false, spawn, hheld, hrun, hopens]
                      exact .bind hunbound rfl rfl hempty rfl rfl
                        (hfresh.resume opened.1.external opened.1.counters _)

theorem stop_carries (host : SessionHost) (hs : s.Exclusive) :
    s.Carries host (s.stop host).session .stop := by
  let t : Session := { s with started := false }
  cases hstarted : s.started with
  | false =>
      rw [Session.stop, hstarted]
      exact .refl fun _ => hs.attachment_eq_none (.inl hstarted)
  | true =>
      rcases hrunning : s.overriding with _ | overriding
      · have hclosed := closeOverride_of_none t host hrunning
        rcases hlive : s.stream? .attachment with _ | stream
        · rw [stop_eq s host hstarted hclosed (parkAttachment_of_idle t host hlive)]
          exact .keep_idle rfl hlive
        · obtain ⟨attachment, hheld, hrun⟩ := Option.bind_eq_some_iff.mp hlive
          have hlive := AttachmentRun.stream?_eq_some hrun
          rw [stop_eq s host hstarted hclosed (parkAttachment_of_live t host hheld hlive)]
          refine .park rfl hheld hlive rfl fun seen h => ?_
          unfold halt
          exact Receiver.shutdown_hasSeen _ _ h
      · have hidle : s.stream? .attachment = none :=
          hs.oneStream (Option.isSome_of_eq_some hrunning)
        have hclosed := closeOverride_of_some t host hrunning
        rw [stop_eq s host hstarted hclosed (parkAttachment_of_idle _ host hidle)]
        exact .keep_idle rfl hidle

theorem call_carries (host : SessionHost) (hs : s.Exclusive) (c : SessionCall) :
    s.Carries host (s.call host c).1 c := by
  cases c with
  | attach endpoint freshId => exact attach_carries host endpoint freshId
  | detach id => exact detach_carries host id
  | start => exact start_carries host hs
  | stop => exact stop_carries host hs
  | configure config =>
      simp only [call, Session.configure]
      split
      · exact .refl (by simp)
      · exact .keep rfl rfl (by simp)
  | describe sri => exact .keep rfl rfl (by simp)

end Calls

end Session

end SddsReceiver
