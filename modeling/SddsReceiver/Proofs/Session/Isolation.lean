import SddsReceiver.Proofs.Session.Exclusion

/-!
# The stream that runs in place of an attachment

While the overriding stream runs, an attachment may be made and given up beside it. Neither
touches the stream, nor the pool and the counters that its tasks share.

The pushes are another matter. An attachment that was bound before an endpoint was fixed is
parked with a pipeline of its own, and giving it up ends that pipeline: an end mark is handed
on in the middle of the overriding stream. Nothing else does so. A parked pipeline never has a
batch open, so that the mark is all that is pushed.
-/
namespace SddsReceiver

/-- The pipeline that a parked attachment keeps. -/
def AttachmentRun.parkedPipeline? : AttachmentRun → Option Pipeline
  | unbound | live _ => none
  | parked _ pipeline _ => some pipeline

theorem AttachmentRun.receive_parkedPipeline? (run : AttachmentRun)
    (datagrams : List (List UInt8)) :
    (run.receive datagrams).parkedPipeline? = run.parkedPipeline? := by
  cases run <;> rfl

/-- The push with which the pipeline ends, when it has no batch open. -/
def Pipeline.endMark (p : Pipeline) (hostClock : Timestamp) : Push :=
  p.scheduler.endMark p.merger.current hostClock

theorem Pipeline.finish_pushes_of_none {p : Pipeline} (h : p.scheduler.batch = none)
    (hostClock : Timestamp) : (p.finish hostClock).2 = [p.endMark hostClock] := by
  have hpushes := p.scheduler.finish_pushes p.merger.current hostClock
  rwa [Scheduler.flush_pushes, h] at hpushes

namespace Session

def parkedPipeline? (s : Session) (id : String) : Option Pipeline :=
  s.attachment.bind fun attachment =>
    if attachment.id = id then attachment.run.parkedPipeline? else none

/-- No parked pipeline has a batch open. -/
def ParkedClosed (s : Session) : Prop :=
  ∀ attachment pipeline, s.attachment = some attachment →
    attachment.run.parkedPipeline? = some pipeline → pipeline.scheduler.batch = none

theorem ParkedClosed.of_none {s : Session} (free : s.attachment = none) : s.ParkedClosed := by
  intro attachment pipeline held
  rw [free] at held
  cases held

theorem ParkedClosed.of_some {s : Session} {attachment : Attachment}
    (held : s.attachment = some attachment)
    (hclosed : ∀ pipeline, attachment.run.parkedPipeline? = some pipeline →
      pipeline.scheduler.batch = none) : s.ParkedClosed := by
  intro other pipeline hother
  cases held.symm.trans hother
  exact hclosed pipeline

theorem ParkedClosed.of_unparked {s : Session} {attachment : Attachment}
    (held : s.attachment = some attachment)
    (hnone : attachment.run.parkedPipeline? = none) : s.ParkedClosed := by
  refine .of_some held fun pipeline parked => ?_
  rw [hnone] at parked
  cases parked

/-- A pipeline is parked when it is new, or when its stream has ended. -/
theorem ParkedClosed.changes {s next : Session} {host : SessionHost} {pushes : List Push}
    (hs : s.Exclusive) (h : s.ParkedClosed) (hc : Changes host s next pushes) :
    next.ParkedClosed := by
  cases hc with
  | keep => exact h
  | record id endpoint free fixed => exact .of_unparked rfl rfl
  | bind id endpoint free unfixed stopped opens =>
      obtain ⟨port, -, -, -, rfl⟩ := openStream_eq_ok opens
      refine .of_some rfl fun pipeline parked => ?_
      cases parked
      rfl
  | bindAndRun id endpoint free unfixed started opens => exact .of_unparked rfl rfl
  | giveUpLive held live alone => exact .of_none rfl
  | giveUpIdle held idle => exact .of_none rfl
  | arm stopped unfixed idle => exact h
  | override stopped fixed opens =>
      obtain ⟨port, -, rfl, -, -⟩ := openStream_eq_ok opens
      exact h
  | run stopped unfixed held parked => exact .of_unparked rfl rfl
  | bindRecorded stopped unfixed held unbound opens => exact .of_unparked rfl rfl
  | close started running => exact h
  | park started held live alone =>
      -- The stream ends before its pipeline is parked, and ending closes the batch.
      have hgoes := hs.goesOn _ _ (stream?_of_live held live)
      have hclosed := Receiver.shutdown_batch (s := s.surroundings host) hgoes.orderly
        hgoes.reconstruction.hasEnded_eq
      refine .of_some rfl fun pipeline parked => ?_
      cases parked
      unfold halt
      exact hclosed
  | disarm started alone idle => exact h
  | configure config accepted => exact h
  | describe sri => exact h
  | @operate owner stream operation held =>
      cases owner with
      | attachment =>
          obtain ⟨attachment, hheld, hrun⟩ := Option.bind_eq_some_iff.mp held
          exact .of_unparked (congrArg (Option.map _) hheld) rfl
      | override => exact h
  | arrive owner datagrams =>
      cases owner with
      | attachment =>
          intro attachment pipeline held parked
          obtain ⟨before, hheld, rfl⟩ := Option.map_eq_some_iff.mp held
          exact h before pipeline hheld (before.run.receive_parkedPipeline? datagrams ▸ parked)
      | override => exact h

theorem after_parkedClosed (config : Config) (log : List (SessionHost × SessionEvent)) :
    ((initial config).after log).ParkedClosed := by
  induction log with
  | nil => exact .of_none rfl
  | cons x earlier ih =>
      have hbefore := after_exclusive config earlier
      exact ih.changes hbefore (event_changes _ x.1 hbefore.oneStream x.2)

structure KeepsOverride (s next : Session) : Prop where
  overriding_eq : next.overriding = s.overriding
  pool_eq : next.pool = s.pool
  counters_eq : next.counters = s.counters
  state_eq : next.state = .running

section Beside
variable {s : Session} {overriding : OverridingStream}

theorem Exclusive.keepsOverride (hs : s.Exclusive) (running : s.overriding = some overriding) :
    s.KeepsOverride s :=
  ⟨rfl, rfl, rfl, hs.state_eq.trans (currentState_of_override running)⟩

theorem Exclusive.attach_beside (hs : s.Exclusive) (running : s.overriding = some overriding)
    (host : SessionHost) (endpoint : Network.Endpoint) (freshId : String) :
    s.KeepsOverride (s.attach host endpoint freshId).session ∧
      (s.attach host endpoint freshId).pushes = [] := by
  cases hheld : s.attachment with
  | some existing =>
      simp only [Session.attach, hheld]
      exact ⟨hs.keepsOverride running, rfl⟩
  | none =>
      have hfixed := (hs.fixed_of_override (Option.isSome_of_eq_some running)).2
      simp only [Session.attach, hheld, hfixed, if_true, and_true]
      exact ⟨rfl, rfl, rfl, currentState_of_override running⟩

theorem Exclusive.detach_beside (hs : s.Exclusive) (hclosed : s.ParkedClosed)
    (running : s.overriding = some overriding) (host : SessionHost) (id : String) :
    s.KeepsOverride (s.detach host id).session ∧
      (s.detach host id).pushes =
        ((s.parkedPipeline? id).map fun p => p.endMark host.clock).toList := by
  have hkeeps := hs.keepsOverride running
  cases hheld : s.attachment with
  | none =>
      have hnone : s.parkedPipeline? id = none := by rw [parkedPipeline?, hheld]; rfl
      rw [hnone]
      simp only [Session.detach, hheld]
      exact ⟨hkeeps, rfl⟩
  | some attachment =>
      by_cases hid : attachment.id = id
      · subst hid
        have hpipeline : s.parkedPipeline? attachment.id = attachment.run.parkedPipeline? := by
          rw [parkedPipeline?, hheld, Option.bind_some, if_pos rfl]
        have hcounters : s.releaseSocket.counters = s.counters := by
          simp [releaseSocket, running]
        rw [detach_eq s host hheld, hpipeline]
        cases hrun : attachment.run with
        | live stream =>
            -- No attachment runs beside the overriding stream.
            have hlive := stream?_of_live hheld hrun
            rw [hs.attachment_eq_none_of_override (Option.isSome_of_eq_some running)] at hlive
            cases hlive
        | parked socket pipeline hasRun =>
            have hnone := hclosed attachment pipeline hheld (by rw [hrun]; rfl)
            simp only [endAttachment, releaseSocket_giveUp, hcounters]
            exact ⟨⟨rfl, rfl, rfl, currentState_of_override running⟩,
              pipeline.finish_pushes_of_none hnone host.clock⟩
        | unbound =>
            simp only [endAttachment, releaseSocket_giveUp, hcounters]
            exact ⟨⟨rfl, rfl, rfl, currentState_of_override running⟩, rfl⟩
      · have hnone : s.parkedPipeline? id = none := by
          rw [parkedPipeline?, hheld, Option.bind_some, if_neg hid]
        rw [hnone]
        simp only [Session.detach, hheld, hid, ne_eq, not_false_eq_true, if_true]
        exact ⟨hkeeps, rfl⟩

/-- The tasks of a stream hand on no end mark while it goes on. -/
theorem Exclusive.operate_endOfStream (hs : s.Exclusive) (host : SessionHost)
    (owner : StreamOwner) (operation : TaskOperation) :
    ∀ push ∈ (s.operate host owner operation).2, push.endOfStream = false := by
  cases hheld : s.stream? owner with
  | none => simp [operate, hheld]
  | some stream =>
      have hgoes := hs.goesOn owner stream hheld
      cases operation with
      | ingest answer => simp [operate, hheld, LiveStream.operate, Receiver.ingestStep,
          LiveStream.toReceiver]
      | reconstruct =>
          have hnext := hgoes.reconstruction.step hgoes.pool_open s.counters stream.batch
            (s.surroundings host)
          simp only [operate, hheld]
          exact hnext.2

theorem stop_overriding (hs : s.Exclusive) (running : s.overriding = some overriding)
    (host : SessionHost) : (s.stop host).session.overriding = none := by
  have hstarted := (hs.fixed_of_override (Option.isSome_of_eq_some running)).1
  have hidle : s.stream? .attachment = none :=
    hs.attachment_eq_none_of_override (Option.isSome_of_eq_some running)
  have hclosed := closeOverride_of_some { s with started := false } host running
  rw [stop_eq s host hstarted hclosed (parkAttachment_of_idle _ host hidle)]
  rfl

/-- While the overriding stream runs on, only giving up a parked attachment pushes an end
mark. -/
theorem Exclusive.event_beside (hs : s.Exclusive) (hclosed : s.ParkedClosed)
    (running : s.overriding = some overriding) (host : SessionHost) (e : SessionEvent)
    (stays : (s.event host e).1.overriding.isSome) :
    (∃ push ∈ (s.event host e).2, push.endOfStream = true) ↔
      ∃ id, e = .call (.detach id) ∧ (s.parkedPipeline? id).isSome := by
  cases e with
  | call c =>
      cases c with
      | attach endpoint freshId =>
          have hnone := (hs.attach_beside running host endpoint freshId).2
          simp [event, call, hnone]
      | detach id =>
          have hpushes := (hs.detach_beside hclosed running host id).2
          cases hparked : s.parkedPipeline? id with
          | none => simp [event, call, hpushes, hparked]
          | some p =>
              simp [event, call, hpushes, hparked, Pipeline.endMark, Scheduler.endMark]
      | start =>
          have hstarted := (hs.fixed_of_override (Option.isSome_of_eq_some running)).1
          simp [event, call, Session.start, hstarted]
      | stop =>
          have hnone := stop_overriding hs running host
          simp [event, call, hnone] at stays
      | configure config =>
          have hnone : (s.configure config).pushes = [] := by
            unfold Session.configure
            split <;> rfl
          simp [event, call, hnone]
      | describe sri => simp [event, call]
  | operate owner operation =>
      have hnone := hs.operate_endOfStream host owner operation
      have hfew : ¬∃ push ∈ (s.operate host owner operation).2, push.endOfStream = true := by
        rintro ⟨push, hpush, hend⟩
        rw [hnone push hpush] at hend
        cases hend
      simp [event, hfew]
  | arrive owner datagrams => simp [event]

end Beside

end Session

end SddsReceiver
