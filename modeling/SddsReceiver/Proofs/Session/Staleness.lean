import SddsReceiver.Proofs.Session.Transit
import SddsReceiver.Proofs.Session.SocketCalls

/-!
# No stale datagram is received

Datagrams wait in an attachment's socket while it is parked. Those that arrived before it ever
ran are received when it does. Those that waited when its stream was stopped, or that came
before it ran again, are stale; they are thrown away when the stream is started again.

The datagrams that have arrived at a socket are numbered. What waits is always the end of
them, and what has left the queue was handed to the receiving task, in order and once each,
unless it was stale. The pipeline sees frames of datagrams that were handed over.
-/
namespace SddsReceiver

namespace Session

/-- The receipt for a datagram that an event hands to the attachment's receiving task. -/
def handing (s : Session) : SessionEvent → Option Receipt
  | .operate .attachment (.ingest answer) =>
      (s.stream? .attachment).bind fun stream =>
        stream.ingest.receipt? s.pool stream.batch (stream.socket.reading answer)
  | _ => none

/-- The frames that the attachment's pipeline sees with an event. -/
def seeing (s : Session) (host : SessionHost) : SessionEvent → List Frame
  | .operate .attachment .reconstruct =>
      match s.stream? .attachment with
      | none => []
      | some stream => stream.reconstruction.taking s.pool stream.batch
  | .call .stop =>
      match s.stream? .attachment with
      | none => []
      | some stream => (stream.toReceiver s.pool s.counters).takenLast (s.surroundings host)
  | _ => []

end Session

namespace Transit

/-- The numbers of the datagrams that an event makes stale: all that wait when the stream is
stopped, and all that arrive after it has run while it does not. -/
def staleWith (t : Transit) (s : Session) (hasRun : Bool) : SessionEvent → List Nat
  | .call .stop =>
      match s.stream? .attachment with
      | none => []
      | some stream => t.waitingNumbers stream.socket
  | .arrive .attachment datagrams =>
      if s.stream? .attachment = none ∧ hasRun = true then t.arrivingNumbers datagrams else []
  | _ => []

def arrivedWith : SessionEvent → List (List UInt8)
  | .arrive .attachment datagrams => datagrams
  | _ => []

/-- The number of the datagram that waits at the head of the attachment's queue. -/
def next (t : Transit) (s : Session) : Nat := (s.attachmentSocket?.map t.gone).getD 0

def after (t : Transit) (s : Session) (host : SessionHost) (hasRun : Bool) (e : SessionEvent) :
    Transit where
  arrived := t.arrived ++ arrivedWith e
  handed := t.handed ++ ((s.handing e).map fun r => (t.next s, r)).toList
  stale := t.stale ++ t.staleWith s hasRun e
  seen := t.seen ++ s.seeing host e

end Transit

namespace Session

/-- The datagrams at the attachment's socket since it was bound. -/
def transit (first : Session) : List (SessionHost × SessionEvent) → Transit
  | [] => .empty
  | (host, e) :: earlier =>
      if (first.after ((host, e) :: earlier)).attachmentSocket?.isSome then
        (first.transit earlier).after (first.after earlier) host
          (attachmentHasRun (first.past earlier)) e
      else .empty

structure Accounted (s : Session) (t : Transit) : Prop where
  unbound : s.attachmentSocket? = none → t = .empty
  traces : ∀ attachment socket, s.attachment = some attachment →
    attachment.run.socket? = some socket → t.Traces attachment.run socket s.onTheWay

section Growth
variable {s : Session} {stream : LiveStream}

theorem after_eq_self {t : Transit} {host : SessionHost} {hasRun : Bool} {e : SessionEvent}
    (harrived : Transit.arrivedWith e = []) (hhanding : s.handing e = none)
    (hstale : t.staleWith s hasRun e = []) (hseeing : s.seeing host e = []) :
    t.after s host hasRun e = t := by
  simp [Transit.after, harrived, hhanding, hstale, hseeing]

variable (t : Transit) (host : SessionHost) (hasRun : Bool)

theorem after_call {c : SessionCall} (idle : c = .stop → s.stream? .attachment = none) :
    t.after s host hasRun (.call c) = t := by
  cases c with
  | stop =>
      refine after_eq_self rfl rfl ?_ ?_
      · simp only [Transit.staleWith, idle rfl]
      · simp only [seeing, idle rfl]
  | _ => exact after_eq_self rfl rfl rfl rfl

theorem after_idle (owner : StreamOwner) (operation : TaskOperation)
    (idle : s.stream? owner = none) :
    t.after s host hasRun (.operate owner operation) = t := by
  cases owner with
  | override => exact after_eq_self rfl rfl rfl rfl
  | attachment =>
      cases operation with
      | ingest answer => exact after_eq_self rfl (by simp [handing, idle]) rfl rfl
      | reconstruct => exact after_eq_self rfl rfl rfl (by simp [seeing, idle])

theorem after_stop (live : s.stream? .attachment = some stream) :
    t.after s host hasRun (.call .stop) =
      { t with
        stale := t.stale ++ t.waitingNumbers stream.socket
        seen := t.seen ++
          (stream.toReceiver s.pool s.counters).takenLast (s.surroundings host) } := by
  simp only [Transit.after, Transit.arrivedWith, handing, Transit.staleWith, seeing, live,
    List.append_nil, Option.map_none, Option.toList_none]

theorem after_arrive (datagrams : List (List UInt8)) :
    t.after s host hasRun (.arrive .attachment datagrams) =
      { t with
        arrived := t.arrived ++ datagrams
        stale := t.stale ++ if s.stream? .attachment = none ∧ hasRun = true then
          t.arrivingNumbers datagrams else [] } := by
  simp only [Transit.after, Transit.arrivedWith, handing, Transit.staleWith, seeing,
    List.append_nil, Option.map_none, Option.toList_none]

theorem after_ingest {attachment : Attachment} (held : s.attachment = some attachment)
    (live : attachment.run = .live stream) (answer : SocketAnswer) :
    t.after s host hasRun (.operate .attachment (.ingest answer)) =
      { t with
        handed := t.handed ++ ((stream.ingest.receipt? s.pool stream.batch
          (stream.socket.reading answer)).map fun r => (t.gone stream.socket, r)).toList } := by
  have hnext : t.next s = t.gone stream.socket := by
    rw [Transit.next, attachmentSocket?, held, Option.bind_some, live]
    rfl
  simp only [Transit.after, Transit.arrivedWith, handing, Transit.staleWith, seeing,
    stream?_of_live held live, hnext, List.append_nil, Option.bind_some]

theorem after_reconstruct (live : s.stream? .attachment = some stream) :
    t.after s host hasRun (.operate .attachment .reconstruct) =
      { t with seen := t.seen ++ stream.reconstruction.taking s.pool stream.batch } := by
  simp only [Transit.after, Transit.arrivedWith, handing, Transit.staleWith, seeing, live,
    List.append_nil, Option.map_none, Option.toList_none]

end Growth

section Event
variable {s : Session} {t : Transit}

theorem onTheWay_arrive (s : Session) (owner : StreamOwner) (datagrams : List (List UInt8)) :
    (s.arrive owner datagrams).onTheWay = s.onTheWay := by
  have hstream := s.arrive_stream? owner .attachment datagrams
  cases owner with
  | override => rfl
  | attachment =>
      rw [onTheWay, hstream, onTheWay, if_pos rfl]
      cases s.stream? .attachment <;> rfl

theorem operate_of_running {owner : StreamOwner} {stream next : LiveStream} {r : Receiver}
    {host : SessionHost} {operation : TaskOperation} (running : s.stream? owner = some stream)
    (operates : stream.operate s.pool s.counters (s.surroundings host) operation = (next, r)) :
    s.operate host owner operation = ((s.withShared r).putStream owner next, r.pushes) := by
  simp only [Session.operate, running, operates]

def AccountedAfter (s : Session) (t : Transit) (host : SessionHost) (e : SessionEvent) : Prop :=
  ∀ attachment socket, (s.event host e).1.attachment = some attachment →
    attachment.run.socket? = some socket →
      (t.after s host (s.attachment.any fun a => a.run.hasRun) e).Traces attachment.run socket
        (s.event host e).1.onTheWay

theorem Accounted.call (ht : s.Accounted t) (hs : s.Exclusive) (host : SessionHost)
    (c : SessionCall) : s.AccountedAfter t host (.call c) := by
  intro attachment socket hheld hsocket
  simp only [event] at hheld ⊢
  cases call_carries host hs c with
  | keep run way idle =>
      obtain ⟨before, hbefore, hrun⟩ : ∃ before, s.attachment = some before ∧
          before.run = attachment.run := by
        rw [hheld, Option.map_some] at run
        exact Option.map_eq_some_iff.mp run.symm
      rw [after_call t host _ idle, way, ← hrun]
      exact ht.traces before socket hbefore (hrun ▸ hsocket)
  | drop gone call =>
      rw [attachmentSocket?, hheld, Option.bind_some, hsocket] at gone
      cases gone
  | bind unbound held bound empty way piped fresh =>
      rw [after_call t host _ fun _ => stream?_of_unbound unbound, ht.unbound unbound, way]
      cases hheld.symm.trans held
      cases hsocket.symm.trans bound
      exact .of_empty empty piped fresh
  | @resume parkedAttachment waiting pipeline hasRun stream call before parked held socket_eq
      way unseen =>
      have hbefore := ht.traces parkedAttachment waiting before (by rw [parked]; rfl)
      have hidle : s.stream? .attachment = none := by
        rw [stream?_of_held before, parked]
        rfl
      rw [onTheWay_of_idle hidle, parked] at hbefore
      rw [after_call t host _ fun _ => hidle, way]
      cases hheld.symm.trans held
      cases hsocket
      exact hbefore.resume socket_eq unseen
  | @park liveAttachment stream pipeline call before live held last =>
      subst call
      have hlive := stream?_of_live before live
      have hbefore := ht.traces liveAttachment stream.socket before (by rw [live]; rfl)
      rw [live, onTheWay, hlive] at hbefore
      have hway : (s.call host .stop).1.onTheWay = [] :=
        onTheWay_of_idle (by rw [stream?_of_held held]; rfl)
      rw [after_stop t host _ hlive, hway]
      cases hheld.symm.trans held
      cases hsocket
      exact hbefore.park
        ((stream.toReceiver s.pool s.counters).takenLast_onTheWay (s.surroundings host)) last

theorem Accounted.arrive (ht : s.Accounted t) (host : SessionHost) (owner : StreamOwner)
    (datagrams : List (List UInt8)) : s.AccountedAfter t host (.arrive owner datagrams) := by
  intro attachment socket hheld hsocket
  have hway : (s.event host (.arrive owner datagrams)).1.onTheWay = s.onTheWay :=
    s.onTheWay_arrive owner datagrams
  rw [hway]
  cases owner with
  | override =>
      rw [after_eq_self rfl rfl rfl rfl]
      exact ht.traces attachment socket hheld hsocket
  | attachment =>
      obtain ⟨before, hbefore, rfl⟩ := Option.map_eq_some_iff.mp hheld
      obtain ⟨waiting, hwaiting, rfl⟩ : ∃ waiting, before.run.socket? = some waiting ∧
          waiting.receive datagrams = socket := by
        cases hrun : before.run <;>
          simp_all [AttachmentRun.receive, AttachmentRun.socket?]
      rw [after_arrive, stream?_of_held hbefore, hbefore, Option.any_some]
      exact (ht.traces before waiting hbefore hwaiting).arrive datagrams

/-- One operation of a task accounts for the datagram that it reads and the frames that it
takes. -/
theorem operate_traces {attachment : Attachment} {stream next : LiveStream} {r : Receiver}
    {host : SessionHost} {operation : TaskOperation}
    (held : s.attachment = some attachment) (live : attachment.run = .live stream)
    (operates : stream.operate s.pool s.counters (s.surroundings host) operation = (next, r))
    (h : t.Traces (.live stream) stream.socket (stream.toReceiver s.pool s.counters).onTheWay)
    (hasRun : Bool) :
    (t.after s host hasRun (.operate .attachment operation)).Traces (.live next) next.socket
      (next.toReceiver r.pool r.counters).onTheWay := by
  obtain ⟨rfl, rfl⟩ := Prod.ext_iff.mp operates
  cases operation with
  | ingest answer =>
      have hread := h.read (stream.operate_waiting s.pool s.counters (s.surroundings host) answer)
        (stream.ingest.placing_becomes s.pool stream.batch (stream.socket.reading answer)) rfl
      have hway := Receiver.onTheWay_ingestStep (stream.toReceiver s.pool s.counters)
        (stream.socket.reading answer)
      rw [after_ingest t host hasRun held live]
      exact hway ▸ hread
  | reconstruct =>
      have htaken := stream.reconstruction.taking_append_full s.pool s.counters stream.batch
        (s.surroundings host)
      rw [after_reconstruct t host hasRun (stream?_of_live held live)]
      refine h.see rfl ?_ ?_
      · rw [Receiver.onTheWay, Receiver.onTheWay, ← List.append_assoc]
        exact congrArg (· ++ stream.ingest.filled) htaken
      · exact fun _ => stream.reconstruction.step_hasSeen s.pool s.counters stream.batch
          (s.surroundings host)

theorem Accounted.operate (ht : s.Accounted t) (hs : s.Exclusive) (host : SessionHost)
    (owner : StreamOwner) (operation : TaskOperation) :
    s.AccountedAfter t host (.operate owner operation) := by
  intro attachment socket hheld hsocket
  cases running : s.stream? owner with
  | none =>
      have hkeep : s.event host (.operate owner operation) = (s, []) := by
        simp only [event, Session.operate, running]
      rw [hkeep] at hheld ⊢
      rw [after_idle t host _ owner operation running]
      exact ht.traces attachment socket hheld hsocket
  | some stream =>
      rcases operates : stream.operate s.pool s.counters (s.surroundings host) operation
        with ⟨next, r⟩
      simp only [event, operate_of_running running operates] at hheld ⊢
      cases owner with
      | override =>
          obtain ⟨overriding, hrunning, -⟩ := Option.map_eq_some_iff.mp running
          have hidle := hs.attachment_eq_none_of_override (Option.isSome_of_eq_some hrunning)
          have hbefore := ht.traces attachment socket hheld hsocket
          have hstill : ((s.withShared r).putStream .override next).onTheWay = [] :=
            onTheWay_of_idle hidle
          rw [onTheWay_of_idle hidle] at hbefore
          rw [after_eq_self rfl rfl rfl rfl, hstill]
          exact hbefore
      | attachment =>
          obtain ⟨before, hbefore, hrun⟩ := Option.bind_eq_some_iff.mp running
          have hlive := AttachmentRun.stream?_eq_some hrun
          have htraces := ht.traces before stream.socket hbefore (by rw [hlive]; rfl)
          rw [hlive, onTheWay, running] at htraces
          have hput : ((s.withShared r).putStream .attachment next).attachment =
              some { before with run := .live next } := congrArg (Option.map _) hbefore
          have hway : ((s.withShared r).putStream .attachment next).onTheWay =
              (next.toReceiver r.pool r.counters).onTheWay := by
            rw [onTheWay, stream?_of_live hput rfl]
            rfl
          rw [hway]
          cases hheld.symm.trans hput
          cases hsocket
          exact operate_traces hbefore hlive operates htraces _

theorem Accounted.event (ht : s.Accounted t) (hs : s.Exclusive) (host : SessionHost)
    (e : SessionEvent) : s.AccountedAfter t host e := by
  cases e with
  | call c => exact ht.call hs host c
  | operate owner operation => exact ht.operate hs host owner operation
  | arrive owner datagrams => exact ht.arrive host owner datagrams

end Event

theorem after_accounted (config : Config) (log : List (SessionHost × SessionEvent)) :
    ((initial config).after log).Accounted ((initial config).transit log) := by
  induction log with
  | nil =>
      constructor
      · exact fun _ => rfl
      · intro attachment socket hheld _
        cases hheld
  | cons x earlier ih =>
      obtain ⟨host, e⟩ := x
      constructor
      · intro hnone
        rw [transit, hnone, Option.isSome_none, if_neg (by simp)]
      · intro attachment socket hheld hsocket
        have hbound : ((initial config).after ((host, e) :: earlier)).attachmentSocket?.isSome := by
          rw [attachmentSocket?, hheld, Option.bind_some, hsocket]
          rfl
        rw [transit, if_pos hbound, after_hasRun]
        exact ih.event (after_exclusive config earlier) host e attachment socket hheld hsocket

section Received
variable {s : Session} (host : SessionHost)

theorem datagramsBetween_call (hs : s.Exclusive) (c : SessionCall) :
    s.datagramsBetween (s.call host c).1 = 0 := by
  cases call_carries host hs c with
  | keep run way idle => exact datagramsBetween_of_same (stream?_of_run run)
  | drop gone call =>
      exact datagramsBetween_of_stopped (stream?_of_unbound gone)
  | bind unbound held bound empty way piped fresh =>
      exact datagramsBetween_of_idle (stream?_of_unbound unbound)
  | resume call before parked held socket_eq way unseen =>
      apply datagramsBetween_of_idle
      rw [stream?_of_held before, parked]
      rfl
  | park call before live held last =>
      apply datagramsBetween_of_stopped
      rw [stream?_of_held held]
      rfl

theorem datagramsBetween_operate (s : Session) (owner : StreamOwner)
    (operation : TaskOperation) :
    s.datagramsBetween (s.operate host owner operation).1 =
      (s.handing (.operate owner operation)).toList.length := by
  cases held : s.stream? owner with
  | none =>
      have hkeep : s.operate host owner operation = (s, []) := by
        simp only [Session.operate, held]
      have hnone : s.handing (.operate owner operation) = none := by
        cases owner with
        | override => rfl
        | attachment =>
            cases operation with
            | ingest answer => simp only [handing, held, Option.bind_none]
            | reconstruct => rfl
      rw [hkeep, hnone, datagramsBetween_of_same rfl]
      rfl
  | some stream =>
      rcases operates : stream.operate s.pool s.counters (s.surroundings host) operation
        with ⟨next, r⟩
      rw [operate_of_running held operates]
      cases owner with
      | override => exact datagramsBetween_of_same rfl
      | attachment =>
          obtain ⟨attachment, hheld, -⟩ := Option.bind_eq_some_iff.mp held
          have hput : ((s.withShared r).putStream .attachment next).stream? .attachment =
              some next := stream?_of_live (congrArg (Option.map _) hheld) rfl
          obtain ⟨rfl, rfl⟩ := Prod.ext_iff.mp operates
          simp only [datagramsBetween, held, hput]
          cases operation with
          | reconstruct => exact Nat.sub_self _
          | ingest answer =>
              have hwaiting := congrArg List.length (stream.operate_waiting s.pool s.counters
                (s.surroundings host) answer)
              rw [List.length_append, List.length_map] at hwaiting
              simp only [handing, held, Option.bind_some]
              omega

/-- Exactly the datagrams that are handed over are counted as received. -/
theorem received_event (hs : s.Exclusive) (e : SessionEvent)
    (hbefore : s.attachmentSocket?.isSome) (hafter : (s.event host e).1.attachmentSocket?.isSome)
    (alone : s.overriding = none) (stays : (s.event host e).1.overriding = none) :
    (s.event host e).1.counters.received =
      s.counters.received + .ofNat (s.handing e).toList.length := by
  rw [← isSome_attachmentPipeline?] at hbefore hafter
  obtain ⟨p, hp⟩ := Option.isSome_iff_exists.mp hbefore
  obtain ⟨q, hq⟩ := Option.isSome_iff_exists.mp hafter
  have hfollow := (event_changes s host hs.oneStream e).follow hp hq alone stays
  have hread : s.datagramsBetween (s.event host e).1 = (s.handing e).toList.length := by
    cases e with
    | call c => exact datagramsBetween_call host hs c
    | operate owner operation => exact datagramsBetween_operate host s owner operation
    | arrive owner datagrams => exact s.datagramsBetween_arrive owner datagrams
  rw [hfollow.received, hread]

end Received

theorem start_keeps_waiting {s : Session} (hs : s.Exclusive) (host : SessionHost)
    {socket : Socket} (hsocket : s.attachmentSocket? = some socket)
    (hnever : (s.attachment.any fun a => a.run.hasRun) = false) :
    (s.start host).session.attachmentSocket? = some socket := by
  cases start_carries host hs with
  | keep run way idle =>
      have hboth := congrArg (·.bind AttachmentRun.socket?) run
      simp only [Option.bind_map, Function.comp_def] at hboth
      exact hboth.trans hsocket
  | drop gone call => exact (call rfl).elim
  | bind unbound held bound empty way piped fresh =>
      rw [hsocket] at unbound
      cases unbound
  | resume call before parked held socket_eq way unseen =>
      rw [before, Option.any_some, parked] at hnever
      rw [attachmentSocket?, before, Option.bind_some, parked] at hsocket
      cases hsocket
      rw [attachmentSocket?, held]
      simp_all [AttachmentRun.hasRun, AttachmentRun.socket?]
  | park call before live held last => cases call

/-- The datagram that came before the first start is handed over. Those that came too late for
the task, before and after the stop, are stale and gone with the next start. -/
example :
    let host : SessionHost := ⟨.isolated, .ofHostClock 0.0 0.0, 2024⟩
    let events : List SessionEvent := [.call (.attach ⟨"a", .loopback, 0, 0⟩ ""),
      .arrive .attachment [[0]], .call .start, .operate .attachment (.ingest .nothing),
      .operate .attachment (.ingest .oldest), .arrive .attachment [[1]], .call .stop,
      .arrive .attachment [[2]], .call .start]
    let log := events.reverse.map fun e => (host, e)
    let first := initial { poolSlots := 2, readBatch := 1 }
    (first.transit log).handed.map Prod.fst = [0] ∧ (first.transit log).stale = [1, 2] ∧
      (first.after log).attachmentSocket?.map Socket.waiting = some [] := by
  decide +kernel

end Session

end SddsReceiver
