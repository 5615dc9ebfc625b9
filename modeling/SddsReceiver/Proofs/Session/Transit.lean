import SddsReceiver.Proofs.Receiver.Taken
import SddsReceiver.Proofs.Session.Figures

/-!
# Datagrams on their way through a socket

The datagrams that arrive at a socket are numbered. What waits is the end of them, and what has
left the queue was handed to the receiving task, in order and once each, unless it was stale
when it left. Four things happen to a socket: it starts to be read, again or for the first
time; a datagram is read; datagrams arrive; and it is parked.
-/
namespace SddsReceiver

/-- What became of the datagrams that have arrived at an attachment's socket, by their
numbers. -/
structure Transit where
  /-- The datagrams, in the order in which they arrived. -/
  arrived : List (List UInt8)
  /-- Those that were handed to the receiving task, with its receipts. -/
  handed : List (Nat × Receipt)
  /-- Those that waited when the stream was stopped, or arrived before it ran again. -/
  stale : List Nat
  /-- The frames that the pipeline has seen. -/
  seen : List Frame

namespace Transit

def empty : Transit := ⟨[], [], [], []⟩

/-- How many datagrams have left the queue, which is the number of the one that has waited
longest. -/
def gone (t : Transit) (socket : Socket) : Nat := t.arrived.length - socket.waiting.length

def waitingNumbers (t : Transit) (socket : Socket) : List Nat :=
  List.range' (t.gone socket) socket.waiting.length

def arrivingNumbers (t : Transit) (datagrams : List (List UInt8)) : List Nat :=
  List.range' t.arrived.length datagrams.length

/-- The datagrams at a socket are accounted for. What waits is the end of what has arrived, and
what has left the queue was handed over or was stale. While the attachment runs nothing stale
waits, and when it has been stopped nothing else does. -/
structure Traces (t : Transit) (run : AttachmentRun) (socket : Socket) (way : List Frame) :
    Prop where
  waiting : socket.waiting <:+ t.arrived
  handed : t.handed.map Prod.fst =
    (List.range (t.gone socket)).filter fun n => n ∉ t.stale
  bytes : ∀ x ∈ t.handed, t.arrived[x.1]? = some x.2.bytes
  bounded : ∀ n ∈ t.stale, n < t.arrived.length
  fresh : run.stream?.isSome → ∀ n ∈ t.stale, n < t.gone socket
  late : run.stream? = none → run.hasRun = true → ∀ n ∈ t.waitingNumbers socket, n ∈ t.stale
  unrun : run.hasRun = false → t.stale = []
  frames : ∃ used, List.Forall₂ Receipt.Becomes used (t.seen ++ way) ∧
    used.Sublist (t.handed.map Prod.snd)
  pipeline : ∀ p, run.pipeline? = some p → p.HasSeen t.seen

section Numbers
variable {t : Transit} {socket : Socket}

theorem gone_add (h : socket.waiting <:+ t.arrived) :
    t.gone socket + socket.waiting.length = t.arrived.length :=
  Nat.sub_add_cancel h.length_le

theorem mem_waitingNumbers (h : socket.waiting <:+ t.arrived) {n : Nat} :
    n ∈ t.waitingNumbers socket ↔ t.gone socket ≤ n ∧ n < t.arrived.length := by
  rw [waitingNumbers, List.mem_range'_1, gone_add h]

theorem mem_arrivingNumbers {datagrams : List (List UInt8)} {n : Nat} :
    n ∈ t.arrivingNumbers datagrams ↔
      t.arrived.length ≤ n ∧ n < (t.arrived ++ datagrams).length := by
  rw [arrivingNumbers, List.mem_range'_1, List.length_append]

theorem gone_receive (t : Transit) (socket : Socket) (datagrams : List (List UInt8))
    (stale : List Nat) :
    gone ⟨t.arrived ++ datagrams, t.handed, stale, t.seen⟩ (socket.receive datagrams) =
      t.gone socket := by
  simp only [gone, Socket.receive, List.length_append]
  omega

theorem arrived_gone (h : socket.waiting <:+ t.arrived) {bytes : List UInt8}
    {rest : List (List UInt8)} (hwaiting : socket.waiting = bytes :: rest) :
    t.arrived[t.gone socket]? = some bytes := by
  obtain ⟨before, hbefore⟩ := h
  have hcount : before.length = t.gone socket := by
    rw [gone, ← hbefore, List.length_append, Nat.add_sub_cancel]
  rw [← hbefore, ← hcount, List.getElem?_append_right (Nat.le_refl _), Nat.sub_self, hwaiting]
  rfl

theorem filter_append_stale (n : Nat) {stale more : List Nat} (hmore : ∀ m ∈ more, n ≤ m) :
    ((List.range n).filter fun k => k ∉ stale ++ more) =
      (List.range n).filter fun k => k ∉ stale := by
  apply List.filter_congr
  intro k hk
  have hlt : k < n := List.mem_range.mp hk
  have hnot : k ∉ more := fun hmem => absurd (hmore k hmem) (by omega)
  simp [hnot]

theorem filter_range_of_stale {stale : List Nat} {m n : Nat} (hle : m ≤ n)
    (hstale : ∀ k, m ≤ k → k < n → k ∈ stale) :
    ((List.range n).filter fun k => k ∉ stale) = (List.range m).filter fun k => k ∉ stale := by
  induction n, hle using Nat.le_induction with
  | base => rfl
  | succ n hle ih =>
      have hlast : n ∈ stale := hstale n hle (Nat.lt_succ_self n)
      rw [List.range_succ, List.filter_append, ih fun k hk hn => hstale k hk (by omega)]
      simp [hlast]

end Numbers

namespace Traces
variable {t : Transit} {run : AttachmentRun} {socket : Socket} {way : List Frame}

theorem of_empty {p : Pipeline} (hnone : socket.waiting = []) (hpiped : run.pipeline? = some p)
    (hfresh : p.HasSeen []) : Transit.empty.Traces run socket [] where
  waiting := by rw [hnone]; exact List.suffix_rfl
  handed := by simp [empty, gone]
  bytes := by simp [empty]
  bounded := by simp [empty]
  fresh := by simp [empty]
  late := by simp [empty, gone, waitingNumbers, hnone]
  unrun _ := rfl
  frames := ⟨[], .nil, .slnil⟩
  pipeline := by
    intro q hq
    rw [hpiped] at hq
    cases hq
    exact hfresh

/-- A parked attachment runs again without what is stale, or for the first time with all that
waits. -/
theorem resume {pipeline : Pipeline} {hasRun : Bool} {stream : LiveStream}
    (h : t.Traces (.parked socket pipeline hasRun) socket [])
    (hsocket : stream.socket = if hasRun then socket.discardWaiting else socket)
    (hunseen : ∀ seen, pipeline.HasSeen seen → stream.reconstruction.pipeline.HasSeen seen) :
    t.Traces (.live stream) stream.socket [] := by
  have hpipeline : ∀ p, (AttachmentRun.live stream).pipeline? = some p → p.HasSeen t.seen := by
    rintro _ ⟨⟩
    exact hunseen t.seen (h.pipeline pipeline rfl)
  cases hasRun with
  | false =>
      have hnone : t.stale = [] := h.unrun rfl
      rw [if_neg (by simp)] at hsocket
      rw [hsocket]
      exact ⟨h.waiting, h.handed, h.bytes, h.bounded, by simp [hnone], nofun, nofun, h.frames,
        hpipeline⟩
  | true =>
      rw [if_pos rfl] at hsocket
      have hgone : t.gone stream.socket = t.arrived.length := by
        rw [hsocket]
        rfl
      have hfilter := filter_range_of_stale (Nat.sub_le _ _) fun k hle hlt =>
        h.late rfl rfl k ((mem_waitingNumbers h.waiting).mpr ⟨hle, hlt⟩)
      refine ⟨?_, ?_, h.bytes, h.bounded, ?_, nofun, nofun, h.frames, hpipeline⟩
      · rw [hsocket]
        exact List.nil_suffix
      · rw [hgone, hfilter]
        exact h.handed
      · rw [hgone]
        exact fun _ => h.bounded

/-- What waits when the stream is stopped is stale from then on. -/
theorem park {pipeline : Pipeline} {stream : LiveStream} {last : List Frame}
    (h : t.Traces (.live stream) stream.socket way) (hlast : last <+: way)
    (hsees : ∀ seen, stream.reconstruction.pipeline.HasSeen seen →
      pipeline.HasSeen (seen ++ last)) :
    Traces
      { t with
        stale := t.stale ++ t.waitingNumbers stream.socket
        seen := t.seen ++ last }
      (.parked stream.socket pipeline true) stream.socket [] where
  waiting := h.waiting
  handed := by
    refine h.handed.trans (filter_append_stale _ fun m hm => ?_).symm
    exact ((mem_waitingNumbers h.waiting).mp hm).1
  bytes := h.bytes
  bounded := by
    intro n hn
    rcases List.mem_append.mp hn with hn | hn
    · exact h.bounded n hn
    · exact ((mem_waitingNumbers h.waiting).mp hn).2
  fresh := nofun
  late := fun _ _ n hn => List.mem_append_right t.stale hn
  unrun := nofun
  frames := by
    obtain ⟨rest, rfl⟩ := hlast
    obtain ⟨used, hused, hsublist⟩ := h.frames
    rw [← List.append_assoc] at hused
    have htaken := List.forall₂_take_append used (t.seen ++ last) rest hused
    rw [List.append_nil]
    exact ⟨_, htaken, (List.take_sublist _ _).trans hsublist⟩
  pipeline := by
    rintro _ ⟨⟩
    exact hsees t.seen (h.pipeline _ rfl)

theorem arrive (h : t.Traces run socket way) (datagrams : List (List UInt8)) :
    Traces
      { t with
        arrived := t.arrived ++ datagrams
        stale := t.stale ++ if run.stream? = none ∧ run.hasRun = true then
          t.arrivingNumbers datagrams else [] }
      (run.receive datagrams) (socket.receive datagrams) way := by
  have hran : (run.receive datagrams).hasRun = run.hasRun := by cases run <;> rfl
  have hwaiting : (socket.receive datagrams).waiting <:+ t.arrived ++ datagrams := by
    obtain ⟨before, hbefore⟩ := h.waiting
    exact ⟨before, by rw [← hbefore, List.append_assoc]; rfl⟩
  have hmore : ∀ m ∈ (if run.stream? = none ∧ run.hasRun = true then
      t.arrivingNumbers datagrams else []),
      t.arrived.length ≤ m ∧ m < (t.arrived ++ datagrams).length := by
    intro m hm
    split at hm
    · exact mem_arrivingNumbers.mp hm
    · cases hm
  exact
    { waiting := hwaiting
      handed := by
        rw [gone_receive]
        refine h.handed.trans (filter_append_stale _ fun m hm => ?_).symm
        exact Nat.le_trans (Nat.sub_le _ _) (hmore m hm).1
      bytes := by
        intro x hx
        have hbytes := h.bytes x hx
        have hlt := (List.getElem?_eq_some_iff.mp hbytes).1
        exact (List.getElem?_append_left hlt).trans hbytes
      bounded := by
        intro n hn
        rcases List.mem_append.mp hn with hn | hn
        · exact Nat.lt_of_lt_of_le (h.bounded n hn) (List.sublist_append_left _ _).length_le
        · exact (hmore n hn).2
      fresh := by
        intro hlive n hn
        rw [Session.receive_stream?, Option.isSome_map] at hlive
        rw [gone_receive]
        rcases List.mem_append.mp hn with hn | hn
        · exact h.fresh hlive n hn
        · rw [if_neg (by rintro ⟨hnone, -⟩; simp [hnone] at hlive)] at hn
          cases hn
      late := by
        intro hnone hrun n hn
        rw [Session.receive_stream?, Option.map_eq_none_iff] at hnone
        rw [hran] at hrun
        have hbetween := (mem_waitingNumbers hwaiting).mp hn
        rw [gone_receive] at hbetween
        apply List.mem_append.mpr
        by_cases hold : n < t.arrived.length
        · exact .inl (h.late hnone hrun n ((mem_waitingNumbers h.waiting).mpr ⟨hbetween.1, hold⟩))
        · rw [if_pos ⟨hnone, hrun⟩]
          exact .inr (mem_arrivingNumbers.mpr ⟨Nat.le_of_not_lt hold, hbetween.2⟩)
      unrun := by
        intro hnever
        rw [hran] at hnever
        show t.stale ++ _ = []
        rw [h.unrun hnever, if_neg (by simp [hnever])]
        rfl
      frames := h.frames
      pipeline := by
        rw [run.receive_pipeline? datagrams]
        exact h.pipeline }

/-- A datagram that is handed over is the one that has waited longest. It is not stale. -/
theorem read {stream next : LiveStream} {receipt : Option Receipt} {more : List Frame}
    (h : t.Traces (.live stream) stream.socket way)
    (hwaiting : stream.socket.waiting =
      receipt.toList.map Receipt.bytes ++ next.socket.waiting)
    (hplaced : ∃ used, List.Forall₂ Receipt.Becomes used more ∧ used.Sublist receipt.toList)
    (hsame : next.reconstruction.pipeline = stream.reconstruction.pipeline) :
    Traces { t with handed := t.handed ++ (receipt.map fun r => (t.gone stream.socket, r)).toList }
      (.live next) next.socket (way ++ more) := by
  have hlength := gone_add h.waiting
  have hsuffix : next.socket.waiting <:+ t.arrived :=
    (hwaiting ▸ List.suffix_append _ _).trans h.waiting
  have hframes : ∃ used, List.Forall₂ Receipt.Becomes used (t.seen ++ (way ++ more)) ∧
      used.Sublist (t.handed.map Prod.snd ++ receipt.toList) := by
    obtain ⟨before, hbefore, hold⟩ := h.frames
    obtain ⟨used, hused, hnew⟩ := hplaced
    refine ⟨before ++ used, ?_, hold.append hnew⟩
    rw [← List.append_assoc]
    exact List.rel_append hbefore hused
  have hgone : t.gone next.socket = t.gone stream.socket + receipt.toList.length := by
    have hnext := gone_add hsuffix
    have hcount := congrArg List.length hwaiting
    rw [List.length_append, List.length_map] at hcount
    omega
  have hfresh := h.fresh rfl
  exact
    { waiting := hsuffix
      handed := by
        show (t.handed ++ _).map Prod.fst =
          (List.range (t.gone next.socket)).filter fun n => n ∉ t.stale
        rw [List.map_append, h.handed, hgone]
        cases receipt with
        | none => simp
        | some r =>
            have hnot : t.gone stream.socket ∉ t.stale := fun hmem =>
              absurd (hfresh _ hmem) (Nat.lt_irrefl _)
            simp [List.range_succ, hnot]
      bytes := by
        intro x hx
        rcases List.mem_append.mp hx with hx | hx
        · exact h.bytes x hx
        · obtain ⟨r, rfl, rfl⟩ : ∃ r, receipt = some r ∧ (t.gone stream.socket, r) = x := by
            simpa [Option.map_eq_some_iff] using hx
          exact arrived_gone h.waiting hwaiting
      bounded := h.bounded
      fresh := by
        intro _ n hn
        show n < t.gone next.socket
        have hlt := hfresh n hn
        omega
      late := nofun
      unrun := nofun
      frames := by
        obtain ⟨used, hused, hsublist⟩ := hframes
        refine ⟨used, hused, ?_⟩
        show used.Sublist ((t.handed ++ _).map Prod.snd)
        rw [List.map_append]
        cases receipt <;> exact hsublist
      pipeline := by
        rintro _ ⟨⟩
        rw [hsame]
        exact h.pipeline _ rfl }

theorem see {stream next : LiveStream} {taken rest : List Frame}
    (h : t.Traces (.live stream) stream.socket way) (hsocket : next.socket = stream.socket)
    (hway : taken ++ rest = way)
    (hsees : ∀ seen, stream.reconstruction.pipeline.HasSeen seen →
      next.reconstruction.pipeline.HasSeen (seen ++ taken)) :
    Traces { t with seen := t.seen ++ taken } (.live next) next.socket rest := by
  rw [hsocket]
  exact
    { waiting := h.waiting
      handed := h.handed
      bytes := h.bytes
      bounded := h.bounded
      fresh := h.fresh
      late := nofun
      unrun := nofun
      frames := by
        rw [List.append_assoc, hway]
        exact h.frames
      pipeline := by
        rintro _ ⟨⟩
        exact hsees t.seen (h.pipeline _ rfl) }

end Traces

end Transit

namespace LiveStream

theorem operate_waiting (l : LiveStream) (pool : Pool) (c : Counters) (s : Surroundings)
    (answer : SocketAnswer) :
    l.socket.waiting =
      (l.ingest.receipt? pool l.batch (l.socket.reading answer)).toList.map Receipt.bytes ++
        (l.operate pool c s (.ingest answer)).1.socket.waiting := by
  cases hreads : l.ingest.reads l.batch with
  | false =>
      cases hreading : l.socket.reading answer <;>
        simp [operate, ofReceiver, hreads, Ingest.receipt?]
  | true =>
      cases answer with
      | oldest =>
          cases hwaiting : l.socket.waiting <;>
            simp [operate, ofReceiver, hreads, hwaiting, Socket.reading, Socket.afterRead,
              Ingest.receipt?]
      | nothing => simp [operate, ofReceiver, hreads, Socket.reading, Socket.afterRead,
          Ingest.receipt?]
      | failure => simp [operate, ofReceiver, hreads, Socket.reading, Socket.afterRead,
          Ingest.receipt?]

end LiveStream

end SddsReceiver
