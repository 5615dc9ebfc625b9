import SddsReceiver.Proofs.Pipeline.Calls
import SddsReceiver.Proofs.Receiver.Ending
import SddsReceiver.Session.Traffic

/-!
# Counters that follow a pipeline

Five figures among the counters tell of one stream: four of its pipeline and one of what its
receiving task has read. They are written in three ways. What is expected next and how often
the clock slipped is set anew with each frame; losses and datagrams are added up; and the
width is written once, when the lane is fixed.

So counters that show a pipeline go on showing it. Counters that do not are mended by a frame
in the first way only: a sum keeps the difference it had, and a width that was not written
with the lane stays wrong.
-/
namespace SddsReceiver

namespace Counters

/-- What the counters tell of a stream is what its pipeline knows. -/
structure Show (c : Counters) (p : Pipeline) : Prop where
  dropped : c.dropped = UInt64.ofNat p.sequence.droppedTotal
  timeSlips : c.timeSlips = UInt64.ofNat p.clock.slips
  expected : c.expected = p.sequence.expected
  bits : c.bitsPerSample = (p.lane.map Lane.bits).getD 0

/-- Counters `c` beside a pipeline `p` become `d` beside `q` while so many datagrams are read,
whatever `c` showed. -/
structure Follow (c : Counters) (p : Pipeline) (read : Nat) (d : Counters) (q : Pipeline) :
    Prop where
  dropped : d.dropped + UInt64.ofNat p.sequence.droppedTotal =
    c.dropped + UInt64.ofNat q.sequence.droppedTotal
  tracked :
    (d.timeSlips = UInt64.ofNat q.clock.slips ∧ d.expected = q.sequence.expected) ∨
      (d.timeSlips = c.timeSlips ∧ d.expected = c.expected ∧ q.clock = p.clock ∧
        q.sequence = p.sequence)
  bits : (d.bitsPerSample = c.bitsPerSample ∧ q.lane = p.lane) ∨
    (p.lane = none ∧ ∃ lane, q.lane = some lane ∧ d.bitsPerSample = lane.bits)
  received : d.received = c.received + UInt64.ofNat read

variable {c d e : Counters} {p q r : Pipeline} {m n : Nat}

theorem Follow.of_same (hdropped : d.dropped = c.dropped) (htimeSlips : d.timeSlips = c.timeSlips)
    (hexpected : d.expected = c.expected) (hbits : d.bitsPerSample = c.bitsPerSample)
    (hreceived : d.received = c.received + UInt64.ofNat n) (hsequence : q.sequence = p.sequence)
    (hclock : q.clock = p.clock) (hlane : q.lane = p.lane) : c.Follow p n d q where
  dropped := by rw [hdropped, hsequence]
  tracked := .inr ⟨htimeSlips, hexpected, hclock, hsequence⟩
  bits := .inl ⟨hbits, hlane⟩
  received := hreceived

theorem Follow.refl (c : Counters) (p : Pipeline) : c.Follow p 0 c p :=
  .of_same rfl rfl rfl rfl (by simp) rfl rfl rfl

theorem Follow.trans (h : c.Follow p m d q) (hnext : d.Follow q n e r) :
    c.Follow p (m + n) e r where
  dropped := by
    have hsum := congrArg (· + UInt64.ofNat p.sequence.droppedTotal) hnext.dropped
    have hbefore := h.dropped
    grind
  tracked := by
    rcases hnext.tracked with hset | ⟨hslips, hexpected, hclock, hsequence⟩
    · exact .inl hset
    · rw [hslips, hexpected, hclock, hsequence]
      exact h.tracked
  bits := by
    rcases hnext.bits with ⟨hbits, hlane⟩ | ⟨hnone, hfixed⟩
    · rw [hbits, hlane]
      exact h.bits
    · rcases h.bits with ⟨-, hlane⟩ | ⟨-, lane, hlane, -⟩
      · exact .inr ⟨hlane ▸ hnone, hfixed⟩
      · rw [hlane] at hnone
        cases hnone
  received := by
    rw [hnext.received, h.received, UInt64.ofNat_add, UInt64.add_assoc]

theorem Follow.show (h : c.Follow p n d q) (hc : c.Show p) : d.Show q where
  dropped := by
    have hdropped := h.dropped
    rw [hc.dropped, UInt64.add_comm] at hdropped
    exact (UInt64.add_right_inj _).mp hdropped
  timeSlips := by
    rcases h.tracked with ⟨hslips, -⟩ | ⟨hslips, -, hclock, -⟩
    · exact hslips
    · rw [hslips, hclock, hc.timeSlips]
  expected := by
    rcases h.tracked with ⟨-, hexpected⟩ | ⟨-, hexpected, -, hsequence⟩
    · exact hexpected
    · rw [hexpected, hsequence, hc.expected]
  bits := by
    rcases h.bits with ⟨hbits, hlane⟩ | ⟨-, lane, hlane, hbits⟩
    · rw [hbits, hlane, hc.bits]
    · rw [hbits, hlane]
      rfl

end Counters

namespace Pipeline
variable (p : Pipeline) (external : Option Sri) (c : Counters)

theorem track_follow (h : Header) : c.Follow p 0 (p.track c h).2 (p.track c h).1 where
  dropped := by
    have hmissing := UInt64.ofNat_uInt16ToNat (p.sequence.missingBefore h.sequenceNumber)
    simp only [track, SequenceTracker.accept, Counters.setTimeSlips, Counters.setExpected,
      Counters.addDropped, UInt64.ofNat_add, hmissing]
    rw [UInt64.add_assoc, UInt64.add_comm (UInt64.ofNat _)]
  tracked := .inl ⟨rfl, rfl⟩
  bits := .inl ⟨rfl, rfl⟩
  received := by simp [track, Counters.setTimeSlips, Counters.setExpected, Counters.addDropped]

theorem noteStream_eq (order : ByteOrder) (h : Header) :
    ∃ rate, noteStream c order h = (c.setOrder order).setSampleRate rate := by
  unfold noteStream
  split
  · exact ⟨_, rfl⟩
  · exact ⟨c.sampleRate, rfl⟩

theorem handle_follow (f : Frame) :
    c.Follow p 0 (p.handle external c f).2.1 (p.handle external c f).1 := by
  have htracked := p.track_follow c f.header
  cases h : p.laneFor f.header.bitsPerSample with
  | none =>
      rw [handle_rejected external c h]
      exact htracked
  | some lane =>
      rw [handle_accepted_counters external c h, (handle_accepted external c h).1]
      cases hlane : p.lane with
      | none =>
          obtain ⟨rate, hnoted⟩ := noteStream_eq ((p.track c f.header).2.setBitsPerSample lane.bits)
            (p.orderInForce external) f.header
          rw [Option.isNone_none, if_pos rfl, hnoted]
          exact ⟨htracked.dropped, htracked.tracked, .inr ⟨hlane, lane, rfl, rfl⟩,
            htracked.received⟩
      | some fixed =>
          -- The lane is the one that was fixed before, and its width is not written again.
          have hsame : p.lane = some lane := by
            rcases lane_of_laneFor h with hnone | hsome
            · rw [hnone] at hlane
              cases hlane
            · exact hsome
          obtain ⟨rate, hnoted⟩ := noteStream_eq (p.track c f.header).2
            (p.orderInForce external) f.header
          rw [Option.isNone_some, if_neg (by simp), hnoted]
          exact ⟨htracked.dropped, htracked.tracked, .inl ⟨rfl, hsame.symm⟩, htracked.received⟩

theorem handleAll_follow (frames : List Frame) :
    c.Follow p 0 (p.handleAll external c frames).2.1 (p.handleAll external c frames).1 := by
  induction frames generalizing p c with
  | nil => exact .refl c p
  | cons f fs ih => exact (p.handle_follow external c f).trans (ih _ _)

theorem resume_follow (config : Config) :
    c.Follow p 0 (p.resume external c config).2 (p.resume external c config).1 :=
  .of_same rfl rfl rfl rfl (by simp [resume, Counters.setOrder]) rfl rfl rfl

theorem ofConfig_show (attachId : String) (config : Config) (year : Int) (c : Counters)
    (port : Option UInt16) (buffer : UInt64) (order : ByteOrder) :
    ((c.resetStream.setSocket port buffer).setOrder order).Show (ofConfig attachId config year) :=
  ⟨rfl, rfl, rfl, rfl⟩

end Pipeline

namespace Ingest

def datagramsRead (i : Ingest) (batch : Nat) : Reading → Nat
  | .datagram _ => if i.reads batch then 1 else 0
  | .failure | .nothing | .cancelled => 0

theorem add_none (c : Counters) : c = (c.addReceived 0).addMalformed 0 := by
  simp [Counters.addReceived, Counters.addMalformed]

theorem place_counters (i : Ingest) (pool : Pool) (c : Counters) (batch : Nat)
    (bytes : List UInt8) :
    ∃ malformed, (i.place pool c batch bytes).2.2 = (c.addReceived 1).addMalformed malformed := by
  unfold place
  split
  · exact ⟨1, rfl⟩
  · exact ⟨0, by simp [Counters.addMalformed]⟩

theorem step_counters (i : Ingest) (pool : Pool) (c : Counters) (batch : Nat)
    (reading : Reading) :
    ∃ malformed, (i.step pool c batch reading).2.2 =
      (c.addReceived (UInt64.ofNat (i.datagramsRead batch reading))).addMalformed malformed := by
  by_cases hread : ∀ bytes, reading = .datagram bytes → i.reads batch = false
  · have hnone : i.datagramsRead batch reading = 0 := by
      cases reading with
      | datagram bytes => simp [datagramsRead, hread bytes rfl]
      | _ => rfl
    rw [(step_of_unread hread pool c).1, hnone]
    exact ⟨0, add_none c⟩
  · obtain ⟨bytes, rfl, hreads⟩ : ∃ bytes, reading = .datagram bytes ∧ i.reads batch = true := by
      simpa using hread
    rw [(step_of_reads hreads pool c bytes).2, datagramsRead, if_pos hreads]
    exact place_counters i pool c batch _

theorem step_follow (i : Ingest) (pool : Pool) (c : Counters) (batch : Nat) (reading : Reading)
    (p : Pipeline) :
    c.Follow p (i.datagramsRead batch reading) (i.step pool c batch reading).2.2 p := by
  obtain ⟨malformed, hcounters⟩ := i.step_counters pool c batch reading
  rw [hcounters]
  exact .of_same rfl rfl rfl rfl rfl rfl rfl rfl

end Ingest

theorem Reconstruction.step_follow (r : Reconstruction) (pool : Pool) (c : Counters)
    (batch : Nat) (s : Surroundings) :
    c.Follow r.pipeline 0 (r.step pool c batch s).2.2.1 (r.step pool c batch s).1.pipeline := by
  obtain ⟨phase, pipeline⟩ := r
  cases phase with
  | take =>
      simp only [step]
      split
      · exact .refl c pipeline
      · exact pipeline.handleAll_follow s.external c _
  | checkEnd =>
      simp only [step]
      split
      · exact .of_same rfl rfl rfl rfl (by simp) rfl rfl rfl
      · exact .refl c pipeline
  | _ => exact .refl c pipeline

/-- Ending a stream reads nothing more, and uses up what has been read. -/
theorem Receiver.shutdown_follow (r : Receiver) (s : Surroundings) :
    r.counters.Follow r.reconstruction.pipeline 0 (r.shutdown s).counters
      (r.shutdown s).reconstruction.pipeline :=
  shutdown_keeps
    (P := fun last => r.counters.Follow r.reconstruction.pipeline 0 last.counters
      last.reconstruction.pipeline)
    (fun last h =>
      h.trans (last.ingest.step_follow last.pool last.counters last.batch .cancelled _))
    (fun last h => h.trans (last.reconstruction.step_follow last.pool last.counters last.batch s))
    (.refl _ _)

namespace LiveStream

theorem waiting_operate (l : LiveStream) (pool : Pool) (c : Counters) (s : Surroundings)
    (answer : SocketAnswer) :
    l.socket.waiting.length - (l.operate pool c s (.ingest answer)).1.socket.waiting.length =
      l.ingest.datagramsRead l.batch (l.socket.reading answer) := by
  cases hreads : l.ingest.reads l.batch with
  | false =>
      cases hreading : l.socket.reading answer <;>
        simp [operate, ofReceiver, hreads, Ingest.datagramsRead]
  | true =>
      cases answer with
      | oldest =>
          cases hwaiting : l.socket.waiting <;>
            simp [operate, ofReceiver, hreads, hwaiting, Socket.reading, Socket.afterRead,
              Ingest.datagramsRead]
      | nothing => simp [operate, ofReceiver, hreads, Socket.reading, Socket.afterRead,
          Ingest.datagramsRead]
      | failure => simp [operate, ofReceiver, hreads, Socket.reading, Socket.afterRead,
          Ingest.datagramsRead]

theorem operate_follow (l : LiveStream) (pool : Pool) (c : Counters) (s : Surroundings)
    (operation : TaskOperation) :
    c.Follow l.reconstruction.pipeline
      (l.socket.waiting.length - (l.operate pool c s operation).1.socket.waiting.length)
      (l.operate pool c s operation).2.counters
      (l.operate pool c s operation).1.reconstruction.pipeline := by
  cases operation with
  | ingest answer =>
      rw [l.waiting_operate pool c s answer]
      exact l.ingest.step_follow pool c l.batch (l.socket.reading answer) _
  | reconstruct =>
      have hread : l.socket.waiting.length - l.socket.waiting.length = 0 := Nat.sub_self _
      simp only [operate, ofReceiver, hread]
      exact l.reconstruction.step_follow pool c l.batch s

end LiveStream

end SddsReceiver
