import Mathlib.Data.List.Induction
import SddsReceiver.Proofs.Packet
import SddsReceiver.Proofs.WordPatch
import SddsReceiver.Signal.PacketBuilder

/-!
# A packet shows the last of its settings

Eleven things about a packet can be set, some of which are a few bits of one word. Each setting
replaces one of them and leaves the others as they are. So every packet made to order shows, for
each of them, the value that it was given last; and settings of different things may change
places.

A packet made so is a frame, with what was set in it, if and only if its parity flag and its
reserved bits are clear.
-/
namespace SddsReceiver

/-- A payload cut or padded with zeros to its length. -/
def Packet.fit (bytes : List UInt8) : List UInt8 :=
  (bytes ++ List.replicate payloadLength 0).take payloadLength

theorem Packet.eq_of_bytes {p q : Packet} (h : p.bytes = q.bytes) : p = q := by
  cases p
  cases q
  cases h
  rfl

namespace Signal

inductive PacketField where
  | sequenceNumber
  | bitsPerSample
  | standard
  | complex
  | parity
  | reserved
  | timeValid
  | time
  | frequency
  | frequencyRate
  | payload
  deriving DecidableEq, Repr

namespace PacketField
open Header.FormatWord

abbrev Value : PacketField → Type
  | sequenceNumber => UInt16
  | bitsPerSample | reserved => UInt8
  | standard | complex | parity | timeValid => Bool
  | time => TimeTag
  | frequency => Int64
  | frequencyRate => Int32
  | payload => List UInt8

def read (header : Header) (bytes : List UInt8) : (field : PacketField) → field.Value
  | sequenceNumber => header.sequenceNumber
  | bitsPerSample => header.bitsPerSample
  | standard => header.format.standard
  | complex => header.complex
  | parity => header.format.parity
  | reserved => header.format.reserved
  | timeValid => header.timeValid
  | time => header.time
  | frequency => header.frequency
  | frequencyRate => header.frequencyRate
  | payload => bytes

/-- The bits of the format word that are a field's own. -/
def formatMask : PacketField → UInt16
  | bitsPerSample => widthMask
  | standard => standardMask
  | complex => complexMask
  | parity => parityMask
  | reserved => reservedMask
  | _ => 0

theorem formatMask_disjoint {p q : PacketField} (h : p ≠ q) :
    p.formatMask &&& q.formatMask = 0 := by
  cases p <;> cases q <;> first | rfl | exact absurd rfl h

end PacketField

namespace PacketSetting
open Header Header.FormatWord

def field : PacketSetting → PacketField
  | sequenceNumber _ => .sequenceNumber
  | bitsPerSample _ => .bitsPerSample
  | standard _ => .standard
  | complex _ => .complex
  | parity _ => .parity
  | reserved _ => .reserved
  | timeValid _ => .timeValid
  | time _ => .time
  | sampleRate _ | frequency _ => .frequency
  | frequencyRate _ => .frequencyRate
  | payload _ => .payload

/-- The value that a setting gives to its field: of reserved bits the two low ones, of a rate
the nearest frequency field, of a payload as much as fits. -/
def value : (s : PacketSetting) → s.field.Value
  | sequenceNumber n => n
  | bitsPerSample bits => bits
  | standard on => on
  | complex on => on
  | parity on => on
  | reserved bits => bits &&& 3
  | timeValid valid => valid
  | time tag => tag
  | sampleRate hertz => Header.frequencyField hertz
  | frequency field => field
  | frequencyRate rate => rate
  | payload bytes => Packet.fit bytes

/-- A sample width, if there is one, that a packet has room for. -/
def WidthFits (s : PacketSetting) : Prop :=
  ∀ bits, s = bitsPerSample bits → bits ≤ 30 ∨ bits = 32

def formatPatch : PacketSetting → WordPatch
  | bitsPerSample bits => widthPatch bits
  | standard on => .flag standardMask on
  | complex on => .flag complexMask on
  | parity on => .flag parityMask on
  | reserved bits => reservedPatch bits
  | _ => .nothing

theorem formatPatch_mask (s : PacketSetting) : s.formatPatch.mask = s.field.formatMask := by
  cases s <;> rfl

def value? (s : PacketSetting) (field : PacketField) : Option field.Value :=
  if h : s.field = field then some (h ▸ s.value) else none

end PacketSetting

def lastValue (settings : List PacketSetting) (field : PacketField) : Option field.Value :=
  (settings.filterMap (·.value? field)).getLast?

theorem lastValue_concat (settings : List PacketSetting) (s : PacketSetting)
    (field : PacketField) :
    lastValue (settings ++ [s]) field = (s.value? field).or (lastValue settings field) := by
  rw [lastValue, List.filterMap_append, List.getLast?_append]
  cases h : s.value? field <;> simp [lastValue, h]

namespace PacketBuilder
open Header Header.FormatWord PacketField
variable (b : PacketBuilder) {s t : PacketSetting} {field : PacketField}

/-- What the packet will show of a field. -/
def get (field : PacketField) : field.Value := field.read b.header (Packet.fit b.payload)

theorem set_format (s : PacketSetting) :
    (b.set s).header.format.word = s.formatPatch.apply b.header.format.word := by
  cases s with
  | standard on | complex on | parity on => exact (WordPatch.flag_apply _ _ _).symm
  | bitsPerSample bits | reserved bits => rfl
  | _ => exact (WordPatch.nothing_apply _).symm

theorem set_format_and (h : s.field ≠ field) :
    (b.set s).header.format.word &&& field.formatMask =
      b.header.format.word &&& field.formatMask := by
  rw [set_format]
  apply WordPatch.apply_and_disjoint
  rw [s.formatPatch_mask]
  exact formatMask_disjoint h

theorem get_set (hs : s.WidthFits) : (b.set s).get s.field = s.value := by
  have hformat : (b.set s).header.format = ⟨s.formatPatch.apply b.header.format.word⟩ :=
    congrArg FormatWord.mk (b.set_format s)
  cases s with
  | bitsPerSample bits => exact bitsPerSample_widthPatch _ (hs bits rfl)
  | standard on | complex on | parity on =>
      change FormatWord.has _ _ = on
      rw [hformat]
      exact has_flag (by decide) _ on
  | reserved bits => exact reserved_reservedPatch _ bits
  | timeValid valid => exact b.header.timeTagInfo.timeValid_putTimeValid valid
  | _ => rfl

theorem get_set_other (h : s.field ≠ field) : (b.set s).get field = b.get field := by
  have hword := b.set_format_and h
  cases field with
  | bitsPerSample => exact bitsPerSample_congr hword
  | standard | complex | parity => exact has_congr hword
  | reserved => exact reserved_congr hword
  | _ => cases s <;> first | rfl | exact absurd rfl h

theorem get_set_eq (hs : s.WidthFits) :
    (b.set s).get field = (s.value? field).getD (b.get field) := by
  by_cases h : s.field = field
  · subst h
    simpa [PacketSetting.value?] using b.get_set hs
  · simpa [PacketSetting.value?, h] using b.get_set_other h

/-- After any settings a field shows the last one of its own, or else what it showed before. -/
theorem get_setAll {settings : List PacketSetting} (hs : ∀ s ∈ settings, s.WidthFits) :
    (b.setAll settings).get field = (lastValue settings field).getD (b.get field) := by
  induction settings using List.reverseRecOn with
  | nil => rfl
  | append_singleton settings s ih =>
      have hlast : (b.setAll (settings ++ [s])) = (b.setAll settings).set s := by
        simp [setAll]
      rw [hlast, get_set_eq _ (hs s (by simp)), lastValue_concat, Option.getD_or,
        ih fun t ht => hs t (by simp [ht])]

/-- With no setting at all a packet shows 16-bit real samples in standard format, validly timed. -/
example : (initial.setAll []).get .bitsPerSample = 16 ∧
    (initial.setAll []).get .standard = true ∧ (initial.setAll []).get .complex = false ∧
    (initial.setAll []).get .timeValid = true := by decide

theorem set_comm (h : s.field ≠ t.field) : (b.set s).set t = (b.set t).set s := by
  have hformat : ((b.set s).set t).header.format = ((b.set t).set s).header.format := by
    apply congrArg FormatWord.mk
    rw [set_format, set_format, set_format, set_format]
    apply WordPatch.apply_comm
    rw [s.formatPatch_mask, t.formatPatch_mask]
    exact formatMask_disjoint h
  -- unless both settings are about the format word, they write different parts of the header
  cases s <;> cases t <;>
    first
      | rfl
      | exact absurd rfl h
      | exact congrArg
          (fun format => { b with header := { b.header with format := format } }) hformat

/-- The bits of the format word that no setting touches. -/
def fixedFormatMask : UInt16 :=
  startOfSequenceMask ||| originalMask ||| spectralMask ||| dataModeMask

def untouched (header : Header) : UInt16 × UInt16 × UInt16 × Vector UInt8 auxiliaryLength :=
  (header.format.word &&& fixedFormatMask,
    header.timeTagInfo.word &&& ~~~TimeTagWord.timeValidMask, header.millisecondDelta,
    header.auxiliary)

theorem untouched_set (s : PacketSetting) : untouched (b.set s).header = untouched b.header := by
  have hformat : (b.set s).header.format.word &&& fixedFormatMask =
      b.header.format.word &&& fixedFormatMask := by
    rw [set_format]
    apply WordPatch.apply_and_disjoint
    rw [s.formatPatch_mask]
    cases s.field <;> decide
  have hinfo : (b.set s).header.timeTagInfo.word &&& ~~~TimeTagWord.timeValidMask =
      b.header.timeTagInfo.word &&& ~~~TimeTagWord.timeValidMask := by
    cases s with
    | timeValid valid =>
        change (b.header.timeTagInfo.putTimeValid valid).word &&& _ = _
        rw [TimeTagWord.putTimeValid, ← WordPatch.flag_apply]
        have hoff : TimeTagWord.timeValidMask &&& ~~~TimeTagWord.timeValidMask = 0 := by decide
        exact WordPatch.apply_and_disjoint _ _ hoff
    | _ => rfl
  have hdelta : (b.set s).header.millisecondDelta = b.header.millisecondDelta := by
    cases s <;> rfl
  have hauxiliary : (b.set s).header.auxiliary = b.header.auxiliary := by
    cases s <;> rfl
  rw [untouched, untouched, hformat, hinfo, hdelta, hauxiliary]

theorem untouched_setAll (settings : List PacketSetting) :
    untouched (b.setAll settings).header = untouched b.header := by
  induction settings generalizing b with
  | nil => rfl
  | cons s rest ih => exact (ih (b.set s)).trans (b.untouched_set s)

/-- A packet made to order is a frame if it is no parity frame and has no reserved bit set. -/
theorem decode_build_eq_ok_iff (arrival : Nat) {f : Frame} :
    Frame.decode b.build.bytes arrival = .ok f ↔
      b.get .parity = false ∧ b.get .reserved = 0 ∧ f = ⟨b.header, b.build, arrival⟩ := by
  have hheader : Header.ofPacket b.build = b.header := by
    refine (Header.eq_ofPacket ?_).symm
    exact (List.take_left' b.header.length_toBytes).symm
  have hclear : FirstWordClear b.build.bytes ↔
      b.get .reserved = 0 ∧ b.get .parity = false := by
    rw [Packet.firstWordClear_iff, hheader]
    rfl
  rw [Frame.decode_eq_ok_iff, Packet.header_eq_ok_iff, Packet.ofBytes_eq_ok_iff]
  constructor
  · rintro ⟨hbytes, ⟨hfirst, hfields⟩, harrival⟩
    have hpacket : f.packet = b.build := Packet.eq_of_bytes hbytes
    rw [hpacket] at hfirst hfields
    obtain ⟨hreserved, hparity⟩ := hclear.mp hfirst
    refine ⟨hparity, hreserved, ?_⟩
    rw [← hheader, hfields, ← hpacket, ← harrival]
  · rintro ⟨hparity, hreserved, rfl⟩
    exact ⟨rfl, ⟨hclear.mpr ⟨hreserved, hparity⟩, hheader⟩, rfl⟩

theorem decode_build_eq_error_iff (arrival : Nat) :
    (∃ fault, Frame.decode b.build.bytes arrival = .error fault) ↔
      b.get .parity = true ∨ b.get .reserved ≠ 0 := by
  constructor
  · rintro ⟨fault, hfault⟩
    by_contra hnot
    obtain ⟨hparity, hreserved⟩ := not_or.mp hnot
    have hread := (b.decode_build_eq_ok_iff arrival).mpr
      ⟨Bool.eq_false_iff.mpr hparity, not_not.mp hreserved, rfl⟩
    rw [hfault] at hread
    cases hread
  · intro hset
    cases hread : Frame.decode b.build.bytes arrival with
    | error fault => exact ⟨fault, rfl⟩
    | ok f =>
        obtain ⟨hparity, hreserved, -⟩ := (b.decode_build_eq_ok_iff arrival).mp hread
        rcases hset with hset | hset
        · exact absurd hset (by rw [hparity]; decide)
        · exact absurd hreserved hset

/-- Let a packet be made by any settings, one after another, the sample widths among them being
at most 30 or 32. It is refused if and only if the last parity flag is set or the two low bits
of the last reserved bits are not both clear. Otherwise it is read as a frame that shows, for
each field, the last value of the settings for it, and what the plain packet shows where there
was none; what no setting touches is as in the plain packet. Settings of different fields leave
one another's values and may change places. -/
theorem decode_build_shows_last (settings : List PacketSetting)
    (hwidths : ∀ bits, .bitsPerSample bits ∈ settings → bits ≤ 30 ∨ bits = 32) (arrival : Nat) :
    ((∃ fault, Frame.decode (initial.setAll settings).build.bytes arrival = .error fault) ↔
      lastValue settings .parity = some true ∨
        ∃ bits, lastValue settings .reserved = some bits ∧ bits ≠ 0) ∧
    (∀ f, Frame.decode (initial.setAll settings).build.bytes arrival = .ok f →
      (∀ field : PacketField, field.read f.header f.payload =
        (lastValue settings field).getD (initial.get field)) ∧
      untouched f.header = untouched initial.header ∧ f.arrival = arrival) ∧
    ∀ (b : PacketBuilder) (s t : PacketSetting), s.field ≠ t.field →
      (b.set s).get t.field = b.get t.field ∧ (b.set s).set t = (b.set t).set s := by
  have hfits : ∀ s ∈ settings, s.WidthFits := fun s hs bits h => hwidths bits (h ▸ hs)
  have hget : ∀ field, (initial.setAll settings).get field =
      (lastValue settings field).getD (initial.get field) :=
    fun _ => initial.get_setAll hfits
  refine ⟨?_, ?_, ?_⟩
  · have hparity : initial.get .parity = false := by decide
    have hreserved : initial.get .reserved = 0 := by decide
    rw [decode_build_eq_error_iff, hget, hget, hparity, hreserved]
    cases lastValue settings .parity <;> cases lastValue settings .reserved <;> simp
  · intro f hf
    obtain ⟨-, -, rfl⟩ := (decode_build_eq_ok_iff _ arrival).mp hf
    refine ⟨fun field => ?_, initial.untouched_setAll settings, rfl⟩
    have hpayload : (initial.setAll settings).build.payload =
        Packet.fit (initial.setAll settings).payload := Packet.payload_compose _ _
    rw [← hget field, get, ← hpayload]
    rfl
  · intro b s t h
    exact ⟨b.get_set_other h, b.set_comm h⟩

/-- A width of 32 set between a parity flag and its withdrawal is read. -/
theorem decode_build_shows_width :
    (∀ bits, .bitsPerSample bits ∈
      ([.parity true, .bitsPerSample 32, .parity false] : List PacketSetting) →
        bits ≤ 30 ∨ bits = 32) ∧
    (¬∃ fault, Frame.decode (initial.setAll
      [.parity true, .bitsPerSample 32, .parity false]).build.bytes 0 = .error fault) ∧
    ∀ f, Frame.decode (initial.setAll
      [.parity true, .bitsPerSample 32, .parity false]).build.bytes 0 = .ok f →
      f.header.bitsPerSample = 32 := by
  have hwidths : ∀ bits, .bitsPerSample bits ∈
      ([.parity true, .bitsPerSample 32, .parity false] : List PacketSetting) →
        bits ≤ 30 ∨ bits = 32 := by
    intro bits hbits
    simp only [List.mem_cons, reduceCtorEq, PacketSetting.bitsPerSample.injEq,
      List.not_mem_nil, or_false, false_or] at hbits
    exact .inr hbits
  obtain ⟨hrefused, hshown, -⟩ := decode_build_shows_last _ hwidths 0
  refine ⟨hwidths, ?_, fun f hf => (hshown f hf).1 .bitsPerSample⟩
  rw [hrefused]
  simp [lastValue, PacketSetting.value?, PacketSetting.field, PacketSetting.value]

end PacketBuilder
end Signal
end SddsReceiver
