import SddsReceiver.Header.Decode
import Mathlib.Data.Nat.Bitwise

/-!
# A header says what its bytes say

The fields of a header lie one after another without gaps. So joining them again gives the
bytes back, and headers that are written alike are the same.

Whether a datagram is a frame depends on its length and on three bits of its first word. One
that is a frame has no other reading: its header and its payload, written one after the other,
are the datagram.
-/
namespace SddsReceiver

theorem Bytes.bigOfNat_inj {width m n : Nat} (hm : m < span width) (hn : n < span width)
    (h : bigOfNat width m = bigOfNat width n) : m = n := by
  rw [← bigToNat_bigOfNat hm, h, bigToNat_bigOfNat hn]

namespace Packet
variable (p : Packet) {offset width : Nat}

theorem length_cut (h : offset + width ≤ packetLength) :
    ((p.bytes.drop offset).take width).length = width := by
  rw [List.length_take, List.length_drop, p.length_eq]
  omega

theorem field_lt (h : offset + width ≤ packetLength) :
    p.field offset width < Bytes.span width := by
  have hlt := Bytes.bigToNat_lt ((p.bytes.drop offset).take width)
  rwa [p.length_cut h] at hlt

theorem bigOfNat_field (h : offset + width ≤ packetLength) :
    Bytes.bigOfNat width (p.field offset width) = (p.bytes.drop offset).take width := by
  have hwritten := Bytes.bigOfNat_bigToNat ((p.bytes.drop offset).take width)
  rwa [p.length_cut h] at hwritten

theorem bigOfNat_field16 (h : offset + 2 ≤ packetLength) :
    Bytes.bigOfNat 2 (UInt16.ofNat (p.field offset 2)).toNat = (p.bytes.drop offset).take 2 := by
  have hlt : p.field offset 2 < UInt16.size := p.field_lt h
  rw [UInt16.toNat_ofNat', Nat.mod_eq_of_lt hlt, p.bigOfNat_field h]

theorem bigOfNat_field32 (h : offset + 4 ≤ packetLength) :
    Bytes.bigOfNat 4 (UInt32.ofNat (p.field offset 4)).toNat = (p.bytes.drop offset).take 4 := by
  have hlt : p.field offset 4 < UInt32.size := p.field_lt h
  rw [UInt32.toNat_ofNat', Nat.mod_eq_of_lt hlt, p.bigOfNat_field h]

theorem bigOfNat_field64 (h : offset + 8 ≤ packetLength) :
    Bytes.bigOfNat 8 (UInt64.ofNat (p.field offset 8)).toNat = (p.bytes.drop offset).take 8 := by
  have hlt : p.field offset 8 < UInt64.size := p.field_lt h
  rw [UInt64.toNat_ofNat', Nat.mod_eq_of_lt hlt, p.bigOfNat_field h]

end Packet

namespace Header

namespace FormatWord
variable (f : FormatWord)

theorem parity_eq : f.parity = f.word.toNat.testBit 13 := by
  have hzero : f.word &&& parityMask = 0 ↔ f.word.toNat.testBit 13 = false := by
    rw [← UInt16.toNat_inj, UInt16.toNat_and]
    change f.word.toNat &&& 2 ^ 13 = 0 ↔ _
    rw [Nat.and_comm, Nat.two_pow_and]
    cases f.word.toNat.testBit 13 <;> simp
  rw [parity, has]
  cases hbit : f.word.toNat.testBit 13 <;> simp [hzero, hbit]

theorem toNat_reserved : f.reserved.toNat = f.word.toNat / 32 % 4 := by
  have hword : ((f.word &&& reservedMask) >>> 5).toNat = (f.word.toNat &&& 96) >>> 5 := by
    rw [UInt16.toNat_shiftRight, UInt16.toNat_and]
    rfl
  have hshift : (f.word.toNat &&& 96) >>> 5 = (f.word.toNat >>> 5) &&& 3 :=
    Nat.shiftRight_and_distrib
  have hlow : (f.word.toNat >>> 5) &&& 3 = (f.word.toNat >>> 5) % 4 :=
    Nat.and_two_pow_sub_one_eq_mod _ 2
  rw [reserved, UInt16.toNat_toUInt8, hword, hshift, hlow, Nat.shiftRight_eq_div_pow]
  omega

theorem reserved_eq_zero_iff :
    f.reserved = 0 ↔ f.word.toNat.testBit 5 = false ∧ f.word.toNat.testBit 6 = false := by
  rw [← UInt8.toNat_inj, toNat_reserved, Nat.testBit_eq_decide_div_mod_eq,
    Nat.testBit_eq_decide_div_mod_eq, decide_eq_false_iff_not, decide_eq_false_iff_not]
  change f.word.toNat / 32 % 4 = 0 ↔ _
  omega

end FormatWord

/-- Joining the fields gives the bytes from which they were cut. -/
theorem toBytes_ofPacket (p : Packet) : (ofPacket p).toBytes = p.bytes.take headerLength := by
  have hsplit : p.bytes.take headerLength =
      (p.bytes.drop 0).take 2 ++ (p.bytes.drop 2).take 2 ++ (p.bytes.drop 4).take 2 ++
        (p.bytes.drop 6).take 2 ++ (p.bytes.drop 8).take 8 ++ (p.bytes.drop 16).take 4 ++
        (p.bytes.drop 20).take 4 ++ (p.bytes.drop 24).take 8 ++ (p.bytes.drop 32).take 24 := by
    simp only [List.drop_zero, ← List.take_add]
    rfl
  rw [hsplit]
  simp only [toBytes, ofPacket, UInt32.toUInt32_toInt32, UInt64.toUInt64_toInt64]
  rw [p.bigOfNat_field16 (by decide), p.bigOfNat_field16 (by decide),
    p.bigOfNat_field16 (by decide), p.bigOfNat_field16 (by decide),
    p.bigOfNat_field64 (by decide), p.bigOfNat_field32 (by decide),
    p.bigOfNat_field32 (by decide), p.bigOfNat_field64 (by decide)]
  simp [auxiliaryLength]

theorem eq_of_bigOfNat16 {a b : UInt16} (h : Bytes.bigOfNat 2 a.toNat = Bytes.bigOfNat 2 b.toNat) :
    a = b := by
  have ha : a.toNat < Bytes.span 2 := a.toNat_lt
  have hb : b.toNat < Bytes.span 2 := b.toNat_lt
  exact UInt16.toNat_inj.mp (Bytes.bigOfNat_inj ha hb h)

theorem eq_of_bigOfNat32 {a b : UInt32} (h : Bytes.bigOfNat 4 a.toNat = Bytes.bigOfNat 4 b.toNat) :
    a = b := by
  have ha : a.toNat < Bytes.span 4 := a.toNat_lt
  have hb : b.toNat < Bytes.span 4 := b.toNat_lt
  exact UInt32.toNat_inj.mp (Bytes.bigOfNat_inj ha hb h)

theorem eq_of_bigOfNat64 {a b : UInt64} (h : Bytes.bigOfNat 8 a.toNat = Bytes.bigOfNat 8 b.toNat) :
    a = b := by
  have ha : a.toNat < Bytes.span 8 := a.toNat_lt
  have hb : b.toNat < Bytes.span 8 := b.toNat_lt
  exact UInt64.toNat_inj.mp (Bytes.bigOfNat_inj ha hb h)

/-- Headers that are written alike are the same: every field has its place and its width. -/
theorem toBytes_inj {h k : Header} (hbytes : h.toBytes = k.toBytes) : h = k := by
  obtain ⟨⟨format⟩, number, ⟨info⟩, delta, ⟨ticks, fraction⟩, rate, frequency, auxiliary⟩ := h
  obtain ⟨⟨format'⟩, number', ⟨info'⟩, delta', ⟨ticks', fraction'⟩, rate', frequency',
    auxiliary'⟩ := k
  simp only [toBytes] at hbytes
  obtain ⟨hbytes, hauxiliary⟩ := List.append_inj' hbytes (by simp)
  obtain ⟨hbytes, hfrequency⟩ := List.append_inj' hbytes (by simp)
  obtain ⟨hbytes, hrate⟩ := List.append_inj' hbytes (by simp)
  obtain ⟨hbytes, hfraction⟩ := List.append_inj' hbytes (by simp)
  obtain ⟨hbytes, hticks⟩ := List.append_inj' hbytes (by simp)
  obtain ⟨hbytes, hdelta⟩ := List.append_inj' hbytes (by simp)
  obtain ⟨hbytes, hinfo⟩ := List.append_inj' hbytes (by simp)
  obtain ⟨hformat, hnumber⟩ := List.append_inj' hbytes (by simp)
  have hfrequency : frequency = frequency' := by
    simpa using congrArg UInt64.toInt64 (eq_of_bigOfNat64 hfrequency)
  have hrate : rate = rate' := by
    simpa using congrArg UInt32.toInt32 (eq_of_bigOfNat32 hrate)
  have hauxiliary : auxiliary = auxiliary' := Vector.toList_inj.mp hauxiliary
  rw [eq_of_bigOfNat16 hformat, eq_of_bigOfNat16 hnumber, eq_of_bigOfNat16 hinfo,
    eq_of_bigOfNat16 hdelta, eq_of_bigOfNat64 hticks, eq_of_bigOfNat32 hfraction, hrate,
    hfrequency, hauxiliary]

theorem eq_ofPacket {h : Header} {p : Packet} (hbytes : h.toBytes = p.bytes.take headerLength) :
    h = ofPacket p :=
  toBytes_inj (hbytes.trans (toBytes_ofPacket p).symm)

end Header

/-- The first word of a datagram has the bits of a frame: the two that are reserved are clear,
and so is the one that marks a parity frame. -/
def FirstWordClear (bytes : List UInt8) : Prop :=
  ∀ bit ∈ [5, 6, 13], (Bytes.bigToNat (bytes.take 2)).testBit bit = false

instance : DecidablePred FirstWordClear := fun _ =>
  inferInstanceAs (Decidable (∀ bit ∈ [5, 6, 13], _))

/-- A datagram carries a frame: it has the length of a packet, and its first word is clear. -/
def IsFrame (bytes : List UInt8) : Prop := bytes.length = packetLength ∧ FirstWordClear bytes

instance : DecidablePred IsFrame := fun _ => inferInstanceAs (Decidable (_ ∧ _))

namespace Packet
variable (p : Packet)

theorem firstWordClear_iff :
    FirstWordClear p.bytes ↔
      (Header.ofPacket p).format.reserved = 0 ∧ (Header.ofPacket p).format.parity = false := by
  have hlt : p.field 0 2 < UInt16.size := p.field_lt (by decide)
  have hword : (Header.ofPacket p).format.word.toNat = Bytes.bigToNat (p.bytes.take 2) :=
    Nat.mod_eq_of_lt hlt
  rw [Header.FormatWord.reserved_eq_zero_iff, Header.FormatWord.parity_eq, hword,
    FirstWordClear]
  simp [and_assoc]

/-- A packet has a header exactly if its first word is clear, and then its fields are it. -/
theorem header_eq_ok_iff {h : Header} :
    p.header = .ok h ↔ FirstWordClear p.bytes ∧ Header.ofPacket p = h := by
  rw [firstWordClear_iff]
  cases hparity : (Header.ofPacket p).format.parity <;>
    by_cases hreserved : (Header.ofPacket p).format.reserved = 0 <;>
    simp [Packet.header, hparity, hreserved]

theorem ofBytes_eq_ok_iff {bytes : List UInt8} :
    ofBytes bytes = .ok p ↔ p.bytes = bytes := by
  unfold ofBytes
  split
  · rename_i hlength
    rw [Except.ok.injEq]
    constructor
    · rintro rfl
      rfl
    · rintro rfl
      rfl
  · rename_i hlength
    constructor
    · exact nofun
    · rintro rfl
      exact absurd p.length_eq hlength

end Packet

namespace Frame
variable {bytes : List UInt8} {arrival : Nat} {f : Frame}

/-- A frame is read from a datagram with its header, or refused for the same reason. -/
theorem map_header_decode (bytes : List UInt8) (arrival : Nat) :
    (decode bytes arrival).map header = Header.decode bytes := by
  unfold decode Header.decode
  cases Packet.ofBytes bytes with
  | error fault => rfl
  | ok packet =>
      change Except.map header (packet.header >>= fun h => .ok ⟨h, packet, arrival⟩) =
        packet.header
      cases packet.header <;> rfl

theorem decode_eq_ok_iff :
    decode bytes arrival = .ok f ↔
      Packet.ofBytes bytes = .ok f.packet ∧ f.packet.header = .ok f.header ∧
        f.arrival = arrival := by
  constructor
  · intro h
    unfold decode at h
    cases hpacket : Packet.ofBytes bytes with
    | error fault => simp [hpacket, bind, Except.bind] at h
    | ok packet =>
        cases hheader : packet.header with
        | error fault => simp [hpacket, hheader, bind, Except.bind] at h
        | ok header =>
            simp only [hpacket, hheader, bind, Except.bind, pure, Except.pure,
              Except.ok.injEq] at h
            subst h
            exact ⟨rfl, hheader, rfl⟩
  · rintro ⟨hpacket, hheader, rfl⟩
    unfold decode
    simp only [hpacket, hheader, bind, Except.bind]
    rfl

/-- A datagram is read exactly if it carries a frame, whose bytes are then its own. -/
theorem decode_of_isFrame (h : IsFrame bytes) (arrival : Nat) :
    ∃ f, decode bytes arrival = .ok f ∧ f.packet.bytes = bytes ∧ f.arrival = arrival ∧
      Header.decode bytes = .ok f.header := by
  let packet : Packet := ⟨bytes, h.1⟩
  let f : Frame := ⟨Header.ofPacket packet, packet, arrival⟩
  have hpacket : Packet.ofBytes bytes = .ok packet := packet.ofBytes_eq_ok_iff.mpr rfl
  have hheader : packet.header = .ok f.header := packet.header_eq_ok_iff.mpr ⟨h.2, rfl⟩
  have hdecode : decode bytes arrival = .ok f := decode_eq_ok_iff.mpr ⟨hpacket, hheader, rfl⟩
  refine ⟨f, hdecode, rfl, rfl, ?_⟩
  rw [← map_header_decode bytes arrival, hdecode]
  rfl

theorem isFrame_of_decode (h : decode bytes arrival = .ok f) : IsFrame bytes := by
  obtain ⟨hpacket, hheader, -⟩ := decode_eq_ok_iff.mp h
  have hbytes := f.packet.ofBytes_eq_ok_iff.mp hpacket
  exact hbytes ▸ ⟨f.packet.length_eq, (f.packet.header_eq_ok_iff.mp hheader).1⟩

theorem toBytes_append_payload_iff :
    f.header.toBytes ++ f.payload = f.packet.bytes ↔ Header.ofPacket f.packet = f.header := by
  have hsplit : f.packet.bytes.take headerLength ++ f.payload = f.packet.bytes :=
    List.take_append_drop headerLength f.packet.bytes
  constructor
  · intro h
    have hbytes : f.header.toBytes = f.packet.bytes.take headerLength :=
      List.append_cancel_right (h.trans hsplit.symm)
    exact (Header.eq_ofPacket hbytes).symm
  · intro h
    rw [← h, Header.toBytes_ofPacket, hsplit]

/-- A datagram is a frame if and only if it has the length of a packet and three bits of its
first word are clear, two that are reserved and the one for parity. Its header is what reading
the header alone gives, or it is refused for the same reason. And it is read as a frame exactly
if the header of that frame, written field after field, and its payload are the datagram. -/
theorem decode_reads_datagram (bytes : List UInt8) (arrival : Nat) :
    ((∃ f, decode bytes arrival = .ok f) ↔
      bytes.length = 1080 ∧
        ∀ bit ∈ [5, 6, 13], (Bytes.bigToNat (bytes.take 2)).testBit bit = false) ∧
    (decode bytes arrival).map header = Header.decode bytes ∧
    ∀ f, decode bytes arrival = .ok f ↔
      FirstWordClear bytes ∧ f.header.toBytes ++ f.payload = bytes ∧ f.packet.bytes = bytes ∧
        f.arrival = arrival := by
  refine ⟨⟨?_, ?_⟩, map_header_decode bytes arrival, fun f => ⟨?_, ?_⟩⟩
  · rintro ⟨f, h⟩
    obtain ⟨hpacket, hheader, -⟩ := decode_eq_ok_iff.mp h
    have hbytes := f.packet.ofBytes_eq_ok_iff.mp hpacket
    have hclear := (f.packet.header_eq_ok_iff.mp hheader).1
    rw [hbytes] at hclear
    exact ⟨hbytes ▸ f.packet.length_eq, hclear⟩
  · rintro ⟨hlength, hclear⟩
    let packet : Packet := ⟨bytes, hlength⟩
    have hpacket : Packet.ofBytes bytes = .ok packet := packet.ofBytes_eq_ok_iff.mpr rfl
    have hheader : packet.header = .ok (Header.ofPacket packet) :=
      packet.header_eq_ok_iff.mpr ⟨hclear, rfl⟩
    exact ⟨⟨Header.ofPacket packet, packet, arrival⟩,
      decode_eq_ok_iff.mpr ⟨hpacket, hheader, rfl⟩⟩
  · intro h
    obtain ⟨hpacket, hheader, harrival⟩ := decode_eq_ok_iff.mp h
    obtain ⟨hclear, hfields⟩ := f.packet.header_eq_ok_iff.mp hheader
    have hbytes := f.packet.ofBytes_eq_ok_iff.mp hpacket
    refine ⟨hbytes ▸ hclear, ?_, hbytes, harrival⟩
    rw [toBytes_append_payload_iff.mpr hfields, hbytes]
  · rintro ⟨hclear, hwritten, hbytes, harrival⟩
    have hfields := toBytes_append_payload_iff.mp (hwritten.trans hbytes.symm)
    rw [← hbytes] at hclear
    exact decode_eq_ok_iff.mpr ⟨f.packet.ofBytes_eq_ok_iff.mpr hbytes,
      f.packet.header_eq_ok_iff.mpr ⟨hclear, hfields⟩, harrival⟩

end Frame

end SddsReceiver
