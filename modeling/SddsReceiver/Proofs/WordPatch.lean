import SddsReceiver.Header.FormatWord
import SddsReceiver.Header.TimeTagWord

/-!
# Writing some bits of a word

The setters of the format word and of the time tag word put other bits in place of those under
a mask. What is read under that mask is then what was written, what is read under a disjoint one
is what it was, and two writes under disjoint masks may change places.
-/
namespace SddsReceiver

namespace Header

theorem eq_of_bits {a b : UInt16} (h : ∀ i (hi : i < 16), a.toBitVec[i] = b.toBitVec[i]) :
    a = b :=
  UInt16.toBitVec_inj.mp (BitVec.eq_of_getElem_eq h)

theorem bit_of_disjoint {a b : UInt16} (h : a &&& b = 0) {i : Nat} (hi : i < 16) :
    (a.toBitVec[i] && b.toBitVec[i]) = false := by
  have hbit : (a &&& b).toBitVec[i] = (0 : UInt16).toBitVec[i] := by rw [h]
  simpa using hbit

structure WordPatch where
  mask : UInt16
  bits : UInt16
  within : bits &&& mask = bits

namespace WordPatch
variable (p q : WordPatch) {m : UInt16} (w : UInt16)

def apply (w : UInt16) : UInt16 := (w &&& ~~~p.mask) ||| p.bits

def nothing : WordPatch := ⟨0, 0, rfl⟩

/-- Every bit of the mask set or every one cleared. -/
def flag (mask : UInt16) (on : Bool) : WordPatch where
  mask := mask
  bits := if on then mask else 0
  within := by cases on <;> simp

theorem getElem_bits {i : Nat} (hi : i < 16) (h : p.mask.toBitVec[i] = false) :
    p.bits.toBitVec[i] = false := by
  have hwithin : (p.bits &&& p.mask).toBitVec[i] = p.bits.toBitVec[i] := by rw [p.within]
  simpa [h] using hwithin.symm

theorem apply_and_mask : p.apply w &&& p.mask = p.bits := by
  apply eq_of_bits
  intro i hi
  have hbits := p.getElem_bits hi
  cases hmask : p.mask.toBitVec[i] <;> simp_all [apply]

theorem apply_and_disjoint (h : p.mask &&& m = 0) : p.apply w &&& m = w &&& m := by
  apply eq_of_bits
  intro i hi
  have hdisjoint := bit_of_disjoint h hi
  have hbits := p.getElem_bits hi
  cases hmask : p.mask.toBitVec[i] <;> simp_all [apply]

theorem apply_comm (h : p.mask &&& q.mask = 0) : q.apply (p.apply w) = p.apply (q.apply w) := by
  apply eq_of_bits
  intro i hi
  have hdisjoint := bit_of_disjoint h hi
  have hp := p.getElem_bits hi
  have hq := q.getElem_bits hi
  cases hmask : p.mask.toBitVec[i] <;> cases hmask' : q.mask.toBitVec[i] <;>
    simp_all [apply]

theorem nothing_apply : nothing.apply w = w := by
  simp [apply, nothing]

theorem flag_apply (mask : UInt16) (on : Bool) :
    (flag mask on).apply w = if on then w ||| mask else w &&& ~~~mask := by
  cases on
  · simp [apply, flag]
  · apply eq_of_bits
    intro i hi
    cases hmask : mask.toBitVec[i] <;> simp [apply, flag, hmask]

theorem flag_and_mask (mask : UInt16) (on : Bool) :
    (flag mask on).apply w &&& mask = if on then mask else 0 :=
  (flag mask on).apply_and_mask w

end WordPatch
namespace FormatWord
variable {f g : FormatWord} {mask : UInt16}

theorem has_congr (h : f.word &&& mask = g.word &&& mask) : f.has mask = g.has mask := by
  rw [has, has, h]

theorem has_flag (hmask : mask ≠ 0) (w : UInt16) (on : Bool) :
    has ⟨(WordPatch.flag mask on).apply w⟩ mask = on := by
  rw [has, WordPatch.flag_and_mask]
  cases on <;> simp [hmask]

theorem reserved_congr (h : f.word &&& reservedMask = g.word &&& reservedMask) :
    f.reserved = g.reserved := by
  rw [reserved, reserved, h]

theorem bitsPerSample_congr (h : f.word &&& widthMask = g.word &&& widthMask) :
    f.bitsPerSample = g.bitsPerSample := by
  rw [bitsPerSample, bitsPerSample, h]

def reservedPatch (bits : UInt8) : WordPatch where
  mask := reservedMask
  bits := (bits.toUInt16 &&& 3) <<< 5
  within := by
    have hshift : ((bits.toUInt16 &&& 3) <<< 5 : UInt16) = bits.toUInt16 <<< 5 &&& reservedMask :=
      UInt16.shiftLeft_and
    rw [hshift, UInt16.and_assoc, UInt16.and_self]

theorem reserved_reservedPatch (w : UInt16) (bits : UInt8) :
    reserved ⟨(reservedPatch bits).apply w⟩ = bits &&& 3 := by
  have hbits : (reservedPatch bits).apply w &&& reservedMask = (bits.toUInt16 &&& 3) <<< 5 :=
    (reservedPatch bits).apply_and_mask w
  rw [reserved, hbits, ← UInt8.toNat_inj]
  have hle : bits.toNat &&& 3 ≤ 3 := Nat.and_le_right
  simp [Nat.shiftLeft_eq, Nat.shiftRight_eq_div_pow]
  omega

def widthPatch (bits : UInt8) : WordPatch where
  mask := widthMask
  bits := if bits = 32 then 31 else bits.toUInt16 &&& widthMask
  within := by
    split
    · rfl
    · rw [UInt16.and_assoc, UInt16.and_self]

/-- Widths up to 30, and 32, are read as they were written. -/
theorem bitsPerSample_widthPatch (w : UInt16) {bits : UInt8} (h : bits ≤ 30 ∨ bits = 32) :
    bitsPerSample ⟨(widthPatch bits).apply w⟩ = bits := by
  have hbits := (widthPatch bits).apply_and_mask w
  change (widthPatch bits).apply w &&& widthMask =
    if bits = 32 then 31 else bits.toUInt16 &&& widthMask at hbits
  rw [bitsPerSample, hbits]
  by_cases h32 : bits = 32
  · subst h32
    rfl
  · have hle : bits.toNat ≤ 30 := UInt8.le_iff_toNat_le.mp (h.resolve_right h32)
    have hwire : (bits.toUInt16 &&& widthMask).toUInt8 = bits := by
      have hlow : bits.toNat &&& 31 = bits.toNat % 32 := Nat.and_two_pow_sub_one_eq_mod _ 5
      rw [← UInt8.toNat_inj]
      simp [widthMask, hlow]
      omega
    have h31 : bits ≠ 31 := by
      rintro rfl
      simp at hle
    simp only [if_neg h32, hwire, if_neg h31]

end FormatWord

theorem TimeTagWord.timeValid_putTimeValid (t : TimeTagWord) (valid : Bool) :
    (t.putTimeValid valid).timeValid = valid := by
  have hword := WordPatch.flag_and_mask t.word timeValidMask valid
  rw [WordPatch.flag_apply] at hword
  rw [timeValid, has, putTimeValid, hword]
  cases valid <;> rfl

end Header

end SddsReceiver
