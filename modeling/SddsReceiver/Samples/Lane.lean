import SddsReceiver.Header.Basic

/-!
# Sample lanes

A stream delivers its samples in one of three widths. The first frame of such a width fixes
the lane; other widths have none.
-/
namespace SddsReceiver

inductive Lane where
  /-- Signed 8-bit samples. -/
  | octet
  /-- Signed 16-bit samples. -/
  | short
  /-- 32-bit floating-point samples. -/
  | float
  deriving DecidableEq, Repr

namespace Lane

/-- Bytes in one sample. -/
def byteWidth : Lane → Nat
  | octet => 1
  | short => 2
  | float => 4

def bits : Lane → UInt8
  | octet => 8
  | short => 16
  | float => 32

def ofBits (bits : UInt8) : Option Lane :=
  if bits = 8 then some octet
  else if bits = 16 then some short
  else if bits = 32 then some float
  else none

def samplesPerFrame (lane : Lane) : Nat :=
  payloadLength / lane.byteWidth

theorem byteWidth_pos (lane : Lane) : 0 < lane.byteWidth := by
  cases lane <;> decide

theorem ofBits_bits (lane : Lane) : ofBits lane.bits = some lane := by
  cases lane <;> decide

theorem bits_of_ofBits {bits : UInt8} {lane : Lane} (h : ofBits bits = some lane) :
    lane.bits = bits := by
  by_cases h8 : bits = 8
  · subst h8; cases h; rfl
  · by_cases h16 : bits = 16
    · subst h16; cases h; rfl
    · by_cases h32 : bits = 32
      · subst h32; cases h; rfl
      · simp [ofBits, h8, h16, h32] at h

theorem samplesPerFrame_mul_bits (lane : Lane) :
    lane.samplesPerFrame * lane.bits.toNat = payloadLength * 8 := by
  cases lane <;> decide

end Lane

end SddsReceiver
