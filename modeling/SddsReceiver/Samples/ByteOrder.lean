import SddsReceiver.Bytes
import SddsReceiver.Text.Blank

/-!
# Byte order of samples

Samples are stored most or least significant byte first. A configuration spells the order by
the significance of the bytes as they arrive, and a stream may announce it by a number.
-/
namespace SddsReceiver

inductive ByteOrder where
  | big
  | little
  deriving DecidableEq, Repr, Inhabited

namespace ByteOrder

def text : ByteOrder → String
  | big => "4321"
  | little => "1234"

/-- An order by its text, blanks around it aside; otherwise the text that names none. -/
def parse (source : String) : Except String ByteOrder :=
  let word := Text.trim source
  if word = big.text then .ok big
  else if word = little.text then .ok little
  else .error word

/-- The order that a stream announces by this number. -/
def ofAnnouncement (value : Int) : Option ByteOrder :=
  if value = 0x1234 then some little
  else if value = 0x4321 then some big
  else none

/-- The number that a run of bytes spells in this order. -/
def read (order : ByteOrder) (bytes : List UInt8) : Nat :=
  match order with
  | big => Bytes.bigToNat bytes
  | little => Bytes.littleToNat bytes

/-- A number as a run of bytes in this order. -/
def write (order : ByteOrder) (width n : Nat) : List UInt8 :=
  match order with
  | big => Bytes.bigOfNat width n
  | little => Bytes.littleOfNat width n

@[simp] theorem length_write (order : ByteOrder) (width n : Nat) :
    (order.write width n).length = width := by
  cases order <;> simp [write]

/-- What is read from a run of bytes is written back as the same run. -/
theorem write_read (order : ByteOrder) (bytes : List UInt8) :
    order.write bytes.length (order.read bytes) = bytes := by
  cases order with
  | big => exact Bytes.bigOfNat_bigToNat bytes
  | little => exact Bytes.littleOfNat_littleToNat bytes

/-- Reading from the other end is reading the reversed bytes. -/
theorem read_little (bytes : List UInt8) :
    little.read bytes = big.read bytes.reverse := by
  simp [read, Bytes.bigToNat]

end ByteOrder

end SddsReceiver
