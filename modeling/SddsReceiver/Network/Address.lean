import SddsReceiver.Text.Decimal
import SddsReceiver.Text.Pieces

/-!
# Addresses of version 4

Four octets, written in decimal between dots. Reading accepts exactly what writing gives, so
an octet has no leading zeros. The groups are the addresses that begin with 224 to 239.
-/
namespace SddsReceiver.Network

structure Address where
  a : UInt8
  b : UInt8
  c : UInt8
  d : UInt8
  deriving DecidableEq, Repr

namespace Address

def loopback : Address := ⟨127, 0, 0, 1⟩
def unspecified : Address := ⟨0, 0, 0, 0⟩

def text (address : Address) : String :=
  s!"{address.a}.{address.b}.{address.c}.{address.d}"

/-- An octet of one to three digits without a leading zero. -/
def octet? (text : List Char) : Option UInt8 :=
  match text with
  | ['0'] => some 0
  | '0' :: _ => none
  | cs =>
      if cs.length ≤ 3 then
        (Text.Decimal.natural? 10 cs).bind fun n => if n < 256 then some (UInt8.ofNat n) else none
      else none

def parse? (text : String) : Option Address :=
  match (Text.pieces '.' text.toList).map octet? with
  | [some a, some b, some c, some d] => some ⟨a, b, c, d⟩
  | _ => none

/-- The address is a group that hosts join. -/
def isMulticast (address : Address) : Bool :=
  address.a &&& 0xf0 == 0xe0

end Address

/-- An address with a port, as it is written. -/
def socketText (address : Address) (port : UInt16) : String :=
  s!"{address.text}:{port}"

end SddsReceiver.Network
