/-!
# Hexadecimal text

Numbers are written with lower-case digits, padded with zeros to a least width and never
cut.
-/
namespace SddsReceiver.Text.Hex

def digit (n : Nat) : Char :=
  if n < 10 then Char.ofNat (48 + n) else Char.ofNat (87 + n)

/-- The digits of a number, least significant first; zero has none. -/
def digitsReversed (n : Nat) : List Char :=
  if n = 0 then [] else digit (n % 16) :: digitsReversed (n / 16)

/-- A number in at least `width` digits. -/
def padded (width n : Nat) : String :=
  let digits := (digitsReversed n).reverse
  String.ofList (List.replicate (width - digits.length) '0' ++ digits)

end SddsReceiver.Text.Hex
