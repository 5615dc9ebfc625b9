import SddsReceiver.Text.Decimal

/-!
# Numerals of bounded size

A whole number in a base of at most sixteen, up to a limit. A plus sign may stand before its
digits. They are read from the left, so a number that is too large already is refused before a
foreign character further right is seen.
-/
namespace SddsReceiver.Text

/-- Why a text is no number of the wanted size. -/
inductive NumeralFault where
  | empty
  | foreignCharacter
  | tooLarge
  deriving DecidableEq, Repr

namespace NumeralFault

def message : NumeralFault → String
  | empty => "cannot parse integer from empty string"
  | foreignCharacter => "invalid digit found in string"
  | tooLarge => "number too large to fit in target type"

end NumeralFault

namespace Numeral

/-- The number that digits spell after a part with a given value. -/
def readFrom (base limit value : Nat) : List Char → Except NumeralFault Nat
  | [] => .ok value
  | c :: cs =>
      match Decimal.digit? base c with
      | none => .error .foreignCharacter
      | some digit =>
          let next := value * base + digit
          if next ≤ limit then readFrom base limit next cs else .error .tooLarge

def read (base limit : Nat) (text : List Char) : Except NumeralFault Nat :=
  match text with
  | [] => .error .empty
  | ['+'] => .error .foreignCharacter
  | '+' :: cs => readFrom base limit 0 cs
  | cs => readFrom base limit 0 cs

end Numeral

end SddsReceiver.Text
