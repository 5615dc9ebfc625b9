import SddsReceiver.Text.Decimal

/-!
# Values of unquoted text

What a word means when it is not quoted: nothing, a truth value, a whole number in one of
four bases, a decimal fraction, or a text. A number that starts with a zero and goes on with
digits alone is a text. The limits of the numbers are those of 64-bit words.
-/
namespace SddsReceiver.Settings.Plain

/-- The greatest number of 64 bits. -/
def maxUnsigned : Nat := 18446744073709551615

/-- The least signed number of 64 bits. -/
def minSigned : Int := -9223372036854775808

/-- The greatest signed number of 64 bits. -/
def maxSigned : Int := 9223372036854775807

def isNull (text : String) : Bool :=
  text == "~" || text == "null" || text == "Null" || text == "NULL"

def bool? (text : String) : Option Bool :=
  if text == "true" || text == "True" || text == "TRUE" then some true
  else if text == "false" || text == "False" || text == "FALSE" then some false
  else none

/-- A sign aside, the text is a zero followed by more digits. -/
def hasLeadingZero (text : List Char) : Bool :=
  let digits := match text with
    | '-' :: cs => cs
    | '+' :: cs => cs
    | cs => cs
  match digits with
  | '0' :: c :: cs => (c :: cs).all Char.isDigit
  | _ => false

/-- The number after a mark for its base. -/
def based? : List Char → Option Nat
  | '0' :: 'x' :: cs => Text.Decimal.natural? 16 cs
  | '0' :: 'o' :: cs => Text.Decimal.natural? 8 cs
  | '0' :: 'b' :: cs => Text.Decimal.natural? 2 cs
  | _ => none

/-- The magnitude of a number without a sign, in any of the bases. -/
def magnitude? (text : List Char) : Option Nat :=
  (based? text).orElse fun _ =>
    if hasLeadingZero text then none else Text.Decimal.natural? 10 text

/-- A whole number with at most one sign. -/
def integer? : List Char → Option Int
  | '-' :: cs => (magnitude? cs).map fun n => -(n : Int)
  | '+' :: cs => (magnitude? cs).map Int.ofNat
  | cs => (magnitude? cs).map Int.ofNat

/-- A whole number without a minus sign, up to a limit. -/
def unsigned? (text : String) : Option Nat :=
  match text.toList with
  | '-' :: _ => none
  | cs => (integer? cs).bind fun n => if n.toNat ≤ maxUnsigned then some n.toNat else none

def signed? (text : String) : Option Int :=
  (integer? text.toList).bind fun n => if minSigned ≤ n ∧ n ≤ maxSigned then some n else none

/-- A decimal fraction, an infinity or not a number. -/
def decimal? (text : String) : Option Float :=
  if text == ".inf" || text == ".Inf" || text == ".INF" ||
      text == "+.inf" || text == "+.Inf" || text == "+.INF" then some (1.0 / 0.0)
  else if text == "-.inf" || text == "-.Inf" || text == "-.INF" then some (-1.0 / 0.0)
  else if text == ".nan" || text == ".NaN" || text == ".NAN" then some (0.0 / 0.0)
  else Text.Decimal.fraction? text.toList

end SddsReceiver.Settings.Plain
