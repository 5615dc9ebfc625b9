/-!
# Decimal text

Whole numbers in a base of at most sixteen, and decimal fractions with an exponent. A
fraction becomes the double nearest to it; one that is too large for a double has none.
-/
namespace SddsReceiver.Text.Decimal

/-- The value of a digit below the base. -/
def digit? (base : Nat) (c : Char) : Option Nat :=
  let value :=
    if '0' ≤ c ∧ c ≤ '9' then c.toNat - 48
    else if 'a' ≤ c ∧ c ≤ 'f' then c.toNat - 87
    else if 'A' ≤ c ∧ c ≤ 'F' then c.toNat - 55
    else base
  if value < base then some value else none

/-- The number that digits spell after a part with a given value. -/
def readFrom? (base value : Nat) : List Char → Option Nat
  | [] => some value
  | c :: cs => (digit? base c).bind fun d => readFrom? base (value * base + d) cs

/-- The number that a text of at least one digit spells. -/
def natural? (base : Nat) (text : List Char) : Option Nat :=
  if text.isEmpty then none else readFrom? base 0 text

/-- A number spelled in digits below ten, least significant last. -/
def ofDigits (digits : List Char) : Nat :=
  digits.foldl (fun n c => n * 10 + (c.toNat - 48)) 0

/-- A power of ten of this size or more is beyond every double. -/
def maxExponent : Int := 400

/-- The double nearest to `mantissa * 10 ^ exponent`; `digits` bounds the mantissa's length. -/
def scaled? (mantissa digits : Nat) (exponent : Int) : Option Float :=
  if mantissa = 0 then some 0.0
  else if exponent + digits > maxExponent then none
  else if exponent + digits < -maxExponent then some 0.0
  else
    let value := Float.ofScientific mantissa (exponent < 0) exponent.natAbs
    if value.isFinite then some value else none

/-- The exponent after its letter: an optional sign and at least one digit. -/
def exponent? : List Char → Option Int
  | '-' :: cs => (natural? 10 cs).map fun n => -(n : Int)
  | '+' :: cs => (natural? 10 cs).map Int.ofNat
  | cs => (natural? 10 cs).map Int.ofNat

/-- A decimal fraction without a sign: digits around an optional point, at least one of
them, and an optional exponent. -/
def unsignedFraction? (text : List Char) : Option Float :=
  let whole := text.takeWhile Char.isDigit
  let rest := text.dropWhile Char.isDigit
  let (fraction, rest) := match rest with
    | '.' :: cs => (cs.takeWhile Char.isDigit, cs.dropWhile Char.isDigit)
    | cs => ([], cs)
  let digits := whole ++ fraction
  if digits.isEmpty then none
  else
    let exponent := match rest with
      | [] => some 0
      | 'e' :: cs => exponent? cs
      | 'E' :: cs => exponent? cs
      | _ => none
    exponent.bind fun e => scaled? (ofDigits digits) digits.length (e - fraction.length)

/-- A decimal fraction with an optional sign. -/
def fraction? : List Char → Option Float
  | '-' :: cs => (unsignedFraction? cs).map fun x => -x
  | '+' :: cs => unsignedFraction? cs
  | cs => unsignedFraction? cs

end SddsReceiver.Text.Decimal
