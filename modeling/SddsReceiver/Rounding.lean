/-!
# Between whole numbers and binary floating point

Whole numbers of any size become doubles by rounding to the nearest one, with a tie going
to the even significand. In the other direction a double loses its fraction, a negative
one or one that is no number gives zero, and one too large for 128 bits gives the largest
128-bit number. Both are stated on the significand and the exponent.
-/
namespace SddsReceiver.Rounding

/-- Divide by a power of two, rounding to the nearest quotient and ties to the even one. -/
def shiftNearestEven (n shift : Nat) : Nat :=
  let quotient := n >>> shift
  let rest := n - quotient <<< shift
  let half := 1 <<< (shift - 1)
  if rest > half ∨ (rest = half ∧ quotient % 2 = 1) then quotient + 1 else quotient

/-- One more than the greatest fraction of a significand: 52 bits. -/
def fractionSpan : Nat := 4503599627370496

/-- The double nearest to a natural number. -/
def ofNat (n : Nat) : Float :=
  if n < 2 * fractionSpan then
    n.toUInt64.toFloat
  else
    let shift := n.log2 - 52
    (shiftNearestEven n shift).toUInt64.toFloat.scaleB shift

/-- The double nearest to an integer. -/
def ofInt (n : Int) : Float :=
  if n < 0 then -(ofNat n.natAbs) else ofNat n.natAbs

/-- The largest number of 128 bits, where truncation saturates. -/
def maxTruncated : Nat := 340282366920938463463374607431768211455

/-- The whole part of a double as a natural number of at most 128 bits. -/
def truncateToNat (x : Float) : Nat :=
  let bits := x.toBits.toNat
  let exponent := (bits >>> 52) % 2048
  let fraction := bits % fractionSpan
  if bits >>> 63 = 1 then
    0
  else if exponent = 2047 then
    if fraction = 0 then maxTruncated else 0
  else if exponent < 1023 then
    0
  else
    let scaled := (fractionSpan + fraction) <<< (exponent - 1023)
    min (scaled >>> 52) maxTruncated

end SddsReceiver.Rounding
