/-!
# Byte strings as positional numbers

A byte string is read as a number in base 256, with the least significant byte either
first or last, and a number is written as a string of a chosen width. Writing keeps the
low digits only. Reading and writing are inverse to each other in both directions, so a
field of fixed width holds exactly what was put into it.
-/
namespace SddsReceiver.Bytes

/-- The number whose base-256 digits are the given bytes, least significant first. -/
def littleToNat : List UInt8 → Nat
  | [] => 0
  | b :: bs => b.toNat + 256 * littleToNat bs

/-- The `width` lowest base-256 digits of a number, least significant first. -/
def littleOfNat : Nat → Nat → List UInt8
  | 0, _ => []
  | width + 1, n => UInt8.ofNat n :: littleOfNat width (n / 256)

/-- The number whose base-256 digits are the given bytes, most significant first. -/
def bigToNat (bytes : List UInt8) : Nat :=
  littleToNat bytes.reverse

/-- The `width` lowest base-256 digits of a number, most significant first. -/
def bigOfNat (width n : Nat) : List UInt8 :=
  (littleOfNat width n).reverse

/-- How many numbers have at most `width` digits. -/
def span : Nat → Nat
  | 0 => 1
  | width + 1 => 256 * span width

@[simp] theorem length_littleOfNat (width n : Nat) : (littleOfNat width n).length = width := by
  induction width generalizing n with
  | zero => rfl
  | succ width ih => simp [littleOfNat, ih]

@[simp] theorem length_bigOfNat (width n : Nat) : (bigOfNat width n).length = width := by
  simp [bigOfNat]

theorem littleToNat_lt (bytes : List UInt8) : littleToNat bytes < span bytes.length := by
  induction bytes with
  | nil => simp [littleToNat, span]
  | cons b bs ih =>
      have hb : b.toNat < 256 := b.toNat_lt
      simp only [littleToNat, List.length_cons, span]
      omega

theorem bigToNat_lt (bytes : List UInt8) : bigToNat bytes < span bytes.length := by
  simpa [bigToNat] using littleToNat_lt bytes.reverse

theorem littleToNat_littleOfNat (width n : Nat) :
    littleToNat (littleOfNat width n) = n % span width := by
  induction width generalizing n with
  | zero => simp [littleOfNat, littleToNat, span, Nat.mod_one]
  | succ width ih =>
      have h : n % span (width + 1) = n % 256 + 256 * (n / 256 % span width) :=
        Nat.mod_mul
      simp only [littleOfNat, littleToNat, ih, UInt8.toNat_ofNat', h]

theorem littleOfNat_littleToNat (bytes : List UInt8) :
    littleOfNat bytes.length (littleToNat bytes) = bytes := by
  induction bytes with
  | nil => rfl
  | cons b bs ih =>
      have hb : b.toNat < 256 := b.toNat_lt
      have hdiv : (b.toNat + 256 * littleToNat bs) / 256 = littleToNat bs := by omega
      have hmod : UInt8.ofNat (b.toNat + 256 * littleToNat bs) = b := by
        apply UInt8.toNat_inj.mp
        simp only [UInt8.toNat_ofNat']
        omega
      simp [littleOfNat, littleToNat, hdiv, hmod, ih]

/-- A number that fits the width is read back as it was written. -/
theorem bigToNat_bigOfNat {width n : Nat} (h : n < span width) :
    bigToNat (bigOfNat width n) = n := by
  simp [bigToNat, bigOfNat, littleToNat_littleOfNat, Nat.mod_eq_of_lt h]

/-- A byte string is written again as it was read. -/
theorem bigOfNat_bigToNat (bytes : List UInt8) :
    bigOfNat bytes.length (bigToNat bytes) = bytes := by
  have h := littleOfNat_littleToNat bytes.reverse
  rw [List.length_reverse] at h
  simp [bigToNat, bigOfNat, h]

end SddsReceiver.Bytes
