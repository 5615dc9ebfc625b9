import Mathlib.Algebra.Order.Floor.Div
import SddsReceiver.TimeTag

/-!
# Time tags as exact numbers

A sub-tick is shorter than a picosecond. So the tag of a whole number of picoseconds, though it
is rounded down to a sub-tick, still tells that number, and a later one has a later tag. This
holds for every distance that the tick count can hold. On the tags themselves nothing rounds:
their order is that of their sub-tick counts, no two tags share a count, and the difference of
two counts is computed in a signed word that is wide enough for it.
-/
namespace SddsReceiver

namespace TimeTag

theorem fraction_lt (t : TimeTag) : t.fraction.toNat < partsPerTick := t.fraction.toNat_lt

theorem subTicks_lt (t : TimeTag) : t.subTicks < UInt64.size * UInt32.size := by
  have hticks : t.ticks.toNat < UInt64.size := t.ticks.toNat_lt
  have hfraction := t.fraction_lt
  rw [UInt64.size] at hticks ⊢
  rw [partsPerTick] at hfraction
  rw [subTicks, partsPerTick, UInt32.size]
  omega

/-! ## The wide word of a tag -/

/-- The tag as a signed word of 128 bits, with the fraction in the bits below the ticks. -/
def word (t : TimeTag) : BitVec 128 :=
  t.ticks.toBitVec.setWidth 128 <<< 32 ||| t.fraction.toBitVec.setWidth 128

/-- The fraction fits into the bits that the shift leaves free, so nothing is carried. -/
theorem toNat_word (t : TimeTag) : t.word.toNat = t.subTicks := by
  have hticks : t.ticks.toNat < UInt64.size := t.ticks.toNat_lt
  have hfraction := t.fraction_lt
  have hshift : t.ticks.toNat <<< 32 = t.ticks.toNat * partsPerTick := Nat.shiftLeft_eq ..
  have hor : t.ticks.toNat <<< 32 ||| t.fraction.toNat = t.subTicks := by
    rw [← Nat.shiftLeft_add_eq_or_of_lt hfraction, hshift, subTicks]
  rw [UInt64.size] at hticks
  rw [partsPerTick] at hshift
  rw [word, BitVec.toNat_or, BitVec.toNat_shiftLeft, BitVec.toNat_setWidth_of_le (by decide),
    BitVec.toNat_setWidth_of_le (by decide), UInt64.toNat_toBitVec, UInt32.toNat_toBitVec,
    Nat.mod_eq_of_lt (by omega), hor]

theorem toInt_word (t : TimeTag) : t.word.toInt = t.subTicks := by
  have hbound := t.subTicks_lt
  rw [UInt64.size, UInt32.size] at hbound
  rw [BitVec.toInt_eq_toNat_of_lt (by rw [toNat_word]; omega), toNat_word]

/-- The difference stays far from the sign bit, in either direction. -/
theorem toInt_word_sub (a b : TimeTag) :
    (a.word - b.word).toInt = (a.subTicks : Int) - b.subTicks := by
  have ha := a.subTicks_lt
  have hb := b.subTicks_lt
  rw [UInt64.size, UInt32.size] at ha hb
  rw [BitVec.toInt_sub, toInt_word, toInt_word, Int.bmod_eq_of_le (by omega) (by omega)]

/-! ## The order of tags -/

theorem subTicks_lt_iff {a b : TimeTag} : a.subTicks < b.subTicks ↔
    a.ticks < b.ticks ∨ a.ticks = b.ticks ∧ a.fraction < b.fraction := by
  have ha := a.fraction_lt
  have hb := b.fraction_lt
  rw [partsPerTick] at ha hb
  rw [UInt64.lt_iff_toNat_lt, ← UInt64.toNat_inj, UInt32.lt_iff_toNat_lt, subTicks, subTicks,
    partsPerTick]
  omega

theorem subTicks_inj {a b : TimeTag} : a.subTicks = b.subTicks ↔ a = b := by
  constructor
  · intro h
    have ha := a.fraction_lt
    have hb := b.fraction_lt
    rw [partsPerTick] at ha hb
    rw [subTicks, subTicks, partsPerTick] at h
    have hticks : a.ticks = b.ticks := UInt64.toNat_inj.mp (by omega)
    have hfraction : a.fraction = b.fraction := UInt32.toNat_inj.mp (by omega)
    cases a
    cases b
    exact congrArg₂ TimeTag.mk hticks hfraction
  · exact congrArg subTicks

theorem compare_eq_lt {a b : TimeTag} : a.compare b = .lt ↔ a.subTicks < b.subTicks := by
  rw [compare, Ordering.then_eq_lt, Std.compare_eq_lt, Std.compare_eq_iff_eq, Std.compare_eq_lt,
    subTicks_lt_iff]

theorem compare_eq_gt {a b : TimeTag} : a.compare b = .gt ↔ b.subTicks < a.subTicks := by
  rw [compare, Ordering.then_eq_gt, Std.compare_eq_gt, Std.compare_eq_iff_eq, Std.compare_eq_gt,
    subTicks_lt_iff, eq_comm]

theorem compare_self (a : TimeTag) : a.compare a = .eq := by
  rw [compare, Std.compare_self, Std.compare_self, Ordering.eq_then]

theorem compare_eq (a b : TimeTag) : a.compare b = Ord.compare a.subTicks b.subTicks := by
  cases hcount : Ord.compare a.subTicks b.subTicks with
  | lt => exact compare_eq_lt.mpr (Std.compare_eq_lt.mp hcount)
  | gt => exact compare_eq_gt.mpr (Std.compare_eq_gt.mp hcount)
  | eq =>
      have hequal : a = b := subTicks_inj.mp (Std.compare_eq_iff_eq.mp hcount)
      rw [hequal, compare_self]

/-! ## Tags of whole picoseconds -/

theorem subTicks_ofPicoseconds {ps : Nat} (h : ps < picosecondsPerTick * UInt64.size) :
    (ofPicoseconds ps).subTicks = ps * partsPerTick / picosecondsPerTick := by
  have hrest : ps % picosecondsPerTick < picosecondsPerTick := Nat.mod_lt ps (by decide)
  rw [picosecondsPerTick] at h hrest
  have hticks : ps / 250 < UInt64.size := by omega
  have hfraction : ps % 250 * 4294967296 / 250 < UInt32.size := by
    rw [UInt32.size]
    omega
  rw [ofPicoseconds, subTicks, picosecondsPerTick, partsPerTick, UInt64.toNat_ofNat_of_lt' hticks,
    UInt32.toNat_ofNat_of_lt' hfraction]
  omega

/-- What rounding down to a sub-tick takes away is less than a picosecond. -/
theorem ceilDiv_subTicks {ps : Nat} (h : ps < picosecondsPerTick * UInt64.size) :
    ((ofPicoseconds ps).subTicks * picosecondsPerTick) ⌈/⌉ partsPerTick = ps := by
  rw [subTicks_ofPicoseconds h, Nat.ceilDiv_eq_add_pred_div, partsPerTick, picosecondsPerTick]
  omega

theorem compare_ofPicoseconds {earlier ps : Nat} (hearlier : earlier < ps)
    (h : ps < picosecondsPerTick * UInt64.size) :
    (ofPicoseconds earlier).compare (ofPicoseconds ps) = .lt := by
  rw [compare_eq_lt, subTicks_ofPicoseconds (hearlier.trans h), subTicks_ofPicoseconds h,
    partsPerTick, picosecondsPerTick]
  omega

/-- Every whole number of picoseconds that the tick count can hold has as its tag the number of
sub-ticks in it, rounded down. Rounding that up to picoseconds again gives the number back, and
an earlier number has an earlier tag. Of any two tags, the order is that of their sub-tick
counts, which lie below 2^96 and differ for different tags, and their distance is converted
from the exact difference of the counts: the 128-bit words of the two tags are subtracted
without overflow. -/
theorem subTicks_exact (a b : TimeTag) :
    (∀ ps < picosecondsPerTick * UInt64.size,
        (ofPicoseconds ps).subTicks = ps * partsPerTick / picosecondsPerTick ∧
        ((ofPicoseconds ps).subTicks * picosecondsPerTick) ⌈/⌉ partsPerTick = ps ∧
        ∀ earlier < ps, (ofPicoseconds earlier).compare (ofPicoseconds ps) = .lt) ∧
      (a.compare b = Ord.compare a.subTicks b.subTicks ∧
        (a.subTicks = b.subTicks ↔ a = b) ∧
        a.subTicks < UInt64.size * UInt32.size) ∧
      (a.word.toInt = a.subTicks ∧
        (a.word - b.word).toInt = (a.subTicks : Int) - b.subTicks ∧
        a.picosecondsSince b =
          Rounding.ofInt (a.word - b.word).toInt * 250.0 / 4294967296.0) := by
  refine ⟨fun ps h => ⟨subTicks_ofPicoseconds h, ceilDiv_subTicks h, ?_⟩,
    ⟨compare_eq a b, subTicks_inj, a.subTicks_lt⟩, ⟨a.toInt_word, toInt_word_sub a b, ?_⟩⟩
  · intro earlier hearlier
    exact compare_ofPicoseconds hearlier h
  · rw [toInt_word_sub, picosecondsSince]

/-- The last picosecond that the tick count can hold, and the last tag against the first. -/
theorem subTicks_exact_last :
    let ps := 4611686018427387903999
    let last : TimeTag := ⟨18446744073709551615, 4294967295⟩
    ps < picosecondsPerTick * UInt64.size ∧
      (ofPicoseconds ps).subTicks = 79228162514264337593526770466 ∧
      (ofPicoseconds (ps - 1)).compare (ofPicoseconds ps) = .lt ∧
      (last.word - zero.word).toInt = 79228162514264337593543950335 := by
  intro ps last
  have h : ps < picosecondsPerTick * UInt64.size := by decide
  obtain ⟨hcounts, -, -, hdifference, -⟩ := subTicks_exact last zero
  obtain ⟨hcount, -, hearlier⟩ := hcounts ps h
  exact ⟨h, hcount.trans (by decide), hearlier (ps - 1) (by decide),
    hdifference.trans (by decide)⟩

end TimeTag

end SddsReceiver
