import Mathlib
import RiskScoring.Json.Basic

/-!
# Numbers are finite

JSON has no word for an infinite double, and `Binary64.ofRatio?` never rounds up to one. So every
JSON number stands for a finite double, integers included.

That a double comes back from its parts (`pack_unpack`) is known where the whole of Mathlib is
imported; none of its files brings it along.

* `Binary64.isFinite_ofBits`: a double is finite unless all of its exponent bits are set.
* `Binary64.isFinite_of_ofRatio?`: a ratio that is rounded is rounded to a finite double.
* `JsonNumber.isFinite_toFloat`: the statement for JSON numbers.
-/

namespace RiskScoring

namespace Binary64

open Float.Model Float.Model.UnpackedFloat

theorem isFinite_unpack {bits : BitVec Format.binary64.numBits}
    (regular : unpackExponent bits ≠ -BitVec.ofNat Format.binary64.exponentBits 1) :
    (UnpackedFloat.unpack Format.binary64 bits).isFinite = true := by
  unfold UnpackedFloat.unpack
  simp only [if_neg regular]
  split
  · split <;> rfl
  · rfl

/-- A double is finite unless all of its exponent bits are set. -/
theorem isFinite_ofBits {bits : UInt64} (regular : bits.toNat / leastNormal % 2048 ≠ 2047) :
    (Float.ofBits bits).isFinite = true := by
  have exponent : @unpackExponent Format.binary64 bits.toBitVec ≠
      -BitVec.ofNat Format.binary64.exponentBits 1 := by
    intro allSet
    rw [unpackExponent_def] at allSet
    have value := congrArg BitVec.toNat allSet
    rw [BitVec.extractLsb'_toNat, Nat.shiftRight_eq_div_pow] at value
    exact regular value
  have notNaN : @isNaNBits Format.binary64 bits.toBitVec = false :=
    decide_eq_false fun isNaN => exponent isNaN.1
  -- What is no NaN comes back from its parts.
  have packed : UnpackedFloat.pack Format.binary64
      (UnpackedFloat.unpack Format.binary64 bits.toBitVec) = bits.toBitVec := by
    rw [pack_unpack, notNaN]
    rfl
  show (UnpackedFloat.unpack Format.binary64 (UnpackedFloat.pack Format.binary64
    (UnpackedFloat.unpack Format.binary64 bits.toBitVec))).isFinite = true
  rw [packed]
  exact isFinite_unpack exponent

theorem isFinite_zero (negative : Bool) : (zero negative).isFinite = true := by
  cases negative with
  | false => exact isFinite_ofBits (by decide)
  | true => exact isFinite_ofBits (by decide)

/-- A sign bit above a word whose exponent bits are not all set makes a finite double. -/
theorem isFinite_word (negative : Bool) {magnitude : Nat}
    (inRange : magnitude < 2047 * leastNormal) :
    (Float.ofBits (UInt64.ofNat
      ((if negative then 0x8000000000000000 else 0) + magnitude))).isFinite = true := by
  apply isFinite_ofBits
  rw [UInt64.toNat_ofNat']
  simp only [leastNormal] at inRange ⊢
  cases negative with
  | false => simp only [Bool.false_eq_true, if_false]; omega
  | true => simp only [if_true]; omega

/-- A ratio that is rounded is rounded to a finite double. -/
theorem isFinite_of_ofRatio? {negative : Bool} {num den : Nat} {value : Float}
    (rounds : ofRatio? negative num den = some value) : value.isFinite = true := by
  unfold ofRatio? at rounds
  split at rounds
  · cases rounds
    exact isFinite_zero negative
  · extract_lets exponent significand magnitude sign at rounds
    split at rounds
    · cases rounds
    · rename_i inRange
      cases rounds
      exact isFinite_word negative (Nat.lt_of_not_le inRange)

theorem isFinite_ofInt (value : Int) : (ofInt value).isFinite = true := by
  unfold ofInt
  cases rounded : ofRatio? (decide (value < 0)) value.natAbs 1 with
  | none => exact isFinite_zero false
  | some double => exact isFinite_of_ofRatio? rounded

end Binary64

/-- Every JSON number stands for a finite double. -/
theorem JsonNumber.isFinite_toFloat (number : JsonNumber) : number.toFloat.isFinite = true := by
  cases number with
  | int value fits => exact Binary64.isFinite_ofInt value
  | float value finite => exact finite

end RiskScoring
