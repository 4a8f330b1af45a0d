/-!
# The exact value of a double

A finite double is `± significand * 2 ^ exponent`. `Binary64.ofFloat` reads the parts off the
bits, and `Binary64.ofRatio?` goes the other way: it rounds a ratio of natural numbers to the
nearest double, a tie to the even significand. Both work in exact arithmetic on natural numbers.
-/

namespace RiskScoring

/-- What the bits of a double stand for. A finite one is `± significand * 2 ^ exponent`. -/
inductive Binary64 where
  | nan
  | infinite (negative : Bool)
  | finite (negative : Bool) (significand : Nat) (exponent : Int)
deriving DecidableEq, Repr

namespace Binary64

/-- The exponent of the least significant bit of the smallest doubles. -/
def leastExponent : Int := -1074

/-- The significands of normal doubles start here. -/
def leastNormal : Nat := 0x10000000000000

/-- The parts of a double, from its sign bit, its eleven exponent bits and its fraction. -/
def ofFloat (x : Float) : Binary64 :=
  let bits := x.toBits.toNat
  let negative := decide (0x8000000000000000 ≤ bits)
  let biased := bits / leastNormal % 2048
  let fraction := bits % leastNormal
  if biased = 2047 then
    if fraction = 0 then infinite negative else nan
  else if biased = 0 then finite negative fraction leastExponent
  else finite negative (leastNormal + fraction) (leastExponent + (biased - 1 : Nat))

/-- The zero of a sign. -/
def zero (negative : Bool) : Float :=
  Float.ofBits (if negative then 0x8000000000000000 else 0)

/-- `num / den` as a natural number, rounded to nearest, a tie to even. -/
def roundRatio (num den : Nat) : Nat :=
  let whole := num / den
  let rest := num % den
  if 2 * rest < den then whole
  else if den < 2 * rest then whole + 1
  else whole + whole % 2

/-- The greatest `k` with `2 ^ k ≤ num / den`, for positive `num` and `den`. -/
def binaryOrder (num den : Nat) : Int :=
  let guess : Int := (num.log2 : Int) - den.log2
  let reaches :=
    if 0 ≤ guess then decide (den * Nat.pow 2 guess.toNat ≤ num)
    else decide (den ≤ num * Nat.pow 2 (-guess).toNat)
  if reaches then guess else guess - 1

/-- The double nearest to `± num / den` for a positive `den`, a tie to the even significand;
`none` when the nearest one would be past the largest finite double. -/
def ofRatio? (negative : Bool) (num den : Nat) : Option Float :=
  if num = 0 then some (zero negative)
  else
    let exponent := max (binaryOrder num den - 52) leastExponent
    let significand :=
      if 0 ≤ exponent then roundRatio num (den * Nat.pow 2 exponent.toNat)
      else roundRatio (num * Nat.pow 2 (-exponent).toNat) den
    -- A significand that rounds up to `2 ^ 53` carries into the exponent bits by itself.
    let magnitude := (exponent - leastExponent).toNat * leastNormal + significand
    if 2047 * leastNormal ≤ magnitude then none
    else
      let sign := if negative then 0x8000000000000000 else 0
      some (Float.ofBits (UInt64.ofNat (sign + magnitude)))

/-- The double nearest to `± digits * 10 ^ exponent`; `none` when it would be infinite. Powers of
ten far outside the range of doubles are settled without being computed. -/
def ofDecimal? (negative : Bool) (digits : Nat) (exponent : Int) : Option Float :=
  if digits = 0 then some (zero negative)
  else
    let order := exponent + (Nat.toDigits 10 digits).length
    if 400 < order then none
    else if order < -400 then some (zero negative)
    else if 0 ≤ exponent then ofRatio? negative (digits * Nat.pow 10 exponent.toNat) 1
    else ofRatio? negative digits (Nat.pow 10 (-exponent).toNat)

/-- The double nearest to an integer. -/
def ofInt (value : Int) : Float :=
  (ofRatio? (decide (value < 0)) value.natAbs 1).getD (zero false)

/-- The integer that a finite value without a fractional part stands for. -/
def toInt? : Binary64 → Option Int
  | nan => none
  | infinite _ => none
  | finite negative significand exponent =>
    let signed (magnitude : Nat) : Int := if negative then -(magnitude : Int) else magnitude
    if 0 ≤ exponent then some (signed (significand * Nat.pow 2 exponent.toNat))
    else
      let unit := Nat.pow 2 (-exponent).toNat
      if significand % unit = 0 then some (signed (significand / unit)) else none

end Binary64

end RiskScoring
