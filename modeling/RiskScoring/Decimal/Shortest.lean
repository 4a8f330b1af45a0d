import RiskScoring.Binary64

/-!
# The shortest decimal of a double

Among the decimals that round to a given positive double, `Decimal.shortest` finds one with the
fewest significant digits and, among those, the one nearest to the double. The reals that round to
`significand * 2 ^ exponent` form an interval around it; its ends belong to it exactly when the
significand is even. All comparisons are made in units of `2 ^ (exponent - 2)`, in which the
value, and the ends of the interval, are natural numbers.
-/

namespace RiskScoring

/-- Which of two equally near decimals is taken. -/
inductive Tie where
  /-- The one of greater magnitude. -/
  | away
  /-- The one whose last digit is even. -/
  | even
deriving DecidableEq, Repr

/-- The number `digits * 10 ^ exponent`. -/
structure Decimal where
  digits : Nat
  exponent : Int
deriving DecidableEq, Repr

namespace Decimal

/-- The reals that round to one double, in quarters of the unit of its last place. -/
structure Interval where
  low : Nat
  value : Nat
  high : Nat
  /-- Whether the ends belong to the interval. -/
  closed : Bool
  /-- The binary exponent of a quarter unit. -/
  exponent : Int

/-- The rounding interval of `significand * 2 ^ exponent`. The neighbour below a power of two is
half as far away, unless the power of two is the least normal number. -/
def Interval.of (significand : Nat) (exponent : Int) : Interval where
  low :=
    if significand = Binary64.leastNormal ∧ Binary64.leastExponent < exponent then
      4 * significand - 1
    else 4 * significand - 2
  value := 4 * significand
  high := 4 * significand + 2
  closed := significand % 2 == 0
  exponent := exponent - 2

/-- The factors by which quarter units of `2 ^ binary` and units of `10 ^ decimal` are made
comparable: `a * 2 ^ binary ≤ b * 10 ^ decimal` is `a * (scales ..).1 ≤ b * (scales ..).2`. -/
def scales (binary decimal : Int) : Nat × Nat :=
  (Nat.pow 2 binary.toNat * Nat.pow 10 (-decimal).toNat,
    Nat.pow 10 decimal.toNat * Nat.pow 2 (-binary).toNat)

/-- Whether `digits * 10 ^ exponent` lies in the interval. -/
def Interval.holds (interval : Interval) (candidate : Decimal) : Bool :=
  let (binary, decimal) := scales interval.exponent candidate.exponent
  let low := interval.low * binary
  let high := interval.high * binary
  let point := candidate.digits * decimal
  if interval.closed then decide (low ≤ point ∧ point ≤ high)
  else decide (low < point ∧ point < high)

/-- The decimal order of the value: the greatest `k` with `10 ^ k ≤ value`. -/
def Interval.order (interval : Interval) : Int :=
  let (num, den) := scales interval.exponent 0
  let scaled := interval.value * num
  if den ≤ scaled then ((Nat.toDigits 10 (scaled / den)).length : Int) - 1
  else
    let inverse := (den + scaled - 1) / scaled
    0 - ((Nat.toDigits 10 (inverse - 1)).length : Int)

/-- The point of the grid of multiples of `10 ^ exponent` that is nearest to the value and lies in
the interval. Only the two neighbours of the value can be that point. -/
def Interval.onGrid? (interval : Interval) (tie : Tie) (exponent : Int) : Option Decimal :=
  let (binary, decimal) := scales interval.exponent exponent
  let scaled := interval.value * binary
  let below : Decimal := ⟨scaled / decimal, exponent⟩
  let above : Decimal := ⟨scaled / decimal + 1, exponent⟩
  let rest := scaled % decimal
  match interval.holds below, interval.holds above with
  | true, true =>
    if 2 * rest < decimal then some below
    else if decimal < 2 * rest then some above
    else match tie with
      | .away => some above
      | .even => some (if below.digits % 2 = 0 then below else above)
  | true, false => some below
  | false, true => some above
  | false, false => none

/-- Moves the zeros at the end of the digits into the exponent; `fuel` bounds their number. -/
def stripZeros : Nat → Decimal → Decimal
  | 0, number => number
  | fuel + 1, number =>
    if number.digits ≠ 0 ∧ number.digits % 10 = 0 then
      stripZeros fuel ⟨number.digits / 10, number.exponent + 1⟩
    else number

/-- The decimal with the fewest digits that rounds to the positive double
`significand * 2 ^ exponent`, and of those the nearest. Seventeen digits always suffice. -/
def shortest (tie : Tie) (significand : Nat) (exponent : Int) : Decimal :=
  let interval := Interval.of significand exponent
  let order := interval.order
  let found := (List.range 17).findSome? fun (places : Nat) =>
    interval.onGrid? tie (order - places)
  stripZeros 17 (found.getD ⟨0, 0⟩)

end Decimal

end RiskScoring
