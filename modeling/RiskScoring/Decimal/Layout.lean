import RiskScoring.Decimal.Shortest

/-!
# Number text

How the shortest digits of a double are laid out: in plain positional form, or with one digit
before the point and an exponent. The layouts in use are values of `NumberLayout`, so that each
text format says in one line what it decides.
-/

namespace RiskScoring

/-- What a text format decides about numbers. With `v = d.ddd * 10 ^ e`, the orders `e` from `least`
to `greatest` are written positionally; `none` sets no bound. -/
structure NumberLayout where
  least : Option Int
  greatest : Option Int
  /-- Which of two equally short, equally near decimals is written. -/
  tie : Tie
  /-- Whether a positional whole number is followed by `.0`. -/
  pointZero : Bool
  /-- Whether a positive exponent carries its sign. -/
  signedExponent : Bool

namespace NumberLayout

/-- Numbers in running text: never an exponent, and no point in a whole number. -/
def plain : NumberLayout := ⟨none, none, .away, false, false⟩

/-- Numbers in JSON text: positional from `0.00001` to below `10 ^ 16`. -/
def json : NumberLayout := ⟨some (-5), some 15, .even, true, true⟩

/-- Numbers in the listing of a value's parts: positional from `0.0001` to below `10 ^ 16`. -/
def listing : NumberLayout := ⟨some (-4), some 15, .away, true, false⟩

/-- Whether numbers of an order are written positionally. -/
def positional (layout : NumberLayout) (order : Int) : Bool :=
  (match layout.least with | none => true | some least => decide (least ≤ order)) &&
    (match layout.greatest with | none => true | some greatest => decide (order ≤ greatest))

/-- The digits of `number` around a point that stands where `number.exponent` says. -/
def positionalDigits (layout : NumberLayout) (number : Decimal) : List Char :=
  let digits := Nat.toDigits 10 number.digits
  let zeros (count : Int) : List Char := List.replicate count.toNat '0'
  if 0 ≤ number.exponent then
    digits ++ zeros number.exponent ++ (if layout.pointZero then ['.', '0'] else [])
  else
    let whole := (digits.length : Int) + number.exponent
    if 0 < whole then digits.take whole.toNat ++ '.' :: digits.drop whole.toNat
    else '0' :: '.' :: (zeros (-whole) ++ digits)

/-- One digit, a point before any others, and the exponent. -/
def scientificDigits (layout : NumberLayout) (number : Decimal) (order : Int) : List Char :=
  let digits := Nat.toDigits 10 number.digits
  let mantissa := digits.take 1 ++ (if digits.length ≤ 1 then [] else '.' :: digits.drop 1)
  let sign := if order < 0 then ['-'] else if layout.signedExponent then ['+'] else []
  mantissa ++ 'e' :: (sign ++ Nat.toDigits 10 order.natAbs)

/-- The text of a finite double, given as sign, significand and binary exponent. -/
def finite (layout : NumberLayout) (negative : Bool) (significand : Nat) (exponent : Int) :
    List Char :=
  let body :=
    if significand = 0 then layout.positionalDigits ⟨0, 0⟩
    else
      let number := Decimal.shortest layout.tie significand exponent
      let order := number.exponent + (Nat.toDigits 10 number.digits).length - 1
      if layout.positional order then layout.positionalDigits number
      else layout.scientificDigits number order
  if negative then '-' :: body else body

/-- The text of a double. -/
def text (layout : NumberLayout) (x : Float) : List Char :=
  match Binary64.ofFloat x with
  | .nan => "NaN".toList
  | .infinite negative => (if negative then "-inf" else "inf").toList
  | .finite negative significand exponent => layout.finite negative significand exponent

end NumberLayout

end RiskScoring
