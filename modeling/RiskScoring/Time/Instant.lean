/-!
# Instants

An `Instant` counts seconds and nanoseconds from the start of 1970, in universal time. More than
`10 ^ 9` nanoseconds stand for a leap second. Calendar dates are those of the Gregorian calendar,
carried on in both directions.
-/

namespace RiskScoring

/-- A point in time. -/
structure Instant where
  seconds : Int
  nanos : Nat
deriving DecidableEq, Repr

/-- A day of the calendar. -/
structure CalendarDate where
  year : Int
  month : Nat
  day : Nat
deriving DecidableEq, Repr

namespace CalendarDate

/-- Whether a year has a 29th of February. -/
def isLeap (year : Int) : Bool :=
  year % 4 == 0 && (year % 100 != 0 || year % 400 == 0)

/-- The number of days of a month; no day for what is no month. -/
def daysInMonth (year : Int) (month : Nat) : Nat :=
  match month with
  | 1 | 3 | 5 | 7 | 8 | 10 | 12 => 31
  | 4 | 6 | 9 | 11 => 30
  | 2 => if isLeap year then 29 else 28
  | _ => 0

/-- Whether the date is one of the calendar. -/
def inCalendar (date : CalendarDate) : Bool :=
  1 ≤ date.day && date.day ≤ daysInMonth date.year date.month

/-- The days from the start of 1970. Years are counted from March, so that the day that leap years
add is the last one. -/
def toDays (date : CalendarDate) : Int :=
  let year := if date.month ≤ 2 then date.year - 1 else date.year
  let era := year / 400
  let yearOfEra := year % 400
  let monthFromMarch : Int := (date.month + 9) % 12
  let dayOfYear := (153 * monthFromMarch + 2) / 5 + date.day - 1
  let dayOfEra := yearOfEra * 365 + yearOfEra / 4 - yearOfEra / 100 + dayOfYear
  era * 146097 + dayOfEra - 719468

/-- The date a number of days from the start of 1970. -/
def ofDays (days : Int) : CalendarDate :=
  let shifted := days + 719468
  let era := shifted / 146097
  let dayOfEra := shifted % 146097
  let yearOfEra := (dayOfEra - dayOfEra / 1460 + dayOfEra / 36524 - dayOfEra / 146096) / 365
  let dayOfYear := dayOfEra - (365 * yearOfEra + yearOfEra / 4 - yearOfEra / 100)
  let monthFromMarch := (5 * dayOfYear + 2) / 153
  let day := dayOfYear - (153 * monthFromMarch + 2) / 5 + 1
  let month := if monthFromMarch < 10 then monthFromMarch + 3 else monthFromMarch - 9
  let year := yearOfEra + era * 400
  ⟨if month ≤ 2 then year + 1 else year, month.toNat, day.toNat⟩

end CalendarDate

namespace Instant

/-- The start of 1970. -/
def epoch : Instant := ⟨0, 0⟩

instance : Inhabited Instant := ⟨epoch⟩

/-- The instant of a date and a time of day, `shift` seconds ahead of universal time. Second 60 is a
leap second after second 59. -/
def ofLocal (date : CalendarDate) (hour minute second nanos : Nat) (shift : Int) : Instant :=
  let clock : Int := hour * 3600 + minute * 60 + min second 59
  ⟨date.toDays * 86400 + clock - shift, if second = 60 then nanos + 1000000000 else nanos⟩

/-- Order in time. -/
def before (x y : Instant) : Bool :=
  x.seconds < y.seconds || (x.seconds == y.seconds && x.nanos < y.nanos)

/-- The later of two instants. -/
def later (x y : Instant) : Instant := if x.before y then y else x

/-- The instant a nanosecond later. -/
def next (x : Instant) : Instant :=
  if x.nanos + 1 = 1000000000 then ⟨x.seconds + 1, 0⟩ else ⟨x.seconds, x.nanos + 1⟩

theorem before_iff {x y : Instant} :
    x.before y = true ↔ x.seconds < y.seconds ∨ x.seconds = y.seconds ∧ x.nanos < y.nanos := by
  simp [before]

theorem before_irrefl (x : Instant) : x.before x = false := by
  simp [before]

theorem before_trans {x y z : Instant} (first : x.before y = true) (second : y.before z = true) :
    x.before z = true := by
  rw [before_iff] at first second ⊢
  omega

theorem before_next (x : Instant) : x.before x.next = true := by
  rw [before_iff, next]
  split
  · exact Or.inl (by show x.seconds < x.seconds + 1; omega)
  · exact Or.inr ⟨rfl, by show x.nanos < x.nanos + 1; omega⟩

/-- Whatever the clock says, what is later than the next instant is later. -/
theorem before_later_next (now x : Instant) : x.before (now.later x.next) = true := by
  unfold later
  split
  · exact before_next x
  · rename_i notBefore
    have ordered := before_next x
    rw [before_iff] at ordered notBefore ⊢
    omega

/-- A number with at least `width` digits. -/
def padded (width value : Nat) : List Char :=
  let digits := Nat.toDigits 10 value
  List.replicate (width - digits.length) '0' ++ digits

/-- A year: four digits, and outside of 0 to 9999 a sign before them. -/
def yearChars (year : Int) : List Char :=
  if 0 ≤ year ∧ year ≤ 9999 then padded 4 year.toNat
  else (if year < 0 then '-' else '+') :: padded 4 year.natAbs

/-- The fraction of a second: nothing, or three, six or nine digits, the fewest that are exact. -/
def fractionChars (nanos : Nat) : List Char :=
  if nanos = 0 then []
  else if nanos % 1000000 = 0 then '.' :: padded 3 (nanos / 1000000)
  else if nanos % 1000 = 0 then '.' :: padded 6 (nanos / 1000)
  else '.' :: padded 9 nanos

/-- The characters of the text in universal time. -/
def chars (x : Instant) : List Char :=
  let date := CalendarDate.ofDays (x.seconds / 86400)
  let clock := (x.seconds % 86400).toNat
  let leap := decide (1000000000 ≤ x.nanos)
  let second := clock % 60 + (if leap then 1 else 0)
  yearChars date.year ++ '-' :: padded 2 date.month ++ '-' :: padded 2 date.day ++
    'T' :: padded 2 (clock / 3600) ++ ':' :: padded 2 (clock / 60 % 60) ++
    ':' :: padded 2 second ++ fractionChars (x.nanos % 1000000000) ++ ['Z']

/-- The text in universal time. -/
def text (x : Instant) : String := String.ofList x.chars

instance : ToString Instant := ⟨text⟩

end Instant

end RiskScoring
