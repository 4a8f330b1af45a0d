import RiskScoring.Time.Instant

/-!
# Reading RFC 3339 times

`Instant.ofRfc3339` reads a date, a time of day and an offset from universal time. Of several faults
the first one in reading order is reported, except that the date is checked as soon as it is read,
the time of day before the offset is read, and the size of the offset at the very end.
-/

namespace RiskScoring

/-- What is wrong with the text of a time. -/
inductive TimeFault where
  | tooShort
  | invalid
  | outOfRange
  | tooLong
deriving DecidableEq, Repr

namespace TimeFault

def message : TimeFault → String
  | tooShort => "premature end of input"
  | invalid => "input contains invalid characters"
  | outOfRange => "input is out of range"
  | tooLong => "trailing input"

end TimeFault

namespace Rfc3339

/-- The length of a text in bytes. -/
def byteLength (text : List Char) : Nat := text.foldl (fun total c => total + c.utf8Size) 0

/-- The number that digits write. -/
def valueOf (row : List Char) : Nat :=
  row.foldl (fun value c => value * 10 + (c.toNat - '0'.toNat)) 0

/-- Takes a character of a class. -/
def expect (allowed : Char → Bool) : List Char → Except TimeFault (List Char)
  | [] => .error .tooShort
  | c :: rest => if allowed c then .ok rest else .error .invalid

/-- Takes `count` digits, on top of the value of those before them. -/
def digits : Nat → Nat → List Char → Except TimeFault (Nat × List Char)
  | 0, value, text => .ok (value, text)
  | _ + 1, _, [] => .error .tooShort
  | count + 1, value, c :: rest =>
    if c.isDigit then digits count (value * 10 + (c.toNat - '0'.toNat)) rest
    else .error .invalid

/-- Takes the fraction of a second, in nanoseconds. Digits after the ninth are dropped. -/
def fraction : List Char → Except TimeFault (Nat × List Char)
  | '.' :: rest =>
    let row := rest.takeWhile Char.isDigit
    if rest.isEmpty then .error .tooShort
    else if row.isEmpty then .error .invalid
    else
      let kept := row.take 9
      .ok (valueOf kept * Nat.pow 10 (9 - kept.length), rest.dropWhile Char.isDigit)
  | text => .ok (0, text)

/-- Takes the two digits of the minutes of an offset. -/
def offsetMinutes (text : List Char) : Except TimeFault (Nat × List Char) :=
  if byteLength text < 2 then .error .tooShort
  else match text with
    | a :: b :: rest =>
      if b.isDigit ∧ '6' ≤ a ∧ a ≤ '9' then .error .outOfRange
      else digits 2 0 (a :: b :: rest)
    | _ => .error .invalid

/-- Takes the offset from universal time, in seconds. -/
def offset : List Char → Except TimeFault (Int × List Char)
  | [] => .error .tooShort
  | sign :: rest =>
    if sign = 'Z' ∨ sign = 'z' then .ok (0, rest)
    else if sign = '+' ∨ sign = '-' ∨ sign = '\u2212' then do
      if byteLength rest < 2 then throw .tooShort
      let (hours, rest) ← match rest with
        | [_] => throw .invalid
        | _ => digits 2 0 rest
      let rest ← expect (· == ':') rest
      let (minutes, rest) ← offsetMinutes rest
      let magnitude : Int := hours * 3600 + minutes * 60
      return (if sign = '+' then magnitude else -magnitude, rest)
    else .error .invalid

end Rfc3339

open Rfc3339 in
/-- Reads a time. -/
def Instant.ofRfc3339 (text : String) : Except TimeFault Instant := do
  let rest := text.toList
  if byteLength rest < 19 then throw .tooShort
  let (year, rest) ← digits 4 0 rest
  let rest ← expect (· == '-') rest
  let (month, rest) ← digits 2 0 rest
  let rest ← expect (· == '-') rest
  let (day, rest) ← digits 2 0 rest
  let date : CalendarDate := ⟨year, month, day⟩
  unless date.inCalendar do throw .outOfRange
  let rest ← expect (fun c => c == 'T' || c == 't' || c == ' ') rest
  let (hour, rest) ← digits 2 0 rest
  let rest ← expect (· == ':') rest
  let (minute, rest) ← digits 2 0 rest
  let rest ← expect (· == ':') rest
  let (second, rest) ← digits 2 0 rest
  let (nanos, rest) ← fraction rest
  if hour > 23 ∨ minute > 59 ∨ second > 60 then throw .outOfRange
  let (shift, rest) ← offset rest
  unless rest.isEmpty do throw .tooLong
  if 86400 ≤ shift.natAbs then throw .outOfRange
  return ofLocal date hour minute second nanos shift

end RiskScoring
