import RiskScoring.Text.Blank
import RiskScoring.Time.Rfc3339

/-!
# Reading the times of records

`Instant.ofText?` reads what `Instant.text` writes and every RFC 3339 time, and allows some
liberties: a year may have a sign and then any number of digits, white space may stand around the
marks, numbers may be short, the offset may be the word `UTC`, and its colon is optional. Years run
from -262143 to 262142.
-/

namespace RiskScoring

/-- Whether the year of a date is one that records hold. -/
def CalendarDate.inReach (date : CalendarDate) : Bool :=
  -262143 ≤ date.year && date.year ≤ 262142

namespace Relaxed

/-- Takes a character after white space. -/
def mark? (c : Char) (text : List Char) : Option (List Char) :=
  match dropBlanks text with
  | first :: rest => if first = c then some rest else none
  | [] => none

/-- Takes the digits at the start, at least one and at most `most`. -/
def digits? (most : Nat) (text : List Char) : Option (Nat × List Char) :=
  let row := (text.take most).takeWhile Char.isDigit
  if row.isEmpty then none else some (Rfc3339.valueOf row, text.drop row.length)

/-- Takes a number of one or two digits after white space. -/
def number? (text : List Char) : Option (Nat × List Char) := digits? 2 (dropBlanks text)

/-- Takes a number of two digits. -/
def twoDigits? (text : List Char) : Option (Nat × List Char) := do
  let (value, rest) ← digits? 2 text
  if rest.length + 2 = text.length then some (value, rest) else none

/-- Takes a year after white space: up to four digits, or any number of them after a sign. -/
def year? (text : List Char) : Option (Int × List Char) :=
  match dropBlanks text with
  | '-' :: rest => (digits? rest.length rest).map fun (value, rest) => (-value, rest)
  | '+' :: rest => (digits? rest.length rest).map fun (value, rest) => (value, rest)
  | text => (digits? 4 text).map fun (value, rest) => (value, rest)

/-- Takes a date. -/
def date? (text : List Char) : Option (CalendarDate × List Char) := do
  let (year, rest) ← year? text
  let rest ← mark? '-' rest
  let (month, rest) ← number? rest
  let rest ← mark? '-' rest
  let (day, rest) ← number? rest
  let date : CalendarDate := ⟨year, month, day⟩
  if date.inCalendar && date.inReach then some (date, rest) else none

/-- Takes the sign of an offset: whether it lies behind universal time. -/
def behind? : List Char → Option (Bool × List Char)
  | [] => none
  | sign :: rest =>
    if sign = '+' then some (false, rest)
    else if sign == '-' || sign == '\u2212' then some (true, rest)
    else none

/-- Takes an offset from universal time, in seconds. -/
def offset? (text : List Char) : Option (Int × List Char) :=
  if (text.take 1).map Char.toLower = ['z'] then some (0, text.drop 1)
  else if (text.take 3).map Char.toLower = ['u', 't', 'c'] then some (0, text.drop 3)
  else do
    let (behind, rest) ← behind? text
    let (hours, rest) ← twoDigits? rest
    let (minutes, rest) ← twoDigits? (rest.dropWhile fun c => c == ':' || isBlank c)
    let magnitude : Int := hours * 3600 + minutes * 60
    if 23 < hours ∨ 59 < minutes then none
    else some (if behind then -magnitude else magnitude, rest)

end Relaxed

open Relaxed in
/-- Reads a time with the liberties of records. -/
def Instant.ofText? (text : String) : Option Instant := do
  let (date, rest) ← date? text.toList
  let rest ← (Rfc3339.expect (fun c => c == 'T' || c == 't' || c == ' ') rest).toOption
  let (hour, rest) ← number? rest
  let rest ← mark? ':' rest
  let (minute, rest) ← number? rest
  let rest ← mark? ':' rest
  let (second, rest) ← number? rest
  let (nanos, rest) ← (Rfc3339.fraction rest).toOption
  let (shift, rest) ← offset? (dropBlanks rest)
  let instant := ofLocal date hour minute second nanos shift
  let inReach := (CalendarDate.ofDays (instant.seconds / 86400)).inReach
  if hour ≤ 23 && minute ≤ 59 && second ≤ 60 && rest.isEmpty && inReach then some instant else none

end RiskScoring
