import RiskScoring.Json.Source

/-!
# Reading JSON text

`Document.read` reads a text as one JSON value with blanks around it. It never fails: what is
wrong is marked in the `Source` it returns, and nothing is read past a fault. With a depth limit,
an array or object nested beyond it is only checked for being well formed.
-/

namespace RiskScoring

/-- The blanks of JSON. -/
def isJsonBlank (c : Char) : Bool := c == ' ' || c == '\n' || c == '\t' || c == '\r'

/-- Drops blanks. -/
def skipBlanks (text : List Char) : List Char := text.dropWhile isJsonBlank

/-- The value of a hexadecimal digit. -/
def hexDigit? (c : Char) : Option Nat :=
  if '0' ≤ c ∧ c ≤ '9' then some (c.toNat - '0'.toNat)
  else if 'a' ≤ c ∧ c ≤ 'f' then some (c.toNat - 'a'.toNat + 10)
  else if 'A' ≤ c ∧ c ≤ 'F' then some (c.toNat - 'A'.toNat + 10)
  else none

/-- The value of four hexadecimal digits. -/
def hexWord? (a b c d : Char) : Option Nat := do
  let a ← hexDigit? a
  let b ← hexDigit? b
  let c ← hexDigit? c
  let d ← hexDigit? d
  return ((a * 16 + b) * 16 + c) * 16 + d

/-- The character a short escape stands for. -/
def unescape? (c : Char) : Option Char :=
  match c with
  | '"' => some '"'
  | '\\' => some '\\'
  | '/' => some '/'
  | 'b' => some '\x08'
  | 'f' => some '\x0c'
  | 'n' => some '\n'
  | 'r' => some '\r'
  | 't' => some '\t'
  | _ => none

/-- The character of a pair of surrogates. -/
def ofSurrogates (high low : Nat) : Char :=
  Char.ofNat (0x10000 + (high - 0xD800) * 0x400 + (low - 0xDC00))

/-- The part of a string that has been read: its characters in reverse, `none` once half of a pair
stands alone, and the first half of a pair that waits for its second half. -/
structure StringSoFar where
  found : Option (List Char)
  pending : Option Nat

namespace StringSoFar

/-- Nothing read yet. -/
def start : StringSoFar := ⟨some [], none⟩

/-- Takes a character. -/
def push (read : StringSoFar) (c : Char) : StringSoFar :=
  if read.pending.isSome then ⟨none, none⟩ else ⟨read.found.map (c :: ·), none⟩

/-- Takes the word of a `u` escape: a character, or half of a pair. -/
def pushWord (read : StringSoFar) (word : Nat) : StringSoFar :=
  if 0xD800 ≤ word ∧ word < 0xDC00 then
    ⟨if read.pending.isSome then none else read.found, some word⟩
  else if 0xDC00 ≤ word ∧ word < 0xE000 then
    match read.pending with
    | some high => ⟨read.found.map (ofSurrogates high word :: ·), none⟩
    | none => ⟨none, none⟩
  else read.push (Char.ofNat word)

/-- The whole string, unless half of a pair stands alone. -/
def finish (read : StringSoFar) : Option String :=
  if read.pending.isSome then none else read.found.map fun cs => String.ofList cs.reverse

end StringSoFar

/-- The rest of a string after its opening quote, and the text after its closing quote. The result
is `none` if the string does not end as one. -/
def readString (read : StringSoFar) : List Char → Option (Option String × List Char)
  | '"' :: rest => some (read.finish, rest)
  | '\\' :: 'u' :: a :: b :: c :: d :: rest =>
    match hexWord? a b c d with
    | some word => readString (read.pushWord word) rest
    | none => none
  | '\\' :: c :: rest =>
    match unescape? c with
    | some value => readString (read.push value) rest
    | none => none
  | c :: rest => if c.toNat < 0x20 ∨ c = '\\' then none else readString (read.push c) rest
  | [] => none

/-- The number that a row of decimal digits writes. -/
def digitsValue (digits : List Char) : Nat :=
  digits.foldl (fun value c => value * 10 + (c.toNat - '0'.toNat)) 0

/-- The parts of a number as it is written. -/
structure NumberText where
  negative : Bool
  whole : List Char
  fraction : Option (List Char)
  exponent : Option Int

namespace NumberText

/-- The number that was written. Without point and exponent it is an integer, if a word holds it
and it is not the negative zero; otherwise it is the nearest double, and `none` past the largest. -/
def value (text : NumberText) : Option JsonNumber :=
  let digits := digitsValue (text.whole ++ text.fraction.getD [])
  let places : Int := (text.fraction.getD []).length
  let asFloat : Option JsonNumber :=
    match Binary64.ofDecimal? text.negative digits (text.exponent.getD 0 - places) with
    | some x => if h : x.isFinite = true then some (.float x h) else none
    | none => none
  if text.fraction.isNone ∧ text.exponent.isNone ∧ ¬(text.negative ∧ digits = 0) then
    match JsonNumber.ofInt? (if text.negative then -(digits : Int) else digits) with
    | some number => some number
    | none => asFloat
  else asFloat

end NumberText

/-- A row of decimal digits at the start of a text, and what follows it. -/
def spanDigits (text : List Char) : List Char × List Char := text.span Char.isDigit

/-- The digits before the point: a single zero, or a row without a leading zero. -/
def readWhole (text : List Char) : Option (List Char × List Char) :=
  match spanDigits text with
  | ([], _) => none
  | ('0' :: _ :: _, _) => none
  | found => some found

/-- The digits after a point, if there is a point. -/
def readFraction : List Char → Option (Option (List Char) × List Char)
  | '.' :: rest =>
    match spanDigits rest with
    | ([], _) => none
    | (digits, rest) => some (some digits, rest)
  | rest => some (none, rest)

/-- The signed digits after an `e`, if there is one. -/
def readExponent (text : List Char) : Option (Option Int × List Char) :=
  let signed (negative : Bool) (rest : List Char) : Option (Option Int × List Char) :=
    match spanDigits rest with
    | ([], _) => none
    | (digits, rest) =>
      let magnitude : Int := digitsValue digits
      some (some (if negative then -magnitude else magnitude), rest)
  let afterLetter : List Char → Option (Option Int × List Char)
    | '+' :: rest => signed false rest
    | '-' :: rest => signed true rest
    | rest => signed false rest
  match text with
  | 'e' :: rest => afterLetter rest
  | 'E' :: rest => afterLetter rest
  | rest => some (none, rest)

/-- A number at the start of a text. -/
def readNumber (text : List Char) : Option (NumberText × List Char) := do
  let (negative, text) := match text with
    | '-' :: rest => (true, rest)
    | _ => (false, text)
  let (whole, text) ← readWhole text
  let (fraction, text) ← readFraction text
  let (exponent, text) ← readExponent text
  return (⟨negative, whole, fraction, exponent⟩, text)

mutual

/-- Reads one value, with blanks before it. The second part is the text after the value; it is
`none` after a fault. `budget` is the number of levels that may still be opened, `none` for any
number, and `fuel` bounds the steps. -/
def readValue : Nat → Option Nat → List Char → Source × Option (List Char)
  | 0, _, _ => (.broken, none)
  | fuel + 1, budget, text =>
    match skipBlanks text with
    | '"' :: rest =>
      match readString .start rest with
      | some (value, rest) => (.string value, some rest)
      | none => (.broken, none)
    | '[' :: rest =>
      if budget = some 0 then
        let (items, closed, after) := readItems fuel none rest
        (.tooDeep (Source.wellFormed (.array items closed)), after)
      else
        let (items, closed, after) := readItems fuel (budget.map (· - 1)) rest
        (.array items closed, after)
    | '\x7b' :: rest =>
      if budget = some 0 then
        let (members, closed, after) := readMembers fuel none rest
        (.tooDeep (Source.wellFormed (.object members closed)), after)
      else
        let (members, closed, after) := readMembers fuel (budget.map (· - 1)) rest
        (.object members closed, after)
    | 't' :: 'r' :: 'u' :: 'e' :: rest => (.bool true, some rest)
    | 'f' :: 'a' :: 'l' :: 's' :: 'e' :: rest => (.bool false, some rest)
    | 'n' :: 'u' :: 'l' :: 'l' :: rest => (.null, some rest)
    | other =>
      match readNumber other with
      | some (number, rest) => (.number number.value, some rest)
      | none => (.broken, none)

/-- Reads the items of an array after its opening bracket, and whether it is closed. -/
def readItems : Nat → Option Nat → List Char → List Source × Bool × Option (List Char)
  | 0, _, _ => ([], false, none)
  | fuel + 1, budget, text =>
    match skipBlanks text with
    | ']' :: rest => ([], true, some rest)
    | _ => readMoreItems fuel budget text

/-- Reads an item and those after it. -/
def readMoreItems : Nat → Option Nat → List Char → List Source × Bool × Option (List Char)
  | 0, _, _ => ([], false, none)
  | fuel + 1, budget, text =>
    match readValue fuel budget text with
    | (item, none) => ([item], false, none)
    | (item, some rest) =>
      match skipBlanks rest with
      | ',' :: rest =>
        let (items, closed, after) := readMoreItems fuel budget rest
        (item :: items, closed, after)
      | ']' :: rest => ([item], true, some rest)
      | _ => ([item], false, none)

/-- Reads the members of an object after its opening brace, and whether it is closed. -/
def readMembers : Nat → Option Nat → List Char →
    List (Option String × Source) × Bool × Option (List Char)
  | 0, _, _ => ([], false, none)
  | fuel + 1, budget, text =>
    match skipBlanks text with
    | '\x7d' :: rest => ([], true, some rest)
    | _ => readMoreMembers fuel budget text

/-- Reads a member and those after it. -/
def readMoreMembers : Nat → Option Nat → List Char →
    List (Option String × Source) × Bool × Option (List Char)
  | 0, _, _ => ([], false, none)
  | fuel + 1, budget, text =>
    match skipBlanks text with
    | '"' :: rest =>
      match readString .start rest with
      | none => ([], false, none)
      | some (key, rest) =>
        match skipBlanks rest with
        | ':' :: rest =>
          match readValue fuel budget rest with
          | (value, none) => ([(key, value)], false, none)
          | (value, some rest) =>
            match skipBlanks rest with
            | ',' :: rest =>
              let (members, closed, after) := readMoreMembers fuel budget rest
              ((key, value) :: members, closed, after)
            | '\x7d' :: rest => ([(key, value)], true, some rest)
            | _ => ([(key, value)], false, none)
        | _ => ([], false, none)
    | _ => ([], false, none)

end

namespace Document

/-- Reads a text. At most `limit` arrays and objects may be nested, `none` for any number. Every
step of the reader but the first of an array or object takes a character, so twice the length
is enough. -/
def read (limit : Option Nat) (text : String) : Document :=
  let chars := text.toList
  match readValue (2 * chars.length + 2) limit chars with
  | (value, some rest) => ⟨value, (skipBlanks rest).isEmpty⟩
  | (value, none) => ⟨value, false⟩

/-- The deepest nesting that is read from files and messages. -/
def nestingLimit : Nat := 127

/-- The value of a text without faults. -/
def toJson? (document : Document) : Option Json :=
  if document.ended then document.value.toJson? else none

end Document

namespace Json

/-- Reads a text as a value, with the nesting limit. -/
def ofText? (text : String) : Option Json :=
  (Document.read (some Document.nestingLimit) text).toJson?

end Json

end RiskScoring
