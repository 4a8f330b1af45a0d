import RiskScoring.Json.Reader

/-!
# Identifiers

A `Uuid` is a word of 128 bits. It is written as 32 lower-case hexadecimal digits in five groups,
and read in that form, without hyphens, in braces, or with the `urn:uuid:` mark.
-/

namespace RiskScoring

/-- An identifier of 128 bits. -/
structure Uuid where
  bits : BitVec 128
deriving DecidableEq, Repr

namespace Uuid

instance : Inhabited Uuid := ⟨⟨0⟩⟩

/-- The `count` lowest hexadecimal digits of a number, the highest of them first. -/
def hexDigits : Nat → Nat → List Char
  | 0, _ => []
  | count + 1, value => Nat.digitChar (value / Nat.pow 16 count % 16) :: hexDigits count value

/-- The characters of the hyphenated form. -/
def chars (id : Uuid) : List Char :=
  let digits := hexDigits 32 id.bits.toNat
  let group (start length : Nat) := (digits.drop start).take length
  group 0 8 ++ '-' :: group 8 4 ++ '-' :: group 12 4 ++ '-' :: group 16 4 ++ '-' :: group 20 12

/-- The hyphenated form. -/
def text (id : Uuid) : String := String.ofList id.chars

instance : ToString Uuid := ⟨text⟩

/-- The number that hexadecimal digits write. -/
def hexValue? (digits : List Char) : Option Nat :=
  digits.foldlM (fun value c => (hexDigit? c).map (value * 16 + ·)) 0

/-- Reads 32 digits. -/
def ofDigits? (digits : List Char) : Option Uuid :=
  if digits.length = 32 then (hexValue? digits).map fun value => ⟨BitVec.ofNat 128 value⟩ else none

/-- Reads the hyphenated form. -/
def ofGroups? (text : List Char) : Option Uuid :=
  let hyphenAt (place : Nat) : Bool := text[place]? == some '-'
  let group (start length : Nat) := (text.drop start).take length
  if text.length = 36 ∧ hyphenAt 8 ∧ hyphenAt 13 ∧ hyphenAt 18 ∧ hyphenAt 23 then
    ofDigits? (group 0 8 ++ group 9 4 ++ group 14 4 ++ group 19 4 ++ group 24 12)
  else none

/-- The inside of braces around a text. -/
def unbraced? : List Char → Option (List Char)
  | '\x7b' :: rest => if rest.getLast? = some '\x7d' then some rest.dropLast else none
  | _ => none

/-- The mark that an identifier may begin with. -/
def urnMark : List Char := "urn:uuid:".toList

/-- Whether a text begins with the mark, its letters in either case. -/
def isMarked (text : List Char) : Bool := (text.take urnMark.length).map Char.toLower == urnMark

/-- Reads any of the forms, in either case of letters. -/
def ofChars? (text : List Char) : Option Uuid :=
  match unbraced? text with
  | some inside => ofGroups? inside
  | none =>
    if isMarked text then ofGroups? (text.drop urnMark.length)
    else if text.length = 32 then ofDigits? text
    else ofGroups? text

/-- Reads any of the forms. -/
def ofText? (text : String) : Option Uuid := ofChars? text.toList

end Uuid

end RiskScoring
