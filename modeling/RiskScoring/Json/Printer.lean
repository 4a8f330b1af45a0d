import RiskScoring.Decimal.Layout
import RiskScoring.Json.Basic

/-!
# JSON text

Two layouts of a value: `Json.compact` writes no white space at all, `Json.pretty` puts each item
and member on a line of its own, indented by two blanks per level.
-/

namespace RiskScoring

namespace Json

/-- The character that follows the backslash in a short escape. -/
def shortEscape? (c : Char) : Option Char :=
  if c = '"' then some '"'
  else if c = '\\' then some '\\'
  else if c = '\x08' then some 'b'
  else if c = '\x0c' then some 'f'
  else if c = '\n' then some 'n'
  else if c = '\r' then some 'r'
  else if c = '\t' then some 't'
  else none

/-- One character of a string: quotes, backslashes and control characters are escaped, all others
stand for themselves. -/
def escapeChar (c : Char) : List Char :=
  match shortEscape? c with
  | some letter => ['\\', letter]
  | none =>
    if c.toNat < 0x20 then
      ['\\', 'u', '0', '0', Nat.digitChar (c.toNat / 16), Nat.digitChar (c.toNat % 16)]
    else [c]

/-- A string in quotes. -/
def quote (value : String) : List Char :=
  '"' :: (value.toList.flatMap escapeChar ++ ['"'])

end Json

/-- The text of an integer. -/
def intText (value : Int) : List Char :=
  if value < 0 then '-' :: Nat.toDigits 10 value.natAbs else Nat.toDigits 10 value.natAbs

/-- The text of a JSON number. -/
def JsonNumber.text : JsonNumber → List Char
  | .int value _ => intText value
  | .float value _ => NumberLayout.json.text value

namespace Json

mutual

/-- The characters of the compact text. -/
def chars : Json → List Char
  | null => ['n', 'u', 'l', 'l']
  | bool true => ['t', 'r', 'u', 'e']
  | bool false => ['f', 'a', 'l', 's', 'e']
  | number value => value.text
  | string value => quote value
  | array [] => ['[', ']']
  | array (item :: rest) => '[' :: (chars item ++ charsItems rest)
  | object [] => ['{', '}']
  | object ((key, value) :: rest) =>
    '{' :: (quote key ++ ':' :: (chars value ++ charsMembers rest))

/-- The items after the first, and the closing bracket. -/
def charsItems : List Json → List Char
  | [] => [']']
  | item :: rest => ',' :: (chars item ++ charsItems rest)

/-- The members after the first, and the closing brace. -/
def charsMembers : List (String × Json) → List Char
  | [] => ['}']
  | (key, value) :: rest => ',' :: (quote key ++ ':' :: (chars value ++ charsMembers rest))

end

/-- The compact text: no white space outside strings. -/
def compact (value : Json) : String := String.ofList value.chars

/-- The start of a line at an indentation level. -/
def newline (level : Nat) : List Char := '\n' :: List.replicate (2 * level) ' '

mutual

/-- The characters of the indented text at a level. -/
def indented (level : Nat) : Json → List Char
  | array (item :: rest) =>
    '[' :: (newline (level + 1) ++ indented (level + 1) item ++ indentedItems level rest)
  | object ((key, value) :: rest) =>
    '{' :: (newline (level + 1) ++ quote key ++ ':' :: ' ' :: indented (level + 1) value
      ++ indentedMembers level rest)
  | other => chars other

/-- The items after the first, and the closing bracket on its own line. -/
def indentedItems (level : Nat) : List Json → List Char
  | [] => newline level ++ [']']
  | item :: rest =>
    ',' :: (newline (level + 1) ++ indented (level + 1) item ++ indentedItems level rest)

/-- The members after the first, and the closing brace on its own line. -/
def indentedMembers (level : Nat) : List (String × Json) → List Char
  | [] => newline level ++ ['}']
  | (key, value) :: rest =>
    ',' :: (newline (level + 1) ++ quote key ++ ':' :: ' ' :: indented (level + 1) value
      ++ indentedMembers level rest)

end

/-- The indented text: two blanks per level, and empty arrays and objects on one line. -/
def pretty (value : Json) : String := String.ofList (value.indented 0)

end Json

end RiskScoring
