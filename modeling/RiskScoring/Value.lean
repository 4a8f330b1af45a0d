import RiskScoring.Json.Decode
import RiskScoring.Json.Printer

/-!
# Values

The values that formulas compute with: truth values, doubles, strings and lists of strings. There
is no conversion between the four kinds.
-/

namespace RiskScoring

/-- The kind of a value. -/
inductive ValueType where
  | bool
  | float
  | string
  | stringList
deriving DecidableEq, Repr

namespace ValueType

def name : ValueType → String
  | bool => "Bool"
  | float => "Float"
  | string => "String"
  | stringList => "StringList"

instance : ToString ValueType := ⟨name⟩

def jsonName : ValueType → String
  | bool => "bool"
  | float => "float"
  | string => "string"
  | stringList => "string_list"

end ValueType

/-- A value. -/
inductive Value where
  | bool (value : Bool)
  | float (value : Float)
  | string (value : String)
  | stringList (items : List String)
deriving DecidableEq

namespace Value

/-- The kind of the value. -/
def type : Value → ValueType
  | bool _ => .bool
  | float _ => .float
  | string _ => .string
  | stringList _ => .stringList

def bool? : Value → Option Bool
  | bool value => some value
  | _ => none

def float? : Value → Option Float
  | float value => some value
  | _ => none

def string? : Value → Option String
  | string value => some value
  | _ => none

def stringList? : Value → Option (List String)
  | stringList items => some items
  | _ => none

/-- The view sees the values of one type, and what it sees makes up the value. -/
structure Sees {α : Type} (view : Value → Option α) (wrap : α → Value) (type : ValueType) :
    Prop where
  eq_wrap (value : Value) {seen : α} : view value = some seen → value = wrap seen
  exists_seen (value : Value) : value.type = type → ∃ seen, view value = some seen

theorem sees_bool : Sees bool? bool .bool where
  eq_wrap value _ views := by cases value <;> cases views; rfl
  exists_seen value isBool := by cases value <;> cases isBool; exact ⟨_, rfl⟩

theorem sees_float : Sees float? float .float where
  eq_wrap value _ views := by cases value <;> cases views; rfl
  exists_seen value isFloat := by cases value <;> cases isFloat; exact ⟨_, rfl⟩

theorem sees_string : Sees string? string .string where
  eq_wrap value _ views := by cases value <;> cases views; rfl
  exists_seen value isString := by cases value <;> cases isString; exact ⟨_, rfl⟩

theorem sees_stringList : Sees stringList? stringList .stringList where
  eq_wrap value _ views := by cases value <;> cases views; rfl
  exists_seen value isList := by cases value <;> cases isList; exact ⟨_, rfl⟩

/-- Equality of values: doubles are compared as numbers, so the two zeros are equal and a NaN is
equal to nothing; values of different kinds are never equal. -/
def equals : Value → Value → Bool
  | bool x, bool y => x == y
  | float x, float y => x == y
  | string x, string y => x == y
  | stringList x, stringList y => x == y
  | _, _ => false

/-- The nearest integer of 64 bits to an integer. -/
def clampToWord (value : Int) : Int := max (-0x8000000000000000) (min value 0x7fffffffffffffff)

/-- A double in running text: one without fraction as an integer of 64 bits, the nearest one if
none is equal, and any other by its shortest digits. -/
def floatText (value : Float) : List Char :=
  match (Binary64.ofFloat value).toInt? with
  | some whole => intText (clampToWord whole)
  | none => NumberLayout.plain.text value

/-- A string between quotes, as it is. -/
def quoted (value : String) : String := "\"" ++ value ++ "\""

/-- The value in running text. -/
def text : Value → String
  | bool value => if value then "true" else "false"
  | float value => String.ofList (floatText value)
  | string value => quoted value
  | stringList items => "[" ++ ", ".intercalate (items.map quoted) ++ "]"

instance : ToString Value := ⟨text⟩

def toJson : Value → Json
  | bool value => .bool value
  | float value => Json.ofFloat value
  | string value => .string value
  | stringList items => Json.ofStrings items

/-- The strings of a list of JSON strings. -/
def strings? : List Json → Option (List String)
  | [] => some []
  | .string item :: rest => (strings? rest).map (item :: ·)
  | _ :: _ => none

/-- The value that a JSON value stands for. -/
def ofJson? : Json → Option Value
  | .bool value => some (bool value)
  | .number value => some (float value.toFloat)
  | .string value => some (string value)
  | .array items => (strings? items).map stringList
  | .null | .object _ => none

def decoder : Decoder Value := fun source => do
  let json ← Decoder.json source
  match ofJson? json with
  | some value => return value
  | none => throw .malformed

end Value

end RiskScoring
