import RiskScoring.Binary64
import RiskScoring.Dict

/-!
# JSON values

A number is an integer of at most 64 bits or a finite double; the two stay apart, so `1` and `1.0`
are different values. An object keeps its members in order.
-/

namespace RiskScoring

/-- A JSON number: an integer that a signed or an unsigned 64-bit word holds, or a finite
double. -/
inductive JsonNumber where
  | int (value : Int) (fits : -0x8000000000000000 ≤ value ∧ value < 0x10000000000000000)
  | float (value : Float) (finite : value.isFinite = true)
deriving DecidableEq

/-- A JSON value. -/
inductive Json where
  | null
  | bool (value : Bool)
  | number (value : JsonNumber)
  | string (value : String)
  | array (items : List Json)
  | object (members : List (String × Json))

instance : Inhabited Json := ⟨.null⟩

namespace JsonNumber

/-- The integer as a number, if a 64-bit word holds it. -/
def ofInt? (value : Int) : Option JsonNumber :=
  if h : -0x8000000000000000 ≤ value ∧ value < 0x10000000000000000 then some (int value h) else none

/-- The number as a double: an integer is rounded to nearest. -/
def toFloat : JsonNumber → Float
  | int value _ => Binary64.ofInt value
  | float value _ => value

/-- Whether the number is an integer. -/
def isInt : JsonNumber → Bool
  | int _ _ => true
  | float _ _ => false

end JsonNumber

namespace Json

/-- A double as JSON: `null` when it is not finite. -/
def ofFloat (value : Float) : Json :=
  if h : value.isFinite = true then number (.float value h) else null

def ofUInt16 (value : UInt16) : Json :=
  number (.int value.toNat ⟨by omega, by have := value.toNat_lt; omega⟩)

def ofUInt32 (value : UInt32) : Json :=
  number (.int value.toNat ⟨by omega, by have := value.toNat_lt; omega⟩)

def ofInt64 (value : Int64) : Json :=
  number (.int value.toInt ⟨by have := value.le_toInt; omega, by have := value.toInt_lt; omega⟩)

def ofStrings (items : List String) : Json :=
  array (items.map string)

/-- The value under a key, if this is an object that has it. -/
def get? (key : String) : Json → Option Json
  | object members => Dict.find? key members
  | _ => none

mutual

/-- How many arrays and objects are nested in each other. -/
def depth : Json → Nat
  | array items => depthItems items + 1
  | object members => depthMembers members + 1
  | _ => 0

/-- The greatest depth of an item. -/
def depthItems : List Json → Nat
  | [] => 0
  | item :: rest => max (depth item) (depthItems rest)

/-- The greatest depth of a member's value. -/
def depthMembers : List (String × Json) → Nat
  | [] => 0
  | (_, value) :: rest => max (depth value) (depthMembers rest)

end

end Json

end RiskScoring
