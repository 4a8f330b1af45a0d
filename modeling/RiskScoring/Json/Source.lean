import RiskScoring.Json.Basic

/-!
# JSON as it was read

A `Source` is what a reader found of a JSON value, with every fault kept at the place where it
stands. Decoding walks it in text order, so the first fault met decides, and a part that is
skipped need not be a value that could be used. `Source.toJson?` gives the value of a source without
faults, and `Source.ofJson` is the source of a value at hand.
-/

namespace RiskScoring

/-- What was read of one JSON value. -/
inductive Source where
  | null
  | bool (value : Bool)
  /-- A number; `none` when it is past the largest double. -/
  | number (value : Option JsonNumber)
  /-- A string; `none` when an escape names half of a surrogate pair. -/
  | string (value : Option String)
  /-- An array and whether it ends properly. -/
  | array (items : List Source) (closed : Bool)
  /-- An object and whether it ends properly. A key is `none` as a string is. -/
  | object (members : List (Option String × Source)) (closed : Bool)
  /-- An array or object past the depth limit, and whether its text is well formed. -/
  | tooDeep (wellFormed : Bool)
  /-- Something that starts no value, or does not end as one. -/
  | broken

namespace Source

mutual

/-- Whether the text is well formed: it may be skipped, if not used. -/
def wellFormed : Source → Bool
  | array items closed => wellFormedItems items && closed
  | object members closed => wellFormedMembers members && closed
  | tooDeep ok => ok
  | broken => false
  | _ => true

/-- Whether all items are well formed. -/
def wellFormedItems : List Source → Bool
  | [] => true
  | item :: rest => wellFormed item && wellFormedItems rest

/-- Whether the values of all members are well formed. -/
def wellFormedMembers : List (Option String × Source) → Bool
  | [] => true
  | (_, value) :: rest => wellFormed value && wellFormedMembers rest

end

mutual

/-- The value of a source without faults. A repeated key keeps its first place and its last
value. -/
def toJson? : Source → Option Json
  | null => some .null
  | bool value => some (.bool value)
  | number value => value.map .number
  | string value => value.map .string
  | array items true => (toJsonItems? items).map .array
  | object members true => (toJsonMembers? members []).map .object
  | array _ false | object _ false | tooDeep _ | broken => none

/-- The values of the items. -/
def toJsonItems? : List Source → Option (List Json)
  | [] => some []
  | item :: rest => do
    let value ← toJson? item
    let values ← toJsonItems? rest
    return value :: values

/-- Adds the members to those already there. -/
def toJsonMembers? : List (Option String × Source) → List (String × Json) →
    Option (List (String × Json))
  | [], found => some found
  | (none, _) :: _, _ => none
  | (some key, source) :: rest, found => do
    let value ← toJson? source
    toJsonMembers? rest (Dict.insertEntry key value found)

end

mutual

/-- The source of a value. -/
def ofJson : Json → Source
  | .null => null
  | .bool value => bool value
  | .number value => number (some value)
  | .string value => string (some value)
  | .array items => array (ofJsonItems items) true
  | .object members => object (ofJsonMembers members) true

/-- The sources of the items. -/
def ofJsonItems : List Json → List Source
  | [] => []
  | item :: rest => ofJson item :: ofJsonItems rest

/-- The sources of the members. -/
def ofJsonMembers : List (String × Json) → List (Option String × Source)
  | [] => []
  | (key, value) :: rest => (some key, ofJson value) :: ofJsonMembers rest

end

end Source

/-- What was read of a whole text: its value, and whether nothing but blanks follows it. -/
structure Document where
  value : Source
  ended : Bool

end RiskScoring
