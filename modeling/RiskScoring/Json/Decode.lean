import RiskScoring.Json.Reader

/-!
# Decoding

A `Decoder` turns what was read into a value of the domain, or says why not. It follows the order of
the text, so that of two faults the first is reported. Records are described member by member:
`Record.member`, `Record.optional` and `Record.withDefault` give one member each, `Record.both`
joins them, and `Record.decoder` reads the record from an object, or from an array that lists the
members in order.
-/

namespace RiskScoring

/-- Why something could not be decoded. -/
inductive DecodeError where
  /-- The text is not JSON, or not JSON of the expected shape. -/
  | malformed
  /-- The shape is right, but the domain refuses the value, with a message of its own. -/
  | refused (message : String)
deriving DecidableEq, Repr

/-- Turns what was read into a value. -/
abbrev Decoder (α : Type) := Source → Except DecodeError α

namespace Decoder

/-- Any JSON value. -/
def json : Decoder Json := fun source =>
  match source.toJson? with
  | some value => .ok value
  | none => .error .malformed

/-- A string. -/
def string : Decoder String
  | .string (some value) => .ok value
  | _ => .error .malformed

/-- A truth value. -/
def bool : Decoder Bool
  | .bool value => .ok value
  | _ => .error .malformed

/-- Any number, as a double. -/
def float : Decoder Float
  | .number (some value) => .ok value.toFloat
  | _ => .error .malformed

/-- An integer between two bounds. A number with a point or an exponent is none. -/
def int (least greatest : Int) : Decoder Int
  | .number (some (.int value _)) =>
    if least ≤ value ∧ value ≤ greatest then .ok value else .error .malformed
  | _ => .error .malformed

/-- A word of 16 bits. -/
def uint16 : Decoder UInt16 := fun source =>
  (int 0 0xffff source).map fun value => UInt16.ofNat value.toNat

/-- A word of 32 bits. -/
def uint32 : Decoder UInt32 := fun source =>
  (int 0 0xffffffff source).map fun value => UInt32.ofNat value.toNat

/-- A natural number of 64 bits. -/
def size : Decoder Nat := fun source =>
  (int 0 0xffffffffffffffff source).map Int.toNat

/-- A signed word of 64 bits. -/
def int64 : Decoder Int64 := fun source =>
  (int (-0x8000000000000000) 0x7fffffffffffffff source).map Int64.ofInt

/-- `null`, or a value. -/
def option {α : Type} (decoder : Decoder α) : Decoder (Option α)
  | .null => .ok none
  | source => (decoder source).map some

/-- Decodes in order. -/
def items {α : Type} (decoder : Decoder α) : List Source → Except DecodeError (List α)
  | [] => .ok []
  | item :: rest => do
    let value ← decoder item
    let values ← items decoder rest
    return value :: values

/-- An array of values. -/
def list {α : Type} (decoder : Decoder α) : Decoder (List α)
  | .array sources closed => do
    let values ← items decoder sources
    if closed then return values else throw .malformed
  | _ => .error .malformed

/-- Decodes the values of members in order. -/
def entries {α : Type} (decoder : Decoder α) :
    List (Option String × Source) → Except DecodeError (List (String × α))
  | [] => .ok []
  | (none, _) :: _ => .error .malformed
  | (some key, source) :: rest => do
    let value ← decoder source
    let values ← entries decoder rest
    return (key, value) :: values

/-- An object with members of one kind, in the order of the text and with every repetition. -/
def members {α : Type} (decoder : Decoder α) : Decoder (List (String × α))
  | .object sources closed => do
    let values ← entries decoder sources
    if closed then return values else throw .malformed
  | _ => .error .malformed

/-- A name out of a list: a string, or an object whose only member has the name as its key and
`null` as its value. -/
def name {α : Type} (ofName? : String → Option α) : Decoder α := fun source =>
  let found (text : String) : Except DecodeError α :=
    match ofName? text with
    | some value => .ok value
    | none => .error .malformed
  match source with
  | .string (some text) => found text
  | .object [(some text, .null)] true => found text
  | _ => .error .malformed

/-- Decodes what was read of a whole text. What follows the value is looked at last. -/
def document {α : Type} (decoder : Decoder α) (read : Document) : Except DecodeError α := do
  let value ← decoder read.value
  if read.ended then return value else throw .malformed

/-- Decodes a text, with the nesting limit. -/
def text {α : Type} (decoder : Decoder α) (text : String) : Except DecodeError α :=
  document decoder (Document.read (some Document.nestingLimit) text)

end Decoder

/-- How the members of a record are read. Members may come in any order, so each has a slot
that is vacant until its key is met. -/
structure Record (α : Type) : Type 1 where
  Slots : Type
  vacant : Slots
  /-- The keys in order, each with whether an array may end before it. -/
  keys : List (String × Bool)
  /-- Reads a value into the slot of its key; a slot that is taken is an error. -/
  fill : String → Source → Slots → Except DecodeError Slots
  /-- The record, once all members are read. -/
  build : Slots → Except DecodeError α

namespace Record

/-- One member, with what a record without it has in its place. -/
def one {α : Type} (key : String) (omittable : Bool) (absent : Option α) (decoder : Decoder α) :
    Record α where
  Slots := Option α
  vacant := none
  keys := [(key, omittable)]
  fill _ source
    | none => (decoder source).map some
    | some _ => .error .malformed
  build
    | some value => .ok value
    | none =>
      match absent with
      | some value => .ok value
      | none => .error .malformed

/-- A member that has to be there. -/
def member {α : Type} (key : String) (decoder : Decoder α) : Record α :=
  one key false none decoder

/-- A member that may be missing or `null`. An array has to list it. -/
def optional {α : Type} (key : String) (decoder : Decoder α) : Record (Option α) :=
  one key false (some none) decoder.option

/-- A member that may be missing, but is not `null`. -/
def withDefault {α : Type} (key : String) (absent : α) (decoder : Decoder α) : Record α :=
  one key true (some absent) decoder

/-- A member that may be missing or `null`, also at the end of an array. -/
def omittable {α : Type} (key : String) (decoder : Decoder α) : Record (Option α) :=
  one key true (some none) decoder.option

/-- The members of two records together. -/
def both {α β : Type} (left : Record α) (right : Record β) : Record (α × β) where
  Slots := left.Slots × right.Slots
  vacant := (left.vacant, right.vacant)
  keys := left.keys ++ right.keys
  fill key source slots :=
    if left.keys.any (·.1 == key) then
      (left.fill key source slots.1).map fun filled => (filled, slots.2)
    else (right.fill key source slots.2).map fun filled => (slots.1, filled)
  build slots := do
    let a ← left.build slots.1
    let b ← right.build slots.2
    return (a, b)

/-- Another record with the same members. -/
def map {α β : Type} (f : α → β) (record : Record α) : Record β where
  Slots := record.Slots
  vacant := record.vacant
  keys := record.keys
  fill := record.fill
  build slots := (record.build slots).map f

/-- Reads the members of an object in order. Members with other keys are skipped. -/
def fillMembers {α : Type} (record : Record α) :
    List (Option String × Source) → record.Slots → Except DecodeError record.Slots
  | [], slots => .ok slots
  | (none, _) :: _, _ => .error .malformed
  | (some key, source) :: rest, slots =>
    if record.keys.any (·.1 == key) then do
      let filled ← record.fill key source slots
      fillMembers record rest filled
    else if source.wellFormed then fillMembers record rest slots
    else .error .malformed

/-- Reads the items of an array as the values of the keys in order. -/
def fillItems {α : Type} (record : Record α) :
    List (String × Bool) → List Source → record.Slots → Except DecodeError record.Slots
  | [], [], slots => .ok slots
  | [], _ :: _, _ => .error .malformed
  | keys, [], slots => if keys.all (·.2) then .ok slots else .error .malformed
  | (key, _) :: keys, source :: rest, slots => do
    let filled ← record.fill key source slots
    fillItems record keys rest filled

/-- Decodes the record from an object, or from an array of its members in order. -/
def decoder {α : Type} (record : Record α) : Decoder α
  | .object members closed => do
    let slots ← record.fillMembers members record.vacant
    if closed then record.build slots else throw .malformed
  | .array items closed => do
    let slots ← record.fillItems record.keys items record.vacant
    if closed then record.build slots else throw .malformed
  | _ => .error .malformed

end Record

end RiskScoring
