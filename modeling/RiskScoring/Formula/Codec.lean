import RiskScoring.Formula.Record

/-!
# Formulas as JSON

Operator records and formulas are read from JSON here, and formulas are written to JSON text.
A text is refused as JSON before its records are looked at; where a formula is part of a larger
value, its records are looked at as soon as the formula itself has been read.
-/

namespace RiskScoring

namespace OperatorRecord

/-- The members of a record that have been met. -/
structure Slots where
  type : Option String
  staticData : Option (Option (List (String × Json)))
  children : Option (Option (List (Option OperatorRecord)))

/-- No member met yet. -/
def vacant : Slots := ⟨none, none, none⟩

/-- The record, once all members are read. Only the name of the operator has to be there. -/
def build (slots : Slots) : Except DecodeError OperatorRecord :=
  match slots.type with
  | some type => .ok (.node type (slots.staticData.getD none) (slots.children.getD none))
  | none => .error .malformed

/-- Takes the name of the operator. -/
def takeType (source : Source) (slots : Slots) : Except DecodeError Slots :=
  if slots.type.isSome then .error .malformed
  else (Decoder.string source).map fun type => { slots with type := some type }

/-- An object with any members. -/
def dataDecoder : Decoder (List (String × Json)) := fun source => do
  match ← Decoder.json source with
  | .object members => return members
  | _ => throw .malformed

/-- Takes the static data. -/
def takeData (source : Source) (slots : Slots) : Except DecodeError Slots :=
  if slots.staticData.isSome then .error .malformed
  else (dataDecoder.option source).map fun data => { slots with staticData := some data }

mutual

/-- Decodes a record, from an object or from an array of its members in order. -/
def decoder : Source → Except DecodeError OperatorRecord
  | .object members closed => do
    let slots ← fillMembers members vacant
    if closed then build slots else throw .malformed
  | .array items closed => do
    let slots ← fillItems items
    if closed then build slots else throw .malformed
  | _ => .error .malformed

/-- Reads the members of a record in order. Members with other keys are skipped. -/
def fillMembers : List (Option String × Source) → Slots → Except DecodeError Slots
  | [], slots => .ok slots
  | (none, _) :: _, _ => .error .malformed
  | (some key, source) :: rest, slots =>
    if key = "type" then do
      let filled ← takeType source slots
      fillMembers rest filled
    else if key = "staticData" then do
      let filled ← takeData source slots
      fillMembers rest filled
    else if key = "children" then
      if slots.children.isSome then .error .malformed
      else do
        let children ← childrenOf source
        fillMembers rest { slots with children := some children }
    else if source.wellFormed then fillMembers rest slots
    else .error .malformed

/-- Reads the members of a record that is given as an array. -/
def fillItems : List Source → Except DecodeError Slots
  | [type] => takeType type vacant
  | [type, data] => do
    let slots ← takeType type vacant
    takeData data slots
  | [type, data, children] => do
    let slots ← takeType type vacant
    let slots ← takeData data slots
    let children ← childrenOf children
    return { slots with children := some children }
  | _ => .error .malformed

/-- Decodes the children: `null`, or an array of slots. -/
def childrenOf : Source → Except DecodeError (Option (List (Option OperatorRecord)))
  | .null => .ok none
  | .array items closed => do
    let slots ← slotsOf items
    if closed then return some slots else throw .malformed
  | _ => .error .malformed

def slotsOf : List Source → Except DecodeError (List (Option OperatorRecord))
  | [] => .ok []
  | .null :: rest => do
    let slots ← slotsOf rest
    return none :: slots
  | item :: rest => do
    let record ← decoder item
    let slots ← slotsOf rest
    return some record :: slots

end

end OperatorRecord

/-- Why a text of its own is no formula. -/
inductive FormulaError where
  /-- The text is no operator record. -/
  | json
  | record (error : RecordError)
deriving DecidableEq, Repr

namespace FormulaError

def message : FormulaError → String
  | json => "Failed to parse operator JSON: not an operator record"
  | record error => error.message

end FormulaError

namespace Expression

def toJson (formula : Expression) : Json := formula.toRecord.toJson

/-- The formula as JSON text. -/
def toText (formula : Expression) : String := formula.toJson.compact

def decoder : Decoder Expression := fun source => do
  let record ← OperatorRecord.decoder source
  match ofRecord record with
  | .ok formula => return formula
  | .error error => throw (.refused error.message)

/-- Reads a formula from a text of its own: the whole text is decoded to records first. -/
def ofText (text : String) : Except FormulaError Expression :=
  match Decoder.text OperatorRecord.decoder text with
  | .error _ => .error .json
  | .ok record =>
    match ofRecord record with
    | .ok formula => .ok formula
    | .error error => .error (.record error)

end Expression

end RiskScoring
