import RiskScoring.Model.Basic
import RiskScoring.Time.Rfc3339

/-!
# Payloads

A payload is the object that is to be scored, with each field of its table brought to a value. A
member that is `null` counts as absent. Members that the table does not declare are kept in the
raw object only.
-/

namespace RiskScoring

/-- Values of the fields of one row. -/
abbrev Row := Dict String Value

/-- What is wrong with a field of a payload, or with the payload as a whole. -/
inductive PayloadFault where
  | notObject
  | required (field : String)
  | badTimestamp (field : String) (fault : TimeFault)
  | wrongType (field : String) (expected : DataType) (given : Json)

namespace PayloadFault

def message : PayloadFault → String
  | notObject => "payload must be a JSON object"
  | required field => s!"field '{field}' is required"
  | badTimestamp field fault => s!"field '{field}' is not an RFC 3339 timestamp: {fault.message}"
  | wrongType field expected given => s!"field '{field}' expects {expected}, got {given.compact}"

end PayloadFault

/-- Why a JSON value is no payload of a table. -/
structure PayloadError where
  table : String
  fault : PayloadFault

namespace PayloadError

def name (_ : PayloadError) : String := "InvalidPayload"

def message (error : PayloadError) : String :=
  s!"Invalid payload for table '{error.table}': {error.fault.message}"

end PayloadError

/-- An object to be scored. -/
structure Payload where
  /-- The name of its table. -/
  table : String
  /-- The declared fields that are present. -/
  fields : Row
  /-- The object as it was given. -/
  raw : Json

namespace Payload

/-- The value of a present member, by the type of its field. -/
def fieldValue (name : String) (dataType : DataType) (given : Json) : Except PayloadFault Value :=
  match dataType, given with
  | .bool, .bool value => .ok (.bool value)
  | .float, .number value => .ok (.float value.toFloat)
  | .int, .number value =>
    if value.isInt then .ok (.float value.toFloat) else .error (.wrongType name .int given)
  | .string, .string value => .ok (.string value)
  | .timestamp, .string value =>
    match Instant.ofRfc3339 value with
    | .ok _ => .ok (.string value)
    | .error fault => .error (.badTimestamp name fault)
  | _, _ => .error (.wrongType name dataType given)

/-- The value of a field in an object, if it is present. -/
def readField (object : Json) (name : String) (field : Field) :
    Except PayloadFault (Option Value) :=
  match object.get? name with
  | none | some .null => if field.nullable then .ok none else .error (.required name)
  | some given => (fieldValue name field.dataType given).map some

/-- Reads fields one after the other into a row. -/
def readFields (object : Json) :
    List (String × Field) → Row → Except PayloadFault Row
  | [], row => .ok row
  | (name, field) :: rest, row => do
    match ← readField object name field with
    | some value => readFields object rest (row.insert name value)
    | none => readFields object rest row

/-- The payload of a JSON value. -/
def ofJson (table : Table) (raw : Json) : Except PayloadError Payload :=
  match raw with
  | .object _ =>
    match readFields raw table.fields.entries .empty with
    | .ok fields => .ok ⟨table.name, fields, raw⟩
    | .error fault => .error ⟨table.name, fault⟩
  | _ => .error ⟨table.name, .notObject⟩

/-- The value of a field, if it is present. -/
def get? (payload : Payload) (name : String) : Option Value := payload.fields.get? name

/-- The identifier of the object, if it has one. -/
def objectId? (payload : Payload) : Option String := (payload.get? "object_id").bind Value.string?

end Payload

end RiskScoring
