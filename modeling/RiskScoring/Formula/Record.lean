import RiskScoring.Formula.Basic

/-!
# Operator records

The exchange form of a formula is a tree of records: the name of an operator, its literals and
names under keys (the static data), and its children. `Expression.toRecord` and
`Expression.ofRecord` go between the two. A record is checked in this order: its name, its children
from left to right, their number, and last its static data.
-/

namespace RiskScoring

/-- One operator of a formula in exchange form. -/
inductive OperatorRecord where
  | node (type : String) (staticData : Option (List (String × Json)))
      (children : Option (List (Option OperatorRecord)))

/-- Why static data does not serve. -/
inductive StaticFault where
  | missing
  | notString
  | notNumber
  | notStringList
deriving DecidableEq, Repr

/-- Why a record stands for no formula. -/
inductive RecordFault where
  | takesNoChildren
  | wrongChildCount (required : Nat) (given : Option Nat)
  | childrenMissing
  | staticData (key : String) (fault : StaticFault)
deriving DecidableEq, Repr

namespace RecordFault

def message : RecordFault → String
  | takesNoChildren => "takes no children"
  | wrongChildCount required (some given) =>
    s!"requires {required} children, but received {given}"
  | wrongChildCount required none => s!"requires {required} children, but none were given"
  | childrenMissing => "children are missing"
  | staticData key .missing => s!"staticData.{key} is missing"
  | staticData key .notString => s!"staticData.{key} must be a string"
  | staticData key .notNumber => s!"staticData.{key} must be a number"
  | staticData key .notStringList => s!"staticData.{key} must be a list of strings"

end RecordFault

/-- Why records could not be turned into a formula: at which operator, and what is wrong there. -/
inductive RecordError where
  | unknownOperator (name : String)
  | malformed (operator : Operator) (fault : RecordFault)
deriving DecidableEq, Repr

namespace RecordError

def name : RecordError → String
  | unknownOperator _ => "UnknownOperatorType"
  | malformed .. => "MalformedExpression"

def message : RecordError → String
  | unknownOperator name => s!"Unknown operator type '{name}'"
  | malformed operator fault =>
    s!"Malformed expression for operator '{operator}': {fault.message}"

end RecordError

/-! ## Static data -/

namespace StaticData

/-- The value under a key. -/
def get (data : Option (List (String × Json))) (key : String) : Except RecordFault Json :=
  match data.bind (Dict.find? key) with
  | some value => .ok value
  | none => .error (.staticData key .missing)

/-- The string under a key. -/
def getString (data : Option (List (String × Json))) (key : String) :
    Except RecordFault String := do
  match ← get data key with
  | .string value => return value
  | _ => throw (.staticData key .notString)

/-- The number under a key, as a double. -/
def getFloat (data : Option (List (String × Json))) (key : String) :
    Except RecordFault Float := do
  match ← get data key with
  | .number value => return value.toFloat
  | _ => throw (.staticData key .notNumber)

/-- The list of strings under a key. -/
def getStrings (data : Option (List (String × Json))) (key : String) :
    Except RecordFault (List String) := do
  match ← get data key with
  | .array items =>
    match Value.strings? items with
    | some strings => return strings
    | none => throw (.staticData key .notStringList)
  | _ => throw (.staticData key .notStringList)

end StaticData

/-! ## From records -/

namespace Operator

/-- A leaf may have an empty row of children, but no child. -/
def requireLeaf (children : Option (List (Option Expression))) : Except RecordFault Unit :=
  match children with
  | some (_ :: _) => .error .takesNoChildren
  | _ => .ok ()

/-- The formula with this operator at its root, from static data and the children as formulas. -/
def assemble (op : Operator) (data : Option (List (String × Json)))
    (children : Option (List (Option Expression))) : Except RecordFault Expression :=
  match op with
  | bool value => do
    requireLeaf children
    return .bool value
  | string => do
    requireLeaf children
    return .string (← StaticData.getString data "value")
  | float => do
    requireLeaf children
    return .float (← StaticData.getFloat data "value")
  | stringList => do
    requireLeaf children
    return .stringList (← StaticData.getStrings data "value")
  | payload type => do
    requireLeaf children
    return .payload type (← StaticData.getString data "fieldName")
  | stored type => do
    requireLeaf children
    let path ← StaticData.getStrings data "path"
    return .stored type path (← StaticData.getString data "fieldName")
  | not =>
    match children with
    | some [operand] => .ok (.not operand)
    | _ => .error (.wrongChildCount 1 (children.map List.length))
  | binary op =>
    match children with
    | some [left, right] => .ok (.binary op left right)
    | _ => .error (.wrongChildCount 2 (children.map List.length))
  | variadic op =>
    match children with
    | some operands => .ok (.variadic op operands)
    | none => .error .childrenMissing

end Operator

namespace Expression

mutual

/-- The formula of a record. -/
def ofRecord : OperatorRecord → Except RecordError Expression
  | .node type data children =>
    match Operator.ofName? type with
    | none => .error (.unknownOperator type)
    | some op => do
      let operands ← ofChildren children
      match op.assemble data operands with
      | .ok formula => return formula
      | .error fault => throw (.malformed op fault)

/-- The formulas of the children, if there is a row of them. -/
def ofChildren :
    Option (List (Option OperatorRecord)) → Except RecordError (Option (List (Option Expression)))
  | none => .ok none
  | some slots => (ofSlots slots).map some

/-- The formulas of a row of slots, from left to right. -/
def ofSlots : List (Option OperatorRecord) → Except RecordError (List (Option Expression))
  | [] => .ok []
  | slot :: rest => do
    let operand ← ofSlot slot
    let operands ← ofSlots rest
    return operand :: operands

/-- The formula of a slot; an empty slot stays empty. -/
def ofSlot : Option OperatorRecord → Except RecordError (Option Expression)
  | none => .ok none
  | some record => (ofRecord record).map some

end

/-! ## To records -/

/-- The static data of a node. -/
def staticData : Expression → List (String × Json)
  | string value => [("value", .string value)]
  | float value => [("value", Json.ofFloat value)]
  | stringList items => [("value", Json.ofStrings items)]
  | payload _ name => [("fieldName", .string name)]
  | stored _ path name => [("path", Json.ofStrings path), ("fieldName", .string name)]
  | _ => []

/-- The record of a node, with the records of its operands. -/
def recordWith (formula : Expression) (children : Option (List (Option OperatorRecord))) :
    OperatorRecord :=
  .node formula.operator.name
    (if formula.staticData.isEmpty then none else some formula.staticData) children

mutual

/-- The record of a formula. Operators without operands have no children, and nodes without
literals and names no static data. -/
def toRecord : Expression → OperatorRecord
  | not operand => recordWith (not operand) (some [toSlot operand])
  | binary op left right =>
    recordWith (binary op left right) (some [toSlot left, toSlot right])
  | variadic op operands => recordWith (variadic op operands) (some (toSlots operands))
  | formula => recordWith formula none

/-- The record of a slot. -/
def toSlot : Option Expression → Option OperatorRecord
  | none => none
  | some operand => some (toRecord operand)

/-- The records of a row of slots. -/
def toSlots : List (Option Expression) → List (Option OperatorRecord)
  | [] => []
  | slot :: rest => toSlot slot :: toSlots rest

end

end Expression

/-! ## Records as JSON -/

namespace OperatorRecord

/-- The member for static data, if there is any. -/
def staticMember : Option (List (String × Json)) → List (String × Json)
  | none => []
  | some data => [("staticData", .object data)]

mutual

/-- The record as JSON. What is absent is left out, and an empty slot is `null`. -/
def toJson : OperatorRecord → Json
  | node type data children =>
    .object (("type", .string type) :: (staticMember data ++ childrenMember children))

/-- The member for the children, if there is a row of them. -/
def childrenMember : Option (List (Option OperatorRecord)) → List (String × Json)
  | none => []
  | some slots => [("children", .array (toJsonSlots slots))]

def toJsonSlots : List (Option OperatorRecord) → List Json
  | [] => []
  | slot :: rest => toJsonSlot slot :: toJsonSlots rest

def toJsonSlot : Option OperatorRecord → Json
  | none => .null
  | some record => toJson record

end

end OperatorRecord

end RiskScoring
