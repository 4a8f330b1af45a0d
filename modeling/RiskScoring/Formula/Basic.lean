import RiskScoring.Value

/-!
# Formulas

A formula is a tree of typed operators. Its leaves are literals and field reads: fields of the
object at hand (the payload), and fields of stored rows that links lead to. The operands of the
inner nodes sit in slots that may be empty; an empty slot survives reading and writing, but makes
the tree invalid.
-/

namespace RiskScoring

/-- The declared type of a field read. -/
inductive FieldType where
  | bool
  | float
  | string
deriving DecidableEq, Repr

namespace FieldType

def all : List FieldType := [bool, float, string]

/-- The type of the values that are read. -/
def valueType : FieldType → ValueType
  | bool => .bool
  | float => .float
  | string => .string

def name : FieldType → String
  | bool => "Bool"
  | float => "Float"
  | string => "String"

instance : ToString FieldType := ⟨name⟩

def jsonName : FieldType → String
  | bool => "bool"
  | float => "float"
  | string => "string"

def ofJsonName? (text : String) : Option FieldType := all.find? fun type => type.jsonName == text

end FieldType

/-- The operators with two operands. -/
inductive BinaryOp where
  | equalBool
  | equalString
  | equalFloat
  | greater
  | greaterOrEqual
  | less
  | lessOrEqual
  | isInList
  | add
  | subtract
  | multiply
  | divide
deriving DecidableEq, Repr

namespace BinaryOp

def all : List BinaryOp :=
  [equalBool, equalString, equalFloat, greater, greaterOrEqual, less, lessOrEqual, isInList,
    add, subtract, multiply, divide]

def name : BinaryOp → String
  | equalBool => "EQUAL_BOOL"
  | equalString => "EQUAL_STRING"
  | equalFloat => "EQUAL_FLOAT"
  | greater => "GREATER_FLOAT"
  | greaterOrEqual => "GREATER_OR_EQUAL_FLOAT"
  | less => "LESSER_FLOAT"
  | lessOrEqual => "LESSER_OR_EQUAL_FLOAT"
  | isInList => "STRING_IS_IN_LIST"
  | add => "ADD_FLOAT"
  | subtract => "SUBTRACT_FLOAT"
  | multiply => "PRODUCT_FLOAT"
  | divide => "DIVIDE_FLOAT"

/-- The symbol in explanations. -/
def symbol : BinaryOp → String
  | equalBool | equalString | equalFloat => "=="
  | greater => ">"
  | greaterOrEqual => ">="
  | less => "<"
  | lessOrEqual => "<="
  | isInList => "IN"
  | add => "+"
  | subtract => "-"
  | multiply => "*"
  | divide => "/"

/-- The type of the result. -/
def returns : BinaryOp → ValueType
  | add | subtract | multiply | divide => .float
  | _ => .bool

/-- The type of the operand at a place. -/
def operandType (op : BinaryOp) (index : Nat) : ValueType :=
  match op with
  | equalBool => .bool
  | equalString => .string
  | isInList => if index = 0 then .string else .stringList
  | _ => .float

end BinaryOp

/-- The operators with any number of operands. -/
inductive Connective where
  | and
  | or
deriving DecidableEq, Repr

namespace Connective

/-- The name in the record format and in explanations. -/
def name : Connective → String
  | and => "AND"
  | or => "OR"

/-- The operand that settles the result: no operand after it is evaluated. -/
def settledBy : Connective → Bool
  | and => false
  | or => true

end Connective

/-- A formula. -/
inductive Expression where
  | bool (value : Bool)
  | string (value : String)
  | float (value : Float)
  | stringList (items : List String)
  /-- Reads a field of the payload. -/
  | payload (type : FieldType) (name : String)
  /-- Reads a field of the stored row that the links of `path` lead to. -/
  | stored (type : FieldType) (path : List String) (name : String)
  | not (operand : Option Expression)
  | binary (op : BinaryOp) (left right : Option Expression)
  | variadic (op : Connective) (operands : List (Option Expression))

instance : Inhabited Expression := ⟨.bool true⟩

/-- The operator at a node, without its literal, names and operands. -/
inductive Operator where
  | bool (value : Bool)
  | string
  | float
  | stringList
  | payload (type : FieldType)
  | stored (type : FieldType)
  | not
  | binary (op : BinaryOp)
  | variadic (op : Connective)
deriving DecidableEq, Repr

namespace Operator

def all : List Operator :=
  [bool true, bool false, string, float, stringList] ++ FieldType.all.map payload ++
    FieldType.all.map stored ++ [not] ++ BinaryOp.all.map binary ++
    [variadic .and, variadic .or]

def name : Operator → String
  | bool true => "TRUE"
  | bool false => "FALSE"
  | string => "STRING_VALUE"
  | float => "FLOAT_VALUE"
  | stringList => "STRING_LIST_VALUE"
  | payload .bool => "PAYLOAD_FIELD_BOOL"
  | payload .float => "PAYLOAD_FIELD_FLOAT"
  | payload .string => "PAYLOAD_FIELD_STRING"
  | stored .bool => "DB_FIELD_BOOL"
  | stored .float => "DB_FIELD_FLOAT"
  | stored .string => "DB_FIELD_STRING"
  | not => "NOT"
  | binary op => op.name
  | variadic op => op.name

instance : ToString Operator := ⟨name⟩

def ofName? (text : String) : Option Operator := all.find? fun op => op.name == text

/-- The names of all operators, in order. -/
def names : List String := (all.map name).mergeSort fun x y => decide (x ≤ y)

/-- The type of the result. -/
def returns : Operator → ValueType
  | bool _ | not | variadic _ => .bool
  | string => .string
  | float => .float
  | stringList => .stringList
  | payload type => type.valueType
  | stored type => type.valueType
  | binary op => op.returns

/-- The type of the operand at a place. -/
def operandType (op : Operator) (index : Nat) : ValueType :=
  match op with
  | binary op => op.operandType index
  | _ => .bool

end Operator

namespace Expression

/-- The operator at the root. -/
def operator : Expression → Operator
  | bool value => .bool value
  | string _ => .string
  | float _ => .float
  | stringList _ => .stringList
  | payload type _ => .payload type
  | stored type _ _ => .stored type
  | not _ => .not
  | binary op _ _ => .binary op
  | variadic op _ => .variadic op

/-- The type of the result. -/
def returnType (formula : Expression) : ValueType := formula.operator.returns

/-- The operand slots in order. -/
def operands : Expression → List (Option Expression)
  | not operand => [operand]
  | binary _ left right => [left, right]
  | variadic _ operands => operands
  | _ => []

mutual

/-- Equality of formulas, with literal doubles compared as numbers. -/
def equals : Expression → Expression → Bool
  | bool x, bool y => x == y
  | string x, string y => x == y
  | float x, float y => x == y
  | stringList x, stringList y => x == y
  | payload s x, payload t y => s == t && x == y
  | stored s p x, stored t q y => s == t && p == q && x == y
  | not x, not y => equalsSlot x y
  | binary p x y, binary q z w => p == q && equalsSlot x z && equalsSlot y w
  | variadic p xs, variadic q ys => p == q && equalsSlots xs ys
  | _, _ => false

/-- `equals` on two slots. -/
def equalsSlot : Option Expression → Option Expression → Bool
  | none, none => true
  | some x, some y => equals x y
  | _, _ => false

/-- `equals` on two rows of slots. -/
def equalsSlots : List (Option Expression) → List (Option Expression) → Bool
  | [], [] => true
  | x :: xs, y :: ys => equalsSlot x y && equalsSlots xs ys
  | _, _ => false

end

end Expression

/-- A field read somewhere in a formula. -/
inductive FieldRead where
  | payload (type : FieldType) (name : String)
  | stored (type : FieldType) (path : List String) (name : String)
deriving DecidableEq, Repr

namespace FieldRead

/-- The declared type. -/
def type : FieldRead → FieldType
  | payload type _ => type
  | stored type _ _ => type

/-- The operator of the leaf. -/
def operator : FieldRead → Operator
  | payload type _ => .payload type
  | stored type _ _ => .stored type

/-- The name of the stored field that a path leads to. -/
def qualifiedName (path : List String) (name : String) : String :=
  ".".intercalate path ++ "." ++ name

/-- What is read: the name of a payload field, or the qualified name of a stored one. -/
def source : FieldRead → String
  | payload _ name => name
  | stored _ path name => qualifiedName path name

/-- The read in messages and explanations. -/
def text (read : FieldRead) : String := "$" ++ read.source

instance : ToString FieldRead := ⟨text⟩

end FieldRead

namespace Expression

mutual

/-- Every field read of the formula, from left to right. -/
def reads : Expression → List FieldRead
  | payload type name => [.payload type name]
  | stored type path name => [.stored type path name]
  | not operand => readsSlot operand
  | binary _ left right => readsSlot left ++ readsSlot right
  | variadic _ operands => readsSlots operands
  | _ => []

/-- The reads of the formula in a slot. -/
def readsSlot : Option Expression → List FieldRead
  | none => []
  | some formula => reads formula

/-- The reads of the formulas in a row of slots. -/
def readsSlots : List (Option Expression) → List FieldRead
  | [] => []
  | slot :: rest => readsSlot slot ++ readsSlots rest

end

end Expression

end RiskScoring
