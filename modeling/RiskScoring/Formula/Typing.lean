import RiskScoring.Formula.Basic

/-!
# Valid formulas

A formula is valid if no slot is empty, every connective has an operand, every field read names a
field, and every operand has the type that its place asks for. `Expression.validate` reports the
first fault: a node before its operands, and the operands from left to right, each completely.
-/

namespace RiskScoring

/-- What is wrong at one node of a formula. -/
inductive NodeFault where
  | noOperands
  | emptyFieldName
  | emptySlot (index : Nat)
  | operandType (index : Nat) (operand : Operator) (expected : ValueType)
deriving DecidableEq, Repr

namespace NodeFault

def message : NodeFault → String
  | noOperands => "requires at least one operand"
  | emptyFieldName => "field name is empty"
  | emptySlot index => s!"operand {index} is null"
  | operandType index operand expected =>
    s!"operand {index} ({operand}) returns {operand.returns}, expected {expected}"

end NodeFault

/-- A fault of a formula: the operator at the node, and what is wrong there. -/
structure Malformation where
  operator : Operator
  fault : NodeFault
deriving DecidableEq, Repr

namespace Malformation

def message (malformation : Malformation) : String :=
  s!"{malformation.operator}: {malformation.fault.message}"

end Malformation

namespace Expression

mutual

/-- Finds the first fault. -/
def validate : Expression → Except Malformation Unit
  | payload type name =>
    if name = "" then .error ⟨.payload type, .emptyFieldName⟩ else .ok ()
  | stored type _ name =>
    if name = "" then .error ⟨.stored type, .emptyFieldName⟩ else .ok ()
  | not operand => validateSlot .not 0 operand
  | binary op left right => do
    validateSlot (.binary op) 0 left
    validateSlot (.binary op) 1 right
  | variadic op operands =>
    if operands.isEmpty then .error ⟨.variadic op, .noOperands⟩
    else validateSlots (.variadic op) 0 operands
  | _ => .ok ()

/-- Finds the first fault of the operand at a place. -/
def validateSlot (parent : Operator) (index : Nat) : Option Expression → Except Malformation Unit
  | none => .error ⟨parent, .emptySlot index⟩
  | some operand =>
    if operand.returnType = parent.operandType index then validate operand
    else .error ⟨parent, .operandType index operand.operator (parent.operandType index)⟩

/-- Finds the first fault of the operands from a place on. -/
def validateSlots (parent : Operator) (index : Nat) :
    List (Option Expression) → Except Malformation Unit
  | [] => .ok ()
  | slot :: rest => do
    validateSlot parent index slot
    validateSlots parent (index + 1) rest

end

/-- Whether the formula is valid. -/
def isValid (formula : Expression) : Bool := formula.validate.isOk

end Expression

end RiskScoring
