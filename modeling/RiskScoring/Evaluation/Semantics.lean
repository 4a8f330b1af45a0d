import RiskScoring.Evaluation.Accessor
import RiskScoring.Trace.Explanation

/-!
# Evaluation

A formula is checked as a whole before anything is read. Then it is evaluated from left to right;
a connective stops at the operand that settles it. The value comes with a trace of every node that
was visited.
-/

namespace RiskScoring

namespace Trace

/-- The trace of a literal. -/
def literal (value : Value) : Trace := .leaf value.text value

/-- The error of an operand that did not leave a value of the expected kind behind. -/
def mismatch (label : String) (expected : ValueType) : Option Value → EvaluationError
  | some found => .typeMismatch label expected found
  | none => .stuck label .notEvaluated

/-- What an operand left behind, as a view of values sees it. -/
def outcomeAs {α : Type} (view : Value → Option α) (expected : ValueType) (label : String)
    (trace : Trace) : Except EvaluationError α :=
  match trace.outcome?.bind view with
  | some seen => .ok seen
  | none => .error (mismatch label expected trace.outcome?)

/-- The truth value that an operand left behind. -/
def boolOutcome (label : String) (trace : Trace) : Except EvaluationError Bool :=
  trace.outcomeAs Value.bool? .bool label

/-- The double that an operand left behind. -/
def floatOutcome (label : String) (trace : Trace) : Except EvaluationError Float :=
  trace.outcomeAs Value.float? .float label

/-- The string that an operand left behind. -/
def stringOutcome (label : String) (trace : Trace) : Except EvaluationError String :=
  trace.outcomeAs Value.string? .string label

/-- The list of strings that an operand left behind. -/
def stringsOutcome (label : String) (trace : Trace) : Except EvaluationError (List String) :=
  trace.outcomeAs Value.stringList? .stringList label

end Trace

namespace BinaryOp

/-- The operator in complaints about an empty slot. -/
def slotLabel : BinaryOp → String
  | isInList => isInList.name
  | divide => divide.name
  | op => op.symbol

/-- Whether the operands are equal, without conversion between kinds. -/
def equality (op : BinaryOp) (left right : Trace) : Except EvaluationError Bool :=
  let type := op.operandType 0
  match left.outcome?, right.outcome? with
  | some x, some y =>
    if x.type = type then
      if y.type = type then .ok (x.equals y) else .error (.typeMismatch op.symbol type y)
    else .error (.typeMismatch op.symbol type x)
  | some x, none =>
    if x.type = type then .error (.stuck op.symbol .notEvaluated)
    else .error (.typeMismatch op.symbol type x)
  | none, other => .error (Trace.mismatch op.symbol type other)

/-- Applies a function to two doubles. -/
def onFloats {α : Type} (op : BinaryOp) (f : Float → Float → α) (left right : Trace) :
    Except EvaluationError α := do
  let x ← left.floatOutcome op.symbol
  let y ← right.floatOutcome op.symbol
  return f x y

/-- The value of an operator from the traces of its operands. Doubles are compared and computed
with as IEEE 754 says, except that a division by zero of either sign is an error. -/
def apply (op : BinaryOp) (left right : Trace) : Except EvaluationError Value :=
  match op with
  | equalBool => (op.equality left right).map .bool
  | equalString => (op.equality left right).map .bool
  | equalFloat => (op.equality left right).map .bool
  | greater => (op.onFloats (fun x y => decide (y < x)) left right).map .bool
  | greaterOrEqual => (op.onFloats (fun x y => decide (y ≤ x)) left right).map .bool
  | less => (op.onFloats (fun x y => decide (x < y)) left right).map .bool
  | lessOrEqual => (op.onFloats (fun x y => decide (x ≤ y)) left right).map .bool
  | isInList => do
    let needle ← left.stringOutcome op.symbol
    let items ← right.stringsOutcome op.symbol
    return .bool (items.contains needle)
  | add => (op.onFloats (fun x y => x + y) left right).map .float
  | subtract => (op.onFloats (fun x y => x - y) left right).map .float
  | multiply => (op.onFloats (fun x y => x * y) left right).map .float
  | divide => do
    let x ← left.floatOutcome op.symbol
    let y ← right.floatOutcome op.symbol
    if y == 0 then throw (.divisionByZero op.name) else return .float (x / y)

end BinaryOp

/-- A value that was read, checked against the declared type of the read. -/
def FieldRead.check (read : FieldRead) (value : Value) : Except EvaluationError Unit :=
  if value.type = read.type.valueType then .ok ()
  else .error (.typeMismatch read.operator.name read.type.valueType value)

/-- The trace of a read: the field has to be present and of the declared type. -/
def FieldRead.trace (read : FieldRead) : Option Value → Except EvaluationError Trace
  | none => .error (.fieldMissing read.source)
  | some value => do
    read.check value
    return .leaf read.text value

variable {σ : Type}

/-- Reads a field. A stored field is checked against the data model first. -/
def Accessor.fetch (accessor : Accessor σ) (read : FieldRead) : Reading σ Trace := do
  let value ← match read with
    | .payload _ name => liftM (accessor.payloadField name)
    | .stored type path name => do
      accessor.checkStored path name type
      accessor.storedField path name
  liftExcept (read.trace value)

namespace Expression

mutual

/-- Evaluates a node. -/
def traceNode (accessor : Accessor σ) : Expression → Reading σ Trace
  | bool value => pure (Trace.literal (.bool value))
  | string value => pure (Trace.literal (.string value))
  | float value => pure (Trace.literal (.float value))
  | stringList items => pure (Trace.literal (.stringList items))
  | payload type name => accessor.fetch (.payload type name)
  | stored type path name => accessor.fetch (.stored type path name)
  | not operand => do
    let child ← traceSlot accessor Operator.not.name operand
    let value ← liftExcept (child.boolOutcome Operator.not.name)
    return .unary Operator.not.name child (.bool !value)
  | binary op left right => do
    let leftTrace ← traceSlot accessor op.slotLabel left
    let rightTrace ← traceSlot accessor op.slotLabel right
    let outcome ← liftExcept (op.apply leftTrace rightTrace)
    return .binary op.symbol leftTrace rightTrace outcome
  | variadic op operands =>
    if operands.isEmpty then throw (.stuck op.name .noOperands)
    else do
      let (traces, outcome) ← traceOperands accessor op (!op.settledBy) operands
      return .variadic op.name traces (.bool outcome)

/-- Evaluates the operand in a slot. -/
def traceSlot (accessor : Accessor σ) (label : String) : Option Expression → Reading σ Trace
  | none => throw (.stuck label .emptySlot)
  | some operand => traceNode accessor operand

/-- Evaluates the operands of a connective in order. `outcome` is the value of the operands before;
once it settles the result, the operands that remain are skipped. -/
def traceOperands (accessor : Accessor σ) (op : Connective) (outcome : Bool) :
    List (Option Expression) → Reading σ (List Trace × Bool)
  | [] => pure ([], outcome)
  | slot :: rest =>
    if outcome = op.settledBy then do
      let (traces, result) ← traceOperands accessor op outcome rest
      return (.skipped :: traces, result)
    else do
      let trace ← traceSlot accessor op.name slot
      let value ← liftExcept (trace.boolOutcome op.name)
      let (traces, result) ← traceOperands accessor op value rest
      return (trace :: traces, result)

end

/-- Evaluates a formula with a record of every visited node. An invalid formula reads nothing. -/
def trace (formula : Expression) (accessor : Accessor σ) : Reading σ Trace :=
  match formula.validate with
  | .error malformation => throw (.malformed malformation)
  | .ok () => traceNode accessor formula

/-- Evaluates a formula. -/
def evaluate (formula : Expression) (accessor : Accessor σ) : Reading σ Value := do
  let trace ← formula.trace accessor
  match trace.outcome? with
  | some value => return value
  | none => throw (.stuck formula.operator.name .noValue)

/-- Evaluates a formula that is to be true or false. -/
def evaluateBool (formula : Expression) (accessor : Accessor σ) : Reading σ Bool := do
  match ← formula.evaluate accessor with
  | .bool value => return value
  | found => throw (.typeMismatch formula.operator.name .bool found)

/-- Evaluates a formula and explains the result in one line. -/
def explain (formula : Expression) (accessor : Accessor σ) : Reading σ String := do
  let trace ← formula.trace accessor
  return trace.explanation

end Expression

end RiskScoring
