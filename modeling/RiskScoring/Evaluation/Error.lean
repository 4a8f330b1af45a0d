import RiskScoring.Formula.Typing
import RiskScoring.Ingest.Store

/-!
# Evaluation errors

Why a formula gives no value. Each error has a detail, which names what is concerned, and a message
built around it.
-/

namespace RiskScoring

/-- How a read of a stored field contradicts the data model. -/
inductive Inconsistency where
  | model (error : ModelError)
  | fieldType (field : String) (stored : DataType) (read : FieldType)
deriving DecidableEq, Repr

namespace Inconsistency

def message : Inconsistency → String
  | model error => error.message
  | fieldType field stored read =>
    s!"field '{field}' is stored as {stored} and cannot be read as {read}"

end Inconsistency

/-- Why evaluation gets stuck at a node. -/
inductive StuckFault where
  | emptySlot
  | noOperands
  /-- An operand left no value behind. -/
  | notEvaluated
  /-- The formula itself left no value behind. -/
  | noValue
deriving DecidableEq, Repr

namespace StuckFault

def message : StuckFault → String
  | emptySlot => "operand is null"
  | noOperands => "requires at least one operand"
  | notEvaluated => "operand was not evaluated"
  | noValue => "produced no value"

end StuckFault

/-- Why a formula gives no value. -/
inductive EvaluationError where
  | malformed (malformation : Malformation)
  /-- Evaluation met a fault that validation should have found. -/
  | stuck (node : String) (fault : StuckFault)
  | fieldMissing (name : String)
  | inconsistent (cause : Inconsistency)
  | readFailed (cause : StorageError)
  | typeMismatch (operation : String) (expected : ValueType) (found : Value)
  | divisionByZero (operation : String)
deriving DecidableEq

namespace EvaluationError

def name : EvaluationError → String
  | malformed _ => "MalformedExpression"
  | stuck .. => "MalformedExpression"
  | fieldMissing _ => "RequiredFieldMissing"
  | inconsistent _ => "InconsistentWithDataModel"
  | readFailed _ => "DbReadError"
  | typeMismatch .. => "TypeMismatch"
  | divisionByZero _ => "DivisionByZero"

def message : EvaluationError → String
  | malformed malformation => s!"Malformed expression: {malformation.message}"
  | stuck node fault => s!"Malformed expression: {node}: {fault.message}"
  | fieldMissing name => s!"Field '{name}' is empty or missing"
  | inconsistent cause => s!"Field read is inconsistent with the data model: {cause.message}"
  | readFailed cause => s!"Database read failed: {cause.message}"
  | typeMismatch operation expected found =>
    s!"Type mismatch during operation '{operation}': expected {expected}, but found value '{found}'"
  | divisionByZero operation => s!"Division by zero in operation '{operation}'"

end EvaluationError

end RiskScoring
