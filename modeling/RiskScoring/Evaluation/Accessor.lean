import RiskScoring.Evaluation.Error

/-!
# Field access

Evaluation reaches the outside only through an `Accessor`. Its operations may change a state of any
kind, and what an operation did to the state stands even if it failed.
-/

namespace RiskScoring

/-- A computation that reads fields: it may change the state of the accessor, and it may fail
without undoing that. -/
abbrev Reading (σ : Type) := ExceptT EvaluationError (StateM σ)

/-- What evaluation needs to read fields. -/
structure Accessor (σ : Type) where
  /-- A field of the payload, if it is present. -/
  payloadField : String → StateM σ (Option Value)
  /-- Checks that a path and a name lead to a stored field that can be read as a type. -/
  checkStored : List String → String → FieldType → Reading σ Unit
  /-- The stored field that a path and a name lead to, if it is present. -/
  storedField : List String → String → Reading σ (Option Value)

end RiskScoring
