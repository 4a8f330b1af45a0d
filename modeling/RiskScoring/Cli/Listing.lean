import RiskScoring.Decision.Engine
import RiskScoring.Text.Quoted

/-!
# Listings

The reason why a scenario did not apply, written out with all its parts.
-/

namespace RiskScoring

/-- The value with its kind. -/
def Value.listing : Value → String
  | bool value => if value then "Bool(true)" else "Bool(false)"
  | float value => "Float(" ++ String.ofList (NumberLayout.listing.text value) ++ ")"
  | string value => "String(" ++ quoteVisibly value ++ ")"
  | stringList items => "StringList([" ++ ", ".intercalate (items.map quoteVisibly) ++ "])"

/-- The parts of the error. -/
def EvaluationError.parts : EvaluationError → String
  | malformed malformation => "(" ++ quoteVisibly malformation.message ++ ")"
  | stuck node fault => "(" ++ quoteVisibly (node ++ ": " ++ fault.message) ++ ")"
  | fieldMissing name => "(" ++ quoteVisibly name ++ ")"
  | inconsistent cause => "(" ++ quoteVisibly cause.message ++ ")"
  | readFailed cause => "(" ++ quoteVisibly cause.message ++ ")"
  | typeMismatch operation expected found =>
    " \x7b operation: " ++ quoteVisibly operation ++ ", expected: " ++
      quoteVisibly expected.name ++ ", found: " ++ found.listing ++ " \x7d"
  | divisionByZero operation => "(" ++ quoteVisibly operation ++ ")"

/-- The reason with its parts. -/
def NotTriggered.listing : NotTriggered → String
  | conditionFalse => "ConditionFalse"
  | conditionFailed error => "ConditionFailed(" ++ error.name ++ error.parts ++ ")"

end RiskScoring
