import RiskScoring.Evaluation.Error
import RiskScoring.Scenario.Basic

/-!
# Decisions

A decision records how an object was scored: what every rule gave, the score, and the outcome that
the thresholds assign to it. A rule that could not be evaluated adds nothing and is marked with the
reason.
-/

namespace RiskScoring

/-- What is to be done with an object. -/
inductive Outcome where
  | approve
  | review
  | reject
deriving DecidableEq, Repr

namespace Outcome

def all : List Outcome := [approve, review, reject]

/-- The name of the outcome. -/
def name : Outcome → String
  | approve => "approve"
  | review => "review"
  | reject => "reject"

instance : ToString Outcome := ⟨name⟩

/-- The outcome of a name. -/
def ofName? (text : String) : Option Outcome := all.find? fun outcome => outcome.name == text

/-- The outcome of a score. From the rejection threshold on it is a rejection, whatever the other
threshold says. -/
def ofScore (score reviewThreshold rejectThreshold : Int64) : Outcome :=
  if rejectThreshold ≤ score then reject
  else if reviewThreshold ≤ score then review
  else approve

end Outcome

/-- Why a rule could not be evaluated. -/
inductive RuleFailure where
  | fieldMissing
  | inconsistent
  | readFailed
  | malformed
  | typeMismatch
  | divisionByZero
deriving DecidableEq, Repr

namespace RuleFailure

def all : List RuleFailure :=
  [fieldMissing, inconsistent, readFailed, malformed, typeMismatch, divisionByZero]

/-- The code that stands for the failure. -/
def code : RuleFailure → UInt16
  | fieldMissing => 200
  | inconsistent => 201
  | readFailed => 202
  | malformed => 203
  | typeMismatch => 204
  | divisionByZero => 205

/-- The failure that a code stands for. -/
def ofCode? (code : UInt16) : Option RuleFailure := all.find? fun failure => failure.code == code

/-- What is said of a code that stands for no failure. -/
def unknownCodeMessage (code : UInt16) : String := s!"unknown rule execution error code {code}"

def description : RuleFailure → String
  | fieldMissing => "A field in rule is empty or missing"
  | inconsistent => "A field in rule does not match the data model"
  | readFailed => "A field in rule could not be read from the database"
  | malformed => "The rule formula is malformed"
  | typeMismatch => "A value in rule has an unexpected type"
  | divisionByZero => "The rule divides by zero"

/-- The failure in words, with its code. -/
def text (failure : RuleFailure) : String := s!"{failure.description} ({failure.code})"

/-- The failure that an error of evaluation amounts to. -/
def ofError : EvaluationError → RuleFailure
  | .malformed _ => malformed
  | .stuck .. => malformed
  | .fieldMissing _ => fieldMissing
  | .inconsistent _ => inconsistent
  | .readFailed _ => readFailed
  | .typeMismatch .. => typeMismatch
  | .divisionByZero _ => divisionByZero

end RuleFailure

/-- What a decision keeps of a rule. -/
structure RuleSnapshot where
  id : Uuid
  name : String
  description : String
  scoreModifier : Int64
deriving DecidableEq

/-- What a rule gave. -/
structure RuleExecution where
  rule : RuleSnapshot
  result : Bool
  /-- What the rule added to the score. -/
  contribution : Int64
  failure : Option RuleFailure
  message : Option String
deriving DecidableEq

namespace RuleExecution

/-- The part of a rule that is kept. -/
def snapshot (rule : Rule) : RuleSnapshot :=
  ⟨rule.id, rule.name, rule.description, rule.scoreModifier⟩

/-- What a rule gave, from the value of its formula. -/
def ofResult (rule : Rule) : Except EvaluationError Bool → RuleExecution
  | .ok result => ⟨snapshot rule, result, if result then rule.scoreModifier else 0, none, none⟩
  | .error error =>
    ⟨snapshot rule, false, 0, some (RuleFailure.ofError error), some error.message⟩

end RuleExecution

/-- A flaw that a decision is marked with. -/
inductive DecisionFlaw where
  /-- At least one rule could not be evaluated. -/
  | ruleFailed
deriving DecidableEq, Repr

namespace DecisionFlaw

/-- The name of the flaw. -/
def name : DecisionFlaw → String
  | ruleFailed => "rule_execution_failed"

/-- The flaw of a name. -/
def ofName? (text : String) : Option DecisionFlaw :=
  if text = ruleFailed.name then some ruleFailed else none

end DecisionFlaw

/-- The object that was scored. -/
structure ClientObject where
  table : String
  data : Json

/-- The record of how an object was scored by an iteration. -/
structure Decision where
  id : Uuid
  createdAt : Instant
  organization : Uuid
  object : ClientObject
  scenario : Uuid
  iteration : Uuid
  scenarioName : String
  scenarioDescription : String
  version : UInt32
  reviewThreshold : Int64
  rejectThreshold : Int64
  score : Int64
  outcome : Outcome
  executions : List RuleExecution
  flaw : Option DecisionFlaw
  /-- The batch that the decision belongs to. -/
  batch : Option Uuid

/-- The sum of two scores, kept within a word: a sum past either end is that end. -/
def addScores (x y : Int64) : Int64 :=
  Int64.ofInt (max (-0x8000000000000000) (min (x.toInt + y.toInt) 0x7fffffffffffffff))

/-- The score of rule executions, added up in order. -/
def totalScore (executions : List RuleExecution) : Int64 :=
  executions.foldl (fun score execution => addScores score execution.contribution) 0

namespace Decision

/-- The rules that could not be evaluated. -/
def failedRules (decision : Decision) : List RuleExecution :=
  decision.executions.filter fun execution => execution.failure.isSome

end Decision

end RiskScoring
