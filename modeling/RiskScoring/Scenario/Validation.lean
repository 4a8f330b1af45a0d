import RiskScoring.Evaluation.Error
import RiskScoring.Model.Basic
import RiskScoring.Scenario.Codec

/-!
# Validation of iterations

`Iteration.validateStructure` checks what needs no data model: the formulas are valid trees that are
true or false, the thresholds are in order, and no display order is used twice.
`Iteration.validateAgainst` checks every field read against a data model as well. Both report all
problems, grouped by where they were found.
-/

namespace RiskScoring

/-- What is wrong with a formula of an iteration. -/
inductive FormulaProblem where
  | malformed (malformation : Malformation)
  | notBool (operator : Operator)
  /-- A field read names something that is not in the data model. -/
  | unresolved (read : FieldRead) (error : ModelError)
  /-- A field is read as a type that it cannot be read as. -/
  | readType (read : FieldRead) (stored : DataType)
deriving DecidableEq, Repr

namespace FormulaProblem

def message : FormulaProblem → String
  | malformed malformation => (EvaluationError.malformed malformation).message
  | notBool operator => s!"formula must return Bool, but {operator} returns {operator.returns}"
  | unresolved read error => s!"{read}: {error.message}"
  | readType read stored => s!"{read} is read as {read.type} but stored as {stored}"

end FormulaProblem

/-- What is wrong with an iteration as a whole. -/
inductive IterationProblem where
  | thresholds (review reject : Int64)
  | displayOrder (order : UInt32)
  | triggerTable (error : ModelError)
deriving DecidableEq, Repr

namespace IterationProblem

def message : IterationProblem → String
  | thresholds review reject =>
    s!"review threshold {review} is above reject threshold {reject}"
  | displayOrder order => s!"display order {order} is used by more than one rule"
  | triggerTable error => error.message

end IterationProblem

/-- The problems of one rule. -/
structure RuleReport where
  rule : Uuid
  name : String
  problems : List FormulaProblem
deriving DecidableEq

/-- All problems of an iteration. -/
structure ValidationReport where
  problems : List IterationProblem
  trigger : List FormulaProblem
  rules : List RuleReport
deriving DecidableEq

namespace ValidationReport

/-- Whether there is no problem. -/
def isValid (report : ValidationReport) : Bool :=
  report.problems.isEmpty && report.trigger.isEmpty &&
    report.rules.all fun rule => rule.problems.isEmpty

/-- The problems of a rule, each with the name of the rule. -/
def ruleMessages (rule : RuleReport) : List String :=
  rule.problems.map fun problem => s!"rule '{rule.name}': {problem.message}"

/-- All problems in words, each with where it was found. -/
def messages (report : ValidationReport) : List String :=
  report.problems.map IterationProblem.message ++
    report.trigger.map (fun problem => s!"trigger condition: {problem.message}") ++
    report.rules.flatMap ruleMessages

def ruleToJson (rule : RuleReport) : Json :=
  .object [
    ("ruleId", rule.rule.toJson),
    ("ruleName", .string rule.name),
    ("errors", Json.ofStrings (rule.problems.map FormulaProblem.message))]

def toJson (report : ValidationReport) : Json :=
  .object [
    ("errors", Json.ofStrings (report.problems.map IterationProblem.message)),
    ("triggerErrors", Json.ofStrings (report.trigger.map FormulaProblem.message)),
    ("ruleErrors", .array (report.rules.map ruleToJson))]

end ValidationReport

/-- The problems that a formula has by itself. -/
def Expression.structureProblems (formula : Expression) : List FormulaProblem :=
  (match formula.validate with
    | .ok _ => []
    | .error malformation => [.malformed malformation]) ++
  (if formula.returnType = .bool then [] else [.notBool formula.operator])

/-- The field that a read refers to, on an object of a table. -/
def FieldRead.resolve (read : FieldRead) (model : DataModel) (trigger : String) :
    Except ModelError Field :=
  match read with
  | .payload _ name => do
    let table ← model.table trigger
    table.field name
  | .stored _ path name => model.resolve trigger path name

/-- The problem that a read has with a data model, if it has one. -/
def FieldRead.problem? (read : FieldRead) (model : DataModel) (trigger : String) :
    Option FormulaProblem :=
  match read.resolve model trigger with
  | .error error => some (.unresolved read error)
  | .ok field => if field.dataType.accepts read.type then none
    else some (.readType read field.dataType)

/-- The problems that the reads of a formula have with a data model. -/
def Expression.readProblems (formula : Expression) (model : DataModel) (trigger : String) :
    List FormulaProblem :=
  formula.reads.filterMap fun read => read.problem? model trigger

namespace Iteration

/-- The first display order, in the order of the rules, that an earlier rule has too. -/
def repeatedOrder? : List UInt32 → List UInt32 → Option UInt32
  | _, [] => none
  | seen, order :: rest =>
    if order ∈ seen then some order else repeatedOrder? (order :: seen) rest

/-- The problems that need no formula. -/
def ownProblems (iteration : Iteration) : List IterationProblem :=
  (if iteration.rejectThreshold < iteration.reviewThreshold then
    [.thresholds iteration.reviewThreshold iteration.rejectThreshold] else []) ++
  (match repeatedOrder? [] (iteration.rules.map Rule.displayOrder) with
    | some order => [.displayOrder order]
    | none => [])

/-- Reports the problems of an iteration, given those of a formula. The rules come in scoring
order. -/
def reportWith (iteration : Iteration) (check : Expression → List FormulaProblem) :
    ValidationReport where
  problems := iteration.ownProblems
  trigger := check iteration.trigger
  rules := iteration.orderedRules.map fun rule => ⟨rule.id, rule.name, check rule.formula⟩

/-- Checks what needs no data model. -/
def validateStructure (iteration : Iteration) : ValidationReport :=
  iteration.reportWith Expression.structureProblems

/-- Checks everything, with reads that start from an object of a table. -/
def validateAgainst (iteration : Iteration) (model : DataModel) (trigger : String) :
    ValidationReport :=
  let report := iteration.reportWith fun formula =>
    formula.structureProblems ++ formula.readProblems model trigger
  match model.table trigger with
  | .ok _ => report
  | .error error => { report with problems := report.problems ++ [.triggerTable error] }

end Iteration

end RiskScoring
