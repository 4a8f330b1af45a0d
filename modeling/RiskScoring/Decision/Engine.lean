import RiskScoring.Decision.Basic
import RiskScoring.Evaluation.Semantics
import RiskScoring.Ingest.Accessor
import RiskScoring.Model.Registry
import RiskScoring.Scenario.Store

/-!
# Scoring an object

An object is scored by an iteration in two steps: the trigger condition decides whether the scenario
applies at all, then every rule is evaluated in scoring order. All reads for one object share one
transaction, which is released at the end. A rule that fails does not keep the others from being
evaluated.
-/

namespace RiskScoring

/-- Why a scenario did not apply to an object. -/
inductive NotTriggered where
  | conditionFalse
  | conditionFailed (error : EvaluationError)
deriving DecidableEq

/-- The result of scoring an object. -/
inductive Evaluation where
  | notTriggered (reason : NotTriggered)
  | triggered (decision : Decision)

/-- Why an object could not be scored at all. -/
inductive ScoringError where
  | noLiveIteration (scenario : Uuid)
  | wrongTable (scenario : Uuid) (expected found : String)
  | payload (error : PayloadError)
  | store (error : StoreError)

namespace ScoringError

def name : ScoringError → String
  | noLiveIteration _ => "NoLiveIteration"
  | wrongTable .. => "WrongTriggerTable"
  | payload error => error.name
  | store error => error.name

def message : ScoringError → String
  | noLiveIteration scenario => s!"Scenario '{scenario}' has no live iteration"
  | wrongTable scenario expected found =>
    s!"Scenario '{scenario}' triggers on table '{expected}', but the object belongs to '{found}'"
  | payload error => error.message
  | store error => error.message

end ScoringError

namespace Evaluation

/-- The decision, if there is one. -/
def decision? : Evaluation → Option Decision
  | notTriggered _ => none
  | triggered decision => some decision

/-- Whether a read of the store failed anywhere. -/
def hasReadFailure : Evaluation → Bool
  | notTriggered (.conditionFailed (.readFailed _)) => true
  | notTriggered _ => false
  | triggered decision =>
    decision.failedRules.any fun execution => execution.failure == some .readFailed

end Evaluation

/-- The payload of an object, by the table of an organization. -/
def ModelRegistry.payload (registry : ModelRegistry) (organization : Uuid) (table : String)
    (raw : Json) : Except ScoringError Payload := do
  let table ← (registry.table organization table).mapError .store
  (Payload.ofJson table raw).mapError .payload

namespace Iteration

/-- Evaluates one rule. -/
def runRule {σ : Type} (accessor : Accessor σ) (rule : Rule) : StateM σ RuleExecution := do
  let result ← (rule.formula.evaluateBool accessor).run
  return RuleExecution.ofResult rule result

/-- Evaluates rules one after the other. -/
def runRules {σ : Type} (accessor : Accessor σ) : List Rule → StateM σ (List RuleExecution)
  | [] => pure []
  | rule :: rest => do
    let execution ← runRule accessor rule
    let executions ← runRules accessor rest
    return execution :: executions

/-- The decision on an object that triggered the scenario. -/
def decide (iteration : Iteration) (scenario : Scenario) (payload : Payload) (batch : Option Uuid)
    (stamp : Stamp) (executions : List RuleExecution) : Decision :=
  let score := totalScore executions
  { id := stamp.id
    createdAt := stamp.now
    organization := scenario.organization
    object := ⟨payload.table, payload.raw⟩
    scenario := scenario.id
    iteration := iteration.id
    scenarioName := scenario.name
    scenarioDescription := scenario.description
    version := iteration.version
    reviewThreshold := iteration.reviewThreshold
    rejectThreshold := iteration.rejectThreshold
    score
    outcome := Outcome.ofScore score iteration.reviewThreshold iteration.rejectThreshold
    executions
    flaw := if executions.any fun execution => execution.failure.isSome then some .ruleFailed
      else none
    batch }

/-- Scores through an accessor. -/
def scoreWith {σ : Type} (iteration : Iteration) (scenario : Scenario) (payload : Payload)
    (batch : Option Uuid) (stamp : Stamp) (accessor : Accessor σ) : StateM σ Evaluation := do
  match ← (iteration.trigger.evaluateBool accessor).run with
  | .ok true =>
    let executions ← runRules accessor iteration.orderedRules
    return .triggered (iteration.decide scenario payload batch stamp executions)
  | .ok false => return .notTriggered .conditionFalse
  | .error error => return .notTriggered (.conditionFailed error)

/-- Scores an object of the table that the scenario is triggered by. -/
def score (iteration : Iteration) (model : DataModel) (scenario : Scenario) (payload : Payload)
    (batch : Option Uuid) (stamp : Stamp) :
    StateM Ingest.Store (Except ScoringError Evaluation) := fun store =>
  if payload.table = scenario.triggerTable then
    let scope : Ingest.Scope := ⟨scenario.organization, model, payload⟩
    let (evaluation, session) :=
      (iteration.scoreWith scenario payload batch stamp scope.accessor).run (.start store)
    (.ok evaluation, session.release)
  else (.error (.wrongTable scenario.id scenario.triggerTable payload.table), store)

/-- Scores an object with the registered data model of the organization. -/
def scoreRegistered (iteration : Iteration) (registry : ModelRegistry) (scenario : Scenario)
    (payload : Payload) (batch : Option Uuid) (stamp : Stamp) :
    StateM Ingest.Store (Except ScoringError Evaluation) := fun store =>
  match registry.get scenario.organization with
  | .error error => (.error (.store error), store)
  | .ok model => (iteration.score model scenario payload batch stamp).run store

end Iteration

/-- The scenario of an identifier, and which iteration of it is live. -/
def ScenarioStore.liveIteration (store : ScenarioStore) (id : Uuid) :
    Except ScoringError (Scenario × Uuid) := do
  let scenario ← (store.getScenario id).mapError .store
  match scenario.live with
  | some live => return (scenario, live)
  | none => throw (.noLiveIteration id)

/-- Scores an object with the live iteration of a scenario. -/
def ScenarioStore.scoreLive (scenarios : ScenarioStore) (registry : ModelRegistry) (id : Uuid)
    (payload : Payload) (stamp : Stamp) : StateM Ingest.Store (Except ScoringError Evaluation) :=
  fun store =>
    match scenarios.liveIteration id with
    | .error error => (.error error, store)
    | .ok (scenario, live) =>
      match scenarios.getIteration live with
      | .error error => (.error (.store error), store)
      | .ok iteration =>
        (iteration.scoreRegistered registry scenario payload none stamp).run store

end RiskScoring
