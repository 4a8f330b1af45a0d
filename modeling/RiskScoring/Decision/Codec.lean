import RiskScoring.Decision.Basic
import RiskScoring.Scenario.Codec

/-!
# Decisions as JSON

Decisions and their parts, written to JSON and decoded from it. What is absent is left out.
-/

namespace RiskScoring

/-- A member that is left out when it is absent. -/
def Json.optionalMember {α : Type} (key : String) (encode : α → Json) :
    Option α → List (String × Json)
  | some value => [(key, encode value)]
  | none => []

namespace Outcome

def toJson (outcome : Outcome) : Json := .string outcome.name

def decoder : Decoder Outcome := Decoder.name ofName?

end Outcome

namespace RuleFailure

/-- The failure as JSON: its code. -/
def toJson (failure : RuleFailure) : Json := Json.ofUInt16 failure.code

def decoder : Decoder RuleFailure := fun source => do
  let code ← Decoder.uint16 source
  match ofCode? code with
  | some failure => return failure
  | none => throw (.refused (unknownCodeMessage code))

end RuleFailure

namespace RuleSnapshot

def toJson (rule : RuleSnapshot) : Json :=
  .object [
    ("id", rule.id.toJson),
    ("name", .string rule.name),
    ("description", .string rule.description),
    ("scoreModifier", Json.ofInt64 rule.scoreModifier)]

def record : Record RuleSnapshot :=
  .map (fun (id, name, description, scoreModifier) => ⟨id, name, description, scoreModifier⟩)
    (.both (.member "id" Uuid.decoder)
      (.both (.member "name" Decoder.string)
        (.both (.member "description" Decoder.string)
          (.member "scoreModifier" Decoder.int64))))

def decoder : Decoder RuleSnapshot := record.decoder

end RuleSnapshot

namespace RuleExecution

def toJson (execution : RuleExecution) : Json :=
  .object ([
    ("rule", execution.rule.toJson),
    ("result", .bool execution.result),
    ("resultScoreModifier", Json.ofInt64 execution.contribution)] ++
    Json.optionalMember "error" RuleFailure.toJson execution.failure ++
    Json.optionalMember "errorMessage" Json.string execution.message)

def record : Record RuleExecution :=
  .map (fun (rule, result, contribution, failure, message) =>
      ⟨rule, result, contribution, failure, message⟩)
    (.both (.member "rule" RuleSnapshot.decoder)
      (.both (.member "result" Decoder.bool)
        (.both (.member "resultScoreModifier" Decoder.int64)
          (.both (.omittable "error" RuleFailure.decoder)
            (.omittable "errorMessage" Decoder.string)))))

def decoder : Decoder RuleExecution := record.decoder

end RuleExecution

namespace DecisionFlaw

def toJson (flaw : DecisionFlaw) : Json := .string flaw.name

def decoder : Decoder DecisionFlaw := Decoder.name ofName?

end DecisionFlaw

namespace ClientObject

def toJson (object : ClientObject) : Json :=
  .object [("tableName", .string object.table), ("data", object.data)]

def record : Record ClientObject :=
  .map (fun (table, data) => ⟨table, data⟩)
    (.both (.member "tableName" Decoder.string) (.member "data" Decoder.json))

def decoder : Decoder ClientObject := record.decoder

end ClientObject

namespace Decision

def toJson (decision : Decision) : Json :=
  .object ([
    ("id", decision.id.toJson),
    ("createdAt", decision.createdAt.toJson),
    ("organizationId", decision.organization.toJson),
    ("clientObject", decision.object.toJson),
    ("scenarioId", decision.scenario.toJson),
    ("scenarioIterationId", decision.iteration.toJson),
    ("scenarioName", .string decision.scenarioName),
    ("scenarioDescription", .string decision.scenarioDescription),
    ("scenarioVersion", Json.ofUInt32 decision.version),
    ("scoreReviewThreshold", Json.ofInt64 decision.reviewThreshold),
    ("scoreRejectThreshold", Json.ofInt64 decision.rejectThreshold),
    ("score", Json.ofInt64 decision.score),
    ("outcome", decision.outcome.toJson),
    ("ruleExecutions", .array (decision.executions.map RuleExecution.toJson))] ++
    Json.optionalMember "errorCode" DecisionFlaw.toJson decision.flaw ++
    Json.optionalMember "scheduledExecutionId" Uuid.toJson decision.batch)

def record : Record Decision :=
  .map (fun (id, createdAt, organization, object, scenario, iteration, scenarioName,
        scenarioDescription, version, review, reject, score, outcome, executions, flaw, batch) =>
      ⟨id, createdAt, organization, object, scenario, iteration, scenarioName,
        scenarioDescription, version, review, reject, score, outcome, executions, flaw, batch⟩)
    (.both (.member "id" Uuid.decoder)
      (.both (.member "createdAt" Instant.decoder)
        (.both (.member "organizationId" Uuid.decoder)
          (.both (.member "clientObject" ClientObject.decoder)
            (.both (.member "scenarioId" Uuid.decoder)
              (.both (.member "scenarioIterationId" Uuid.decoder)
                (.both (.member "scenarioName" Decoder.string)
                  (.both (.member "scenarioDescription" Decoder.string)
                    (.both (.member "scenarioVersion" Decoder.uint32)
                      (.both (.member "scoreReviewThreshold" Decoder.int64)
                        (.both (.member "scoreRejectThreshold" Decoder.int64)
                          (.both (.member "score" Decoder.int64)
                            (.both (.member "outcome" Outcome.decoder)
                              (.both
                                (.member "ruleExecutions" (Decoder.list RuleExecution.decoder))
                                (.both (.omittable "errorCode" DecisionFlaw.decoder)
                                  (.omittable "scheduledExecutionId"
                                    Uuid.decoder))))))))))))))))

def decoder : Decoder Decision := record.decoder

end Decision

end RiskScoring
