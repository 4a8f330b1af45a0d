import RiskScoring.Formula.Codec
import RiskScoring.Scenario.Basic
import RiskScoring.Time.Relaxed

/-!
# Scenarios as JSON

Every record of the scenario model, written to JSON and decoded from it.
-/

namespace RiskScoring

/-- Something that may be absent, as JSON. -/
def Json.ofOption {α : Type} (encode : α → Json) : Option α → Json
  | some value => encode value
  | none => .null

namespace Uuid

def toJson (id : Uuid) : Json := .string id.text

def decoder : Decoder Uuid := fun source => do
  match ofText? (← Decoder.string source) with
  | some id => return id
  | none => throw .malformed

end Uuid

namespace Instant

def toJson (instant : Instant) : Json := .string instant.text

def decoder : Decoder Instant := fun source => do
  match ofText? (← Decoder.string source) with
  | some instant => return instant
  | none => throw .malformed

end Instant

namespace Scenario

def toJson (scenario : Scenario) : Json :=
  .object [
    ("id", scenario.id.toJson),
    ("organizationId", scenario.organization.toJson),
    ("name", .string scenario.name),
    ("description", .string scenario.description),
    ("triggerObjectType", .string scenario.triggerTable),
    ("liveIterationId", Json.ofOption Uuid.toJson scenario.live),
    ("createdAt", scenario.createdAt.toJson)]

def record : Record Scenario :=
  .map (fun (id, organization, name, description, triggerTable, live, createdAt) =>
      ⟨id, organization, name, description, triggerTable, live, createdAt⟩)
    (.both (.member "id" Uuid.decoder)
      (.both (.member "organizationId" Uuid.decoder)
        (.both (.member "name" Decoder.string)
          (.both (.member "description" Decoder.string)
            (.both (.member "triggerObjectType" Decoder.string)
              (.both (.optional "liveIterationId" Uuid.decoder)
                (.member "createdAt" Instant.decoder)))))))

def decoder : Decoder Scenario := record.decoder

end Scenario

namespace Rule

def toJson (rule : Rule) : Json :=
  .object [
    ("id", rule.id.toJson),
    ("displayOrder", Json.ofUInt32 rule.displayOrder),
    ("name", .string rule.name),
    ("description", .string rule.description),
    ("formula", rule.formula.toJson),
    ("scoreModifier", Json.ofInt64 rule.scoreModifier),
    ("createdAt", rule.createdAt.toJson)]

def record : Record Rule :=
  .map (fun (id, displayOrder, name, description, formula, scoreModifier, createdAt) =>
      ⟨id, displayOrder, name, description, formula, scoreModifier, createdAt⟩)
    (.both (.member "id" Uuid.decoder)
      (.both (.member "displayOrder" Decoder.uint32)
        (.both (.member "name" Decoder.string)
          (.both (.member "description" Decoder.string)
            (.both (.member "formula" Expression.decoder)
              (.both (.member "scoreModifier" Decoder.int64)
                (.member "createdAt" Instant.decoder)))))))

def decoder : Decoder Rule := record.decoder

end Rule

namespace IterationState

def toJson (state : IterationState) : Json := .string state.name

def decoder : Decoder IterationState := Decoder.name ofName?

end IterationState

namespace Iteration

def toJson (iteration : Iteration) : Json :=
  .object [
    ("id", iteration.id.toJson),
    ("scenarioId", iteration.scenario.toJson),
    ("version", Json.ofUInt32 iteration.version),
    ("triggerCondition", iteration.trigger.toJson),
    ("rules", .array (iteration.rules.map Rule.toJson)),
    ("scoreReviewThreshold", Json.ofInt64 iteration.reviewThreshold),
    ("scoreRejectThreshold", Json.ofInt64 iteration.rejectThreshold),
    ("state", iteration.state.toJson),
    ("createdAt", iteration.createdAt.toJson),
    ("updatedAt", iteration.updatedAt.toJson)]

def record : Record Iteration :=
  .map (fun (id, scenario, version, trigger, rules, review, reject, state, createdAt, updatedAt) =>
      ⟨id, scenario, version, trigger, rules, review, reject, state, createdAt, updatedAt⟩)
    (.both (.member "id" Uuid.decoder)
      (.both (.member "scenarioId" Uuid.decoder)
        (.both (.member "version" Decoder.uint32)
          (.both (.member "triggerCondition" Expression.decoder)
            (.both (.member "rules" (Decoder.list Rule.decoder))
              (.both (.member "scoreReviewThreshold" Decoder.int64)
                (.both (.member "scoreRejectThreshold" Decoder.int64)
                  (.both (.member "state" IterationState.decoder)
                    (.both (.member "createdAt" Instant.decoder)
                      (.member "updatedAt" Instant.decoder))))))))))

def decoder : Decoder Iteration := record.decoder

end Iteration

namespace PublicationAction

def toJson (action : PublicationAction) : Json := .string action.name

def decoder : Decoder PublicationAction := Decoder.name ofName?

end PublicationAction

namespace Publication

def toJson (publication : Publication) : Json :=
  .object [
    ("id", publication.id.toJson),
    ("organizationId", publication.organization.toJson),
    ("scenarioId", publication.scenario.toJson),
    ("scenarioIterationId", publication.iteration.toJson),
    ("publicationAction", publication.action.toJson),
    ("rank", Json.ofUInt32 publication.rank),
    ("createdAt", publication.createdAt.toJson)]

def record : Record Publication :=
  .map (fun (id, organization, scenario, iteration, action, rank, createdAt) =>
      ⟨id, organization, scenario, iteration, action, rank, createdAt⟩)
    (.both (.member "id" Uuid.decoder)
      (.both (.member "organizationId" Uuid.decoder)
        (.both (.member "scenarioId" Uuid.decoder)
          (.both (.member "scenarioIterationId" Uuid.decoder)
            (.both (.member "publicationAction" PublicationAction.decoder)
              (.both (.member "rank" Decoder.uint32)
                (.member "createdAt" Instant.decoder)))))))

def decoder : Decoder Publication := record.decoder

end Publication

namespace PublicationRequest

def toJson (request : PublicationRequest) : Json :=
  .object [("scenarioIterationId", request.iteration.toJson),
    ("publicationAction", .string request.action)]

def record : Record PublicationRequest :=
  .map (fun (iteration, action) => ⟨iteration, action⟩)
    (.both (.member "scenarioIterationId" Uuid.decoder)
      (.member "publicationAction" Decoder.string))

def decoder : Decoder PublicationRequest := record.decoder

end PublicationRequest

/-! ## Drafts and edits -/

namespace ScenarioDraft

def toJson (draft : ScenarioDraft) : Json :=
  .object [
    ("organizationId", draft.organization.toJson),
    ("name", .string draft.name),
    ("description", .string draft.description),
    ("triggerObjectType", .string draft.triggerTable)]

def record : Record ScenarioDraft :=
  .map (fun (organization, name, description, triggerTable) =>
      ⟨organization, name, description, triggerTable⟩)
    (.both (.member "organizationId" Uuid.decoder)
      (.both (.member "name" Decoder.string)
        (.both (.withDefault "description" "" Decoder.string)
          (.member "triggerObjectType" Decoder.string))))

def decoder : Decoder ScenarioDraft := record.decoder

end ScenarioDraft

namespace RuleDraft

def toJson (draft : RuleDraft) : Json :=
  .object [
    ("displayOrder", Json.ofUInt32 draft.displayOrder),
    ("name", .string draft.name),
    ("description", .string draft.description),
    ("formula", draft.formula.toJson),
    ("scoreModifier", Json.ofInt64 draft.scoreModifier)]

def record : Record RuleDraft :=
  .map (fun (displayOrder, name, description, formula, scoreModifier) =>
      ⟨displayOrder, name, description, formula, scoreModifier⟩)
    (.both (.withDefault "displayOrder" 0 Decoder.uint32)
      (.both (.member "name" Decoder.string)
        (.both (.withDefault "description" "" Decoder.string)
          (.both (.member "formula" Expression.decoder)
            (.member "scoreModifier" Decoder.int64)))))

def decoder : Decoder RuleDraft := record.decoder

end RuleDraft

namespace IterationDraft

def toJson (draft : IterationDraft) : Json :=
  .object [
    ("triggerCondition", draft.trigger.toJson),
    ("rules", .array (draft.rules.map RuleDraft.toJson)),
    ("scoreReviewThreshold", Json.ofInt64 draft.reviewThreshold),
    ("scoreRejectThreshold", Json.ofInt64 draft.rejectThreshold)]

def record : Record IterationDraft :=
  .map (fun (trigger, rules, review, reject) => ⟨trigger, rules, review, reject⟩)
    (.both (.member "triggerCondition" Expression.decoder)
      (.both (.withDefault "rules" [] (Decoder.list RuleDraft.decoder))
        (.both (.member "scoreReviewThreshold" Decoder.int64)
          (.member "scoreRejectThreshold" Decoder.int64))))

def decoder : Decoder IterationDraft := record.decoder

end IterationDraft

namespace IterationEdit

def toJson (edit : IterationEdit) : Json :=
  .object [
    ("triggerCondition", Json.ofOption Expression.toJson edit.trigger),
    ("rules", Json.ofOption (fun drafts => .array (drafts.map RuleDraft.toJson)) edit.rules),
    ("scoreReviewThreshold", Json.ofOption Json.ofInt64 edit.reviewThreshold),
    ("scoreRejectThreshold", Json.ofOption Json.ofInt64 edit.rejectThreshold)]

def record : Record IterationEdit :=
  .map (fun (trigger, rules, review, reject) => ⟨trigger, rules, review, reject⟩)
    (.both (.optional "triggerCondition" Expression.decoder)
      (.both (.optional "rules" (Decoder.list RuleDraft.decoder))
        (.both (.optional "scoreReviewThreshold" Decoder.int64)
          (.optional "scoreRejectThreshold" Decoder.int64))))

def decoder : Decoder IterationEdit := record.decoder

end IterationEdit

end RiskScoring
