import RiskScoring.Decision.Engine
import RiskScoring.Decision.Export
import RiskScoring.Formula.Codec
import RiskScoring.Model.Codec
import RiskScoring.Scenario.Publisher
import RiskScoring.Settings

/-!
# What a command works with

A scenario definition is a file with a scenario and one iteration. `Workspace.load` puts a data
model, such a definition and rows together: the model and the iteration have to be valid, every row
has to fit its table, and the iteration is published.
-/

namespace RiskScoring

namespace Cli

/-- Why a command stops. -/
inductive Failure where
  | settings (error : SettingsError)
  | unreadable (path reason : String)
  | uncreatable (path reason : String)
  | formula (error : FormulaError)
  | invalidFormula (malformation : Malformation)
  | unloadableModel (path reason : String)
  | invalidModel (error : ModelError)
  | scenarioJson
  | rowsJson
  | payloadJson
  | unknownTable (error : ModelError)
  | invalidRow (error : PayloadError)
  | store (error : StoreError)
  | invalidScenario (report : ValidationReport)
  | unpublished (error : PublicationError)
  | invalidPayload (error : ScoringError)
  | unscored (error : ScoringError)
  | lineJson (line : Nat)
  | invalidLine (line : Nat) (error : ScoringError)
  | unexported (error : ExportError)

namespace Failure

def message : Failure → String
  | settings error => s!"Invalid configuration: {error.message}"
  | unreadable path reason => s!"Failed to read file '{path}': {reason}"
  | uncreatable path reason => s!"Failed to create '{path}': {reason}"
  | formula error => s!"Failed to parse formula: {error.message}"
  | invalidFormula malformation =>
    s!"Formula is invalid: " ++ (EvaluationError.malformed malformation).message
  | unloadableModel path reason => s!"Failed to load data model '{path}': {reason}"
  | invalidModel error => s!"Invalid data model: {error.message}"
  | scenarioJson => "Failed to parse scenario JSON: not a scenario definition"
  | rowsJson => "Failed to parse rows JSON: not rows by table"
  | payloadJson => "Failed to parse payload JSON: not a JSON value"
  | unknownTable error => error.message
  | invalidRow error => s!"Invalid row: {error.message}"
  | store error => error.message
  | invalidScenario report =>
    "Scenario is invalid:\n  " ++ "\n  ".intercalate report.messages
  | unpublished error => s!"Failed to publish scenario: {error.message}"
  | invalidPayload error => s!"Invalid payload: {error.message}"
  | unscored error => s!"Evaluation failed: {error.message}"
  | lineJson line => s!"Line {line} is not valid JSON: not a JSON value"
  | invalidLine line error => s!"Line {line} is not a valid payload: {error.message}"
  | unexported error => s!"Failed to export decisions: {error.message}"

end Failure

/-- A scenario with its one iteration, as a file defines it. -/
structure Definition where
  name : String
  description : String
  triggerTable : String
  iteration : IterationDraft

namespace Definition

def record : Record Definition :=
  .map (fun (name, description, triggerTable, iteration) =>
      ⟨name, description, triggerTable, iteration⟩)
    (.both (.member "name" Decoder.string)
      (.both (.withDefault "description" "" Decoder.string)
        (.both (.member "triggerObjectType" Decoder.string)
          (.member "iteration" IterationDraft.decoder))))

def decoder : Decoder Definition := record.decoder

end Definition

/-- What objects are scored with. -/
structure Workspace where
  organization : Uuid
  model : DataModel
  registry : ModelRegistry
  ingest : Ingest.Store
  scenarios : ScenarioStore
  scenario : Scenario
  iteration : Iteration

/-- Reads a data model from a text. -/
def readModel (path text : String) : Except Failure DataModel := do
  match Decoder.text DataModel.decoder text with
  | .ok model =>
    model.validate.mapError .invalidModel
    return model
  | .error _ => throw (.unloadableModel path "not a data model")

/-- Reads a definition from a text. -/
def readDefinition (text : String) : Except Failure Definition :=
  (Decoder.text Definition.decoder text).mapError fun _ => .scenarioJson

/-- Rows by table, in the order of the table names. -/
def rowsDecoder : Decoder (List (String × List Json)) := fun source => do
  let tables ← Decoder.members (Decoder.list Decoder.json) source
  return (Dict.ofList tables).entries.mergeSort fun x y => decide (x.1 ≤ y.1)

/-- Adds the rows of one table. -/
def insertTable (organization : Uuid) (model : DataModel) (store : Ingest.Store)
    (entry : String × List Json) : Except Failure Ingest.Store := do
  let table ← (model.table entry.1).mapError .unknownTable
  entry.2.foldlM (fun store raw => do
    let row ← (Payload.ofJson table raw).mapError .invalidRow
    return store.insertRow organization entry.1 row.fields) store

/-- Reads rows from a text. -/
def readRows (organization : Uuid) (model : DataModel) (text : String) :
    Except Failure Ingest.Store := do
  let tables ← (Decoder.text rowsDecoder text).mapError fun _ => .rowsJson
  tables.foldlM (insertTable organization model) Ingest.Store.empty

namespace Workspace

/-- Puts a workspace together. The scenario is published before it is used. -/
def build (organization : Uuid) (model : DataModel) (definition : Definition)
    (ingest : Ingest.Store) (publicationRetries : UInt32) (stamps : Nat → Stamp) :
    Except Failure Workspace := do
  let (scenario, store) := ScenarioStore.empty.createScenario (stamps 0)
    ⟨organization, definition.name, definition.description, definition.triggerTable⟩
  let (created, store) := store.createIteration (stamps 1) scenario.id definition.iteration
  let iteration ← created.mapError .store
  let report := iteration.validateAgainst model scenario.triggerTable
  unless report.isValid do throw (.invalidScenario report)
  let (published, store) := store.runPublisher (fun n => stamps (n + 2))
    (Publisher.publish publicationRetries iteration.id)
  let _ ← published.mapError .unpublished
  let scenario ← (store.getScenario scenario.id).mapError .store
  let iteration ← (store.getIteration iteration.id).mapError .store
  return ⟨organization, model, ModelRegistry.empty.insert organization model, ingest, store,
    scenario, iteration⟩

/-- The payload of an object that triggers the scenario. -/
def payload (workspace : Workspace) (raw : Json) : Except ScoringError Payload :=
  workspace.registry.payload workspace.organization workspace.scenario.triggerTable raw

end Workspace

end Cli

end RiskScoring
