import RiskScoring.Cli.Workspace
import RiskScoring.Proofs.Ingest.Payload
import RiskScoring.Proofs.Publication.LiveScoring
import RiskScoring.Proofs.Publication.Plan
import RiskScoring.Proofs.Scenario.Validation

/-!
# Workspaces are ready

A workspace is put together from a data model, a definition and rows. It comes about exactly if the
iteration of the definition is valid against the data model: no one else publishes, so publishing
what is valid succeeds at the first attempt.

* `Cli.Definition.publish_of_valid`: the iteration of a definition is published.
* `Cli.Workspace.Ready`: a workspace in which that iteration is live.
* `Cli.Workspace.build_of_valid`: when a workspace comes about.
* `Cli.Workspace.Ready.scoreLive_eq`, `Cli.Workspace.Ready.payload_eq`: how objects are scored in
  it, and by which table they are read.
* `Cli.NoLine`: a result that is no failure of a line of objects. Models, rows and workspaces give
  no other results (`Cli.noLine_readModel`, `Cli.noLine_readRows`, `Cli.noLine_build`).
* `Cli.failures_of_readRows`: rows are read into a store without failures to come.
-/

namespace RiskScoring

/-! ## Building -/

namespace Cli

namespace Definition

variable (definition : Definition)

/-- The scenario as it is created. -/
def scenario (organization : Uuid) (stamp : Stamp) : Scenario :=
  (ScenarioDraft.mk organization definition.name definition.description
    definition.triggerTable).toScenario stamp

/-- The iteration as it is created, in a scenario that has none yet. -/
def firstIteration (scenario : Uuid) (stamp : Stamp) : Iteration :=
  definition.iteration.toIteration scenario 1 stamp

/-- The store after the scenario is created. -/
def scenarioStore (organization : Uuid) (stamps : Nat → Stamp) : ScenarioStore :=
  (ScenarioStore.empty.createScenario (stamps 0)
    ⟨organization, definition.name, definition.description, definition.triggerTable⟩).2

/-- The store after the iteration is created. -/
def store (organization : Uuid) (stamps : Nat → Stamp) : ScenarioStore :=
  { definition.scenarioStore organization stamps with
    iterations := Dict.empty.insert (stamps 1).id
      (definition.firstIteration (stamps 0).id (stamps 1)) }

/-- The commit that publishes the iteration. -/
def firstCommit (organization : Uuid) (stamps : Nat → Stamp) : Commit :=
  Publisher.publishing (definition.scenario organization (stamps 0))
    (definition.firstIteration (stamps 0).id (stamps 1)) ⟨[], []⟩ 0 (stamps 2)

/-- The store after the iteration is published. -/
def published (organization : Uuid) (stamps : Nat → Stamp) : ScenarioStore :=
  (definition.store organization stamps).applyCommit (stamps 3).now
    (definition.firstCommit organization stamps)

/-- The scenario, with its live iteration. -/
def liveScenario (organization : Uuid) (stamps : Nat → Stamp) : Scenario :=
  { definition.scenario organization (stamps 0) with live := some (stamps 1).id }

/-- The iteration that is live. -/
def liveIteration (stamps : Nat → Stamp) : Iteration :=
  { definition.firstIteration (stamps 0).id (stamps 1) with
    state := .live, updatedAt := (stamps 3).now }

/-- The problems that the iteration has with a data model. -/
def report (model : DataModel) (stamps : Nat → Stamp) : ValidationReport :=
  (definition.firstIteration (stamps 0).id (stamps 1)).validateAgainst model
    definition.triggerTable

variable {definition} {organization : Uuid} {model : DataModel} {stamps : Nat → Stamp}

theorem found_scenario : (definition.scenarioStore organization stamps).scenarios.get?
    (stamps 0).id = some (definition.scenario organization (stamps 0)) := by
  refine (Dict.get?_insert _ (stamps 0).id _ _).trans ?_
  exact if_pos rfl

theorem found_iteration : (definition.store organization stamps).iterations.get? (stamps 1).id =
    some (definition.firstIteration (stamps 0).id (stamps 1)) := by
  rw [store, Dict.get?_insert, if_pos rfl]

theorem createIteration_eq : (definition.scenarioStore organization stamps).createIteration
    (stamps 1) (stamps 0).id definition.iteration =
      (.ok (definition.firstIteration (stamps 0).id (stamps 1)),
        definition.store organization stamps) := by
  unfold ScenarioStore.createIteration
  rw [ScenarioStore.getScenario_eq_ok.mpr found_scenario]
  rfl

theorem consistent_store : (definition.store organization stamps).Consistent := by
  have created : (definition.scenarioStore organization stamps).Consistent :=
    ScenarioStore.Consistent.empty.createScenario rfl _
  exact created.insertDraft (fun _ present => nomatch present) rfl ⟨_, found_scenario⟩ rfl

theorem accepts_firstCommit : (definition.store organization stamps).Accepts
    (definition.firstCommit organization stamps) := by
  refine ⟨⟨_, found_scenario, rfl⟩, rfl, ?_, ?_⟩
  · intro transition listed
    obtain rfl := List.mem_singleton.mp listed
    exact ⟨_, found_iteration, rfl⟩
  · intro expected listed
    obtain rfl := List.mem_singleton.mp listed
    exact ⟨_, found_iteration, rfl⟩

/-- The iteration is published at the first attempt if it has no problems. -/
theorem publish_of_valid (valid : (definition.report model stamps).isValid = true)
    {retries : UInt32} (attempted : retries + 1 ≠ 0) :
    (definition.store organization stamps).runPublisher (fun n => stamps (n + 2))
        (Publisher.publish retries (stamps 1).id) =
      (.ok [(definition.firstCommit organization stamps).publication],
        definition.published organization stamps) := by
  have isValid : (definition.firstIteration (stamps 0).id (stamps 1)).validateStructure.isValid =
      true := Iteration.validateStructure_of_validateAgainst valid
  have once : (definition.store organization stamps).runPublisher (fun n => stamps (n + 2))
        (Publisher.tryPublish (stamps 1).id) =
      (.ok [(definition.firstCommit organization stamps).publication],
        definition.published organization stamps) :=
    Grounds.run_publishing consistent_store rfl accepts_firstCommit found_iteration
      (.refl _) rfl found_scenario nofun isValid rfl fun n => stamps (n + 2)
  rw [Publisher.publish, ScenarioStore.runPublisher_getIteration found_iteration,
    ScenarioStore.runPublisher_withRetries _ attempted, once]
  rw [once]
  exact .ok _

theorem found_liveScenario : (definition.published organization stamps).scenarios.get?
    (stamps 0).id = some (definition.liveScenario organization stamps) := by
  refine (ScenarioStore.get?_setLive _ _ (stamps 0).id _).trans ?_
  rw [store, found_scenario]
  exact congrArg some (if_pos rfl)

theorem found_liveIteration : (definition.published organization stamps).iterations.get?
    (stamps 1).id = some (definition.liveIteration stamps) := by
  refine (ScenarioStore.get?_moveIteration _ _ _ (stamps 1).id).trans ?_
  rw [found_iteration]
  exact congrArg some (if_pos rfl)

/-- The iteration that is live is the one that was published. -/
theorem isLive_published : (definition.published organization stamps).liveIteration (stamps 0).id =
    .ok (definition.liveScenario organization stamps, (stamps 1).id) := by
  unfold ScenarioStore.liveIteration
  rw [ScenarioStore.getScenario_eq_ok.mpr found_liveScenario]
  rfl

end Definition

namespace Workspace

/-- The iteration of the workspace is live, and is found with its scenario and its data model. -/
structure Ready (workspace : Workspace) (model : DataModel) (definition : Definition)
    (ingest : Ingest.Store) : Prop where
  hasModel : workspace.model = model
  registered : workspace.registry.get workspace.organization = .ok model
  hasRows : workspace.ingest = ingest
  owned : workspace.scenario.organization = workspace.organization
  triggered : workspace.scenario.triggerTable = definition.triggerTable
  isLive : workspace.scenarios.liveIteration workspace.scenario.id =
    .ok (workspace.scenario, workspace.iteration.id)
  found : workspace.scenarios.iterations.get? workspace.iteration.id = some workspace.iteration
  content : ∃ stamp updatedAt, workspace.iteration =
    { definition.firstIteration workspace.scenario.id stamp with state := .live, updatedAt }

variable {organization : Uuid} {model : DataModel} {definition : Definition}
  {ingest : Ingest.Store} {retries : UInt32} {stamps : Nat → Stamp}

/-- Once the scenario and the iteration are created, the report decides. -/
theorem build_eq : build organization model definition ingest retries stamps =
    if (definition.report model stamps).isValid then do
      let (published, store) := (definition.store organization stamps).runPublisher
        (fun n => stamps (n + 2)) (Publisher.publish retries (stamps 1).id)
      let _ ← published.mapError .unpublished
      let scenario ← (store.getScenario (stamps 0).id).mapError .store
      let iteration ← (store.getIteration (stamps 1).id).mapError .store
      return ⟨organization, model, ModelRegistry.empty.insert organization model, ingest, store,
        scenario, iteration⟩
    else .error (.invalidScenario (definition.report model stamps)) := by
  have created : ScenarioStore.empty.createScenario (stamps 0)
      ⟨organization, definition.name, definition.description, definition.triggerTable⟩ =
        (definition.scenario organization (stamps 0),
          definition.scenarioStore organization stamps) := rfl
  have hasId : (definition.scenario organization (stamps 0)).id = (stamps 0).id := rfl
  unfold build
  rw [created]
  dsimp only
  rw [hasId, Definition.createIteration_eq]
  rfl

/-- From an iteration without problems a workspace is built, if any attempt to publish is made. -/
theorem build_of_valid (valid : (definition.report model stamps).isValid = true)
    (attempted : retries + 1 ≠ 0) :
    ∃ workspace, build organization model definition ingest retries stamps = .ok workspace ∧
      workspace.organization = organization ∧ workspace.Ready model definition ingest := by
  have registered : (ModelRegistry.empty.insert organization model).get organization =
      .ok model := by
    unfold ModelRegistry.get ModelRegistry.insert
    rw [Dict.get?_insert, if_pos rfl]
  refine ⟨⟨organization, model, _, ingest, definition.published organization stamps,
    definition.liveScenario organization stamps, definition.liveIteration stamps⟩, ?_, rfl,
    ⟨rfl, registered, rfl, rfl, rfl, Definition.isLive_published,
      Definition.found_liveIteration, stamps 1, (stamps 3).now, rfl⟩⟩
  rw [build_eq, if_pos valid, Definition.publish_of_valid valid attempted]
  dsimp only
  rw [ScenarioStore.getScenario_eq_ok.mpr Definition.found_liveScenario,
    ScenarioStore.getIteration_eq_ok.mpr Definition.found_liveIteration]
  rfl

/-! ## Scoring in a workspace -/

namespace Ready

variable {workspace : Workspace}

/-- A payload is read by the table that is stored under the key of the definition. -/
theorem payload_eq (ready : workspace.Ready model definition ingest) {table : Table}
    (stored : model.tables.get? definition.triggerTable = some table) (raw : Json) :
    workspace.payload raw = (Payload.ofJson table raw).mapError .payload := by
  unfold Workspace.payload ModelRegistry.payload ModelRegistry.table
  simp only [ready.registered, ready.triggered, stored, bind, Except.bind]
  rfl

/-- An accepted payload has the name of that table. -/
theorem table_of_payload (ready : workspace.Ready model definition ingest) {table : Table}
    (stored : model.tables.get? definition.triggerTable = some table) {raw : Json}
    {payload : Payload} (accepts : workspace.payload raw = .ok payload) :
    payload.table = table.name := by
  rw [ready.payload_eq stored] at accepts
  cases parsed : Payload.ofJson table raw with
  | error error =>
    rw [parsed] at accepts
    cases accepts
  | ok read =>
    rw [parsed] at accepts
    cases accepts
    exact (Payload.ofJson_eq_ok parsed).1

end Ready

end Workspace

/-! ## Failures of files -/

/-- The failure is one of a line of objects. -/
def Failure.namesLine : Failure → Bool
  | lineJson _ | invalidLine .. => true
  | _ => false

section

variable {ε α β : Type} {post : α → Prop} {next : β → Prop}

/-- A value keeps the postcondition, and a failure is none of a line. Other failures may come. -/
def NoLine (post : α → Prop) : Except Failure α → Prop
  | .ok value => post value
  | .error failure => failure.namesLine = false

theorem NoLine.bind {result : Except Failure α} {rest : α → Except Failure β}
    (first : NoLine post result) (later : ∀ value, post value → NoLine next (rest value)) :
    NoLine next (result >>= rest) := by
  cases result with
  | error failure => exact first
  | ok value => exact later value first

theorem NoLine.mapError {failure : ε → Failure} (names : ∀ error, (failure error).namesLine = false)
    (result : Except ε α) : NoLine (fun _ => True) (result.mapError failure) := by
  cases result with
  | error error => exact names error
  | ok value => trivial

theorem NoLine.foldlM {step : β → α → Except Failure β} {items : List α} {start : β}
    (holds : next start) (each : ∀ state item, next state → NoLine next (step state item)) :
    NoLine next (items.foldlM step start) := by
  induction items generalizing start with
  | nil => exact holds
  | cons item rest ih =>
    rw [List.foldlM_cons]
    exact (each start item holds).bind fun state kept => ih kept

end

section

variable {organization : Uuid} {model : DataModel} {path text : String}

theorem noLine_readModel : NoLine (fun _ => True) (readModel path text) := by
  unfold readModel
  cases Decoder.text DataModel.decoder text with
  | error error => rfl
  | ok model => exact (NoLine.mapError (fun _ => rfl) _).bind fun _ _ => trivial

/-- The rows of a table bring no failures of the store. -/
theorem noLine_insertTable {store : Ingest.Store} {entry : String × List Json}
    (calm : store.failures = 0) :
    NoLine (fun store => store.failures = 0) (insertTable organization model store entry) := by
  unfold insertTable
  refine (NoLine.mapError (fun _ => rfl) _).bind fun table _ => ?_
  refine NoLine.foldlM calm fun store raw isCalm => ?_
  exact (NoLine.mapError (fun _ => rfl) _).bind fun row _ => isCalm

theorem noLine_readRows :
    NoLine (fun store => store.failures = 0) (readRows organization model text) := by
  unfold readRows
  refine (NoLine.mapError (fun _ => rfl) _).bind fun tables _ => ?_
  exact NoLine.foldlM rfl fun store entry calm => noLine_insertTable calm

/-- Rows are read into a store without failures to come. -/
theorem failures_of_readRows {store : Ingest.Store}
    (reads : readRows organization model text = .ok store) : store.failures = 0 := by
  have noLine := @noLine_readRows organization model text
  rw [reads] at noLine
  exact noLine

theorem noLine_build {definition : Definition} {ingest : Ingest.Store} {retries : UInt32}
    {stamps : Nat → Stamp} (calm : ingest.failures = 0) :
    NoLine (fun workspace => workspace.ingest.failures = 0)
      (Workspace.build organization model definition ingest retries stamps) := by
  rw [Workspace.build_eq]
  split
  · dsimp only
    refine (NoLine.mapError (fun _ => rfl) _).bind fun published _ => ?_
    refine (NoLine.mapError (fun _ => rfl) _).bind fun scenario _ => ?_
    exact (NoLine.mapError (fun _ => rfl) _).bind fun iteration _ => calm
  · rfl

end

end Cli

end RiskScoring
