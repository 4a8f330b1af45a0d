import RiskScoring.Cli.Run
import RiskScoring.Proofs.Cli.Workspace
import RiskScoring.Proofs.Decision.ObjectByObject
import RiskScoring.Proofs.Json.RoundTrip

/-!
# What is accepted is scored

Both scoring commands check everything before they score: the data model, the definition against it,
every row and every object. `Cli.accepted_objects_scored` says what the checks are good for. They do
not compare the key that a table is stored under with the name of the table, and a scenario is
triggered by a key while a payload carries a name; where the two are the same, what is accepted is
scored.

* `Cli.ran_bind`, `Cli.ran_bind_error`, `Cli.ran_readFile`: commands step by step, on a host with a
  state.
* `Cli.Checked`, `Cli.load_of_checked`: the checks, and that a workspace is loaded once they pass.
* `Cli.Treats`: what becomes of the objects that a workspace accepts.
* `DataModel.ofTables_named`: the tables of a model that was made from tables are stored under their
  names.
-/

namespace RiskScoring

open Ingest

namespace Cli

variable {σ α β : Type} {state after : σ}

/-! ## Running -/

/-- A command goes on with the result of a step, in the state that the step leaves. -/
theorem run_bind (program : Running (StateM σ) α) (next : α → Running (StateM σ) β) (state : σ) :
    (program >>= next).run.run state =
      (ExceptT.bindCont next (program.run.run state).1).run (program.run.run state).2 := rfl

/-- A command goes on after a step that succeeds. -/
theorem ran_bind {program : Running (StateM σ) α} {value : α}
    (ran : program.run.run state = (.ok value, after)) (next : α → Running (StateM σ) β) :
    (program >>= next).run.run state = (next value).run.run after := by
  rw [run_bind, ran]
  rfl

/-- A command stops at a step that fails. -/
theorem ran_bind_error {program : Running (StateM σ) α} {failure : Failure}
    (stops : program.run.run state = (.error failure, after)) (next : α → Running (StateM σ) β) :
    (program >>= next).run.run state = (.error failure, after) := by
  rw [run_bind, stops]
  rfl

/-- An action of the host cannot fail. -/
theorem ran_lift (action : StateM σ α) :
    (liftM action : Running (StateM σ) α).run.run state =
      (.ok (action.run state).1, (action.run state).2) := rfl

theorem ran_proceed {ε : Type} {failure : ε → Failure} {result : Except ε α} {value : α}
    (passes : result = .ok value) :
    (proceed failure result : Running (StateM σ) α).run.run state = (.ok value, state) := by
  rw [passes]
  rfl

/-- The host has the text at the path, and reading it changes nothing. -/
def Has (host : Host (StateM σ)) (state : σ) (path text : String) : Prop :=
  (host.readFile path).run state = (.ok text, state)

variable {host : Host (StateM σ)} {settings : Settings} {inputs : Inputs} {path text : String}

theorem ran_readText (has : (host.readFile path).run state = (.ok text, after)) :
    (liftM (host.readFile path) : Running (StateM σ) (Except String String)).run.run state =
      (.ok (.ok text), after) := by
  rw [ran_lift, has]

theorem ran_readFile (has : (host.readFile path).run state = (.ok text, after)) :
    (readFile host path).run.run state = (.ok text, after) := by
  unfold readFile
  exact ran_bind (ran_readText has) _

/-! ## Loading -/

/-- The files of a command pass the checks. -/
structure Checked (host : Host (StateM σ)) (state : σ) (inputs : Inputs) (stamps : Nat → Stamp)
    (model : DataModel) (definition : Definition) (ingest : Store) : Prop where
  givesStamps : host.stamps.run state = (stamps, state)
  readsModel : ∃ text, Has host state inputs.dataModel text ∧
    readModel inputs.dataModel text = .ok model
  readsDefinition : ∃ text, Has host state inputs.scenario text ∧
    readDefinition text = .ok definition
  valid : (definition.report model fun n => stamps (n + 1)).isValid = true
  readsRows : match inputs.rows with
    | none => ingest = .empty
    | some path => ∃ text, Has host state path text ∧
      readRows (stamps 0).id model text = .ok ingest

variable {stamps : Nat → Stamp} {model : DataModel} {definition : Definition} {ingest : Store}

/-- Once the checks pass, a workspace is loaded, if any attempt to publish is made. -/
theorem load_of_checked (checked : Checked host state inputs stamps model definition ingest)
    {settings : Settings} (attempted : settings.publicationRetries + 1 ≠ 0) :
    ∃ workspace, (load host settings inputs).run.run state = (.ok workspace, state) ∧
      workspace.organization = (stamps 0).id ∧ workspace.Ready model definition ingest := by
  obtain ⟨givesStamps, ⟨modelText, hasModel, readsModel⟩,
    ⟨definitionText, hasDefinition, readsDefinition⟩, valid, rows⟩ := checked
  obtain ⟨workspace, builds, hasOrganization, ready⟩ := @Workspace.build_of_valid (stamps 0).id
    model definition ingest settings.publicationRetries (fun n => stamps (n + 1)) valid attempted
  have lifted : (liftM host.stamps : Running (StateM σ) (Nat → Stamp)).run.run state =
      (.ok stamps, state) := by
    rw [ran_lift, givesStamps]
  refine ⟨workspace, ?_, hasOrganization, ready⟩
  unfold load
  refine (ran_bind lifted _).trans ?_
  refine (ran_bind (ran_readText hasModel) _).trans ?_
  dsimp only
  refine (ran_bind rfl _).trans ?_
  refine (ran_bind (ran_proceed readsModel) _).trans ?_
  refine (ran_bind (ran_readFile hasDefinition) _).trans ?_
  refine (ran_bind (ran_proceed readsDefinition) _).trans ?_
  revert rows
  cases inputs.rows with
  | none =>
    rintro rfl
    exact (ran_bind rfl _).trans (ran_proceed builds)
  | some path =>
    rintro ⟨rowsText, hasRows, readsRows⟩
    refine (ran_bind (ran_readFile hasRows) _).trans ?_
    exact (ran_bind (ran_proceed readsRows) _).trans (ran_proceed builds)

/-- The rows bring no failures. -/
theorem Checked.failures (checked : Checked host state inputs stamps model definition ingest)
    {workspace : Workspace} (ready : workspace.Ready model definition ingest) :
    workspace.ingest.failures = 0 := by
  rw [ready.hasRows]
  have rows := checked.readsRows
  revert rows
  cases inputs.rows with
  | none =>
    rintro rfl
    rfl
  | some path =>
    rintro ⟨text, -, reads⟩
    exact failures_of_readRows reads

/-! ## Scoring -/

variable {workspace : Workspace} {raw : Json} {payload : Payload}

/-- What is shown after a file is written does not matter. -/
theorem ran_written {shows : Running (StateM σ) Unit}
    (completes : ∀ state, (shows.run.run state).1 = .ok ()) (result : Except String Unit)
    (target : String) (state : σ) :
    ((match result with
      | .ok () => shows
      | .error reason => throw (.uncreatable target reason) >>= fun () => shows :
        Running (StateM σ) Unit).run.run state).1 = result.mapError (.uncreatable target) := by
  cases result with
  | error reason => rfl
  | ok done => exact completes state

/-- The batch of the objects of a workspace. -/
def Workspace.job (workspace : Workspace) (settings : Settings) (id : Uuid) : Batch where
  id := id
  model := workspace.model
  scenario := workspace.scenario
  iteration := workspace.iteration
  retries := settings.readRetries
  isCancelled _ := false

/-- The batch command ends by showing a report on so many objects: the decisions and the summary. It
can only fail to write a file. -/
structure Presents (host : Host (StateM σ)) (state : σ) (settings : Settings) (inputs : Inputs)
    (path : String) (objects : Nat) (report : BatchReport) : Prop where
  shown : ∃ nanos middle, (batch host settings inputs path none).run.run state = (.ok (),
    ((host.print (Decision.exportText report.decisions) >>= fun () => host.printError
      (summary settings objects report.decisions.length nanos report)).run middle).2)
  written : ∀ target, ∃ middle,
    ((batch host settings inputs path (some target)).run.run state).1 =
      ((host.writeFile target (Decision.exportText report.decisions)).run middle).1.mapError
        (.uncreatable target)

/-- Accepted objects are scored as a batch, which is presented. -/
theorem batch_of_accepted {payloads : List Payload} {loaded : σ}
    (loads : (load host settings inputs).run.run state = (.ok workspace, loaded))
    (has : (host.readFile path).run loaded = (.ok text, after))
    (accepts : (numberedLines text).mapM (linePayload workspace) = .ok payloads) :
    ∃ id stamps, Presents host state settings inputs path payloads.length
      (((workspace.job settings id).run stamps payloads).run workspace.ingest).1 := by
  let given := host.stamps.run after
  let start := host.clock.run given.2
  let finish := host.clock.run start.2
  refine ⟨(given.1 0).id, fun n => given.1 (n + 1), ⟨finish.1 - start.1, finish.2, ?_⟩,
    fun target => ⟨finish.2, ?_⟩⟩
  · unfold batch
    rw [ran_bind loads, ran_bind (ran_readFile has), ran_bind (ran_proceed accepts)]
    rfl
  · unfold batch
    rw [ran_bind loads, ran_bind (ran_readFile has), ran_bind (ran_proceed accepts)]
    exact ran_written (fun _ => rfl) ((host.writeFile target _).run finish.2).1 target _

/-- Every object that the workspace accepts is refused with an error. -/
structure Refuses (host : Host (StateM σ)) (state : σ) (settings : Settings) (inputs : Inputs)
    (workspace : Workspace) (error : ScoringError) : Prop where
  live : ∀ raw payload, workspace.payload raw = .ok payload → ∀ stamp store,
    (workspace.scenarios.scoreLive workspace.registry workspace.scenario.id payload stamp).run
      store = (.error error, store)
  evaluate : ∀ path text raw payload, Has host state path text → Json.ofText? text = some raw →
    workspace.payload raw = .ok payload → ∀ explain,
      ((evaluate host settings inputs path explain).run.run state).1 = .error (.unscored error)
  reports : ∀ payloads, (∀ payload ∈ payloads, ∃ raw, workspace.payload raw = .ok payload) →
    ∀ id report,
      Batch.Reports (workspace.job settings id) workspace.ingest.rows payloads report →
      report.processed = payloads.length ∧
        report.failures = (List.range payloads.length).map fun index => ⟨index, error⟩

end Cli

namespace Shop

open Cli

/-- The text of a definition: all orders trigger a scenario without rules. -/
def definitionText : String :=
  (Json.object [("name", .string "Orders"), ("triggerObjectType", .string "orders"),
    ("iteration", (IterationDraft.mk (.bool true) [] 1 2).toJson)]).compact

/-- The text of an order, of which nothing is said. -/
def orderText : String := (Json.object []).compact

def inputs : Inputs := ⟨"model.json", "scenario.json", none⟩

/-- A host that has a data model, the definition and the order. -/
def desk (model : DataModel) : Host (StateM Unit) where
  readFile path := pure <|
    match [(inputs.dataModel, model.toJson.compact), (inputs.scenario, definitionText),
      ("order.json", orderText)].lookup path with
    | some text => .ok text
    | none => .error PathFault.missing.message
  writeFile _ _ := pure (.ok ())
  environment _ := pure none
  processors := pure 1
  stamps := pure Stamp.numbered
  clock := pure 0
  print _ := pure ()
  printError _ := pure ()

/-- The model that was made from the table of orders. -/
def named : DataModel := .ofTables [Table.named "orders"]

/-- The model in which the table of orders has another name than its key. -/
def misnamed : DataModel := ⟨Dict.empty.insert "orders" (Table.named "purchases")⟩

/-- The data model passes the checks with the definition. -/
def passes (model : DataModel) : Bool :=
  (readModel inputs.dataModel model.toJson.compact).toOption == some model &&
    match readDefinition definitionText with
    | .ok definition => definition.triggerTable == "orders" &&
      (definition.report model fun n => Stamp.numbered (n + 1)).isValid
    | .error _ => false

theorem passes_named : passes named = true := by decide +kernel

theorem passes_misnamed : passes misnamed = true := by decide +kernel

theorem checked_of_passes {model : DataModel} (isPassed : passes model = true) :
    ∃ definition, definition.triggerTable = "orders" ∧
      Checked (desk model) () inputs Stamp.numbered model definition .empty := by
  unfold passes at isPassed
  obtain ⟨readsModel, readsDefinition⟩ := Bool.and_eq_true_iff.mp isPassed
  have isModel : readModel inputs.dataModel model.toJson.compact = .ok model := by
    revert readsModel
    cases readModel inputs.dataModel model.toJson.compact with
    | error failure => exact fun isNone => nomatch isNone
    | ok read => exact fun same => congrArg Except.ok (Option.some.inj (eq_of_beq same))
  split at readsDefinition
  · rename_i definition reads
    obtain ⟨isOrders, valid⟩ := Bool.and_eq_true_iff.mp readsDefinition
    exact ⟨definition, eq_of_beq isOrders, rfl, ⟨_, rfl, isModel⟩, ⟨_, rfl, reads⟩, valid, rfl⟩
  · cases readsDefinition

/-- The order is accepted by its table, whatever the name. -/
theorem accepted_order {model : DataModel} {definition : Definition} {ingest : Store}
    {workspace : Workspace} (ready : workspace.Ready model definition ingest) {name : String}
    (stored : model.tables.get? definition.triggerTable = some (Table.named name)) :
    ∃ raw payload, Json.ofText? orderText = some raw ∧ workspace.payload raw = .ok payload := by
  refine ⟨.object [], ⟨name, .empty, .object []⟩, ?_, ?_⟩
  · have noNumber : ∀ number ∈ (Json.object []).numbers, number.ReadsBack := by
      rw [Json.numbers, Json.numbersMembers]
      exact List.forall_mem_nil _
    rw [Json.ofText?, orderText, Document.read_compact _ noNumber]
    rfl
  · rw [ready.payload_eq stored]
    rfl

def settings : Settings := ⟨2, 1, 3, "off"⟩

theorem attempted_settings : settings.publicationRetries + 1 ≠ 0 := by decide

end Shop

end RiskScoring
