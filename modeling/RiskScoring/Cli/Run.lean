import RiskScoring.Cli.Arguments
import RiskScoring.Cli.Host
import RiskScoring.Cli.Listing
import RiskScoring.Cli.Logging
import RiskScoring.Cli.Workspace
import RiskScoring.Decision.Batch
import RiskScoring.Formula.Outline
import RiskScoring.Formula.Typing
import RiskScoring.Text.Lines

/-!
# Running commands

`Cli.run` reads the arguments and the settings and runs a command to its exit code. Results, help
and the version go to the first output, summaries and errors to the second; any failure ends the
command with code 1, and arguments that ask for nothing end it with code 2.
-/

namespace RiskScoring

namespace Cli

variable {m : Type → Type} [Monad m]

/-- A command in progress: it may stop with a failure. -/
abbrev Running (m : Type → Type) := ExceptT Failure m

/-- Goes on with a result, or stops with the failure that its error means. -/
def proceed {ε α : Type} (failure : ε → Failure) : Except ε α → Running m α
  | .ok value => pure value
  | .error error => throw (failure error)

/-- Reads a file. -/
def readFile (host : Host m) (path : String) : Running m String := do
  match ← host.readFile path with
  | .ok text => return text
  | .error reason => throw (.unreadable path reason)

/-! ## Checking a formula -/

/-- Shows a formula as a tree, with its type, and says whether it is valid. -/
def check (host : Host m) (path : String) : Running m Unit := do
  let text ← readFile host path
  let formula ← proceed .formula (Expression.ofText text)
  host.print (formula.outline ++ "\n")
  host.print s!"Returns: {formula.returnType}\n"
  proceed .invalidFormula formula.validate
  host.print "Formula is valid.\n"

/-! ## Scoring one object -/

/-- Loads the files of a command. -/
def load (host : Host m) (settings : Settings) (inputs : Inputs) : Running m Workspace := do
  let stamps ← host.stamps
  let organization := (stamps 0).id
  let modelText ← match ← host.readFile inputs.dataModel with
    | .ok text => pure text
    | .error reason => throw (.unloadableModel inputs.dataModel reason)
  let model ← proceed id (readModel inputs.dataModel modelText)
  let scenarioText ← readFile host inputs.scenario
  let definition ← proceed id (readDefinition scenarioText)
  let ingest ← match inputs.rows with
    | none => pure Ingest.Store.empty
    | some path => do
      let text ← readFile host path
      proceed id (readRows organization model text)
  proceed id (Workspace.build organization model definition ingest settings.publicationRetries
    fun n => stamps (n + 1))

/-- A number with its sign, also if it is not negative. -/
def signed (value : Int64) : String := (if value < 0 then "" else "+") ++ toString value

/-- The explanation of a formula, or why there is none. -/
def explanation {σ : Type} (accessor : Accessor σ) (formula : Expression) : StateM σ String := do
  match ← (formula.explain accessor).run with
  | .ok line => return line
  | .error error => return s!"error: {error.message}"

/-- The explanations of rules. -/
def ruleExplanations {σ : Type} (accessor : Accessor σ) : List Rule → StateM σ (List String)
  | [] => pure []
  | rule :: rest => do
    let line ← explanation accessor rule.formula
    let lines ← ruleExplanations accessor rest
    return s!"Rule '{rule.name}' ({signed rule.scoreModifier}): {line}\n" :: lines

/-- The explanations of the trigger condition and of every rule in scoring order. All reads share
one transaction. -/
def explanations {σ : Type} (accessor : Accessor σ) (iteration : Iteration) :
    StateM σ (List String) := do
  let line ← explanation accessor iteration.trigger
  let lines ← ruleExplanations accessor iteration.orderedRules
  return s!"Trigger: {line}\n" :: lines

/-- Scores one object and shows the decision. -/
def evaluate (host : Host m) (settings : Settings) (inputs : Inputs) (payloadPath : String)
    (explain : Bool) : Running m Unit := do
  let workspace ← load host settings inputs
  let text ← readFile host payloadPath
  let raw ← match Json.ofText? text with
    | some raw => pure raw
    | none => throw .payloadJson
  let payload ← proceed .invalidPayload (workspace.payload raw)
  let scope : Ingest.Scope := ⟨workspace.organization, workspace.model, payload⟩
  let ingest ←
    if explain then do
      let (lines, session) :=
        (explanations scope.accessor workspace.iteration).run (.start workspace.ingest)
      host.print (String.join lines ++ "\n")
      pure session.release
    else pure workspace.ingest
  let start ← host.clock
  let stamps ← host.stamps
  let (result, _) := (workspace.scenarios.scoreLive workspace.registry workspace.scenario.id
    payload (stamps 0)).run ingest
  let evaluation ← proceed .unscored result
  let finish ← host.clock
  match evaluation with
  | .triggered decision => host.print (decision.toJson.pretty ++ "\n")
  | .notTriggered reason => host.print s!"Scenario not triggered: {reason.listing}\n"
  host.printError s!"Evaluation: {durationText (finish - start)}\n"

/-! ## Scoring a file of objects -/

/-- The lines that are not blank, numbered from one on. -/
def numberedLines (text : String) : List (Nat × String) :=
  ((textLines text).filter fun line => !line.toList.all isBlank).mapIdx
    fun index line => (index + 1, line)

/-- The payload of a numbered line. -/
def linePayload (workspace : Workspace) (line : Nat × String) : Except Failure Payload :=
  match Json.ofText? line.2 with
  | none => .error (.lineJson line.1)
  | some raw => (workspace.payload raw).mapError (.invalidLine line.1)

/-- The summary of a batch. -/
def summary (settings : Settings) (objects written nanos : Nat) (report : BatchReport) : String :=
  "\n--- Batch Summary ---\n" ++
    s!"Objects:        {objects}\n" ++
    s!"Processed:      {report.processed}\n" ++
    s!"Decisions:      {written}\n" ++
    s!"Not triggered:  {report.notTriggered}\n" ++
    s!"Failures:       {report.failures.length}\n" ++
    String.join (report.failures.map fun failure =>
      s!"  line {failure.index + 1}: {failure.error.message}\n") ++
    s!"Duration:       {durationText nanos}\n" ++
    s!"Workers:        {settings.poolSize}\n"

/-- Scores the objects of a file, one to a line, and exports the decisions. -/
def batch (host : Host m) (settings : Settings) (inputs : Inputs) (payloadsPath : String)
    (out : Option String) : Running m Unit := do
  let workspace ← load host settings inputs
  let text ← readFile host payloadsPath
  let payloads ← proceed id ((numberedLines text).mapM (linePayload workspace))
  let stamps ← host.stamps
  let start ← host.clock
  let job : Batch := {
    id := (stamps 0).id
    model := workspace.model
    scenario := workspace.scenario
    iteration := workspace.iteration
    retries := settings.readRetries
    isCancelled := fun _ => false }
  let (report, _) := (job.run (fun n => stamps (n + 1)) payloads).run workspace.ingest
  let finish ← host.clock
  let (written, lines) ← proceed .unexported (Decision.exportLines none report.decisions)
  match out with
  | none => host.print lines
  | some path =>
    match ← host.writeFile path lines with
    | .ok () => pure ()
    | .error reason => throw (.uncreatable path reason)
  host.printError (summary settings payloads.length written (finish - start) report)

/-! ## Commands -/

/-- Reads the settings and runs a command. -/
def execute (host : Host m) (command : Command) : Running m Unit := do
  let poolSize ← host.environment Settings.poolSizeVariable
  let readRetries ← host.environment Settings.readRetriesVariable
  let publicationRetries ← host.environment Settings.publicationRetriesVariable
  let logLevel ← host.environment Settings.logLevelVariable
  let environment : String → Option String := fun key =>
    if key = Settings.poolSizeVariable then poolSize
    else if key = Settings.readRetriesVariable then readRetries
    else if key = Settings.publicationRetriesVariable then publicationRetries
    else if key = Settings.logLevelVariable then logLevel
    else none
  let processors ← host.processors
  let settings ← proceed .settings (Settings.read environment processors)
  match logWarning? (← host.environment "RUST_LOG") settings.logLevel with
  | some warning => host.printError warning
  | none => pure ()
  match command with
  | .check formula => check host formula
  | .evaluate inputs payload explain => evaluate host settings inputs payload explain
  | .batch inputs payloads out => batch host settings inputs payloads out

/-- Runs a command line to its exit code. -/
def run (host : Host m) (arguments : List String) : m UInt32 := do
  match Request.ofArguments arguments with
  | .error error =>
    host.printError error.message
    return 2
  | .ok .version =>
    host.print versionText
    return 0
  | .ok (.help topic) =>
    host.print topic.text
    return 0
  | .ok (.run command) =>
    match ← (execute host command).run with
    | .ok () => return 0
    | .error failure =>
      host.printError s!"\nError: {failure.message}\n"
      return 1

end Cli

end RiskScoring
