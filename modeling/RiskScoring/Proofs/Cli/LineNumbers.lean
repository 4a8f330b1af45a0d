import RiskScoring.Proofs.Cli.ObjectLines
import RiskScoring.Proofs.Cli.Pipeline

/-!
# Line numbers of a batch

A batch names a line by its number: when it stops at a line that it refuses, and when its summary
lists the objects that could not be scored. The number falls short of the position of the line in
the file by the blank lines before it, which are passed over before the lines are numbered.

* `Cli.Workspace.readLine`, `Cli.mapM_numberedLines_eq_error`: what a line stands for, and the first
  line that is refused.
* `Cli.beforeLines_load`: loading a workspace does not fail at a line.
* `Cli.batch_eq_error_iff`: the line that a batch stops at.
* `Cli.mem_listing_iff`: the lines that a summary lists.
* `Cli.reported_numbers`: both for all files of objects, by the positions of the lines.
-/

namespace RiskScoring

open Ingest

/-- The entries of a report's list of failures, as a summary shows them: the number of the line, and
what is wrong with its object. -/
def BatchReport.listing (report : BatchReport) : List (Nat × ScoringError) :=
  report.failures.map fun failure => (failure.index + 1, failure.error)

namespace Cli

/-! ## Refused lines -/

/-- Why the line of an object is refused. -/
inductive LineFault where
  /-- The line is no JSON. -/
  | noJson
  /-- The object is no payload of the table that triggers the scenario. -/
  | noPayload (error : ScoringError)

/-- The failure of a command at a line that is given a number. -/
def LineFault.failure (number : Nat) : LineFault → Failure
  | noJson => .lineJson number
  | noPayload error => .invalidLine number error

theorem LineFault.failure_inj {fault other : LineFault} {one two : Nat} :
    fault.failure one = other.failure two ↔ fault = other ∧ one = two := by
  cases fault <;> cases other <;> simp [failure, and_comm]

theorem LineFault.namesLine_failure (fault : LineFault) (number : Nat) :
    (fault.failure number).namesLine = true := by
  cases fault <;> rfl

/-- The message of the failure gives the line by its number. -/
theorem LineFault.message_failure (fault : LineFault) (number : Nat) :
    ∃ reason : String, (fault.failure number).message = s!"Line {number} is not {reason}" := by
  cases fault with
  | noJson =>
    have joined : "Line " ++ toString number ++ " is not " ++ "valid JSON: not a JSON value" =
        "Line " ++ toString number ++ (" is not " ++ "valid JSON: not a JSON value") :=
      String.append_assoc
    exact ⟨_, joined.symm⟩
  | noPayload error =>
    have joined :
        "Line " ++ toString number ++ " is not " ++ ("a valid payload: " ++ error.message) =
        "Line " ++ toString number ++ (" is not " ++ "a valid payload: ") ++ error.message := by
      simp only [String.append_assoc]
    exact ⟨_, joined.symm⟩

/-- The payload that a line stands for. -/
def Workspace.readLine (workspace : Workspace) (line : String) : Except LineFault Payload :=
  match Json.ofText? line with
  | none => .error .noJson
  | some raw => (workspace.payload raw).mapError .noPayload

section

variable {workspace : Workspace} {number : Nat} {line text : String}

theorem linePayload_eq : linePayload workspace (number, line) =
    (workspace.readLine line).mapError (·.failure number) := by
  unfold linePayload Workspace.readLine
  cases Json.ofText? line with
  | none => rfl
  | some raw =>
    dsimp only
    cases workspace.payload raw <;> rfl

theorem linePayload_eq_ok {payload : Payload} :
    linePayload workspace (number, line) = .ok payload ↔
      workspace.readLine line = .ok payload := by
  rw [linePayload_eq]
  cases workspace.readLine line <;> simp [Except.mapError]

theorem linePayload_eq_error {failure : Failure} :
    linePayload workspace (number, line) = .error failure ↔
      ∃ fault, workspace.readLine line = .error fault ∧ failure = fault.failure number := by
  rw [linePayload_eq]
  cases workspace.readLine line with
  | error fault => simp [Except.mapError, eq_comm]
  | ok payload => simp [Except.mapError]

/-- The line is the first one that is refused. -/
structure ObjectLine.FirstRefused (object : ObjectLine text) (workspace : Workspace)
    (fault : LineFault) : Prop where
  refused : workspace.readLine object.line = .error fault
  first : ∀ earlier : ObjectLine text, earlier.position < object.position →
    ∃ payload, workspace.readLine earlier.line = .ok payload

/-- Reading the lines of a text ends at the first one that is refused. -/
theorem mapM_numberedLines_eq_error {failure : Failure} :
    (numberedLines text).mapM (linePayload workspace) = .error failure ↔
      ∃ (object : ObjectLine text) (fault : LineFault),
        object.FirstRefused workspace fault ∧ failure = fault.failure object.number := by
  rw [Except.mapM_eq_error_iff]
  constructor
  · rintro ⟨index, entry, found, fails, before⟩
    obtain ⟨object, numbered, rfl⟩ := getElem?_numberedLines.mp found
    obtain ⟨fault, refused, rfl⟩ := linePayload_eq_error.mp fails
    refine ⟨object, fault, ⟨refused, fun earlier isEarlier => ?_⟩, rfl⟩
    obtain ⟨place, isPlace⟩ : ∃ place, earlier.number = place + 1 := ⟨_, rfl⟩
    have inOrder : place < index := by
      have := ObjectLine.position_lt_iff.mp isEarlier
      omega
    have listed := getElem?_numberedLines.mpr ⟨earlier, isPlace, rfl⟩
    obtain ⟨payload, reads⟩ := before place inOrder _ listed
    exact ⟨payload, linePayload_eq_ok.mp reads⟩
  · rintro ⟨object, fault, ⟨refused, first⟩, rfl⟩
    obtain ⟨index, numbered⟩ : ∃ index, object.number = index + 1 := ⟨_, rfl⟩
    have listed := getElem?_numberedLines.mpr ⟨object, numbered, rfl⟩
    refine ⟨index, _, listed, linePayload_eq_error.mpr ⟨fault, refused, rfl⟩, ?_⟩
    intro place inOrder entry found
    obtain ⟨earlier, isPlace, rfl⟩ := getElem?_numberedLines.mp found
    have isEarlier : earlier.position < object.position := by
      rw [ObjectLine.position_lt_iff]
      omega
    obtain ⟨payload, reads⟩ := first earlier isEarlier
    exact ⟨payload, linePayload_eq_ok.mpr reads⟩

end

/-! ## Before the lines -/

section

variable {σ α β : Type} {post : α → Prop} {next : β → Prop}

/-- However the host answers, the step ends with a value that keeps the postcondition or with a
failure that is none of a line. -/
def BeforeLines (post : α → Prop) (program : Running (StateM σ) α) : Prop :=
  ∀ state, NoLine post (program.run.run state).1

theorem BeforeLines.bind {program : Running (StateM σ) α} {rest : α → Running (StateM σ) β}
    (first : BeforeLines post program)
    (later : ∀ value, post value → BeforeLines next (rest value)) :
    BeforeLines next (program >>= rest) := by
  intro state
  have isFirst := first state
  rw [run_bind]
  revert isFirst
  cases (program.run.run state).1 with
  | error failure => exact id
  | ok value => exact fun kept => later value kept (program.run.run state).2

theorem BeforeLines.lift (action : StateM σ α) :
    BeforeLines (fun _ => True) (liftM action : Running (StateM σ) α) :=
  fun _ => trivial

theorem BeforeLines.proceed {result : Except Failure α} (noLine : NoLine post result) :
    BeforeLines post (Cli.proceed id result : Running (StateM σ) α) := by
  intro state
  revert noLine
  cases result <;> exact id

theorem BeforeLines.readFile (host : Host (StateM σ)) (path : String) :
    BeforeLines (fun _ => True) (Cli.readFile host path) := by
  refine (BeforeLines.lift _).bind fun answer _ => ?_
  cases answer with
  | error reason => exact fun _ => rfl
  | ok text => exact fun _ => trivial

/-- Loading a workspace does not fail at a line, and leaves no failures of the store to come. -/
theorem beforeLines_load (host : Host (StateM σ)) (settings : Settings) (inputs : Inputs) :
    BeforeLines (fun workspace => workspace.ingest.failures = 0) (load host settings inputs) := by
  have given (text : String) : BeforeLines (fun read => read = text)
      (pure text : Running (StateM σ) String) := fun _ => rfl
  have none : BeforeLines (fun store => store.failures = 0)
      (pure Store.empty : Running (StateM σ) Store) := fun _ => rfl
  unfold load
  refine (BeforeLines.lift _).bind fun stamps _ => ?_
  refine (BeforeLines.lift _).bind fun answer _ => ?_
  dsimp only
  cases answer with
  | error reason => exact fun _ => rfl
  | ok modelText =>
    refine (given modelText).bind fun _ _ => ?_
    refine (BeforeLines.proceed noLine_readModel).bind fun model _ => ?_
    refine (BeforeLines.readFile host inputs.scenario).bind fun definitionText _ => ?_
    refine (BeforeLines.proceed (NoLine.mapError (fun _ => rfl) _)).bind fun definition _ => ?_
    have builds {ingest : Store} (calm : ingest.failures = 0) :
        NoLine (fun workspace => workspace.ingest.failures = 0)
          (Workspace.build (stamps 0).id model definition ingest settings.publicationRetries
            fun n => stamps (n + 1)) := noLine_build calm
    cases inputs.rows with
    | none => exact none.bind fun ingest calm => .proceed (builds calm)
    | some path =>
      refine (BeforeLines.readFile host path).bind fun rowsText _ => ?_
      exact (BeforeLines.proceed noLine_readRows).bind fun ingest calm => .proceed (builds calm)

end

/-! ## Stopping at a line -/

section

variable {σ : Type} {state : σ} {host : Host (StateM σ)} {settings : Settings} {inputs : Inputs}
  {path text : String} {workspace : Workspace}

/-- A batch loads the workspace, and then reads the text of the objects. -/
def Reads (host : Host (StateM σ)) (settings : Settings) (inputs : Inputs) (path : String)
    (state : σ) (workspace : Workspace) (text : String) : Prop :=
  ∃ loaded after, (load host settings inputs).run.run state = (.ok workspace, loaded) ∧
    (host.readFile path).run loaded = (.ok text, after)

/-- Only a batch that reads lines stops at one. -/
theorem reads_of_batch_eq_error {out : Option String} {failure : Failure}
    (stops : ((batch host settings inputs path out).run.run state).1 = .error failure)
    (names : failure.namesLine = true) :
    ∃ workspace text, Reads host settings inputs path state workspace text := by
  -- A step before the lines may end the batch, but not with a failure that names a line.
  have spared (other : Failure) (last : σ) (noLine : other.namesLine = false)
      (ends : (batch host settings inputs path out).run.run state = (.error other, last)) :
      ∃ workspace text, Reads host settings inputs path state workspace text := by
    obtain rfl : other = failure := Except.error.inj ((congrArg Prod.fst ends).symm.trans stops)
    cases noLine.symm.trans names
  have noLine := beforeLines_load host settings inputs state
  rcases loading : (load host settings inputs).run.run state with ⟨_ | workspace, loaded⟩
  · rename_i other
    rw [loading] at noLine
    refine spared other loaded noLine ?_
    unfold batch
    exact ran_bind_error loading _
  · rcases reading : (host.readFile path).run loaded with ⟨_ | text, after⟩
    · rename_i reason
      refine spared (.unreadable path reason) after rfl ?_
      have unread : (readFile host path).run.run loaded =
          (.error (.unreadable path reason), after) := by
        unfold readFile
        have answers : (liftM (host.readFile path) :
            Running (StateM σ) (Except String String)).run.run loaded =
              (.ok (.error reason), after) := by
          rw [ran_lift, reading]
        exact ran_bind answers _
      unfold batch
      rw [ran_bind loading]
      exact ran_bind_error unread _
    · exact ⟨workspace, text, loaded, after, loading, reading⟩

/-- The workspace holds its rows without failures to come. -/
theorem Reads.failures_eq (reads : Reads host settings inputs path state workspace text) :
    workspace.ingest.failures = 0 := by
  obtain ⟨loaded, after, loads, -⟩ := reads
  have noLine := beforeLines_load host settings inputs state
  rw [loads] at noLine
  exact noLine

/-- A batch stops at a line that is refused. -/
theorem Reads.batch_of_refused (reads : Reads host settings inputs path state workspace text)
    {failure : Failure}
    (refuses : (numberedLines text).mapM (linePayload workspace) = .error failure)
    (out : Option String) :
    ((batch host settings inputs path out).run.run state).1 = .error failure := by
  obtain ⟨loaded, after, loads, has⟩ := reads
  unfold batch
  rw [ran_bind loads, ran_bind (ran_readFile has), refuses]
  exact congrArg Prod.fst (ran_bind_error rfl _)

/-- Once its lines are accepted, a batch does not stop at any of them. -/
theorem Reads.batch_ne_error (reads : Reads host settings inputs path state workspace text)
    {payloads : List Payload}
    (accepts : (numberedLines text).mapM (linePayload workspace) = .ok payloads)
    (out : Option String) (fault : LineFault) (number : Nat) :
    ((batch host settings inputs path out).run.run state).1 ≠ .error (fault.failure number) := by
  obtain ⟨loaded, after, loads, has⟩ := reads
  obtain ⟨id, stamps, shown, written⟩ := batch_of_accepted loads has accepts
  cases out with
  | none =>
    obtain ⟨nanos, middle, shows⟩ := shown
    rw [shows]
    nofun
  | some target =>
    obtain ⟨middle, writes⟩ := written target
    rw [writes]
    cases ((host.writeFile target _).run middle).1 with
    | error reason => cases fault <;> nofun
    | ok done => nofun

/-- A batch stops at the first line that is refused, and names it by its number. -/
theorem batch_eq_error_iff {out : Option String} {fault : LineFault} {number : Nat} :
    ((batch host settings inputs path out).run.run state).1 = .error (fault.failure number) ↔
      ∃ workspace text, Reads host settings inputs path state workspace text ∧
        ∃ object : ObjectLine text,
          object.FirstRefused workspace fault ∧ object.number = number := by
  constructor
  · intro stops
    obtain ⟨workspace, text, reads⟩ :=
      reads_of_batch_eq_error stops (fault.namesLine_failure number)
    refine ⟨workspace, text, reads, ?_⟩
    cases accepts : (numberedLines text).mapM (linePayload workspace) with
    | ok payloads => exact absurd stops (reads.batch_ne_error accepts out fault number)
    | error failure =>
      obtain rfl : failure = fault.failure number :=
        Except.error.inj ((reads.batch_of_refused accepts out).symm.trans stops)
      obtain ⟨object, other, isFirst, same⟩ := mapM_numberedLines_eq_error.mp accepts
      obtain ⟨rfl, rfl⟩ := LineFault.failure_inj.mp same
      exact ⟨object, isFirst, rfl⟩
  · rintro ⟨workspace, text, reads, object, isFirst, rfl⟩
    exact reads.batch_of_refused (mapM_numberedLines_eq_error.mpr ⟨object, fault, isFirst, rfl⟩) out

end

/-! ## Listing failures -/

section

variable {text : String} {workspace : Workspace} {payload : Payload} {payloads : List Payload}
  {rows : List StoredRow} {settings : Settings} {id : Uuid} {report : BatchReport}

/-- The object of the line is a payload, but scoring it ends with an error, whatever the rows. -/
def ObjectLine.Fails (object : ObjectLine text) (workspace : Workspace) (error : ScoringError) :
    Prop :=
  ∃ payload, workspace.readLine object.line = .ok payload ∧ ∀ id stamp store,
    ((workspace.iteration.score workspace.model workspace.scenario payload id stamp).run store).1 =
      .error error

/-- Only payloads of another table cannot be scored. -/
theorem unscored_iff {error : ScoringError} :
    (∀ id stamp store, ((workspace.iteration.score workspace.model workspace.scenario payload id
      stamp).run store).1 = .error error) ↔
      payload.table ≠ workspace.scenario.triggerTable ∧ error = .wrongTable workspace.scenario.id
        workspace.scenario.triggerTable payload.table := by
  simp only [Iteration.score_eq_scoreIn]
  by_cases sameTable : payload.table = workspace.scenario.triggerTable
  · constructor
    · intro fails
      cases (congrArg Prod.fst (if_pos sameTable)).symm.trans (fails none .blank .empty)
    · rintro ⟨differs, -⟩
      exact absurd sameTable differs
  · have refused (id : Option Uuid) (stamp : Stamp) (store : Store) :
        ((workspace.iteration.scoreIn Session.start Session.release
          (Scope.mk workspace.scenario.organization workspace.model payload).accessor
            workspace.scenario payload id stamp).run store).1 = .error (.wrongTable
              workspace.scenario.id workspace.scenario.triggerTable payload.table) :=
      congrArg Prod.fst (if_neg sameTable)
    constructor
    · intro fails
      exact ⟨sameTable, Except.error.inj ((fails none .blank .empty).symm.trans (refused ..))⟩
    · rintro ⟨-, rfl⟩
      exact refused

/-- The payloads stand in the order of the lines that they are read from. -/
theorem getElem?_payloads
    (accepts : (numberedLines text).mapM (linePayload workspace) = .ok payloads) {index : Nat} :
    payloads[index]? = some payload ↔ ∃ object : ObjectLine text,
      object.number = index + 1 ∧ workspace.readLine object.line = .ok payload := by
  rw [Except.getElem?_of_mapM accepts]
  constructor
  · rintro ⟨entry, found, reads⟩
    obtain ⟨object, numbered, rfl⟩ := getElem?_numberedLines.mp found
    exact ⟨object, numbered, linePayload_eq_ok.mp reads⟩
  · rintro ⟨object, numbered, reads⟩
    exact ⟨_, getElem?_numberedLines.mpr ⟨object, numbered, rfl⟩, linePayload_eq_ok.mpr reads⟩

theorem mem_strays_iff {batch : Batch} {failure : BatchFailure} :
    failure ∈ batch.strays 0 payloads ↔ ∃ payload, payloads[failure.index]? = some payload ∧
      payload.table ≠ batch.scenario.triggerTable ∧ failure.error = .wrongTable batch.scenario.id
        batch.scenario.triggerTable payload.table := by
  unfold Batch.strays
  simp only [List.mem_map, List.mem_filter, bne_iff_ne]
  constructor
  · rintro ⟨⟨payload, index⟩, ⟨listed, differs⟩, rfl⟩
    exact ⟨payload, List.mem_zipIdx_iff_getElem?.mp listed, differs, rfl⟩
  · rintro ⟨payload, found, differs, isError⟩
    refine ⟨(payload, failure.index), ⟨List.mem_zipIdx_iff_getElem?.mpr found, differs⟩, ?_⟩
    rw [← isError]

/-- A summary lists the objects that cannot be scored, each by the number of its line. -/
theorem mem_listing_iff
    (accepts : (numberedLines text).mapM (linePayload workspace) = .ok payloads)
    (reports : Batch.Reports (workspace.job settings id) rows payloads report) {number : Nat}
    {error : ScoringError} : (number, error) ∈ report.listing ↔
      ∃ object : ObjectLine text, object.Fails workspace error ∧ object.number = number := by
  unfold BatchReport.listing
  rw [reports.failures_eq, List.mem_map]
  constructor
  · rintro ⟨failure, listed, same⟩
    obtain ⟨rfl, rfl⟩ := Prod.mk.inj same
    obtain ⟨payload, found, strays⟩ := mem_strays_iff.mp listed
    obtain ⟨object, numbered, reads⟩ := (getElem?_payloads accepts).mp found
    exact ⟨object, ⟨payload, reads, unscored_iff.mpr strays⟩, numbered⟩
  · rintro ⟨object, ⟨payload, reads, fails⟩, rfl⟩
    obtain ⟨index, numbered⟩ : ∃ index, object.number = index + 1 := ⟨_, rfl⟩
    have found := (getElem?_payloads accepts).mpr ⟨object, numbered, reads⟩
    refine ⟨⟨index, error⟩, mem_strays_iff.mpr ⟨payload, found, unscored_iff.mp fails⟩, ?_⟩
    rw [numbered]

/-- What a summary says of an object that failed. -/
def listingText (entry : Nat × ScoringError) : String :=
  s!"  line {entry.1}: {entry.2.message}\n"

/-- A summary shows the list between other lines. -/
theorem summary_shows (settings : Settings) (objects written nanos : Nat) (report : BatchReport) :
    ∃ head foot, summary settings objects written nanos report =
      head ++ String.join (report.listing.map listingText) ++ foot := by
  unfold summary BatchReport.listing
  rw [List.map_map, String.append_assoc]
  exact ⟨_, _, rfl⟩

end

/-! ## The numbers of a batch -/

/-- The numbers that a batch reports, for any file of objects. The position of a line counts the
line feeds before it. If the batch stops at a line, that is the first one that is no JSON or no
payload, and the number that its message gives falls short of the position of this line by the blank
lines before it. If all lines are payloads, the batch is scored, and its summary lists exactly the
objects that cannot be scored, with numbers that fall short of the positions of their lines
likewise. So a number is the position of its line exactly if no blank line stands before that line.
-/
theorem reported_numbers {σ : Type} (host : Host (StateM σ)) (settings : Settings)
    (inputs : Inputs) (path : String) (state : σ) :
    (∀ text (object : ObjectLine text), ∃ before after,
      text.toList = before ++ object.line.toList ++ after ∧
      StandsBetween before object.line.toList after ∧ before.count '\n' + 1 = object.position) ∧
    (∀ (fault : LineFault) number, ∃ reason : String,
      (fault.failure number).message = s!"Line {number} is not {reason}") ∧
    (∀ out fault number, ((batch host settings inputs path out).run.run state).1 =
        .error (fault.failure number) ↔
      ∃ workspace text, Reads host settings inputs path state workspace text ∧
        ∃ object : ObjectLine text, object.FirstRefused workspace fault ∧
          number + object.blanksBefore = object.position) ∧
    ∀ workspace text, Reads host settings inputs path state workspace text →
      (∀ object : ObjectLine text, ∃ payload, workspace.readLine object.line = .ok payload) →
      ∃ payloads id,
        (∃ report, Batch.Reports (workspace.job settings id) workspace.ingest.rows payloads report ∧
          Presents host state settings inputs path payloads.length report) ∧
        ∀ report, Batch.Reports (workspace.job settings id) workspace.ingest.rows payloads report →
          (∀ written nanos, ∃ head foot, summary settings payloads.length written nanos report =
            head ++ String.join (report.listing.map listingText) ++ foot) ∧
          ∀ number error, (number, error) ∈ report.listing ↔ ∃ object : ObjectLine text,
            object.Fails workspace error ∧ number + object.blanksBefore = object.position := by
  refine ⟨fun _ => ObjectLine.exists_standsBetween, LineFault.message_failure, ?_, ?_⟩
  · intro out fault number
    rw [batch_eq_error_iff]
    simp only [ObjectLine.number_eq_iff]
  · intro workspace text reads accepted
    cases accepts : (numberedLines text).mapM (linePayload workspace) with
    | error failure =>
      obtain ⟨object, fault, isFirst, -⟩ := mapM_numberedLines_eq_error.mp accepts
      obtain ⟨payload, isPayload⟩ := accepted object
      cases isPayload.symm.trans isFirst.refused
    | ok payloads =>
      have calm := reads.failures_eq
      obtain ⟨loaded, after, loads, has⟩ := reads
      obtain ⟨id, stamps, presents⟩ := batch_of_accepted loads has accepts
      refine ⟨payloads, id, ⟨_, .of_run _ ⟨rfl, calm⟩ (fun _ => rfl) stamps payloads, presents⟩, ?_⟩
      intro report reports
      refine ⟨fun written nanos => summary_shows settings _ written nanos report, ?_⟩
      intro number error
      rw [mem_listing_iff accepts reports]
      simp only [ObjectLine.number_eq_iff]

end Cli

namespace Shop

open Cli

/-- A desk that has a text of orders, too. -/
def counter (model : DataModel) (orders : String) : Host (StateM Unit) :=
  { desk model with readFile := fun path =>
      if path = "orders.ndjson" then pure (.ok orders) else (desk model).readFile path }

theorem reads_counter {model : DataModel} (isPassed : passes model = true) (orders : String) :
    ∃ definition workspace, definition.triggerTable = "orders" ∧
      workspace.Ready model definition .empty ∧
      Reads (counter model orders) settings inputs "orders.ndjson" () workspace orders := by
  obtain ⟨definition, isOrders, checked⟩ := checked_of_passes isPassed
  have checkedToo :
      Checked (counter model orders) () inputs Stamp.numbered model definition .empty :=
    ⟨checked.givesStamps, checked.readsModel, checked.readsDefinition, checked.valid,
      checked.readsRows⟩
  obtain ⟨workspace, loads, -, ready⟩ := load_of_checked checkedToo attempted_settings
  exact ⟨definition, workspace, isOrders, ready, (), (), loads, rfl⟩

/-- The only object of a text whose other line is blank. -/
theorem object_afterBlank {text line : String} (lines : textLines text = ["", line])
    (object : ObjectLine text) : object.place = 1 ∧ object.line = line := by
  obtain ⟨place, shown, found, notBlank⟩ := object
  rw [lines] at found
  match place, found with
  | 0, found =>
    cases found
    exact absurd notBlank (by decide)
  | 1, found =>
    cases found
    exact ⟨rfl, rfl⟩

/-- The line of an order that is no JSON, after a blank line. -/
def scrawl : ObjectLine "\nx\n" := ⟨1, "x", by decide +kernel, by decide +kernel⟩

theorem scrawl_firstRefused (workspace : Workspace) : scrawl.FirstRefused workspace .noJson := by
  have noJson : Json.ofText? scrawl.line = none := by decide +kernel
  refine ⟨by rw [Workspace.readLine, noJson], fun earlier isEarlier => ?_⟩
  have lines : textLines "\nx\n" = ["", "x"] := by decide +kernel
  have samePlace : earlier.place = scrawl.place := (object_afterBlank lines earlier).1
  exact absurd (Nat.lt_of_succ_lt_succ isEarlier) (by rw [samePlace]; exact Nat.lt_irrefl _)

/-- The scrawl stands at the second position, but the batch that stops at it names the first line:
the blank line before it is not counted. -/
theorem misnumbered_line :
    ∃ workspace,
      Reads (counter named "\nx\n") settings inputs "orders.ndjson" () workspace "\nx\n" ∧
      scrawl.FirstRefused workspace .noJson ∧ scrawl.position = 2 ∧
      ((Cli.batch (counter named "\nx\n") settings inputs "orders.ndjson" none).run.run ()).1 =
        .error (.lineJson 1) ∧
      (Failure.lineJson 1).message = "Line 1 is not valid JSON: not a JSON value" := by
  obtain ⟨definition, workspace, -, -, reads⟩ := reads_counter passes_named "\nx\n"
  have isFirst := scrawl_firstRefused workspace
  have numbered : scrawl.number = 1 := by decide +kernel
  exact ⟨workspace, reads, isFirst, rfl,
    batch_eq_error_iff.mpr ⟨workspace, _, reads, scrawl, isFirst, numbered⟩, by decide +kernel⟩

/-- The order, after a blank line. -/
def lateOrders : String := "\n" ++ orderText ++ "\n"

theorem lines_lateOrders : textLines lateOrders = ["", orderText] := by decide +kernel

def lateOrder : ObjectLine lateOrders :=
  ⟨1, orderText, by rw [lines_lateOrders]; rfl, by decide +kernel⟩

/-- With the model in which the order carries another name, the summary lists the late order as the
first line, too. -/
theorem reported_numbers_late :
    ∃ workspace count report error,
      Reads (counter misnamed lateOrders) settings inputs "orders.ndjson" () workspace lateOrders ∧
      Presents (counter misnamed lateOrders) () settings inputs "orders.ndjson" count report ∧
      lateOrder.Fails workspace error ∧ lateOrder.position = 2 ∧ (1, error) ∈ report.listing := by
  obtain ⟨definition, workspace, isOrders, ready, reads⟩ := reads_counter passes_misnamed lateOrders
  have stored : misnamed.tables.get? definition.triggerTable = some (Table.named "purchases") := by
    rw [isOrders]
    rfl
  obtain ⟨raw, payload, parses, accepts⟩ := accepted_order ready stored
  have isOrder : workspace.readLine orderText = .ok payload := by
    rw [Workspace.readLine, parses]
    dsimp only
    rw [accepts]
    rfl
  have accepted (object : ObjectLine lateOrders) :
      ∃ payload, workspace.readLine object.line = .ok payload :=
    ⟨payload, (object_afterBlank lines_lateOrders object).2 ▸ isOrder⟩
  obtain ⟨payloads, id, ⟨report, reports, presents⟩, lists⟩ :=
    (reported_numbers (counter misnamed lateOrders) settings inputs "orders.ndjson" ()).2.2.2
      workspace lateOrders reads accepted
  have differs : payload.table ≠ workspace.scenario.triggerTable := by
    rw [ready.table_of_payload stored accepts, ready.triggered, isOrders]
    decide
  have fails : lateOrder.Fails workspace (.wrongTable workspace.scenario.id
      workspace.scenario.triggerTable payload.table) :=
    ⟨payload, isOrder, unscored_iff.mpr ⟨differs, rfl⟩⟩
  have blanks : lateOrder.blanksBefore = 1 := by decide +kernel
  refine ⟨workspace, payloads.length, report, _, reads, presents, fails, rfl, ?_⟩
  exact ((lists report reports).2 1 _).mpr ⟨lateOrder, fails, by rw [blanks]; rfl⟩

end Shop

end RiskScoring
