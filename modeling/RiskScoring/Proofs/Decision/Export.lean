import RiskScoring.Decision.Export
import RiskScoring.Proofs.Json.Identifiers
import RiskScoring.Proofs.Json.OneLine

/-!
# Exports are read back

An export holds one decision to a line. Whatever the names, descriptions, messages and data of its
decisions are, its lines are those of its decisions, and each line is read as the decision that it
was written for.

* `Decision.reads`: a decision is read back from its JSON.
* `Decision.numbers_toJson`: the numbers of a decision are integers or stand in the data.
* `Decision.export_reads_back`: the statement for whole exports.
-/

namespace RiskScoring

/-! ## Decoding -/

/-- A member that may be missing, and is left out if it is. -/
theorem Record.Holds.omittable {α : Type} {key : String} {decoder : Decoder α} {encode : α → Json}
    {value : Option α} (reads : ∀ present ∈ value, decoder.Reads (encode present) present)
    (notNull : ∀ present ∈ value, encode present ≠ .null) :
    (Record.omittable key decoder).Holds (Json.optionalMember key encode value) value := by
  cases value with
  | none => exact missing
  | some present => exact one (Decoder.option_reads (reads present rfl) (notNull present rfl))

theorem Outcome.reads (outcome : Outcome) : decoder.Reads outcome.toJson outcome :=
  Decoder.name_reads (by cases outcome <;> decide)

theorem DecisionFlaw.reads (flaw : DecisionFlaw) : decoder.Reads flaw.toJson flaw :=
  Decoder.name_reads (by cases flaw; decide)

/-- A failure is read back from its code. -/
theorem RuleFailure.reads (failure : RuleFailure) : decoder.Reads failure.toJson failure := by
  intro budget fits
  have known : ofCode? failure.code = some failure := by cases failure <;> decide
  have code := Decoder.uint16_reads failure.code fits
  simp only [decoder, toJson, code, bind, Except.bind, known]
  rfl

open Record.Holds (cons member omittable)

theorem RuleSnapshot.reads (rule : RuleSnapshot) : decoder.Reads rule.toJson rule := by
  have members : record.Holds _ rule :=
    .map (cons rule.id.reads (by decide)
      (cons (Decoder.string_reads rule.name) (by decide)
        (cons (Decoder.string_reads rule.description) (by decide)
          (member (Decoder.int64_reads rule.scoreModifier))))) _
  exact members.reads

/-- A rule's result is read back, with or without a failure. -/
theorem RuleExecution.reads (execution : RuleExecution) :
    decoder.Reads execution.toJson execution := by
  have failure : (Record.omittable "error" RuleFailure.decoder).Holds _ execution.failure :=
    omittable (fun failure _ => failure.reads) (fun _ _ => nofun)
  have message : (Record.omittable "errorMessage" Decoder.string).Holds _ execution.message :=
    omittable (fun message _ => Decoder.string_reads message) (fun _ _ => nofun)
  have members : record.Holds _ execution :=
    .map (cons execution.rule.reads (by decide)
      (cons (Decoder.bool_reads execution.result) (by decide)
        (cons (Decoder.int64_reads execution.contribution) (by decide)
          (failure.both message (by decide))))) _
  exact members.reads

theorem ClientObject.reads {object : ClientObject} (distinct : object.data.KeysDistinct) :
    decoder.Reads object.toJson object := by
  have members : record.Holds _ object :=
    .map (cons (Decoder.string_reads object.table) (by decide)
      (member (Decoder.json_reads distinct))) _
  exact members.reads

namespace Decision

/-- A decision is read back from its JSON. -/
theorem reads {decision : Decision} (distinct : decision.object.data.KeysDistinct)
    (readsBack : Instant.ofText? decision.createdAt.text = some decision.createdAt) :
    decoder.Reads decision.toJson decision := by
  have executions : (Decoder.list RuleExecution.decoder).Reads
      (.array (decision.executions.map RuleExecution.toJson)) decision.executions :=
    Decoder.list_reads fun execution _ => execution.reads
  have flaw : (Record.omittable "errorCode" DecisionFlaw.decoder).Holds _ decision.flaw :=
    omittable (fun flaw _ => flaw.reads) (fun _ _ => nofun)
  have batch : (Record.omittable "scheduledExecutionId" Uuid.decoder).Holds _ decision.batch :=
    omittable (fun batch _ => batch.reads) (fun _ _ => nofun)
  have members : record.Holds _ decision :=
    .map (cons decision.id.reads (by decide)
      (cons (Instant.reads readsBack) (by decide)
        (cons decision.organization.reads (by decide)
          (cons (ClientObject.reads distinct) (by decide)
            (cons decision.scenario.reads (by decide)
              (cons decision.iteration.reads (by decide)
                (cons (Decoder.string_reads decision.scenarioName) (by decide)
                  (cons (Decoder.string_reads decision.scenarioDescription) (by decide)
                    (cons (Decoder.uint32_reads decision.version) (by decide)
                      (cons (Decoder.int64_reads decision.reviewThreshold) (by decide)
                        (cons (Decoder.int64_reads decision.rejectThreshold) (by decide)
                          (cons (Decoder.int64_reads decision.score) (by decide)
                            (cons decision.outcome.reads (by decide)
                              (cons executions (by decide)
                                (flaw.both batch (by decide)))))))))))))))) _
  exact members.reads

end Decision

/-! ## Numbers, depth and keys -/

section

variable {P : JsonNumber → Prop} (integers : ∀ value fits, P (.int value fits))

include integers

theorem RuleExecution.forall_numbers (execution : RuleExecution) :
    ∀ number ∈ execution.toJson.numbers, P number := by
  have failure : ∀ number ∈ Json.numbersMembers
      (Json.optionalMember "error" RuleFailure.toJson execution.failure), P number := by
    cases execution.failure with
    | none => exact List.forall_mem_nil P
    | some failure => exact List.forall_mem_singleton.mpr (integers _ _)
  have message : ∀ number ∈ Json.numbersMembers
      (Json.optionalMember "errorMessage" Json.string execution.message), P number := by
    cases execution.message with
    | none => exact List.forall_mem_nil P
    | some message => exact List.forall_mem_nil P
  simp only [toJson, RuleSnapshot.toJson, Uuid.toJson, Json.ofInt64, Json.numbers,
    Json.numbersMembers_append, Json.numbersMembers, List.nil_append, List.append_nil,
    List.forall_mem_append, List.forall_mem_singleton]
  exact ⟨⟨⟨integers _ _, integers _ _⟩, failure⟩, message⟩

/-- The numbers of a decision are integers or stand in the data. -/
theorem Decision.forall_numbers {decision : Decision}
    (data : ∀ number ∈ decision.object.data.numbers, P number) :
    ∀ number ∈ decision.toJson.numbers, P number := by
  have executions : ∀ number ∈ Json.numbersItems
      (decision.executions.map RuleExecution.toJson), P number := by
    induction decision.executions with
    | nil => exact List.forall_mem_nil P
    | cons execution rest ih =>
      exact List.forall_mem_append.mpr ⟨execution.forall_numbers integers, ih⟩
  have flaw : Json.numbersMembers
      (Json.optionalMember "errorCode" DecisionFlaw.toJson decision.flaw) = [] := by
    cases decision.flaw <;> rfl
  have batch : Json.numbersMembers
      (Json.optionalMember "scheduledExecutionId" Uuid.toJson decision.batch) = [] := by
    cases decision.batch <;> rfl
  rw [toJson, Json.numbers, Json.numbersMembers_append, Json.numbersMembers_append, flaw, batch,
    List.append_nil, List.append_nil, Json.forall_numbersMembers]
  have string (text : String) : ∀ number ∈ (Json.string text).numbers, P number :=
    List.forall_mem_nil P
  have word (value : Int64) : ∀ number ∈ (Json.ofInt64 value).numbers, P number :=
    List.forall_mem_singleton.mpr (integers _ _)
  have version : ∀ number ∈ (Json.ofUInt32 decision.version).numbers, P number :=
    List.forall_mem_singleton.mpr (integers _ _)
  have object : ∀ number ∈ decision.object.toJson.numbers, P number := by
    simp only [ClientObject.toJson, Json.numbers, Json.numbersMembers, List.nil_append,
      List.append_nil]
    exact data
  simp only [List.forall_mem_cons]
  exact ⟨string _, string _, string _, object, string _, string _, string _, string _, version,
    word _, word _, word _, string _, executions, List.forall_mem_nil _⟩

end

theorem RuleExecution.depth_toJson (execution : RuleExecution) : execution.toJson.depth = 2 := by
  rcases execution with ⟨rule, result, contribution, _ | failure, _ | message⟩ <;> rfl

theorem RuleExecution.keysDistinct_toJson (execution : RuleExecution) :
    execution.toJson.KeysDistinct := by
  rcases execution with ⟨rule, result, contribution, _ | failure, _ | message⟩
  all_goals
    simp [toJson, RuleSnapshot.toJson, Uuid.toJson, Json.ofInt64, Json.optionalMember,
      RuleFailure.toJson, Json.ofUInt16, Json.KeysDistinct, Json.KeysDistinctMembers]

theorem Decision.keysDistinct_toJson {decision : Decision}
    (distinct : decision.object.data.KeysDistinct) : decision.toJson.KeysDistinct := by
  have executions : Json.KeysDistinctItems (decision.executions.map RuleExecution.toJson) := by
    induction decision.executions with
    | nil => trivial
    | cons execution rest ih => exact ⟨execution.keysDistinct_toJson, ih⟩
  cases flaw : decision.flaw <;> cases batch : decision.batch
  all_goals
    simp [toJson, flaw, batch, ClientObject.toJson, Uuid.toJson, Instant.toJson, Outcome.toJson,
      DecisionFlaw.toJson, Json.ofInt64, Json.ofUInt32, Json.optionalMember, Json.KeysDistinct,
      Json.KeysDistinctMembers, distinct, executions]

namespace Decision

/-- A decision nests two levels more than its data. -/
theorem depth_toJson {decision : Decision} (shallow : decision.object.data.depth ≤ 125) :
    decision.toJson.depth ≤ Document.nestingLimit := by
  have executions : Json.depthItems (decision.executions.map RuleExecution.toJson) ≤ 2 := by
    induction decision.executions with
    | nil => exact Nat.zero_le 2
    | cons execution rest ih =>
      rw [List.map_cons, Json.depthItems, execution.depth_toJson]
      exact Nat.max_le.mpr ⟨Nat.le_refl 2, ih⟩
  have flaw : Json.depthMembers
      (Json.optionalMember "errorCode" DecisionFlaw.toJson decision.flaw) = 0 := by
    cases decision.flaw <;> rfl
  have batch : Json.depthMembers
      (Json.optionalMember "scheduledExecutionId" Uuid.toJson decision.batch) = 0 := by
    cases decision.batch <;> rfl
  rw [toJson, Json.depth, Json.depthMembers_append, Json.depthMembers_append, flaw, batch]
  simp only [Json.depthMembers, Json.depth, ClientObject.toJson, Uuid.toJson, Instant.toJson,
    Outcome.toJson, Json.ofUInt32, Json.ofInt64, Document.nestingLimit]
  omega

end Decision

/-! ## What is written -/

/-- The JSON of a rule's result tells of a failure by its code and its message, and of none by
leaving both out. -/
structure RuleExecution.WrittenAs (execution : RuleExecution) (json : Json) : Prop where
  failure : json.get? "error" = execution.failure.map fun failure => Json.ofUInt16 failure.code
  message : json.get? "errorMessage" = execution.message.map Json.string

/-- The JSON of a decision leaves out what is absent, and so does that of its rules' results. -/
structure Decision.WrittenAs (decision : Decision) (json : Json) : Prop where
  flaw : json.get? "errorCode" = decision.flaw.map fun flaw => Json.string flaw.name
  batch : json.get? "scheduledExecutionId" = decision.batch.map fun id => Json.string id.text
  executions : ∃ items, json.get? "ruleExecutions" = some (.array items) ∧
    List.Forall₂ RuleExecution.WrittenAs decision.executions items

theorem RuleExecution.writtenAs (execution : RuleExecution) :
    execution.WrittenAs execution.toJson := by
  rcases execution with ⟨rule, result, contribution, _ | failure, _ | message⟩
  all_goals exact ⟨rfl, rfl⟩

namespace Decision

theorem writtenAs (decision : Decision) : decision.WrittenAs decision.toJson := by
  have executions : List.Forall₂ RuleExecution.WrittenAs decision.executions
      (decision.executions.map RuleExecution.toJson) := by
    induction decision.executions with
    | nil => exact .nil
    | cons execution rest ih => exact .cons execution.writtenAs ih
  refine ⟨?_, ?_, _, rfl, executions⟩
  · cases flaw : decision.flaw <;> cases batch : decision.batch
    all_goals
      rw [toJson, flaw, batch]
      rfl
  · cases flaw : decision.flaw <;> cases batch : decision.batch
    all_goals
      rw [toJson, flaw, batch]
      rfl

/-! ## Exports -/

theorem visible_line (decision : Decision) : ∀ c ∈ decision.line.toList, Visible c :=
  decision.toJson.visible_compact

/-- The line of a decision is read as the decision, and as the JSON of the decision. -/
theorem decode_line {decision : Decision} (distinct : decision.object.data.KeysDistinct)
    (shallow : decision.object.data.depth ≤ 125)
    (numbers : ∀ number ∈ decision.object.data.numbers, number.ReadsBack)
    (time : Instant.ofText? decision.createdAt.text = some decision.createdAt) :
    Decoder.text decoder decision.line = .ok decision ∧
      Json.ofText? decision.line = some decision.toJson := by
  have readBack : ∀ number ∈ decision.toJson.numbers, number.ReadsBack :=
    forall_numbers (fun _ fits => JsonNumber.readsBack_int fits) numbers
  have depth := depth_toJson shallow
  refine ⟨Decoder.text_compact (reads distinct time) depth readBack, ?_⟩
  rw [Json.ofText?, line, Document.read_compact _ readBack]
  show (Source.within _ _).toJson? = _
  rw [Source.toJson?_within _ _ (keysDistinct_toJson distinct),
    if_pos (Source.allows_some.mpr depth)]

/-- However much room there is, an export that goes through writes all decisions. -/
theorem exportLines_eq_ok {room : Option Nat} {decisions : List Decision} {count : Nat}
    {text : String} (succeeds : exportLines room decisions = .ok (count, text)) :
    count = decisions.length ∧ text = exportText decisions := by
  cases room with
  | none =>
    cases succeeds
    exact ⟨rfl, rfl⟩
  | some room =>
    obtain ⟨_, -, written⟩ := Except.bind_eq_ok_iff.mp succeeds
    cases written
    exact ⟨rfl, rfl⟩

theorem textLines_exportText (decisions : List Decision) :
    textLines (exportText decisions) = decisions.map line := by
  have visible : ∀ text ∈ decisions.map line, ∀ c ∈ text.toList, Visible c :=
    List.forall_mem_map.mpr fun decision _ => decision.visible_line
  rw [← textLines_join visible, List.map_map]
  rfl

theorem utf8Bytes_exportText (decisions : List Decision) :
    utf8Bytes (exportText decisions) =
      decisions.flatMap fun decision => utf8Bytes decision.line ++ [lineFeed] := by
  induction decisions with
  | nil => rfl
  | cons decision rest ih =>
    have goesOn : exportText (decision :: rest) = decision.line ++ "\n" ++ exportText rest := by
      rw [exportText, List.map_cons, String.join_cons]
      rfl
    rw [goesOn, utf8Bytes_append, utf8Bytes_append, ih]
    rfl

/-- There is one line feed for each decision. -/
theorem count_exportText (decisions : List Decision) :
    (utf8Bytes (exportText decisions)).count lineFeed = decisions.length := by
  rw [utf8Bytes_exportText]
  induction decisions with
  | nil => rfl
  | cons decision rest ih =>
    have none : (utf8Bytes decision.line).count lineFeed = 0 :=
      List.count_eq_zero.mpr (lineFeed_notMem_bytes decision.visible_line)
    rw [List.flatMap_cons, List.count_append, List.count_append, none, ih, List.length_cons]
    simp [Nat.add_comm]

/-- An export counts its decisions and writes the bytes of one line after the other, each ended by
the only line feed in it. The lines are read as the decisions that were exported: every string,
whatever its characters, and the data as a whole are the same, failures are told by their codes, and
what is absent is left out. Of texts it is only assumed that those of times and of doubles in the
data are read back; the data of a decision may nest 125 arrays and objects, and no object in them
has a key twice. -/
theorem export_reads_back {decisions : List Decision}
    (distinct : ∀ decision ∈ decisions, decision.object.data.KeysDistinct)
    (shallow : ∀ decision ∈ decisions, decision.object.data.depth ≤ 125)
    (numbers : ∀ decision ∈ decisions, ∀ number ∈ decision.object.data.numbers, number.ReadsBack)
    (times : ∀ decision ∈ decisions,
      Instant.ofText? decision.createdAt.text = some decision.createdAt) :
    ∃ text, exportLines none decisions = .ok (decisions.length, text) ∧
      (∀ room count written, exportLines room decisions = .ok (count, written) →
        count = decisions.length ∧ written = text) ∧
      utf8Bytes text =
        (decisions.flatMap fun decision => utf8Bytes decision.line ++ [lineFeed]) ∧
      (∀ decision ∈ decisions, lineFeed ∉ utf8Bytes decision.line) ∧
      (utf8Bytes text).count lineFeed = decisions.length ∧
      textLines text = decisions.map line ∧
      (textLines text).map (Decoder.text decoder) = decisions.map .ok ∧
      ∀ decision ∈ decisions, ∃ json, Json.ofText? decision.line = some json ∧
        decision.WrittenAs json := by
  have decodes (decision : Decision) (listed : decision ∈ decisions) :=
    decode_line (distinct decision listed) (shallow decision listed) (numbers decision listed)
      (times decision listed)
  refine ⟨exportText decisions, rfl, fun _ _ _ => exportLines_eq_ok,
    utf8Bytes_exportText decisions, ?_, count_exportText decisions,
    textLines_exportText decisions, ?_, ?_⟩
  · exact fun decision _ => lineFeed_notMem_bytes decision.visible_line
  · rw [textLines_exportText, List.map_map]
    exact List.map_congr_left fun decision listed => (decodes decision listed).1
  · exact fun decision listed => ⟨_, (decodes decision listed).2, decision.writtenAs⟩

/-- A decision full of quotes and line breaks, with a rule that failed and a batch. -/
def broken : Decision where
  id := ⟨1⟩
  createdAt := ⟨1700000000, 123000000⟩
  organization := ⟨2⟩
  object := ⟨"transfers\n",
    .object [("\"\r\n", .array [.number (.float (-0.0) (by decide)), .string "\\\u0001é"]),
      ("", .null)]⟩
  scenario := ⟨3⟩
  iteration := ⟨4⟩
  scenarioName := "two\nlines"
  scenarioDescription := "\"quoted\""
  version := 1
  reviewThreshold := -5
  rejectThreshold := 9223372036854775807
  score := 0
  outcome := .review
  executions := [⟨⟨⟨5⟩, "ratio\r", "", 10⟩, false, 0, some .divisionByZero, some "0\n"⟩,
    ⟨⟨⟨6⟩, "amount", "", -5⟩, true, -5, none, none⟩]
  flaw := some .ruleFailed
  batch := some ⟨7⟩

/-- A decision without any of what may be absent. -/
def plain : Decision :=
  { broken with id := ⟨8⟩, executions := [], flaw := none, batch := none }

/-- The two decisions make two lines, and both are read back. -/
theorem export_reads_back_broken : ∃ text,
    exportLines none [broken, plain] = .ok (2, text) ∧
    (utf8Bytes text).count lineFeed = 2 ∧
    (textLines text).map (Decoder.text decoder) = [.ok broken, .ok plain] := by
  have data : ∀ decision ∈ [broken, plain], decision.object.data = broken.object.data :=
    List.forall_mem_cons.mpr ⟨rfl, List.forall_mem_singleton.mpr rfl⟩
  have time : Instant.ofText? broken.createdAt.text = some broken.createdAt := by
    with_unfolding_all rfl
  have exported := @export_reads_back [broken, plain]
    (fun decision listed => by
      rw [data decision listed]
      simp [broken, Json.KeysDistinct, Json.KeysDistinctMembers, Json.KeysDistinctItems])
    (fun decision listed => by
      rw [data decision listed]
      decide)
    (fun decision listed => by
      rw [data decision listed]
      exact List.forall_mem_singleton.mpr (by with_unfolding_all rfl))
    (List.forall_mem_cons.mpr ⟨time, List.forall_mem_singleton.mpr time⟩)
  obtain ⟨text, written, -, -, -, lines, -, readBack, -⟩ := exported
  exact ⟨text, written, lines, readBack⟩

end Decision

end RiskScoring
