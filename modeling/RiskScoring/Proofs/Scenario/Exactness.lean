import RiskScoring.Proofs.Evaluation.Scoped
import RiskScoring.Proofs.Formula.Parts
import RiskScoring.Proofs.Model.Links
import RiskScoring.Scenario.Publisher

/-!
# What the validation of iterations accepts

* `FieldRead.Names`: the field that a read names.
* `FieldRead.resolve_eq_ok`: the validation and the accessor find the field that the read names.
* `Iteration.WellFormed`, `Iteration.FitsModel`: what is asked of an iteration without a data model,
  and what with one.
* `Iteration.validation_exact`: the validation reports no problem exactly if that is fulfilled.
-/

namespace RiskScoring

/-! ## Fields of a data model -/

/-- The field that a read names on an object of a table: one of the table itself, or one of the
table that a path of links leads to, which may not be empty. -/
inductive FieldRead.Names (model : DataModel) (trigger : String) : FieldRead → Field → Prop
  | payload {type : FieldType} {name : String} {table : Table} {field : Field}
    (found : model.tables.get? trigger = some table)
    (declared : table.fields.get? name = some field) :
    Names model trigger (.payload type name) field
  | stored {type : FieldType} {path : List String} {name : String} {table last : Table}
    {field : Field} (found : model.tables.get? trigger = some table) (nonempty : path ≠ [])
    (reaches : model.Reaches table path last) (declared : last.fields.get? name = some field) :
    Names model trigger (.stored type path name) field

namespace FieldRead

variable {read : FieldRead} {model : DataModel} {trigger : String}

/-- A read is resolved to the field that it names. -/
theorem resolve_eq_ok {field : Field} :
    read.resolve model trigger = .ok field ↔ read.Names model trigger field := by
  cases read with
  | payload type name =>
    refine Except.bind_eq_ok_iff.trans ?_
    simp only [DataModel.table_eq_ok, Table.field_eq_ok]
    constructor
    · rintro ⟨table, found, declared⟩
      exact .payload found declared
    · rintro ⟨found, declared⟩
      exact ⟨_, found, declared⟩
  | stored type path name =>
    refine Except.bind_eq_ok_iff.trans ?_
    simp only [DataModel.follow_eq_ok, Table.field_eq_ok]
    constructor
    · rintro ⟨last, ⟨nonempty, table, found, reaches⟩, declared⟩
      exact .stored found nonempty reaches declared
    · rintro (_ | ⟨found, nonempty, reaches, declared⟩)
      exact ⟨_, ⟨nonempty, _, found, reaches⟩, declared⟩

theorem fits_iff :
    read.Fits model trigger ↔
      ∃ field, read.Names model trigger field ∧ field.dataType.accepts read.type = true := by
  simp only [Fits, resolve_eq_ok]

/-- The accessor allows the read of a stored field exactly if it fits. -/
theorem check_eq_ok {scope : Ingest.Scope} {type : FieldType} {path : List String} {name : String} :
    scope.check path name type = .ok () ↔
      (FieldRead.stored type path name).Fits scope.model scope.payload.table := by
  unfold Ingest.Scope.check Fits
  simp only [resolve]
  cases scope.model.resolve scope.payload.table path name with
  | error error => simp
  | ok field => simp [FieldRead.type]

end FieldRead

/-! ## Iterations -/

namespace ValidationReport

/-- A report is valid exactly if it has nothing to say. -/
theorem messages_eq_nil {report : ValidationReport} :
    report.messages = [] ↔ report.isValid = true := by
  unfold messages isValid ruleMessages
  simp only [List.append_eq_nil_iff, List.map_eq_nil_iff, List.flatMap_eq_nil_iff,
    Bool.and_eq_true, List.isEmpty_iff, List.all_eq_true]

end ValidationReport

namespace Iteration

/-- What is asked of an iteration without regard to a data model. -/
structure WellFormed (iteration : Iteration) : Prop where
  thresholds : iteration.reviewThreshold ≤ iteration.rejectThreshold
  /-- No two rules have the same display order. -/
  displayOrders : iteration.rules.Pairwise fun rule other => rule.displayOrder ≠ other.displayOrder
  /-- Every formula is true or false. -/
  isBool : ∀ formula, iteration.HasFormula formula → formula.returnType = .bool
  /-- Every node of every formula is in order. -/
  nodes : ∀ formula, iteration.HasFormula formula → ∀ part, formula.Contains part → part.NodeSound

/-- What is asked of an iteration whose formulas are evaluated on objects of a table. -/
structure FitsModel (iteration : Iteration) (model : DataModel) (trigger : String) : Prop where
  table : ∃ table, model.tables.get? trigger = some table
  /-- Every read in a formula names a field that can be read as it declares. -/
  reads : ∀ formula, iteration.HasFormula formula → ∀ part read, formula.Contains part →
    part.read? = some read →
    ∃ field, read.Names model trigger field ∧ field.dataType.accepts read.type = true

variable {iteration : Iteration} {model : DataModel} {trigger : String}

theorem validateStructure_iff :
    iteration.validateStructure.isValid = true ↔ iteration.WellFormed := by
  rw [validateStructure_isValid]
  simp only [Expression.validate_iff]
  constructor
  · rintro ⟨formulas, thresholds, distinct⟩
    exact ⟨thresholds, List.pairwise_map.mp distinct,
      fun formula occurs => (formulas formula occurs).2,
      fun formula occurs => (formulas formula occurs).1⟩
  · rintro ⟨thresholds, distinct, isBool, nodes⟩
    exact ⟨fun formula occurs => ⟨nodes formula occurs, isBool formula occurs⟩, thresholds,
      List.pairwise_map.mpr distinct⟩

theorem validateAgainst_iff :
    (iteration.validateAgainst model trigger).isValid = true ↔
      iteration.WellFormed ∧ iteration.FitsModel model trigger := by
  constructor
  · intro valid
    refine ⟨validateStructure_iff.mp (validateStructure_of_validateAgainst valid),
      (validateAgainst_isValid.mp valid).1, ?_⟩
    intro formula occurs part read inside reads
    obtain ⟨-, -, fits⟩ := formula_of_valid valid occurs
    exact FieldRead.fits_iff.mp (fits read ((formula.mem_reads).mpr ⟨part, inside, reads⟩))
  · rintro ⟨wellFormed, table, reads⟩
    obtain ⟨own, checked⟩ := reportWith_isValid.mp (validateStructure_iff.mpr wellFormed)
    refine validateAgainst_isValid.mpr ⟨table, reportWith_isValid.mpr ⟨own, ?_⟩⟩
    intro formula occurs
    refine List.append_eq_nil_iff.mpr ⟨checked formula occurs, ?_⟩
    refine Expression.readProblems_eq_nil.mpr fun read isRead => FieldRead.fits_iff.mpr ?_
    obtain ⟨part, inside, reads'⟩ := (formula.mem_reads).mp isRead
    exact reads formula occurs part read inside reads'

/-- What is valid may be published. -/
theorem checkPublishable_of_valid (valid : iteration.validateStructure.isValid = true) :
    iteration.checkPublishable = .ok () := by
  simp only [checkPublishable, if_pos valid]

/-- For every iteration, data model and trigger table: the validation finds no problem, and has no
message, exactly if the trigger table is there, the thresholds are in order, no two rules have one
display order, every formula is true or false, every node of every formula is in order, and every
read in a formula names a field that can be read as it declares. The validation without a data model
asks for the conditions that mention none, so what is valid against a data model may be published. A
stored field is read without a problem exactly if the accessor allows the read on an object of the
trigger table. -/
theorem validation_exact (iteration : Iteration) (model : DataModel) (trigger : String) :
    ((iteration.validateAgainst model trigger).isValid = true ↔
      iteration.WellFormed ∧ iteration.FitsModel model trigger) ∧
    ((iteration.validateAgainst model trigger).messages = [] ↔
      (iteration.validateAgainst model trigger).isValid = true) ∧
    (iteration.validateStructure.isValid = true ↔ iteration.WellFormed) ∧
    ((iteration.validateAgainst model trigger).isValid = true →
      iteration.checkPublishable = .ok ()) ∧
    ∀ (scope : Ingest.Scope) (session : Ingest.Session) (type : FieldType) (path : List String)
      (name : String), scope.model = model → scope.payload.table = trigger →
      ((FieldRead.stored type path name).problem? model trigger = none ↔
        (scope.accessor.checkStored path name type).runFrom session = (.ok (), session)) := by
  refine ⟨validateAgainst_iff, ValidationReport.messages_eq_nil, validateStructure_iff, ?_, ?_⟩
  · intro valid
    exact checkPublishable_of_valid (validateStructure_of_validateAgainst valid)
  · rintro scope session type path name rfl rfl
    have checks : (scope.accessor.checkStored path name type).runFrom session =
        (scope.check path name type, session) := Reading.runFrom_liftExcept _ _
    rw [FieldRead.problem?_eq_none, ← FieldRead.check_eq_ok, checks]
    simp

end Iteration

namespace Shop

/-- The iteration with a rule whose formula reads a field without a name, below two operators. -/
def unnamed : Iteration :=
  { iteration with
    rules := [⟨⟨6⟩, 1, "unnamed", "", .not (some (.variadic .or [some (.payload .bool "")])), 1,
      ⟨0, 0⟩⟩] }

/-- The iteration is valid, so what it reads is in the model, it may be published, and the accessor
allows the read of the customer. With the rule it is not valid, so a condition fails. -/
theorem validation_exact_unnamed :
    let scope : Ingest.Scope := ⟨⟨3⟩, model, order⟩
    (iteration.WellFormed ∧ iteration.FitsModel model "orders") ∧
    iteration.checkPublishable = .ok () ∧
    (scope.accessor.checkStored ["customer"] "verified" .bool).runFrom session =
      (.ok (), session) ∧
    ¬ (unnamed.WellFormed ∧ unnamed.FitsModel model "orders") := by
  intro scope
  have isValid : (iteration.validateAgainst model "orders").isValid = true := by decide +kernel
  have notValid : (unnamed.validateAgainst model "orders").isValid = false := by decide +kernel
  have noProblem :
      (FieldRead.stored .bool ["customer"] "verified").problem? model "orders" = none := by
    decide +kernel
  obtain ⟨accepts, -, -, publishable, checks⟩ := Iteration.validation_exact iteration model "orders"
  obtain ⟨refuses, -⟩ := Iteration.validation_exact unnamed model "orders"
  refine ⟨accepts.mp isValid, publishable isValid,
    (checks scope session _ _ _ rfl rfl).mp noProblem, fun sound => ?_⟩
  have accepted := refuses.mpr sound
  rw [notValid] at accepted
  cases accepted

end Shop

end RiskScoring
