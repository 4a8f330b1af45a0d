import RiskScoring.Proofs.Formula.Validity
import RiskScoring.Scenario.Validation

/-!
# What a valid iteration is

* `Iteration.HasFormula`: the trigger condition and the formulas of the rules.
* `FieldRead.Fits`: the read refers to a field that can be read as it declares.
* `Iteration.validateStructure_isValid`: what the validation without a data model makes sure of.
* `Iteration.validateStructure_of_validateAgainst`: what is valid against a data model can be
  published.
* `Iteration.formula_of_valid`: in an iteration that is valid against a data model, every formula is
  a valid tree that is true or false, and all its reads fit.
-/

namespace RiskScoring

/-- The read refers to a field of the model that can be read as the declared type. -/
def FieldRead.Fits (read : FieldRead) (model : DataModel) (trigger : String) : Prop :=
  ∃ field, read.resolve model trigger = .ok field ∧ field.dataType.accepts read.type = true

theorem FieldRead.problem?_eq_none {read : FieldRead} {model : DataModel} {trigger : String} :
    read.problem? model trigger = none ↔ read.Fits model trigger := by
  unfold FieldRead.problem? FieldRead.Fits
  cases read.resolve model trigger with
  | error error => simp
  | ok field =>
    by_cases accepted : field.dataType.accepts read.type = true
    · simp [accepted]
    · simp [accepted]

namespace Expression

theorem structureProblems_eq_nil {formula : Expression} :
    formula.structureProblems = [] ↔ formula.validate = .ok () ∧ formula.returnType = .bool := by
  unfold structureProblems
  cases formula.validate with
  | error malformation => simp
  | ok checked => simp

theorem readProblems_eq_nil {formula : Expression} {model : DataModel} {trigger : String} :
    formula.readProblems model trigger = [] ↔
      ∀ read ∈ formula.reads, read.Fits model trigger := by
  unfold readProblems
  simp only [List.filterMap_eq_nil_iff, FieldRead.problem?_eq_none]

end Expression

namespace Iteration

/-- The formulas of an iteration: the trigger condition, and those of the rules. -/
def HasFormula (iteration : Iteration) (formula : Expression) : Prop :=
  formula = iteration.trigger ∨ ∃ rule ∈ iteration.rules, formula = rule.formula

/-- A report without problems has found none in any formula. -/
theorem check_of_valid {iteration : Iteration} {check : Expression → List FormulaProblem}
    (valid : (iteration.reportWith check).isValid = true) {formula : Expression}
    (occurs : iteration.HasFormula formula) : check formula = [] := by
  unfold ValidationReport.isValid reportWith at valid
  simp only [Bool.and_eq_true, List.isEmpty_iff, List.all_eq_true] at valid
  obtain ⟨⟨-, triggerValid⟩, rulesValid⟩ := valid
  rcases occurs with rfl | ⟨rule, listed, rfl⟩
  · exact triggerValid
  · refine rulesValid ⟨rule.id, rule.name, check rule.formula⟩ (List.mem_map.mpr ⟨rule, ?_, rfl⟩)
    exact List.mem_mergeSort.mpr listed

/-- A report is without problems if neither the iteration itself nor one of its formulas has one. -/
theorem reportWith_isValid {iteration : Iteration} {check : Expression → List FormulaProblem} :
    (iteration.reportWith check).isValid = true ↔
      iteration.ownProblems = [] ∧
        ∀ formula, iteration.HasFormula formula → check formula = [] := by
  constructor
  · intro valid
    refine ⟨?_, fun formula occurs => check_of_valid valid occurs⟩
    unfold ValidationReport.isValid reportWith at valid
    simp only [Bool.and_eq_true, List.isEmpty_iff] at valid
    exact valid.1.1
  · rintro ⟨own, checked⟩
    unfold ValidationReport.isValid reportWith
    simp only [Bool.and_eq_true, List.isEmpty_iff, List.all_eq_true]
    refine ⟨⟨own, checked _ (Or.inl rfl)⟩, ?_⟩
    intro report listed
    obtain ⟨rule, isRule, rfl⟩ := List.mem_map.mp listed
    exact checked _ (Or.inr ⟨rule, List.mem_mergeSort.mp isRule, rfl⟩)

/-- No display order is found twice exactly if none is there twice. -/
theorem repeatedOrder?_eq_none {seen orders : List UInt32} :
    repeatedOrder? seen orders = none ↔ orders.Nodup ∧ ∀ order ∈ orders, order ∉ seen := by
  induction orders generalizing seen with
  | nil => simp [repeatedOrder?]
  | cons order rest ih =>
    rw [repeatedOrder?, List.nodup_cons, List.forall_mem_cons]
    by_cases wasSeen : order ∈ seen
    · simp [wasSeen]
    · rw [if_neg wasSeen, ih]
      constructor
      · rintro ⟨distinct, fresh⟩
        refine ⟨⟨fun again => fresh order again List.mem_cons_self, distinct⟩, wasSeen, ?_⟩
        exact fun other listed isSeen => fresh other listed (List.mem_cons_of_mem _ isSeen)
      · rintro ⟨⟨once, distinct⟩, -, fresh⟩
        refine ⟨distinct, fun other listed isSeen => ?_⟩
        rcases List.mem_cons.mp isSeen with rfl | earlier
        · exact once listed
        · exact fresh other listed earlier

theorem ownProblems_eq_nil {iteration : Iteration} :
    iteration.ownProblems = [] ↔ iteration.reviewThreshold ≤ iteration.rejectThreshold ∧
      (iteration.rules.map Rule.displayOrder).Nodup := by
  have orders := @repeatedOrder?_eq_none [] (iteration.rules.map Rule.displayOrder)
  unfold ownProblems
  rw [List.append_eq_nil_iff]
  refine and_congr ?_ ?_
  · rw [← Int64.not_lt]
    split <;> simp_all
  · cases repeated : repeatedOrder? [] (iteration.rules.map Rule.displayOrder) <;> simp_all

/-- What the structure of a valid iteration is: its formulas are valid trees that are true or
false, its thresholds are in order, and no two rules have the same display order. -/
theorem validateStructure_isValid {iteration : Iteration} :
    iteration.validateStructure.isValid = true ↔
      (∀ formula, iteration.HasFormula formula →
        formula.validate = .ok () ∧ formula.returnType = .bool) ∧
      iteration.reviewThreshold ≤ iteration.rejectThreshold ∧
      (iteration.rules.map Rule.displayOrder).Nodup := by
  unfold validateStructure
  rw [reportWith_isValid, ownProblems_eq_nil, and_comm]
  simp only [Expression.structureProblems_eq_nil]

/-- An iteration is valid against a data model if its trigger table is there, and neither the
iteration itself nor one of its formulas has a problem. -/
theorem validateAgainst_isValid {iteration : Iteration} {model : DataModel} {trigger : String} :
    (iteration.validateAgainst model trigger).isValid = true ↔
      (∃ table, model.tables.get? trigger = some table) ∧
      (iteration.reportWith fun formula =>
        formula.structureProblems ++ formula.readProblems model trigger).isValid = true := by
  unfold validateAgainst DataModel.table
  cases model.tables.get? trigger with
  | none => simp [ValidationReport.isValid]
  | some table => simp

/-- What is valid against a data model is valid without regard to one. -/
theorem validateStructure_of_validateAgainst {iteration : Iteration} {model : DataModel}
    {trigger : String} (valid : (iteration.validateAgainst model trigger).isValid = true) :
    iteration.validateStructure.isValid = true := by
  obtain ⟨-, reported⟩ := validateAgainst_isValid.mp valid
  obtain ⟨own, checked⟩ := reportWith_isValid.mp reported
  refine reportWith_isValid.mpr ⟨own, fun formula occurs => ?_⟩
  exact (List.append_eq_nil_iff.mp (checked formula occurs)).1

/-- Every formula of a valid iteration is a valid tree that is true or false, and what it reads is
in the data model and can be read as the formula declares. -/
theorem formula_of_valid {iteration : Iteration} {model : DataModel} {trigger : String}
    (valid : (iteration.validateAgainst model trigger).isValid = true) {formula : Expression}
    (occurs : iteration.HasFormula formula) :
    formula.validate = .ok () ∧ formula.returnType = .bool ∧
      ∀ read ∈ formula.reads, read.Fits model trigger := by
  obtain ⟨-, reported⟩ := validateAgainst_isValid.mp valid
  have noProblem := check_of_valid reported occurs
  rw [List.append_eq_nil_iff, Expression.structureProblems_eq_nil,
    Expression.readProblems_eq_nil] at noProblem
  exact ⟨noProblem.1.1, noProblem.1.2, noProblem.2⟩

end Iteration

end RiskScoring
