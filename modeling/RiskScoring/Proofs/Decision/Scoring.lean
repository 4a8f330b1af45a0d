import Mathlib.Data.List.Forall2
import RiskScoring.Decision.Engine
import RiskScoring.Proofs.Evaluation.Soundness
import RiskScoring.Proofs.Scenario.Validation

/-!
# Scoring by valid formulas

* `Expression.MayFail`: the errors that a valid formula can end with on the rows of a store.
* `Iteration.Explains`: an evaluation that reports no other errors.
* `Iteration.runRules_explained`: what the loop over the rules reports.
* `Iteration.runRules_given`: every rule gives one execution.
* `Iteration.triggered_of_score`: where a decision comes from.
* `Iteration.scoreRegistered_explained`: the evaluation by an iteration of valid formulas.
-/

namespace RiskScoring

/-- How a valid formula can fail: a divisor is zero, a field that it reads is absent or not of the
declared type, or the read contradicts the data model or does not come through. -/
inductive Expression.MayFail (formula : Expression) : EvaluationError → Prop
  | divided : MayFail formula (.divisionByZero BinaryOp.divide.name)
  | missing {read : FieldRead} (occurs : read ∈ formula.reads) :
    MayFail formula (.fieldMissing read.source)
  | mismatch {read : FieldRead} (occurs : read ∈ formula.reads) (found : Value) :
    MayFail formula (.typeMismatch read.operator.name read.type.valueType found)
  | inconsistent (cause : Inconsistency) : MayFail formula (.inconsistent cause)
  | readFailed (cause : StorageError) : MayFail formula (.readFailed cause)

namespace Expression.MayFail

variable {formula : Expression} {error : EvaluationError}

theorem name_ne (fails : formula.MayFail error) : error.name ≠ "MalformedExpression" := by
  cases fails <;> simp [EvaluationError.name]

theorem failure_ne (fails : formula.MayFail error) : RuleFailure.ofError error ≠ .malformed := by
  cases fails <;> simp [RuleFailure.ofError]

end Expression.MayFail

namespace Ingest.Scope

variable {scope : Scope} {session after : Session}

/-- The refusals of a store of rows. -/
theorem refuses_error {read : FieldRead} {error : EvaluationError}
    (refuses : scope.accessor.Refuses read session error after) :
    (∃ cause, error = .inconsistent cause) ∨ ∃ cause, error = .readFailed cause := by
  cases refuses with
  | @check type path name _ _ _ fails =>
    refine Or.inl ?_
    change Reading.runFrom (liftExcept (scope.check path name type)) session = _ at fails
    rw [Reading.runFrom_liftExcept] at fails
    have failed := (Prod.mk.inj fails).1
    unfold check at failed
    split at failed
    · cases failed
      exact ⟨_, rfl⟩
    · split at failed
      · cases failed
      · cases failed
        exact ⟨_, rfl⟩
  | @field type path name _ middle _ _ checks fails =>
    refine Or.inr ?_
    change scope.read path name middle = _ at fails
    unfold read at fails
    split at fails
    · cases fails
      exact ⟨_, rfl⟩
    · split at fails
      · cases fails
      · cases fails
        exact ⟨_, rfl⟩

end Ingest.Scope

/-! ## One formula -/

namespace Expression

variable {formula : Expression} {scope : Ingest.Scope} {session after : Ingest.Session}

/-- A valid formula of type bool only ever has a truth value for its value. -/
theorem evaluate_isBool (valid : formula.validate = .ok ()) (isBool : formula.returnType = .bool)
    {value : Value}
    (evaluates : (formula.evaluate scope.accessor).runFrom session = (.ok value, after)) :
    value.type = .bool := by
  have sound : (formula.evaluate scope.accessor).Sound scope.accessor formula.reads
      (fun value => value.type = formula.returnType) := evaluate_sound valid
  have ends := sound session
  rw [evaluates] at ends
  cases ends with
  | value trail type => rw [type, isBool]

theorem evaluateBool_mayFail (valid : formula.validate = .ok ())
    (isBool : formula.returnType = .bool) {error : EvaluationError}
    (evaluates : (formula.evaluateBool scope.accessor).runFrom session = (.error error, after)) :
    formula.MayFail error := by
  have sound : (formula.evaluateBool scope.accessor).Sound scope.accessor formula.reads
      (fun _ => True) := evaluateBool_sound valid isBool
  have ends := sound session
  rw [evaluates] at ends
  cases ends with
  | divided trail => exact .divided
  | failed trail occurs fails =>
    rcases Accessor.fetch_error fails with rfl | ⟨found, rfl⟩ | refuses
    · exact .missing occurs
    · exact .mismatch occurs found
    · rcases Ingest.Scope.refuses_error refuses with ⟨cause, rfl⟩ | ⟨cause, rfl⟩
      · exact .inconsistent cause
      · exact .readFailed cause

end Expression

/-! ## The rules -/

/-- The execution is that of the rule: a result, or a failure that its formula can have. -/
def Rule.Explains (rule : Rule) (execution : RuleExecution) : Prop :=
  ∃ result, execution = .ofResult rule result ∧
    ∀ error, result = .error error → rule.formula.MayFail error

/-- The execution is that of the rule, from whatever its formula gave. -/
def Rule.Gives (rule : Rule) (execution : RuleExecution) : Prop :=
  ∃ result, execution = .ofResult rule result

theorem Rule.Explains.failure_ne {rule : Rule} {execution : RuleExecution}
    (explains : rule.Explains execution) : execution.failure ≠ some .malformed := by
  obtain ⟨result, rfl, mayFail⟩ := explains
  cases result with
  | ok value => simp [RuleExecution.ofResult]
  | error error =>
    intro isMalformed
    exact (mayFail error rfl).failure_ne (Option.some.inj isMalformed)

namespace Iteration

variable {iteration : Iteration} {scope : Ingest.Scope}

/-- The evaluation reports no errors but those that the formulas of the iteration can have. -/
inductive Explains (iteration : Iteration) : Evaluation → Prop
  | conditionFalse : Explains iteration (.notTriggered .conditionFalse)
  | conditionFailed {error : EvaluationError} (mayFail : iteration.trigger.MayFail error) :
    Explains iteration (.notTriggered (.conditionFailed error))
  | triggered {decision : Decision} (executions : ∀ execution ∈ decision.executions,
      ∃ rule ∈ iteration.rules, rule.Explains execution) :
    Explains iteration (.triggered decision)

/-- The formulas of an iteration are valid trees that are true or false. -/
def WellTyped (iteration : Iteration) : Prop :=
  ∀ formula, iteration.HasFormula formula →
    formula.validate = .ok () ∧ formula.returnType = .bool

/-- The executions of rules, one after the other. -/
theorem runRules_explained {rules : List Rule}
    (wellTyped : ∀ rule ∈ rules, rule.formula.validate = .ok () ∧
      rule.formula.returnType = .bool) (session : Ingest.Session) :
    ∀ execution ∈ ((runRules scope.accessor rules).run session).1,
      ∃ rule ∈ rules, rule.Explains execution := by
  induction rules generalizing session with
  | nil => exact fun execution listed => nomatch listed
  | cons rule rest ih =>
    obtain ⟨ruleTyped, restTyped⟩ := List.forall_mem_cons.mp wellTyped
    let ended := (rule.formula.evaluateBool scope.accessor).runFrom session
    have split : ((runRules scope.accessor (rule :: rest)).run session).1 =
        .ofResult rule ended.1 :: ((runRules scope.accessor rest).run ended.2).1 := rfl
    rw [split]
    intro execution listed
    rcases List.mem_cons.mp listed with rfl | later
    · refine ⟨rule, List.mem_cons_self, ended.1, rfl, fun error fails => ?_⟩
      exact Expression.evaluateBool_mayFail ruleTyped.1 ruleTyped.2 (Prod.ext fails rfl)
    · obtain ⟨other, isRule, explains⟩ := ih restTyped ended.2 execution later
      exact ⟨other, List.mem_cons_of_mem _ isRule, explains⟩

/-- Every rule gives one execution. -/
theorem runRules_given (scope : Ingest.Scope) (rules : List Rule) (session : Ingest.Session) :
    List.Forall₂ Rule.Gives rules ((runRules scope.accessor rules).run session).1 := by
  induction rules generalizing session with
  | nil => exact .nil
  | cons rule rest ih =>
    let ended := (rule.formula.evaluateBool scope.accessor).runFrom session
    exact .cons ⟨ended.1, rfl⟩ (ih ended.2)

/-- The trigger condition decides whether the rules are run. -/
theorem scoreWith_run (scenario : Scenario) (payload : Payload) (batch : Option Uuid)
    (stamp : Stamp) (session : Ingest.Session) :
    (iteration.scoreWith scenario payload batch stamp scope.accessor).run session =
      match (iteration.trigger.evaluateBool scope.accessor).runFrom session with
      | (.ok true, after) =>
        (.triggered (iteration.decide scenario payload batch stamp
            ((runRules scope.accessor iteration.orderedRules).run after).1),
          ((runRules scope.accessor iteration.orderedRules).run after).2)
      | (.ok false, after) => (.notTriggered .conditionFalse, after)
      | (.error error, after) => (.notTriggered (.conditionFailed error), after) := by
  have ends : (iteration.trigger.evaluateBool scope.accessor).run.run session =
      (iteration.trigger.evaluateBool scope.accessor).runFrom session := rfl
  rw [scoreWith, StateT.run_bind, ends]
  rcases (iteration.trigger.evaluateBool scope.accessor).runFrom session with ⟨result, after⟩
  cases result with
  | error error => rfl
  | ok triggers => cases triggers <;> rfl

theorem scoreWith_explained (wellTyped : iteration.WellTyped) (scenario : Scenario)
    (payload : Payload) (batch : Option Uuid) (stamp : Stamp) (session : Ingest.Session) :
    iteration.Explains
      ((iteration.scoreWith scenario payload batch stamp scope.accessor).run session).1 := by
  obtain ⟨valid, isBool⟩ := wellTyped iteration.trigger (Or.inl rfl)
  rw [scoreWith_run]
  rcases evaluated : (iteration.trigger.evaluateBool scope.accessor).runFrom session with
    ⟨result, after⟩
  cases result with
  | error error => exact .conditionFailed (Expression.evaluateBool_mayFail valid isBool evaluated)
  | ok triggers =>
    cases triggers with
    | false => exact .conditionFalse
    | true =>
      refine .triggered fun execution listed => ?_
      have ordered : ∀ rule ∈ iteration.orderedRules,
          rule.formula.validate = .ok () ∧ rule.formula.returnType = .bool :=
        fun rule isRule => wellTyped _ (Or.inr ⟨rule, List.mem_mergeSort.mp isRule, rfl⟩)
      obtain ⟨rule, isRule, explains⟩ := runRules_explained ordered after execution listed
      exact ⟨rule, List.mem_mergeSort.mp isRule, explains⟩

/-- An object of the right table is scored in a session of its own. -/
theorem score_run (iteration : Iteration) (model : DataModel) {scenario : Scenario}
    {payload : Payload} (batch : Option Uuid) (stamp : Stamp) (store : Ingest.Store)
    (sameTable : payload.table = scenario.triggerTable) :
    let scope : Ingest.Scope := ⟨scenario.organization, model, payload⟩
    (iteration.score model scenario payload batch stamp).run store =
      (.ok ((iteration.scoreWith scenario payload batch stamp scope.accessor).run (.start store)).1,
        ((iteration.scoreWith scenario payload batch stamp scope.accessor).run
          (.start store)).2.release) :=
  if_pos sameTable

/-- A decision comes from a trigger condition that is true, and from the rules as they are run in
the session that is left then. -/
theorem triggered_of_score {model : DataModel} {scenario : Scenario} {payload : Payload}
    {batch : Option Uuid} {stamp : Stamp} {store after : Ingest.Store} {decision : Decision}
    (scores : (iteration.score model scenario payload batch stamp).run store =
      (.ok (.triggered decision), after)) :
    let scope : Ingest.Scope := ⟨scenario.organization, model, payload⟩
    payload.table = scenario.triggerTable ∧ ∃ session,
      (iteration.trigger.evaluateBool scope.accessor).runFrom (.start store) = (.ok true, session) ∧
      decision = iteration.decide scenario payload batch stamp
        ((runRules scope.accessor iteration.orderedRules).run session).1 := by
  intro scope
  by_cases sameTable : payload.table = scenario.triggerTable
  · rw [score_run iteration model batch stamp store sameTable, scoreWith_run] at scores
    refine ⟨sameTable, ?_⟩
    revert scores
    rcases (iteration.trigger.evaluateBool scope.accessor).runFrom (.start store) with
      ⟨result, session⟩
    intro scores
    cases result with
    | error error => cases scores
    | ok triggered =>
      cases triggered with
      | false => cases scores
      | true =>
        cases scores
        exact ⟨session, rfl, rfl⟩
  · have refused : (iteration.score model scenario payload batch stamp).run store =
        (.error (.wrongTable scenario.id scenario.triggerTable payload.table), store) :=
      if_neg sameTable
    rw [refused] at scores
    cases scores

/-- An iteration of valid formulas scores an object without any fault of a formula. -/
theorem scoreRegistered_explained (wellTyped : iteration.WellTyped) {registry : ModelRegistry}
    {scenario : Scenario} {payload : Payload} {batch : Option Uuid} {stamp : Stamp}
    {ingested after : Ingest.Store} {evaluation : Evaluation}
    (scores : (iteration.scoreRegistered registry scenario payload batch stamp).run ingested =
      (.ok evaluation, after)) : iteration.Explains evaluation := by
  change iteration.scoreRegistered registry scenario payload batch stamp ingested = _ at scores
  unfold scoreRegistered at scores
  split at scores
  · cases scores
  · rename_i model _
    change iteration.score model scenario payload batch stamp ingested = _ at scores
    unfold score at scores
    split at scores
    · cases scores
      exact scoreWith_explained wellTyped scenario payload batch stamp (.start ingested)
    · cases scores

/-- Where an iteration stands and when it was changed has no part in the scoring. -/
theorem scoreRegistered_moved (iteration : Iteration) (state : IterationState)
    (updatedAt : Instant) :
    scoreRegistered { iteration with state, updatedAt } = iteration.scoreRegistered := rfl

end Iteration

end RiskScoring
