import RiskScoring.Proofs.Decision.Executions

/-!
# What failed reads do to a decision

A failure strikes one formula and nothing else: the trigger condition if that reads the store, or
else the first rules that do. All other rules give what they give without failures, and an
evaluation shows a failed read exactly if a failure was taken.

* `Iteration.calmEvaluation`: what an object is scored without failures.
* `Iteration.Scored.hasReadFailure_iff`: a failed read is shown exactly if a failure was taken.
* `Iteration.Scored.calm_of_left`: without a failed read the evaluation is the one without failures.
* `Rule.StruckFirst`: executions among which the first rules that read the store are struck.
* `Iteration.read_failures_contained`: what a number of failures does to an evaluation.
-/

namespace RiskScoring

open Ingest

/-! ## The rules -/

namespace Rule

variable {scope : Scope} {store : Store}

/-- Rules that do not read the store are not concerned by failures. -/
theorem executionsFailing_of_silent {rules : List Rule}
    (silent : rules.countP (Rule.reads scope store) = 0) (failing : Nat) :
    executionsFailing scope store failing rules =
      rules.map fun rule => rule.execute scope store := by
  refine List.ext_getElem? fun index => ?_
  rw [getElem?_executionsFailing, List.getElem?_map]
  cases found : rules[index]? with
  | none => rfl
  | some rule =>
    have notReading := List.countP_eq_zero.mp silent rule (List.mem_of_getElem? found)
    rw [Option.map_some, Option.map_some, if_neg fun struck => notReading struck.1]

/-- A rule is marked with a failed read exactly if failures are to come and some rule reads. -/
theorem any_executionsFailing (opens : store.failingOpenings = 0) (failing : Nat)
    (rules : List Rule) :
    ((executionsFailing scope store failing rules).any
        fun execution => execution.failure == some .readFailed) = true ↔
      0 < failing ∧ 0 < rules.countP (Rule.reads scope store) := by
  have marked : ((executionsFailing scope store failing rules).filter
        fun execution => execution.failure == some .readFailed).length =
      (((rules.filter (Rule.reads scope store)).take failing).map Rule.struck).length :=
    congrArg List.length (marked_executionsFailing opens failing rules)
  rw [List.length_map, List.length_take, ← List.countP_eq_length_filter,
    ← List.countP_eq_length_filter] at marked
  rw [List.any_eq_true, ← List.countP_pos_iff, marked]
  omega

/-- Executions of rules in scoring order, some of which were struck by failures. Struck are the
first rules that read the store; all others have the execution that they have without failures. -/
structure StruckFirst (reading : Rule → Bool) (failing : Nat) (ordered : List Rule)
    (calm executions : List RuleExecution) : Prop where
  struck : ∀ (index : Nat) (rule : Rule), ordered[index]? = some rule → reading rule = true →
    (ordered.take index).countP reading < failing → executions[index]? = some rule.struck
  spared : ∀ (index : Nat), (∀ rule, ordered[index]? = some rule → reading rule = true →
    failing ≤ (ordered.take index).countP reading) → executions[index]? = calm[index]?
  unmarked : ∀ execution ∈ calm, execution.failure ≠ some .readFailed
  marked : executions.filter (fun execution => execution.failure == some .readFailed) =
    ((ordered.filter reading).take (min failing (ordered.countP reading))).map Rule.struck

theorem executionsFailing_struckFirst (opens : store.failingOpenings = 0) (failing : Nat)
    (rules : List Rule) : StruckFirst (Rule.reads scope store) failing rules
      (rules.map fun rule => rule.execute scope store)
      (executionsFailing scope store failing rules) where
  struck index rule found reading before := by
    rw [getElem?_executionsFailing, found, Option.map_some, if_pos ⟨reading, before⟩]
  spared index exempt := by
    rw [getElem?_executionsFailing, List.getElem?_map]
    cases found : rules[index]? with
    | none => rfl
    | some rule =>
      rw [Option.map_some, Option.map_some, if_neg]
      intro struck
      have reached := exempt rule found struck.1
      omega
  unmarked execution listed := by
    obtain ⟨rule, -, rfl⟩ := List.mem_map.mp listed
    exact rule.failure_execute_ne opens
  marked := by
    rw [marked_executionsFailing opens, List.countP_eq_length_filter, List.take_eq_take_min]

end Rule

/-! ## One object -/

namespace Iteration

/-- What an object is scored when no failure is to come. -/
def calmEvaluation (iteration : Iteration) (scenario : Scenario) (batch : Option Uuid)
    (stamp : Stamp) (scope : Scope) (store : Store) : Evaluation :=
  match iteration.trigger.alone scope store with
  | .ok true => .triggered (iteration.decide scenario scope.payload batch stamp
      (iteration.orderedRules.map fun rule => rule.execute scope store))
  | .ok false => .notTriggered .conditionFalse
  | .error error => .notTriggered (.conditionFailed error)

variable {iteration : Iteration} {model : DataModel} {scenario : Scenario} {payload : Payload}
  {batch : Option Uuid} {stamp : Stamp} {scope : Scope} {store : Store} {evaluation : Evaluation}
  {left : Nat}

theorem hasReadFailure_triggered (executions : List RuleExecution) :
    (Evaluation.triggered
      (iteration.decide scenario payload batch stamp executions)).hasReadFailure =
      executions.any fun execution => execution.failure == some .readFailed := by
  show (executions.filter fun execution => execution.failure.isSome).any
    (fun execution => execution.failure == some .readFailed) = _
  rw [List.any_filter]
  refine congrArg executions.any (funext fun execution => ?_)
  cases execution.failure with
  | none => rfl
  | some failure => rw [Option.isSome_some, Bool.true_and]

namespace Scored

theorem left_le (scored : iteration.Scored scenario batch stamp scope store evaluation left) :
    left ≤ store.failingReads := by
  cases scored with
  | struck => exact Nat.sub_le _ _
  | conditionFailed => exact Nat.le_refl _
  | conditionFalse => exact Nat.le_refl _
  | triggered => exact Nat.sub_le _ _

/-- An evaluation shows a failed read exactly if a failure was taken. -/
theorem hasReadFailure_iff (opens : store.failingOpenings = 0)
    (scored : iteration.Scored scenario batch stamp scope store evaluation left) :
    evaluation.hasReadFailure = true ↔ left < store.failingReads := by
  cases scored with
  | struck _ fails => exact ⟨fun _ => Nat.sub_lt fails Nat.one_pos, fun _ => rfl⟩
  | @conditionFailed error _ gives =>
    have notFailed := Expression.alone_ne_readFailed scope opens iteration.trigger
    rw [gives] at notFailed
    refine ⟨fun shows => ?_, fun less => absurd less (Nat.lt_irrefl _)⟩
    cases error with
    | readFailed cause => exact absurd rfl (notFailed cause)
    | _ => cases shows
  | conditionFalse =>
    exact ⟨fun shows => (nomatch shows), fun less => absurd less (Nat.lt_irrefl _)⟩
  | triggered =>
    rw [hasReadFailure_triggered, Rule.any_executionsFailing opens]
    omega

/-- If no failure was taken, the object is scored as it is without failures. -/
theorem calm_of_left
    (scored : iteration.Scored scenario batch stamp scope store evaluation left)
    (same : left = store.failingReads) :
    evaluation = iteration.calmEvaluation scenario batch stamp scope store := by
  unfold calmEvaluation
  cases scored with
  | struck _ fails => omega
  | conditionFailed _ gives => rw [gives]
  | conditionFalse _ gives => rw [gives]
  | triggered _ gives =>
    rw [gives]
    dsimp only
    rcases Nat.eq_zero_or_pos store.failingReads with none | fails
    · rw [none, Rule.executionsFailing_zero]
    · have silent : iteration.orderedRules.countP (Rule.reads scope store) = 0 := by omega
      rw [Rule.executionsFailing_of_silent silent]

/-- A trigger condition that reads the store takes the first failure. -/
theorem of_struck (scored : iteration.Scored scenario batch stamp scope store evaluation left)
    (reading : iteration.trigger.readsStore scope store = true) (fails : 0 < store.failingReads) :
    evaluation = .notTriggered (.conditionFailed (.readFailed .readFailed)) ∧
      left + 1 = store.failingReads := by
  have hit := And.intro reading fails
  cases scored with
  | struck => exact ⟨rfl, Nat.sub_add_cancel fails⟩
  | conditionFailed spared => exact absurd hit (Expression.spared_iff.mpr spared)
  | conditionFalse spared => exact absurd hit (Expression.spared_iff.mpr spared)
  | triggered spared => exact absurd hit (Expression.spared_iff.mpr spared)

/-- An object that is not triggered without failures takes none. -/
theorem of_notTriggered
    (scored : iteration.Scored scenario batch stamp scope store evaluation left)
    (spared : ¬(iteration.trigger.readsStore scope store = true ∧ 0 < store.failingReads))
    {reason : NotTriggered}
    (calm : iteration.calmEvaluation scenario batch stamp scope store = .notTriggered reason) :
    evaluation = .notTriggered reason ∧ left = store.failingReads := by
  unfold calmEvaluation at calm
  cases scored with
  | struck reading fails => exact absurd ⟨reading, fails⟩ spared
  | conditionFailed _ gives =>
    rw [gives] at calm
    exact ⟨calm, rfl⟩
  | conditionFalse _ gives =>
    rw [gives] at calm
    exact ⟨calm, rfl⟩
  | triggered _ gives =>
    rw [gives] at calm
    cases calm

/-- The first rules that read the store take the failures that the trigger condition does not. -/
theorem of_triggered (opens : store.failingOpenings = 0)
    (scored : iteration.Scored scenario batch stamp scope store evaluation left)
    (spared : ¬(iteration.trigger.readsStore scope store = true ∧ 0 < store.failingReads))
    {decision : Decision}
    (calm : iteration.calmEvaluation scenario batch stamp scope store = .triggered decision) :
    ∃ executions,
      evaluation = .triggered (iteration.decide scenario scope.payload batch stamp executions) ∧
      Rule.StruckFirst (Rule.reads scope store) store.failingReads iteration.orderedRules
        decision.executions executions ∧
      left + min store.failingReads (iteration.orderedRules.countP (Rule.reads scope store)) =
        store.failingReads := by
  unfold calmEvaluation at calm
  cases scored with
  | struck reading fails => exact absurd ⟨reading, fails⟩ spared
  | conditionFailed _ gives =>
    rw [gives] at calm
    cases calm
  | conditionFalse _ gives =>
    rw [gives] at calm
    cases calm
  | triggered _ gives =>
    rw [gives] at calm
    cases calm
    exact ⟨_, rfl, Rule.executionsFailing_struckFirst opens _ _, by omega⟩

end Scored

/-- How an object is scored without failures. -/
theorem score_calm (iteration : Iteration) (model : DataModel) (batch : Option Uuid) (stamp : Stamp)
    (sameTable : payload.table = scenario.triggerTable) (opens : store.failingOpenings = 0) :
    ((iteration.score model scenario payload batch stamp).run (store.failReads 0)).1 =
      .ok (iteration.calmEvaluation scenario batch stamp ⟨scenario.organization, model, payload⟩
        store) := by
  have stillOpens : (store.failReads 0).failingOpenings = 0 := opens
  obtain ⟨evaluation, after, scores, -, scored⟩ :=
    iteration.score_scored model batch stamp sameTable stillOpens
  have none : after.failingReads ≤ 0 := scored.left_le
  rw [scores, scored.calm_of_left (Nat.le_zero.mp none)]
  rfl

theorem hasReadFailure_calmEvaluation (opens : store.failingOpenings = 0) :
    (iteration.calmEvaluation scenario batch stamp scope store).hasReadFailure = false := by
  have notFailed := Expression.alone_ne_readFailed scope opens iteration.trigger
  unfold calmEvaluation
  cases gives : iteration.trigger.alone scope store with
  | error error =>
    rw [gives] at notFailed
    cases error with
    | readFailed cause => exact absurd rfl (notFailed cause)
    | _ => rfl
  | ok triggers =>
    cases triggers with
    | false => rfl
    | true =>
      dsimp only
      rw [hasReadFailure_triggered, ← Rule.executionsFailing_zero, Bool.eq_false_iff]
      intro shows
      exact Nat.lt_irrefl 0 ((Rule.any_executionsFailing opens 0 _).mp shows).1

/-- What a number of failures does to an evaluation. If the trigger condition reads the store, it
takes one of them and the object is not scored further. Otherwise it gives what it gives without
failures, and if it holds, the first rules that read the store take one failure each and all other
rules have the execution that they have without failures. A failed read is shown exactly if a
failure was taken, so none is shown if none was to come. -/
theorem read_failures_contained (iteration : Iteration) (model : DataModel) (scenario : Scenario)
    (payload : Payload) (batch : Option Uuid) (stamp : Stamp) {store : Store}
    (sameTable : payload.table = scenario.triggerTable) (opens : store.failingOpenings = 0) :
    let scope : Scope := ⟨scenario.organization, model, payload⟩
    let failing := store.failingReads
    let struck := iteration.trigger.readsStore scope store = true ∧ 0 < failing
    ∃ (evaluation calm : Evaluation) (after calmAfter : Store),
      (iteration.score model scenario payload batch stamp).run store = (.ok evaluation, after) ∧
      (iteration.score model scenario payload batch stamp).run (store.failReads 0) =
        (.ok calm, calmAfter) ∧
      (struck → evaluation = .notTriggered (.conditionFailed (.readFailed .readFailed)) ∧
        after.failingReads + 1 = failing) ∧
      (¬struck → ∀ reason, calm = .notTriggered reason →
        evaluation = calm ∧ after.failingReads = failing) ∧
      (¬struck → ∀ decision, calm = .triggered decision → ∃ executions,
        evaluation = .triggered (iteration.decide scenario payload batch stamp executions) ∧
        Rule.StruckFirst (Rule.reads scope store) failing iteration.orderedRules
          decision.executions executions ∧
        after.failingReads + min failing (iteration.rules.countP (Rule.reads scope store)) =
          failing) ∧
      (evaluation.hasReadFailure = true ↔ after.failingReads < failing) ∧
      calm.hasReadFailure = false := by
  intro scope failing struck
  obtain ⟨evaluation, after, scores, -, scored⟩ :=
    iteration.score_scored model batch stamp sameTable opens
  have calms := iteration.score_calm model batch stamp sameTable opens
  have permuted : iteration.orderedRules.countP (Rule.reads scope store) =
      iteration.rules.countP (Rule.reads scope store) :=
    (List.mergeSort_perm _ _).countP_eq _
  refine ⟨evaluation, iteration.calmEvaluation scenario batch stamp scope store, after, _, scores,
    Prod.ext calms rfl, fun hit => scored.of_struck hit.1 hit.2, fun spared reason calm => ?_,
    fun spared decision calm => ?_, scored.hasReadFailure_iff opens,
    hasReadFailure_calmEvaluation opens⟩
  · rw [calm]
    exact scored.of_notTriggered spared calm
  · rw [← permuted]
    exact scored.of_triggered opens spared calm

end Iteration

namespace Shop

/-- The customer is verified, asked again. -/
def confirmation : Rule := { verification with id := ⟨34⟩, displayOrder := 4 }

/-- One failing read strikes one of the two rules that read the customer. -/
theorem read_failures_contained_verification :
    ∃ (decision : Decision) (after : Store),
      ((scoring [strangeness, verification, confirmation]).score model scenario order none
        stamp).run session.store = (.ok (.triggered decision), after) ∧
      decision.executions.countP (fun execution => execution.failure == some .readFailed) = 1 ∧
      after.failingReads = 0 := by
  let iteration : Iteration := scoring [strangeness, verification, confirmation]
  let reading : Rule → Bool := Rule.reads ⟨⟨3⟩, model, order⟩ session.store
  have opens : session.store.failingOpenings = 0 := rfl
  have silent : iteration.trigger.readsStore ⟨⟨3⟩, model, order⟩ session.store = false := rfl
  have two : iteration.rules.countP reading = 2 := rfl
  have permuted : iteration.orderedRules.countP reading = 2 :=
    ((List.mergeSort_perm _ _).countP_eq _).trans two
  have triggers : ∃ decision, ((iteration.score model scenario order none stamp).run
      (session.store.failReads 0)).1 = .ok (.triggered decision) := ⟨_, rfl⟩
  obtain ⟨given, triggers⟩ := triggers
  obtain ⟨evaluation, calm, after, _, scores, calms, -, -, contained, -, -⟩ :=
    iteration.read_failures_contained model scenario order none stamp rfl opens
  have isGiven : calm = .triggered given := by
    rw [calms] at triggers
    exact Except.ok.inj triggers
  have spared : ¬(iteration.trigger.readsStore ⟨⟨3⟩, model, order⟩ session.store = true ∧
      0 < session.store.failingReads) := by
    rw [silent]
    exact fun struck => Bool.false_ne_true struck.1
  obtain ⟨executions, rfl, struckFirst, left⟩ := contained spared given isGiven
  change after.failingReads + min 1 (iteration.rules.countP reading) = 1 at left
  refine ⟨_, after, scores, ?_, by omega⟩
  have marked : (executions.filter fun execution => execution.failure == some .readFailed) =
      ((iteration.orderedRules.filter reading).take
        (min 1 (iteration.orderedRules.countP reading))).map Rule.struck := struckFirst.marked
  show executions.countP _ = 1
  rw [List.countP_eq_length_filter, marked, List.length_map, List.length_take,
    ← List.countP_eq_length_filter, permuted]
  rfl

end Shop

end RiskScoring
