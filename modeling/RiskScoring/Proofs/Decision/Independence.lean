import Mathlib.Data.List.Nodup
import RiskScoring.Proofs.Decision.ReadFailures

/-!
# The rules of an iteration do not depend on each other

All rules of an iteration share one session. When no failure is to come, what one rule leaves behind
makes no difference to the next, so each gives what it gives alone with a session of its own.

* `Rule.InScoringOrder`: rules put in order of their display order.
* `Rule.orderedRules_inScoringOrder`: the rules of an iteration are scored in that order.
* `Rule.InScoringOrder.unique`: rules of different display orders have one such order only.
* `Rule.aloneOn`: what a rule gives with a session of its own.
* `Decision.ListsAlone`: a decision that lists what the rules give alone.
* `Iteration.rules_independent`: two iterations agree about the rules that they share.
-/

namespace RiskScoring

open Ingest

/-! ## The order of the rules -/

/-- Rules put in order of their display order, where rules of equal display order stay as they are
stored. -/
structure Rule.InScoringOrder (rules ordered : List Rule) : Prop where
  once : ordered.Perm rules
  sorted : ordered.Pairwise fun rule later => rule.displayOrder ≤ later.displayOrder
  stable (place : UInt32) : ordered.filter (fun rule => rule.displayOrder = place) =
    rules.filter (fun rule => rule.displayOrder = place)

/-- The rules of an iteration are scored in order of their display order. -/
theorem Rule.orderedRules_inScoringOrder (iteration : Iteration) :
    Rule.InScoringOrder iteration.rules iteration.orderedRules := by
  let before (rule later : Rule) : Bool := decide (rule.displayOrder ≤ later.displayOrder)
  have trans (x y z : Rule) (first : before x y = true) (second : before y z = true) :
      before x z = true :=
    decide_eq_true (UInt32.le_trans (of_decide_eq_true first) (of_decide_eq_true second))
  have total (x y : Rule) : (before x y || before y x) = true := by
    rw [Bool.or_eq_true, decide_eq_true_iff, decide_eq_true_iff]
    exact UInt32.le_total _ _
  have once : iteration.orderedRules.Perm iteration.rules := List.mergeSort_perm _ _
  refine ⟨once, ?_, fun place => ?_⟩
  · exact (List.pairwise_mergeSort trans total iteration.rules).imp of_decide_eq_true
  · -- The stored rules of one display order are sorted, so sorting leaves them in their order.
    let here (rule : Rule) : Bool := decide (rule.displayOrder = place)
    have level : (iteration.rules.filter here).Pairwise (before · ·) := by
      refine List.pairwise_iff_forall_sublist.mpr fun {rule later} pair => ?_
      have atPlace : rule.displayOrder = place :=
        of_decide_eq_true (List.mem_filter.mp (pair.subset List.mem_cons_self)).2
      have alsoAtPlace : later.displayOrder = place :=
        of_decide_eq_true
          (List.mem_filter.mp (pair.subset (List.mem_cons_of_mem _ List.mem_cons_self))).2
      refine decide_eq_true ?_
      rw [atPlace, alsoAtPlace]
      exact UInt32.le_refl place
    have kept : (iteration.rules.filter here).Sublist iteration.orderedRules :=
      List.sublist_mergeSort trans total level List.filter_sublist
    have within : (iteration.rules.filter here).Sublist (iteration.orderedRules.filter here) := by
      have filtered := kept.filter here
      rwa [List.filter_filter, show (fun rule => here rule && here rule) = here from
        funext fun rule => Bool.and_self _] at filtered
    exact (within.eq_of_length (once.filter here).length_eq.symm).symm

/-- Rules of different display orders have one scoring order only. -/
theorem Rule.InScoringOrder.unique {rules ordered others : List Rule}
    (inOrder : Rule.InScoringOrder rules ordered) (same : others.Perm rules)
    (increasing : others.Pairwise fun rule later => rule.displayOrder < later.displayOrder) :
    ordered = others := by
  have permuted : ordered.Perm others := inOrder.once.trans same.symm
  have different : (others.map Rule.displayOrder).Nodup :=
    List.pairwise_map.mpr (increasing.imp UInt32.ne_of_lt)
  refine permuted.eq_of_pairwise ?_ inOrder.sorted (increasing.imp UInt32.le_of_lt)
  intro rule twin listed alsoListed before after
  exact List.inj_on_of_nodup_map different (permuted.mem_iff.mp listed) alsoListed
    (UInt32.le_antisymm before after)

/-! ## One rule -/

namespace Rule

/-- What the rule gives with a session of its own. -/
def aloneOn (rule : Rule) (scope : Scope) (store : Store) : RuleExecution :=
  ((Iteration.runRule scope.accessor rule).run (.start store)).1

/-- The formula of the rule has no value. -/
def Fails (rule : Rule) (scope : Scope) (store : Store) : Prop :=
  ∃ error, ((rule.formula.evaluateBool scope.accessor).runFrom (.start store)).1 = .error error

/-- The same rule, perhaps with another place in the order. -/
def SameAs (rule twin : Rule) : Prop :=
  RuleExecution.snapshot rule = RuleExecution.snapshot twin ∧ rule.formula = twin.formula

variable {rule twin : Rule} {scope : Scope} {store : Store}

theorem aloneOn_eq : rule.aloneOn scope store =
    .ofResult rule ((rule.formula.evaluateBool scope.accessor).runFrom (.start store)).1 := rfl

/-- When no failure is to come, the store as it is gives what it gives without failures. -/
theorem execute_eq_aloneOn (calm : store.failReads 0 = store) :
    rule.execute scope store = rule.aloneOn scope store := by
  rw [execute, Expression.alone, calm, aloneOn_eq]

theorem SameAs.aloneOn_eq (same : rule.SameAs twin) :
    rule.aloneOn scope store = twin.aloneOn scope store := by
  obtain ⟨snapshots, formulas⟩ := same
  have modifiers : rule.scoreModifier = twin.scoreModifier :=
    congrArg RuleSnapshot.scoreModifier snapshots
  rw [Rule.aloneOn_eq, Rule.aloneOn_eq, formulas]
  cases ((twin.formula.evaluateBool scope.accessor).runFrom (.start store)).1 with
  | ok value => rw [RuleExecution.ofResult, RuleExecution.ofResult, snapshots, modifiers]
  | error error => rw [RuleExecution.ofResult, RuleExecution.ofResult, snapshots]

/-- An execution has a failure exactly if the formula has no value. -/
theorem failure_aloneOn : (rule.aloneOn scope store).failure.isSome ↔ rule.Fails scope store := by
  rw [Rule.aloneOn_eq, Fails]
  cases ((rule.formula.evaluateBool scope.accessor).runFrom (.start store)).1 with
  | ok value => exact ⟨fun failed => (nomatch failed), fun ⟨_, failed⟩ => (nomatch failed)⟩
  | error error => exact ⟨fun _ => ⟨error, rfl⟩, fun _ => rfl⟩

/-- A rule that fails adds nothing to the score. -/
theorem Fails.aloneOn (fails : rule.Fails scope store) :
    (rule.aloneOn scope store).result = false ∧ (rule.aloneOn scope store).contribution = 0 := by
  obtain ⟨error, failed⟩ := fails
  rw [Rule.aloneOn_eq, failed]
  exact ⟨rfl, rfl⟩

end Rule

/-! ## Two iterations -/

/-- The decision lists what the rules give alone, one after the other in scoring order, and it is
marked as flawed exactly if some of them failed. -/
structure Decision.ListsAlone (decision : Decision) (rules ordered : List Rule) (scope : Scope)
    (store : Store) : Prop where
  order : Rule.InScoringOrder rules ordered
  executions : decision.executions = ordered.map fun rule => rule.aloneOn scope store
  failure : ∀ rule ∈ rules, (rule.aloneOn scope store).failure.isSome ↔ rule.Fails scope store
  failed : ∀ execution ∈ decision.executions, execution.failure.isSome →
    execution.result = false ∧ execution.contribution = 0
  flaw : decision.flaw = some .ruleFailed ↔
    ∃ execution ∈ decision.executions, execution.failure.isSome

namespace Iteration

variable {scenario : Scenario} {batch : Option Uuid} {stamp : Stamp} {store : Store}

theorem listsAlone_decide (iteration : Iteration) (scope : Scope) :
    (iteration.decide scenario scope.payload batch stamp (iteration.orderedRules.map fun rule =>
      rule.aloneOn scope store)).ListsAlone iteration.rules iteration.orderedRules scope store where
  order := Rule.orderedRules_inScoringOrder iteration
  executions := rfl
  failure _ _ := Rule.failure_aloneOn
  failed execution listed hasFailed := by
    obtain ⟨rule, -, rfl⟩ := List.mem_map.mp listed
    exact (Rule.failure_aloneOn.mp hasFailed).aloneOn
  flaw := by
    rw [← List.any_eq_true]
    unfold decide
    dsimp only
    split
    · rename_i some
      exact ⟨fun _ => some, fun _ => rfl⟩
    · rename_i none
      exact ⟨fun marked => (nomatch marked), fun some => absurd some none⟩

/-- If no failure is to come and the trigger condition holds, every rule gives what it gives
alone. -/
theorem score_of_triggered (iteration : Iteration) {model : DataModel} {payload : Payload}
    (batch : Option Uuid) (stamp : Stamp) (sameTable : payload.table = scenario.triggerTable)
    (noFailure : store.failures = 0)
    (holds : ((iteration.trigger.evaluateBool
      (Scope.mk scenario.organization model payload).accessor).runFrom (.start store)).1 =
        .ok true) :
    ((iteration.score model scenario payload batch stamp).run store).1 =
      .ok (.triggered (iteration.decide scenario payload batch stamp
        (iteration.orderedRules.map fun rule =>
          rule.aloneOn ⟨scenario.organization, model, payload⟩ store))) := by
  have noReads : store.failingReads = 0 := (Nat.add_eq_zero_iff.mp noFailure).1
  have opens : store.failingOpenings = 0 := (Nat.add_eq_zero_iff.mp noFailure).2
  have calm : store.failReads 0 = store := by rw [Store.failReads, ← noReads]
  have gives :
      iteration.trigger.alone ⟨scenario.organization, model, payload⟩ store = .ok true := by
    rw [Expression.alone, calm, holds]
  have scores := iteration.score_calm model batch stamp sameTable opens
  rw [calm] at scores
  rw [scores, calmEvaluation, gives]
  simp only [Rule.execute_eq_aloneOn calm]

/-- The rules of an iteration do not depend on each other. When no failure is to come, an object
that two iterations are triggered by gets a decision from both. Each lists every rule of its
iteration once, in scoring order, with what the rule gives alone in a session of its own; a rule
that both iterations have gets the same execution from both. -/
theorem rules_independent (first second : Iteration) (model : DataModel) (scenario : Scenario)
    (payload : Payload) (batch otherBatch : Option Uuid) (stamp otherStamp : Stamp) {store : Store}
    (sameTable : payload.table = scenario.triggerTable) (noFailure : store.failures = 0)
    (firstHolds : ((first.trigger.evaluateBool
      (Scope.mk scenario.organization model payload).accessor).runFrom (.start store)).1 = .ok true)
    (secondHolds : ((second.trigger.evaluateBool
      (Scope.mk scenario.organization model payload).accessor).runFrom (.start store)).1 =
        .ok true) :
    let scope : Scope := ⟨scenario.organization, model, payload⟩
    ∃ (decision other : Decision) (ordered otherOrdered : List Rule),
      ((first.score model scenario payload batch stamp).run store).1 = .ok (.triggered decision) ∧
      ((second.score model scenario payload otherBatch otherStamp).run store).1 =
        .ok (.triggered other) ∧
      decision.ListsAlone first.rules ordered scope store ∧
      other.ListsAlone second.rules otherOrdered scope store ∧
      ∀ rule ∈ first.rules, ∀ twin ∈ second.rules, rule.SameAs twin →
        (∀ index : Nat, ordered[index]? = some rule →
          decision.executions[index]? = some (rule.aloneOn scope store)) ∧
        ∀ index : Nat, otherOrdered[index]? = some twin →
          other.executions[index]? = some (rule.aloneOn scope store) := by
  intro scope
  refine ⟨_, _, first.orderedRules, second.orderedRules,
    first.score_of_triggered batch stamp sameTable noFailure firstHolds,
    second.score_of_triggered otherBatch otherStamp sameTable noFailure secondHolds,
    first.listsAlone_decide scope, second.listsAlone_decide scope, ?_⟩
  intro rule _ twin _ same
  refine ⟨fun index isRule => ?_, fun index isTwin => ?_⟩
  · rw [decide, List.getElem?_map, isRule, Option.map_some]
  · rw [decide, List.getElem?_map, isTwin, Option.map_some, same.aloneOn_eq]

end Iteration

namespace Shop

/-- The verification of the customer adds ten points for the order, also at another place and next
to a rule that fails. -/
theorem rules_independent_verification :
    let store := session.store.failReads 0
    let execution : RuleExecution := ⟨⟨⟨31⟩, "Verified", "", 10⟩, true, 10, none, none⟩
    ∃ (decision other : Decision),
      (((scoring [verification, strangeness]).score model scenario order none stamp).run store).1 =
        .ok (.triggered decision) ∧
      (((scoring [urgency, { verification with displayOrder := 7 }]).score model scenario order none
        stamp).run store).1 = .ok (.triggered other) ∧
      execution ∈ decision.executions ∧ execution ∈ other.executions ∧
      other.flaw = some .ruleFailed := by
  intro store execution
  have calm : store.failures = 0 := rfl
  obtain ⟨decision, other, ordered, otherOrdered, decides, otherDecides, lists, otherLists, same⟩ :=
    Iteration.rules_independent (scoring [verification, strangeness])
      (scoring [urgency, { verification with displayOrder := 7 }]) model scenario order none none
      stamp stamp rfl calm rfl rfl
  obtain ⟨given, otherGiven⟩ := same verification List.mem_cons_self
    { verification with displayOrder := 7 } (List.mem_cons_of_mem _ List.mem_cons_self) ⟨rfl, rfl⟩
  have isVerified : verification.aloneOn ⟨⟨3⟩, model, order⟩ store = execution := rfl
  obtain ⟨index, atIndex⟩ :=
    List.getElem?_of_mem (lists.order.once.mem_iff.mpr List.mem_cons_self)
  refine ⟨decision, other, decides, otherDecides, ?_, ?_, ?_⟩
  · exact List.mem_of_getElem? (given index atIndex)
  · obtain ⟨place, atPlace⟩ := List.getElem?_of_mem
      (otherLists.order.once.mem_iff.mpr (List.mem_cons_of_mem _ List.mem_cons_self))
    exact List.mem_of_getElem? (otherGiven place atPlace)
  · have isUrgency : urgency ∈ otherOrdered := otherLists.order.once.mem_iff.mpr List.mem_cons_self
    refine otherLists.flaw.mpr ⟨urgency.aloneOn ⟨⟨3⟩, model, order⟩ store, ?_, rfl⟩
    rw [otherLists.executions]
    exact List.mem_map_of_mem isUrgency

end Shop

end RiskScoring
