import RiskScoring.Proofs.Decision.Independence
import RiskScoring.Proofs.Decision.Saturation

/-!
# More points never make an outcome milder

* `Outcome.severity`: outcomes in order, approval before review before rejection.
* `Outcome.ofScore_mono`: a greater score never has a milder outcome.
* `Decision.Weighs`: a decision with the executions of an iteration, and their score.
* `Decision.Weighs.le_of_contributions`: contributions that are no less at any place make neither a
  lower score nor a milder outcome.
* `Iteration.risk_monotone`: the same for decisions of two iterations, and what a rule that turns
  true or fails can do.
-/

namespace RiskScoring

open Ingest

/-! ## Outcomes -/

namespace Outcome

/-- How severe an outcome is. -/
def severity : Outcome → Nat
  | approve => 0
  | review => 1
  | reject => 2

instance : LE Outcome := ⟨fun outcome other => outcome.severity ≤ other.severity⟩

instance (outcome other : Outcome) : Decidable (outcome ≤ other) :=
  inferInstanceAs (Decidable (outcome.severity ≤ other.severity))

theorem le_reject (outcome : Outcome) : outcome ≤ reject := by
  cases outcome <;> decide

theorem approve_le (outcome : Outcome) : approve ≤ outcome := Nat.zero_le outcome.severity

/-- A greater score never has a milder outcome, whichever threshold is the greater one. -/
theorem ofScore_mono {score greater : Int64} (less : score ≤ greater)
    (reviewThreshold rejectThreshold : Int64) :
    ofScore score reviewThreshold rejectThreshold ≤
      ofScore greater reviewThreshold rejectThreshold := by
  unfold ofScore
  by_cases rejected : rejectThreshold ≤ score
  · rw [if_pos rejected, if_pos (Int64.le_trans rejected less)]
    exact le_reject reject
  · rw [if_neg rejected]
    by_cases alsoRejected : rejectThreshold ≤ greater
    · rw [if_pos alsoRejected]
      exact le_reject _
    · rw [if_neg alsoRejected]
      by_cases reviewed : reviewThreshold ≤ score
      · rw [if_pos reviewed, if_pos (Int64.le_trans reviewed less)]
        exact Nat.le_refl _
      · rw [if_neg reviewed]
        exact approve_le _

end Outcome

/-! ## Executions -/

namespace RuleExecution

/-- A rule that is false or failed adds nothing. -/
theorem contribution_of_not_true {rule : Rule} {result : Except EvaluationError Bool}
    (notTrue : (ofResult rule result).result = false ∨ (ofResult rule result).failure.isSome) :
    (ofResult rule result).contribution = 0 := by
  cases result with
  | error error => rfl
  | ok holds =>
    cases holds with
    | false => rfl
    | true => rcases notTrue with isFalse | failed <;> contradiction

/-- A rule whose modifier is not negative takes nothing away. -/
theorem contribution_nonneg {rule : Rule} (gains : 0 ≤ rule.scoreModifier)
    (result : Except EvaluationError Bool) : 0 ≤ (ofResult rule result).contribution := by
  cases result with
  | error error => exact Int64.le_refl 0
  | ok holds =>
    cases holds with
    | false => exact Int64.le_refl 0
    | true => exact gains

end RuleExecution

/-- Greater contributions never make a lower score. -/
theorem totalScore_mono {executions others : List RuleExecution}
    (each : List.Forall₂ (fun execution twin => execution.contribution ≤ twin.contribution)
      executions others) : totalScore executions ≤ totalScore others := by
  rw [Int64.le_iff_toInt_le, toInt_totalScore, toInt_totalScore]
  refine Score.running_mono (Int.le_refl 0) ?_
  rw [List.forall₂_map_left_iff, List.forall₂_map_right_iff]
  exact each.imp fun _ _ less => Int64.le_iff_toInt_le.mp less

/-! ## Decisions -/

/-- A decision that an iteration gives: it lists one execution for each rule, in scoring order, and
has their score and the outcome of that score. -/
structure Decision.Weighs (decision : Decision) (iteration : Iteration) : Prop where
  order : Rule.InScoringOrder iteration.rules iteration.orderedRules
  given : List.Forall₂ Rule.Gives iteration.orderedRules decision.executions
  score : decision.score = totalScore decision.executions
  outcome : decision.outcome =
    .ofScore decision.score iteration.reviewThreshold iteration.rejectThreshold

namespace Decision.Weighs

variable {decision other : Decision} {first second : Iteration}

theorem length_eq (weighs : decision.Weighs first) :
    decision.executions.length = first.rules.length := by
  rw [← weighs.given.length_eq, weighs.order.once.length_eq]

theorem given_at (weighs : decision.Weighs first) {index : Nat} {execution : RuleExecution}
    (listed : decision.executions[index]? = some execution) :
    ∃ rule result, first.orderedRules[index]? = some rule ∧ execution = .ofResult rule result := by
  obtain ⟨inside, rfl⟩ := List.getElem?_eq_some_iff.mp listed
  have alsoInside : index < first.orderedRules.length := by
    rw [weighs.given.length_eq]
    exact inside
  obtain ⟨result, given⟩ := weighs.given.get alsoInside inside
  exact ⟨first.orderedRules[index], result, List.getElem?_eq_getElem alsoInside, given⟩

/-- Contributions that are no less at any place make neither a lower score nor a milder outcome. -/
theorem le_of_contributions (weighs : decision.Weighs first) (alsoWeighs : other.Weighs second)
    (sameCount : first.rules.length = second.rules.length)
    (sameReview : first.reviewThreshold = second.reviewThreshold)
    (sameReject : first.rejectThreshold = second.rejectThreshold)
    (each : ∀ (index : Nat) (execution twin : RuleExecution),
      decision.executions[index]? = some execution → other.executions[index]? = some twin →
        execution.contribution ≤ twin.contribution) :
    decision.score ≤ other.score ∧ decision.outcome ≤ other.outcome := by
  have lengths : decision.executions.length = other.executions.length := by
    rw [weighs.length_eq, alsoWeighs.length_eq, sameCount]
  have scores : decision.score ≤ other.score := by
    rw [weighs.score, alsoWeighs.score]
    refine totalScore_mono (List.forall₂_iff_get.mpr ⟨lengths, fun index inside alsoInside => ?_⟩)
    exact each index _ _ (List.getElem?_eq_getElem inside) (List.getElem?_eq_getElem alsoInside)
  refine ⟨scores, ?_⟩
  rw [weighs.outcome, alsoWeighs.outcome, sameReview, sameReject]
  exact Outcome.ofScore_mono scores _ _

end Decision.Weighs

namespace Iteration

theorem weighs_of_score {iteration : Iteration} {model : DataModel} {scenario : Scenario}
    {payload : Payload} {batch : Option Uuid} {stamp : Stamp} {store after : Store}
    {decision : Decision}
    (scores : (iteration.score model scenario payload batch stamp).run store =
      (.ok (.triggered decision), after)) : decision.Weighs iteration := by
  obtain ⟨-, session, -, rfl⟩ := triggered_of_score scores
  exact ⟨Rule.orderedRules_inScoringOrder iteration, runRules_given _ _ session, rfl, rfl⟩

/-- Risk is monotone. Two objects are scored, by iterations of equally many rules and the same
thresholds. If the rules of the first decision contribute no more than those of the second one,
place by place in scoring order, its score is no higher and its outcome no more severe. That is so
too if they contribute the same at all places but one, the rule at that place has a modifier that is
not negative in the second decision, and the one of the first decision is false or failed. -/
theorem risk_monotone {first second : Iteration} {model otherModel : DataModel}
    {scenario otherScenario : Scenario} {payload otherPayload : Payload}
    {batch otherBatch : Option Uuid} {stamp otherStamp : Stamp}
    {store otherStore after otherAfter : Store} {decision other : Decision}
    (scores : (first.score model scenario payload batch stamp).run store =
      (.ok (.triggered decision), after))
    (otherScores : (second.score otherModel otherScenario otherPayload otherBatch otherStamp).run
      otherStore = (.ok (.triggered other), otherAfter))
    (sameCount : first.rules.length = second.rules.length)
    (sameReview : first.reviewThreshold = second.reviewThreshold)
    (sameReject : first.rejectThreshold = second.rejectThreshold) :
    decision.Weighs first ∧ other.Weighs second ∧
    ((∀ (index : Nat) (execution twin : RuleExecution),
        decision.executions[index]? = some execution → other.executions[index]? = some twin →
          execution.contribution ≤ twin.contribution) →
      decision.score ≤ other.score ∧ decision.outcome ≤ other.outcome) ∧
    ∀ (place : Nat) (rule : Rule) (execution : RuleExecution),
      second.orderedRules[place]? = some rule → 0 ≤ rule.scoreModifier →
      decision.executions[place]? = some execution →
      execution.result = false ∨ execution.failure.isSome →
      (∀ index : Nat, index ≠ place →
        decision.executions[index]?.map RuleExecution.contribution =
          other.executions[index]?.map RuleExecution.contribution) →
      decision.score ≤ other.score ∧ decision.outcome ≤ other.outcome := by
  have weighs := weighs_of_score scores
  have alsoWeighs := weighs_of_score otherScores
  have milder := weighs.le_of_contributions alsoWeighs sameCount sameReview sameReject
  refine ⟨weighs, alsoWeighs, milder, ?_⟩
  intro place rule execution isRule gains isExecution notTrue elsewhere
  refine milder fun index given twin isGiven isTwin => ?_
  by_cases here : index = place
  · subst here
    obtain ⟨_, _, -, rfl⟩ := weighs.given_at isGiven
    obtain ⟨twinRule, result, isTwinRule, rfl⟩ := alsoWeighs.given_at isTwin
    cases isExecution.symm.trans isGiven
    cases isRule.symm.trans isTwinRule
    rw [RuleExecution.contribution_of_not_true notTrue]
    exact RuleExecution.contribution_nonneg gains result
  · have same := elsewhere index here
    rw [isGiven, isTwin] at same
    rw [Option.some.inj same]
    exact Int64.le_refl _

end Iteration

namespace Shop

/-- An order for which it is not said whether the address is known. -/
def silentOrder : Payload :=
  ⟨"orders", .ofList [("customer", .string "c1")], .object [("customer", .string "c1")]⟩

/-- An order for an unknown address. -/
def strangeOrder : Payload :=
  ⟨"orders", .ofList [("known", .bool false), ("customer", .string "c1")],
    .object [("known", .bool false), ("customer", .string "c1")]⟩

/-- Strangeness, between the least score and a rule that takes more from it. -/
def weighing : Iteration :=
  { scoring [always 1 Int64.minValue, strangeness, always 3 (-10)] with
    reviewThreshold := Int64.minValue + 10, rejectThreshold := Int64.maxValue }

/-- The order that does not say whether its address is known gets away with the least score, and
the one that says it is unknown does not. -/
theorem risk_monotone_strangeness :
    let store := session.store.failReads 0
    ∃ (decision other : Decision) (after otherAfter : Store),
      (weighing.score model scenario silentOrder none stamp).run store =
        (.ok (.triggered decision), after) ∧
      (weighing.score model scenario strangeOrder none stamp).run store =
        (.ok (.triggered other), otherAfter) ∧
      decision.flaw = some .ruleFailed ∧ decision.outcome = .approve ∧ other.outcome = .review ∧
      decision.score ≤ other.score ∧ decision.outcome ≤ other.outcome := by
  intro store
  have calm : store.failures = 0 := rfl
  have ordered : weighing.orderedRules =
      [always 1 Int64.minValue, strangeness, always 3 (-10)] :=
    (Rule.orderedRules_inScoringOrder weighing).unique (List.Perm.refl _) (by decide)
  let failing (rule : Rule) := rule.aloneOn ⟨⟨3⟩, model, silentOrder⟩ store
  let holding (rule : Rule) := rule.aloneOn ⟨⟨3⟩, model, strangeOrder⟩ store
  have scores : (weighing.score model scenario silentOrder none stamp).run store =
      (.ok (.triggered (weighing.decide scenario silentOrder none stamp
        (weighing.orderedRules.map failing))), _) :=
    Prod.ext (weighing.score_of_triggered none stamp rfl calm rfl) rfl
  have otherScores : (weighing.score model scenario strangeOrder none stamp).run store =
      (.ok (.triggered (weighing.decide scenario strangeOrder none stamp
        (weighing.orderedRules.map holding))), _) :=
    Prod.ext (weighing.score_of_triggered none stamp rfl calm rfl) rfl
  refine ⟨_, _, _, _, scores, otherScores, ?_, ?_, ?_, ?_⟩
  · rw [ordered]
    rfl
  · rw [ordered]
    decide +kernel
  · rw [ordered]
    decide +kernel
  · have monotone := (Iteration.risk_monotone scores otherScores rfl rfl rfl).2.2.2
    rw [ordered] at monotone ⊢
    refine monotone 1 strangeness (failing strangeness) rfl (by decide) rfl (Or.inl rfl) ?_
    intro index elsewhere
    rcases index with _ | _ | _ | index
    · rfl
    · exact absurd rfl elsewhere
    · rfl
    · rfl

end Shop

end RiskScoring
