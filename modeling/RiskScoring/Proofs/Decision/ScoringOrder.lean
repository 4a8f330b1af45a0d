import RiskScoring.Proofs.Decision.Independence
import RiskScoring.Proofs.Decision.Saturation

/-!
# The score and the order of the rules

The score adds up the modifiers of the rules that hold, in scoring order. Because every sum is kept
within a word, gains and losses that pass an end of the range for a while leave a trace in the
score, and then it depends on the order of the rules.

* `Rule.points`: what the rules add to the score, in order.
* `Iteration.Reordered`: the same rules, at other places of the order.
* `Iteration.PutsFirst`, `Iteration.exists_putsFirst`: display orders that put some rules first. To
  exchange those that the rules have is enough, unless some are the same.
* `Iteration.score_adds_up`: what the score is, and when it does not depend on the order.
-/

namespace RiskScoring

open Ingest

/-! ## Points -/

namespace Rule

/-- What a rule adds to the score for what its formula gives. -/
def earns (rule : Rule) : Except EvaluationError Bool → Int
  | .ok true => rule.scoreModifier.toInt
  | _ => 0

/-- What rules add to the score, in order: the modifier of each whose formula is true in the session
that the rules before it leave, and nothing for the others. -/
def points (scope : Scope) : List Rule → Session → List Int
  | [], _ => []
  | rule :: rest, session =>
    let ended := (rule.formula.evaluateBool scope.accessor).runFrom session
    rule.earns ended.1 :: points scope rest ended.2

/-- What the rule adds to the score with a session of its own. -/
def pointsOn (scope : Scope) (store : Store) (rule : Rule) : Int :=
  (rule.aloneOn scope store).contribution.toInt

variable {scope : Scope} {store : Store}

theorem contribution_ofResult (rule : Rule) (result : Except EvaluationError Bool) :
    (RuleExecution.ofResult rule result).contribution.toInt = rule.earns result := by
  cases result with
  | error error => rfl
  | ok holds => cases holds <;> rfl

/-- A rule adds its modifier or nothing. -/
theorem pointsOn_cases (rule : Rule) (scope : Scope) (store : Store) :
    rule.pointsOn scope store = rule.scoreModifier.toInt ∨ rule.pointsOn scope store = 0 := by
  rw [pointsOn, aloneOn_eq, contribution_ofResult]
  cases ((rule.formula.evaluateBool scope.accessor).runFrom (.start store)).1 with
  | error error => exact Or.inr rfl
  | ok holds =>
    cases holds with
    | false => exact Or.inr rfl
    | true => exact Or.inl rfl

/-- Rules add the same points at any place of the order. -/
theorem map_pointsOn_eq {rules twins : List Rule} (same : List.Forall₂ SameAs rules twins) :
    rules.map (pointsOn scope store) = twins.map (pointsOn scope store) := by
  induction same with
  | nil => rfl
  | cons twin _ ih => rw [List.map_cons, List.map_cons, pointsOn, pointsOn, twin.aloneOn_eq, ih]

/-- Rules of different display orders can be given any other ones. -/
theorem exists_map_eq {rules : List Rule} (different : (rules.map displayOrder).Nodup)
    {orders : List UInt32} (asMany : orders.length = rules.length) :
    ∃ place : Rule → UInt32, rules.map place = orders := by
  induction rules generalizing orders with
  | nil => exact ⟨displayOrder, (List.length_eq_zero_iff.mp asMany).symm⟩
  | cons rule rest ih =>
    obtain ⟨order, later, rfl⟩ := List.exists_cons_of_length_eq_add_one asMany
    obtain ⟨unlike, laterDifferent⟩ := List.nodup_cons.mp different
    obtain ⟨place, rfl⟩ := ih laterDifferent (Nat.succ.inj asMany)
    refine ⟨fun other => if other.displayOrder = rule.displayOrder then order else place other, ?_⟩
    rw [List.map_cons, if_pos rfl]
    refine congrArg (order :: ·) (List.map_congr_left fun other listed => if_neg fun same => ?_)
    exact unlike (same ▸ List.mem_map_of_mem listed)

end Rule

theorem Iteration.contributions_runRules (scope : Scope) (rules : List Rule) (session : Session) :
    ((runRules scope.accessor rules).run session).1.map
        (fun execution => execution.contribution.toInt) = Rule.points scope rules session := by
  induction rules generalizing session with
  | nil => rfl
  | cons rule rest ih =>
    let ended := (rule.formula.evaluateBool scope.accessor).runFrom session
    have split : ((runRules scope.accessor (rule :: rest)).run session).1 =
        .ofResult rule ended.1 :: ((runRules scope.accessor rest).run ended.2).1 := rfl
    rw [split, List.map_cons, rule.contribution_ofResult, ih]
    rfl

/-! ## The same rules in another order -/

namespace Iteration

/-- An iteration with the same trigger condition, thresholds and rules. The rules may have other
display orders, and they may be stored in another order. -/
structure Reordered (iteration other : Iteration) : Prop where
  trigger : other.trigger = iteration.trigger
  reviewThreshold : other.reviewThreshold = iteration.reviewThreshold
  rejectThreshold : other.rejectThreshold = iteration.rejectThreshold
  rules : ∃ renumbered, List.Forall₂ Rule.SameAs iteration.rules renumbered ∧
    renumbered.Perm other.rules

/-- The iteration with other display orders. -/
def renumber (iteration : Iteration) (place : Rule → UInt32) : Iteration :=
  { iteration with
    rules := iteration.rules.map fun rule => { rule with displayOrder := place rule } }

theorem reordered_renumber (iteration : Iteration) (place : Rule → UInt32) :
    iteration.Reordered (iteration.renumber place) where
  trigger := rfl
  reviewThreshold := rfl
  rejectThreshold := rfl
  rules := by
    refine ⟨_, ?_, List.Perm.refl _⟩
    show List.Forall₂ Rule.SameAs iteration.rules (iteration.rules.map _)
    exact List.forall₂_map_right_iff.mpr (List.forall₂_same.mpr fun _ _ => ⟨rfl, rfl⟩)

variable {iteration other : Iteration} {model : DataModel} {scenario : Scenario} {payload : Payload}
  {batch : Option Uuid} {stamp : Stamp} {store : Store}

/-- The points of the same rules are the same, in another order. -/
theorem Reordered.pointsOn_perm (same : iteration.Reordered other) (scope : Scope)
    (store : Store) :
    (iteration.orderedRules.map (Rule.pointsOn scope store)).Perm
      (other.orderedRules.map (Rule.pointsOn scope store)) := by
  obtain ⟨renumbered, twins, stored⟩ := same.rules
  have ordered : iteration.orderedRules.Perm iteration.rules := List.mergeSort_perm _ _
  have otherOrdered : other.orderedRules.Perm other.rules := List.mergeSort_perm _ _
  refine (ordered.map _).trans ?_
  rw [Rule.map_pointsOn_eq twins]
  exact (stored.map _).trans (otherOrdered.map _).symm

/-! ## When no failure is to come -/

/-- The decision of an iteration whose trigger condition holds, when no failure is to come. -/
def calmDecision (iteration : Iteration) (model : DataModel) (scenario : Scenario)
    (payload : Payload) (batch : Option Uuid) (stamp : Stamp) (store : Store) : Decision :=
  iteration.decide scenario payload batch stamp
    (iteration.orderedRules.map fun rule =>
      rule.aloneOn ⟨scenario.organization, model, payload⟩ store)

theorem toInt_score_decide (executions : List RuleExecution) :
    (iteration.decide scenario payload batch stamp executions).score.toInt =
      Score.running 0 (executions.map fun execution => execution.contribution.toInt) :=
  toInt_totalScore executions

theorem toInt_score_calmDecision :
    (iteration.calmDecision model scenario payload batch stamp store).score.toInt =
      Score.running 0 (iteration.orderedRules.map
        (Rule.pointsOn ⟨scenario.organization, model, payload⟩ store)) := by
  rw [calmDecision, toInt_score_decide, List.map_map]
  rfl

theorem outcome_calmDecision :
    (iteration.calmDecision model scenario payload batch stamp store).outcome =
      .ofScore (iteration.calmDecision model scenario payload batch stamp store).score
        iteration.reviewThreshold iteration.rejectThreshold := rfl

/-- Every decision is that one, when no failure is to come. -/
theorem calmDecision_of_score {after : Store} {decision : Decision}
    (scores : (iteration.score model scenario payload batch stamp).run store =
      (.ok (.triggered decision), after)) (noFailure : store.failures = 0) :
    decision = iteration.calmDecision model scenario payload batch stamp store := by
  obtain ⟨sameTable, session, triggers, -⟩ := triggered_of_score scores
  have calm := iteration.score_of_triggered batch stamp sameTable noFailure
    (congrArg Prod.fst triggers)
  rw [scores] at calm
  exact Evaluation.triggered.inj (Except.ok.inj calm)

/-- An iteration with its rules in another order is triggered by the same objects. -/
theorem Reordered.scores (same : iteration.Reordered other)
    (sameTable : payload.table = scenario.triggerTable) (noFailure : store.failures = 0)
    (holds : ((iteration.trigger.evaluateBool
      (Scope.mk scenario.organization model payload).accessor).runFrom (.start store)).1 = .ok true)
    (batch : Option Uuid) (stamp : Stamp) :
    ((other.score model scenario payload batch stamp).run store).1 =
      .ok (.triggered (other.calmDecision model scenario payload batch stamp store)) := by
  rw [← same.trigger] at holds
  exact other.score_of_triggered batch stamp sameTable noFailure holds

/-- Points that are free of the order make the same score and the same outcome in another order. -/
theorem Reordered.calmDecision_eq (same : iteration.Reordered other)
    (free : Score.OrderFree (iteration.orderedRules.map
      (Rule.pointsOn ⟨scenario.organization, model, payload⟩ store)))
    (otherBatch : Option Uuid) (otherStamp : Stamp) :
    let decision := iteration.calmDecision model scenario payload batch stamp store
    let twin := other.calmDecision model scenario payload otherBatch otherStamp store
    twin.score = decision.score ∧ twin.outcome = decision.outcome := by
  intro decision twin
  have permuted := same.pointsOn_perm ⟨scenario.organization, model, payload⟩ store
  have scores : twin.score = decision.score := by
    refine Int64.toInt_inj.mp ?_
    rw [toInt_score_calmDecision, toInt_score_calmDecision, free.running_eq,
      ((Score.orderFree_perm permuted).mp free).running_eq, permuted.sum_eq]
  refine ⟨scores, ?_⟩
  rw [outcome_calmDecision, outcome_calmDecision, same.reviewThreshold, same.rejectThreshold]
  exact congrArg (Outcome.ofScore · _ _) scores

/-! ## The two orders that differ most -/

/-- The display orders put the rules of some modifiers first. -/
def PutsFirst (iteration : Iteration) (isFirst : Int → Prop) (place : Rule → UInt32) : Prop :=
  ∀ rule ∈ iteration.rules, ∀ later ∈ iteration.rules, isFirst rule.scoreModifier.toInt →
    ¬isFirst later.scoreModifier.toInt → place rule < place later

/-- Display orders that are all different can be exchanged so that such rules come first. -/
theorem exists_exchange (iteration : Iteration) (isFirst : Int → Prop) [DecidablePred isFirst]
    (different : (iteration.rules.map Rule.displayOrder).Nodup) :
    ∃ place, iteration.PutsFirst isFirst place ∧
      (iteration.rules.map place).Perm (iteration.rules.map Rule.displayOrder) := by
  have inOrder := Rule.orderedRules_inScoringOrder iteration
  let comesFirst (rule : Rule) : Bool := Decidable.decide (isFirst rule.scoreModifier.toInt)
  let firsts := iteration.orderedRules.filter comesFirst
  let others := iteration.orderedRules.filter fun rule => !comesFirst rule
  have queued : (firsts ++ others).Perm iteration.rules :=
    (List.filter_append_perm comesFirst iteration.orderedRules).trans inOrder.once
  -- The rules queue up for the display orders, from the least to the greatest one.
  have asMany : (iteration.orderedRules.map Rule.displayOrder).length =
      (firsts ++ others).length := by
    rw [List.length_map, inOrder.once.length_eq, queued.length_eq]
  obtain ⟨place, given⟩ := Rule.exists_map_eq ((queued.map _).nodup_iff.mpr different) asMany
  have placed := queued.map place
  rw [given] at placed
  refine ⟨place, ?_, placed.symm.trans (inOrder.once.map _)⟩
  have distinct := (inOrder.once.map Rule.displayOrder).nodup_iff.mpr different
  have increasing : ((firsts ++ others).map place).Pairwise (· < ·) := by
    rw [given]
    exact ((List.pairwise_map.mpr inOrder.sorted).and distinct).imp fun before =>
      UInt32.lt_of_le_of_ne before.1 before.2
  intro rule listed later listedLater isFirstRule isOther
  refine (List.pairwise_append.mp (List.pairwise_map.mp increasing)).2.2 rule ?_ later ?_
  · exact List.mem_filter.mpr ⟨inOrder.once.mem_iff.mpr listed, decide_eq_true isFirstRule⟩
  · refine List.mem_filter.mpr ⟨inOrder.once.mem_iff.mpr listedLater, ?_⟩
    rw [Bool.not_eq_true', decide_eq_false_iff_not]
    exact isOther

/-- Some display orders put such rules first. If all display orders are different, these are the
same ones, given to the rules in another way. -/
theorem exists_putsFirst (iteration : Iteration) (isFirst : Int → Prop) [DecidablePred isFirst] :
    ∃ place, iteration.PutsFirst isFirst place ∧
      ((iteration.rules.map Rule.displayOrder).Nodup →
        (iteration.rules.map place).Perm (iteration.rules.map Rule.displayOrder)) := by
  by_cases different : (iteration.rules.map Rule.displayOrder).Nodup
  · obtain ⟨place, putsFirst, exchanged⟩ := iteration.exists_exchange isFirst different
    exact ⟨place, putsFirst, fun _ => exchanged⟩
  · refine ⟨fun rule => if isFirst rule.scoreModifier.toInt then 0 else 1, ?_, fun same =>
      absurd same different⟩
    intro rule _ later _ isFirstRule isOther
    simp only [if_pos isFirstRule, if_neg isOther]
    decide

/-- The points of such rules come first then, but for rules that add nothing. -/
theorem PutsFirst.pairwise {iteration : Iteration} {isFirst : Int → Prop} {place : Rule → UInt32}
    (putsFirst : iteration.PutsFirst isFirst place) (notZero : ¬isFirst 0) (scope : Scope)
    (store : Store) :
    ((iteration.renumber place).orderedRules.map (Rule.pointsOn scope store)).Pairwise
      fun more later => isFirst later → more = 0 ∨ isFirst more := by
  have ordered := Rule.orderedRules_inScoringOrder (iteration.renumber place)
  have origin (rule : Rule) (listed : rule ∈ (iteration.renumber place).orderedRules) :
      ∃ stored ∈ iteration.rules, { stored with displayOrder := place stored } = rule :=
    List.mem_map.mp (ordered.once.mem_iff.mp listed)
  refine List.pairwise_map.mpr (ordered.sorted.imp_of_mem ?_)
  intro rule later isRule isLater before laterFirst
  obtain ⟨stored, listed, rfl⟩ := origin rule isRule
  obtain ⟨storedLater, listedLater, rfl⟩ := origin later isLater
  rcases Rule.pointsOn_cases _ scope store with laterAdds | laterAdds
  · rw [laterAdds] at laterFirst
    have ruleFirst : isFirst stored.scoreModifier.toInt := by
      by_contra ruleLast
      exact UInt32.not_lt.mpr before (putsFirst _ listedLater _ listed laterFirst ruleLast)
    rcases Rule.pointsOn_cases _ scope store with adds | adds
    · rw [adds]
      exact Or.inr ruleFirst
    · exact Or.inl adds
  · rw [laterAdds] at laterFirst
    exact absurd laterFirst notZero

/-- Points that are not free of the order make another score with other display orders. If the
display orders are all different, it is enough to exchange them. -/
theorem exists_renumber (iteration : Iteration)
    (mixed : ¬Score.OrderFree (iteration.orderedRules.map
      (Rule.pointsOn ⟨scenario.organization, model, payload⟩ store))) (score : Int64) :
    ∃ place,
      ((iteration.rules.map Rule.displayOrder).Nodup →
        (iteration.rules.map place).Perm (iteration.rules.map Rule.displayOrder)) ∧
      ((iteration.renumber place).calmDecision model scenario payload batch stamp
        store).score ≠ score := by
  let scope : Scope := ⟨scenario.organization, model, payload⟩
  let points := iteration.orderedRules.map (Rule.pointsOn scope store)
  obtain ⟨gains, gainsPlaced, gainsExchanged⟩ := iteration.exists_putsFirst (0 < ·)
  obtain ⟨losses, lossesPlaced, lossesExchanged⟩ := iteration.exists_putsFirst (· < 0)
  have climbs : ((iteration.renumber gains).calmDecision model scenario payload batch stamp
      store).score.toInt = Score.clamp (Score.clamp (Score.gained points) + Score.lost points) := by
    have permuted := (iteration.reordered_renumber gains).pointsOn_perm scope store
    have gainsFirst := gainsPlaced.pairwise (Int.lt_irrefl 0) scope store
    rw [toInt_score_calmDecision,
      Score.running_of_gainsFirst (by decide) (by decide) gainsFirst,
      ← Score.gained_perm permuted, ← Score.lost_perm permuted, Int.zero_add]
  have falls : ((iteration.renumber losses).calmDecision model scenario payload batch stamp
      store).score.toInt = Score.clamp (Score.clamp (Score.lost points) + Score.gained points) := by
    have permuted := (iteration.reordered_renumber losses).pointsOn_perm scope store
    have lossesFirst := lossesPlaced.pairwise (Int.lt_irrefl 0) scope store
    rw [toInt_score_calmDecision,
      Score.running_of_lossesFirst (by decide) (by decide) lossesFirst,
      ← Score.gained_perm permuted, ← Score.lost_perm permuted, Int.zero_add]
  by_cases same : ((iteration.renumber gains).calmDecision model scenario payload batch stamp
      store).score = score
  · refine ⟨losses, lossesExchanged, fun alsoSame => ?_⟩
    refine Score.clamp_ne_of_not_orderFree mixed ?_
    rw [← climbs, ← falls, same, alsoSame]
  · exact ⟨gains, gainsExchanged, same⟩

/-! ## What the score is -/

/-- The score adds up the points of the rules in scoring order, and every sum is kept within a word.
It is the sum of the points, kept within a word once, if no partial sum is further beyond an end of
the range than the whole sum is. That is so in every order of the rules, and makes the same score
and outcome, if neither the gains nor the losses of the rules pass an end of the range or the points
are all of one sign. If not, other display orders make another score; and if the display orders are
all different, as they are when an iteration is published, it is enough to exchange them. -/
theorem score_adds_up {after : Store} {decision : Decision}
    (scores : (iteration.score model scenario payload batch stamp).run store =
      (.ok (.triggered decision), after)) :
    let scope : Scope := ⟨scenario.organization, model, payload⟩
    ∃ session,
      (iteration.trigger.evaluateBool scope.accessor).runFrom (.start store) = (.ok true, session) ∧
      let points := Rule.points scope iteration.orderedRules session
      Rule.InScoringOrder iteration.rules iteration.orderedRules ∧
      decision.score.toInt = Score.running 0 points ∧
      (Score.Steady 0 points → decision.score.toInt = Score.clamp points.sum) ∧
      (Score.OrderFree points → decision.score.toInt = Score.clamp points.sum) ∧
      (store.failures = 0 → ∀ (otherBatch : Option Uuid) (otherStamp : Stamp),
        (Score.OrderFree points → ∀ other, iteration.Reordered other → ∃ twin,
          ((other.score model scenario payload otherBatch otherStamp).run store).1 =
            .ok (.triggered twin) ∧
          twin.score = decision.score ∧ twin.outcome = decision.outcome) ∧
        (¬Score.OrderFree points → ∃ place twin,
          ((iteration.rules.map Rule.displayOrder).Nodup →
            ((iteration.renumber place).rules.map Rule.displayOrder).Perm
              (iteration.rules.map Rule.displayOrder)) ∧
          (((iteration.renumber place).score model scenario payload otherBatch otherStamp).run
            store).1 = .ok (.triggered twin) ∧ twin.score ≠ decision.score)) := by
  intro scope
  obtain ⟨sameTable, session, triggers, rfl⟩ := triggered_of_score scores
  refine ⟨session, triggers, ?_⟩
  intro points
  have contributions : ((runRules scope.accessor iteration.orderedRules).run session).1.map
      (fun execution => execution.contribution.toInt) = points :=
    contributions_runRules scope iteration.orderedRules session
  have adds : (iteration.decide scenario payload batch stamp
      ((runRules scope.accessor iteration.orderedRules).run session).1).score.toInt =
        Score.running 0 points := by
    rw [toInt_score_decide, contributions]
  refine ⟨Rule.orderedRules_inScoringOrder iteration, adds, fun steady => ?_, fun free => ?_,
    fun noFailure otherBatch otherStamp => ?_⟩
  · rw [adds, Score.running_of_steady (by decide) (by decide) steady, Int.zero_add]
  · rw [adds, free.running_eq]
  · have holds : ((iteration.trigger.evaluateBool scope.accessor).runFrom (.start store)).1 =
        .ok true := congrArg Prod.fst triggers
    have isCalm := calmDecision_of_score scores noFailure
    -- Without failures to come, sharing a session makes no difference to the points.
    have alone : iteration.orderedRules.map (Rule.pointsOn scope store) = points := by
      rw [← contributions]
      have executions := congrArg Decision.executions isCalm
      change ((runRules scope.accessor iteration.orderedRules).run session).1 =
        iteration.orderedRules.map _ at executions
      rw [executions, List.map_map]
      rfl
    rw [isCalm, ← alone]
    refine ⟨fun free other same => ?_, fun mixed => ?_⟩
    · exact ⟨_, same.scores sameTable noFailure holds otherBatch otherStamp,
        same.calmDecision_eq free otherBatch otherStamp⟩
    · obtain ⟨place, exchanged, differs⟩ := iteration.exists_renumber mixed
        (iteration.calmDecision model scenario payload batch stamp store).score
      have renumbered : (iteration.renumber place).rules.map Rule.displayOrder =
          iteration.rules.map place := List.map_map
      exact ⟨place, _, fun different => renumbered ▸ exchanged different,
        (iteration.reordered_renumber place).scores sameTable noFailure holds otherBatch
          otherStamp, differs⟩

end Iteration

namespace Shop

/-- Two rules that hold and sum to more than the greatest score. -/
def exceeding : Iteration := scoring [always 0 Int64.maxValue, always 1 1]

/-- The score is the greatest one, also with other display orders. -/
theorem score_adds_up_exceeding :
    let store := session.store.failReads 0
    ∃ (decision : Decision) (after : Store),
      (exceeding.score model scenario order none stamp).run store =
        (.ok (.triggered decision), after) ∧
      decision.score.toInt = Score.greatest ∧
      ∀ place, ∃ twin,
        (((exceeding.renumber place).score model scenario order none stamp).run store).1 =
          .ok (.triggered twin) ∧
        twin.score = decision.score ∧ twin.outcome = decision.outcome := by
  intro store
  have triggers : ∃ decision after, (exceeding.score model scenario order none stamp).run store =
      (.ok (.triggered decision), after) := ⟨_, _, rfl⟩
  obtain ⟨decision, after, scores⟩ := triggers
  obtain ⟨started, holds, -, -, -, adds, calm⟩ := Iteration.score_adds_up scores
  have unread : started = .start store := (Prod.mk.inj holds).2.symm
  have ordered : exceeding.orderedRules = [always 0 Int64.maxValue, always 1 1] :=
    (Rule.orderedRules_inScoringOrder exceeding).unique (List.Perm.refl _) (by decide)
  rw [unread, ordered] at adds calm
  have free : Score.OrderFree (Rule.points ⟨scenario.organization, model, order⟩
      [always 0 Int64.maxValue, always 1 1] (.start store)) := by decide +kernel
  refine ⟨decision, after, scores, (adds free).trans (by decide +kernel), fun place => ?_⟩
  exact (calm rfl none stamp).1 free _ (exceeding.reordered_renumber place)

/-- Three rules that hold and sum to the greatest score. The sum of the first two passes it. -/
def passing : Iteration :=
  scoring [always 0 Int64.maxValue, always 1 Int64.maxValue, always 2 (-Int64.maxValue)]

/-- The display orders of the last two rules, exchanged. -/
def lossEarlier (rule : Rule) : UInt32 :=
  if rule.displayOrder = 1 then 2 else if rule.displayOrder = 2 then 1 else rule.displayOrder

/-- What the second rule adds is lost, so the third one takes everything, and the order is approved.
With the last two rules exchanged nothing is lost, and it is rejected. -/
theorem passing_adds_up_less :
    let store := session.store.failReads 0
    ∃ decision twin : Decision,
      ((passing.score model scenario order none stamp).run store).1 = .ok (.triggered decision) ∧
      (((passing.renumber lossEarlier).score model scenario order none stamp).run store).1 =
        .ok (.triggered twin) ∧
      Score.clamp ((decision.executions.filter fun execution => execution.result).map
        fun execution => execution.rule.scoreModifier.toInt).sum = Score.greatest ∧
      decision.score.toInt = 0 ∧ decision.outcome = .approve ∧
      twin.score.toInt = Score.greatest ∧ twin.outcome = .reject := by
  intro store
  have calm : store.failures = 0 := rfl
  refine ⟨_, _, passing.score_of_triggered none stamp rfl calm rfl,
    (passing.renumber lossEarlier).score_of_triggered none stamp rfl calm rfl, ?_⟩
  have ordered : passing.orderedRules =
      [always 0 Int64.maxValue, always 1 Int64.maxValue, always 2 (-Int64.maxValue)] :=
    (Rule.orderedRules_inScoringOrder passing).unique (List.Perm.refl _) (by decide)
  have reordered : (passing.renumber lossEarlier).orderedRules =
      [always 0 Int64.maxValue, { always 2 (-Int64.maxValue) with displayOrder := 1 },
        { always 1 Int64.maxValue with displayOrder := 2 }] :=
    (Rule.orderedRules_inScoringOrder (passing.renumber lossEarlier)).unique
      ((List.Perm.swap _ _ []).cons _) (by decide)
  rw [ordered, reordered]
  decide +kernel

end Shop

end RiskScoring
