import RiskScoring.Proofs.Decision.Scoring
import RiskScoring.Proofs.Evaluation.Scoped
import RiskScoring.Proofs.Publication.Invariant

/-!
# Scoring while others publish

To score an object with the live iteration of a scenario takes two reads: of the scenario, which
names the iteration, and of the iteration. Publishers and editors may do anything in between.

* `ScenarioStore.scoreLiveAcross`: scoring with the two reads from two stores.
* `System.Reachable.published_wellTyped`: what is no draft has been validated, so the scoring meets
  no malformed formula.
* `System.Reachable.content_frozen`: what has been live keeps its content, so the scoring is the
  same as if the two reads had been one.
-/

namespace RiskScoring

namespace ScenarioStore

/-- Scores an object with the live iteration of a scenario, where the scenario is read from one
store and the iteration from a later one. -/
def scoreLiveAcross (first later : ScenarioStore) (registry : ModelRegistry) (id : Uuid)
    (payload : Payload) (stamp : Stamp) : StateM Ingest.Store (Except ScoringError Evaluation) :=
  fun ingested =>
    match first.liveIteration id with
    | .error error => (.error error, ingested)
    | .ok (scenario, live) =>
      match later.getIteration live with
      | .error error => (.error (.store error), ingested)
      | .ok iteration =>
        (iteration.scoreRegistered registry scenario payload none stamp).run ingested

/-- Without anything in between, this is the scoring with the live iteration. -/
theorem scoreLiveAcross_self (store : ScenarioStore) :
    store.scoreLiveAcross store = store.scoreLive := rfl

variable {first later : ScenarioStore} {registry : ModelRegistry} {id live : Uuid}
  {scenario : Scenario} {iteration : Iteration}

theorem live_of_liveIteration (reads : first.liveIteration id = .ok (scenario, live)) :
    first.scenarios.get? id = some scenario ∧ scenario.live = some live := by
  unfold liveIteration at reads
  cases found : first.getScenario id with
  | error error =>
    rw [found] at reads
    cases reads
  | ok stored =>
    have passed : (Except.ok stored).mapError ScoringError.store = .ok stored := rfl
    simp only [found, passed, bind, Except.bind] at reads
    cases isLive : stored.live with
    | none =>
      simp only [isLive] at reads
      cases reads
    | some other =>
      simp only [isLive] at reads
      cases reads
      exact ⟨getScenario_eq_ok.mp found, isLive⟩

theorem scoreLiveAcross_of_reads (reads : first.liveIteration id = .ok (scenario, live))
    (found : later.iterations.get? live = some iteration) (payload : Payload) (stamp : Stamp) :
    first.scoreLiveAcross later registry id payload stamp =
      iteration.scoreRegistered registry scenario payload none stamp := by
  funext ingested
  unfold scoreLiveAcross
  rw [reads]
  simp only [getIteration_eq_ok.mpr found]
  rfl

/-- What is no draft keeps its content. -/
theorem Precedes.published (precedes : first.Precedes later)
    (found : first.iterations.get? live = some iteration) (isPublished : iteration.state ≠ .draft) :
    ∃ state updatedAt, state ≠ .draft ∧
      later.iterations.get? live = some { iteration with state, updatedAt } := by
  obtain ⟨new, still, moves⟩ := precedes.iterations found
  refine ⟨new.state, new.updatedAt, moves.ne_draft isPublished, ?_⟩
  rw [still, ← moves.frozen isPublished]

/-- The iteration that was live when the scenario was read is still there, with the content that it
had. -/
theorem Evolves.found_live (evolves : first.Evolves later) (consistent : first.Consistent)
    (reads : first.liveIteration id = .ok (scenario, live)) :
    ∃ iteration state updatedAt, first.iterations.get? live = some iteration ∧
      iteration.scenario = id ∧ iteration.state = .live ∧ state ≠ .draft ∧
      later.iterations.get? live = some { iteration with state, updatedAt } := by
  obtain ⟨found, isPointer⟩ := live_of_liveIteration reads
  obtain ⟨iteration, stored, belongs, isLive⟩ := (consistent.live_iff found live).mp isPointer
  have isPublished : iteration.state ≠ .draft := by
    rw [isLive]
    decide
  obtain ⟨state, updatedAt, notDraft, still⟩ := evolves.precedes.published stored isPublished
  exact ⟨iteration, state, updatedAt, stored, belongs, isLive, notDraft, still⟩

end ScenarioStore

namespace System

variable {system : System}

/-- In every run, an iteration that is no draft is valid without regard to a data model: its
formulas are valid trees that are true or false, its thresholds are in order, and no two rules have
the same display order. So scoring with the live iteration of a scenario, whatever happens between
its two reads, meets no malformed formula and no formula that gives anything but a truth value. -/
theorem Reachable.published_wellTyped (reachable : system.Reachable) :
    (∀ id iteration, system.store.iterations.get? id = some iteration → iteration.state ≠ .draft →
      iteration.validateStructure.isValid = true ∧ iteration.WellTyped ∧
        iteration.reviewThreshold ≤ iteration.rejectThreshold ∧
        (iteration.rules.map Rule.displayOrder).Nodup) ∧
    ∀ events, system.Admits events → ∀ registry id payload stamp ingested evaluation after,
      (system.store.scoreLiveAcross (system.run events).store registry id payload stamp).run
        ingested = (.ok evaluation, after) →
      ∃ scenario live iteration, system.store.liveIteration id = .ok (scenario, live) ∧
        (system.run events).store.iterations.get? live = some iteration ∧
        (∀ formula, iteration.HasFormula formula → ∀ scope session value last,
          (formula.evaluate (Ingest.Scope.accessor scope)).runFrom session = (.ok value, last) →
            value.type = .bool) ∧
        (∀ error, evaluation = .notTriggered (.conditionFailed error) →
          error.name ≠ "MalformedExpression" ∧ iteration.trigger.MayFail error) ∧
        ∀ decision, evaluation = .triggered decision → ∀ execution ∈ decision.executions,
          execution.failure ≠ some .malformed ∧
            ∃ rule ∈ iteration.rules, rule.Explains execution := by
  constructor
  · intro id iteration found published
    have valid := reachable.sound.consistent.published_valid found published
    exact ⟨valid, Iteration.validateStructure_isValid.mp valid⟩
  · intro events admits registry id payload stamp ingested evaluation after scores
    have evolves := reachable.evolves_run admits
    cases reads : system.store.liveIteration id with
    | error error =>
      change system.store.scoreLiveAcross _ registry id payload stamp ingested = _ at scores
      simp only [ScenarioStore.scoreLiveAcross, reads] at scores
      cases scores
    | ok pair =>
      obtain ⟨scenario, live⟩ := pair
      obtain ⟨iteration, state, updatedAt, -, -, -, published, found⟩ :=
        evolves.found_live reachable.sound.consistent reads
      have valid := evolves.consistent.published_valid found published
      have wellTyped := (Iteration.validateStructure_isValid.mp valid).1
      rw [ScenarioStore.scoreLiveAcross_of_reads reads found] at scores
      have explains := Iteration.scoreRegistered_explained wellTyped scores
      refine ⟨scenario, live, _, rfl, found, ?_, ?_, ?_⟩
      · intro formula occurs scope session value last evaluates
        obtain ⟨isTree, isBool⟩ := wellTyped formula occurs
        exact Expression.evaluate_isBool isTree isBool evaluates
      · rintro error rfl
        cases explains with
        | conditionFailed mayFail => exact ⟨mayFail.name_ne, mayFail⟩
      · rintro decision rfl execution listed
        cases explains with
        | triggered executions =>
          obtain ⟨rule, isRule, explained⟩ := executions execution listed
          exact ⟨explained.failure_ne, rule, isRule, explained⟩

/-- In every run, once an iteration is live, or has been, it stays there and keeps all of its
content for good: only its state and the time of its last change go on changing, and it is no draft
again. So scoring with the live iteration of a scenario scores with the content that was live when
the scenario was read, whatever happens before the iteration is read. -/
theorem Reachable.content_frozen (reachable : system.Reachable) {events : List Event}
    (admits : system.Admits events) :
    (∀ id iteration, system.store.iterations.get? id = some iteration → iteration.state ≠ .draft →
      ∃ state updatedAt, state ≠ .draft ∧
        (system.run events).store.iterations.get? id =
          some { iteration with state, updatedAt }) ∧
    ∀ registry id payload stamp,
      system.store.scoreLiveAcross (system.run events).store registry id payload stamp =
        system.store.scoreLive registry id payload stamp ∧
      ∀ scenario live, system.store.liveIteration id = .ok (scenario, live) →
        ∃ iteration, system.store.iterations.get? live = some iteration ∧
          iteration.scenario = id ∧ iteration.state = .live ∧
          system.store.scoreLiveAcross (system.run events).store registry id payload stamp =
            iteration.scoreRegistered registry scenario payload none stamp := by
  have consistent := reachable.sound.consistent
  have evolves := reachable.evolves_run admits
  refine ⟨fun _ _ => evolves.precedes.published, fun registry id payload stamp => ?_⟩
  have frozen : ∀ scenario live, system.store.liveIteration id = .ok (scenario, live) →
      ∃ iteration, system.store.iterations.get? live = some iteration ∧
        iteration.scenario = id ∧ iteration.state = .live ∧
        system.store.scoreLiveAcross (system.run events).store registry id payload stamp =
          iteration.scoreRegistered registry scenario payload none stamp := by
    intro scenario live reads
    obtain ⟨iteration, state, updatedAt, found, belongs, isLive, -, still⟩ :=
      evolves.found_live consistent reads
    refine ⟨iteration, found, belongs, isLive, ?_⟩
    rw [ScenarioStore.scoreLiveAcross_of_reads reads still, Iteration.scoreRegistered_moved]
  refine ⟨?_, frozen⟩
  rw [← ScenarioStore.scoreLiveAcross_self]
  cases reads : system.store.liveIteration id with
  | error error =>
    funext ingested
    simp only [ScenarioStore.scoreLiveAcross, reads]
  | ok pair =>
    obtain ⟨iteration, found, -, -, scores⟩ := frozen pair.1 pair.2 reads
    rw [scores, ScenarioStore.scoreLiveAcross_of_reads reads found]

end System

namespace Shop

open RiskScoring.System

/-- The scenario of the orders, with an iteration that has one rule, is published. -/
def opening : List Event :=
  [.createScenario (.numbered 1) ⟨⟨3⟩, "orders", "", "orders"⟩,
    .createIteration (.numbered 2) ⟨1⟩ ⟨.payload .bool "known",
      [⟨1, "verified", "", .stored .bool ["customer"] "verified", 5⟩], 1, 2⟩,
    .arrive (.publish 0 ⟨2⟩)] ++
  (List.range 6).map fun n => .serve 0 (.numbered (10 + n))

/-- Someone tries to edit the iteration, and a second client takes it down. -/
def closing : List Event :=
  [.updateIteration (.numbered 20) ⟨2⟩ ⟨some (.bool false), some [], none, none⟩,
    .arrive (.unpublish 0 ⟨1⟩)] ++
  (List.range 5).map fun n => .serve 1 (.numbered (30 + n))

theorem reachable_opening : (start.run opening).Reachable := by
  have admits : start.Admits opening :=
    ⟨rfl, rfl, trivial, trivial, trivial, trivial, trivial, trivial, trivial, trivial⟩
  exact Reachable.start.run admits

theorem admits_closing : (start.run opening).Admits closing :=
  ⟨trivial, trivial, trivial, trivial, trivial, trivial, trivial, trivial⟩

/-- The data model of the shop. -/
def registry : ModelRegistry := ModelRegistry.empty.insert ⟨3⟩ model

/-- The order is scored while the iteration is edited and taken down, and the read of the customer
is made to fail. The decision says so, and does not say that the rule is malformed. -/
theorem published_wellTyped_order :
    ∃ decision after, ((start.run opening).store.scoreLiveAcross
        ((start.run opening).run closing).store registry ⟨1⟩ order (.numbered 40)).run
          session.store = (.ok (.triggered decision), after) ∧
      decision.executions.map RuleExecution.failure = [some .readFailed] ∧
      ∀ execution ∈ decision.executions, execution.failure ≠ some .malformed := by
  refine ⟨_, _, by with_unfolding_all rfl, by with_unfolding_all rfl, ?_⟩
  intro execution listed
  obtain ⟨_, _, _, -, -, -, -, explained⟩ := reachable_opening.published_wellTyped.2 closing
    admits_closing registry ⟨1⟩ order (.numbered 40) session.store _ _ (by with_unfolding_all rfl)
  exact (explained _ rfl execution listed).1

/-- The iteration that is taken down between the two reads keeps its content, and the order is
scored with it all the same. -/
theorem content_frozen_order :
    (start.run opening).store.scoreLiveAcross ((start.run opening).run closing).store registry ⟨1⟩
        order (.numbered 40) =
      (start.run opening).store.scoreLive registry ⟨1⟩ order (.numbered 40) ∧
    ∃ live updatedAt, (start.run opening).store.iterations.get? ⟨2⟩ = some live ∧
      live.state = .live ∧ ((start.run opening).run closing).store.iterations.get? ⟨2⟩ =
        some { live with state := .unpublished, updatedAt } := by
  obtain ⟨frozen, scores⟩ := reachable_opening.content_frozen admits_closing
  refine ⟨(scores registry ⟨1⟩ order (.numbered 40)).1, ?_⟩
  have isLive : ((start.run opening).store.iterations.get? ⟨2⟩).map Iteration.state =
      some .live := by with_unfolding_all rfl
  have takenDown : (((start.run opening).run closing).store.iterations.get? ⟨2⟩).map
      Iteration.state = some .unpublished := by with_unfolding_all rfl
  obtain ⟨live, found, state⟩ := Option.map_eq_some_iff.mp isLive
  have published : live.state ≠ .draft := by
    rw [state]
    decide
  obtain ⟨later, updatedAt, -, still⟩ := frozen ⟨2⟩ live found published
  rw [still] at takenDown
  cases takenDown
  exact ⟨live, updatedAt, found, state, still⟩

end Shop

end RiskScoring
