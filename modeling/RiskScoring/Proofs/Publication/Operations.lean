import RiskScoring.Proofs.Publication.Parts
import RiskScoring.Proofs.Publication.Plan

/-!
# Operations on a scenario

An operation names an iteration or a scenario, and so it concerns one scenario at most. What it
comes to depends on the part of that scenario alone, and it changes that part alone.

* `Operation.run`: an operation on a store, with the identifiers and times that it is given.
* `Operation.outcome`, `Operation.run_eq`: its result and its effect, as functions of the store.
* `Operation.fitsIn`: the effect is one on the scenario that the operation concerns.
* `Operation.outcome_congr`: stores that hold the same of that scenario give the same.
-/

namespace RiskScoring

/-! ## What is named -/

/-- What an operation names. -/
inductive Target where
  | scenario (id : Uuid)
  | iteration (id : Uuid)

/-- The scenario that is concerned, unless the iteration is unknown. -/
def Target.scenario? (store : ScenarioStore) : Target → Option Uuid
  | scenario id => some id
  | iteration id => (store.iterations.get? id).map Iteration.scenario

/-- The stores hold the same of what is named and of the scenario that is concerned. -/
structure Target.AlikeIn (target : Target) (one other : ScenarioStore) : Prop where
  concerned : target.scenario? other = target.scenario? one
  same : ∀ scenario, target.scenario? one = some scenario → one.SameFor scenario other

def Goal.target : Goal → Target
  | publish id => .iteration id
  | unpublish id => .scenario id

def Errand.target : Errand → Target
  | apply _ request => .iteration request.iteration
  | publish _ id => .iteration id
  | unpublish _ id => .scenario id

/-- A commit with its grounds is one in the scenario that its goal concerns. -/
theorem Grounds.concerned {store : ScenarioStore} {goal : Goal} {change : Commit}
    (grounds : Grounds store goal change) :
    goal.target.scenario? store = some change.scenario := by
  cases grounds with
  | publish rank stamp found precedes hasId =>
    show (store.iterations.get? _).map Iteration.scenario = _
    rw [found, Option.map_some, precedes.scenario]
    exact congrArg some hasId.symm
  | unpublish => rfl

/-! ## What a plan depends on -/

namespace Target.AlikeIn

variable {one other : ScenarioStore} {id : Uuid}

/-- The iteration that is named is the same in both stores, if it is in one. -/
theorem get?_eq (alike : (Target.iteration id).AlikeIn one other) (consistent : one.Consistent)
    (consistentOther : other.Consistent) : other.iterations.get? id = one.iterations.get? id := by
  cases found : one.iterations.get? id with
  | none =>
    have unknown := alike.concerned
    simpa [scenario?, found] using unknown
  | some iteration =>
    have concerned : (Target.iteration id).scenario? one = some iteration.scenario := by
      rw [scenario?, found, Option.map_some]
    exact (alike.same _ concerned).found consistent consistentOther found rfl

theorem getIteration_eq (alike : (Target.iteration id).AlikeIn one other)
    (consistent : one.Consistent) (consistentOther : other.Consistent) :
    other.getIteration id = one.getIteration id := by
  rw [ScenarioStore.getIteration, ScenarioStore.getIteration,
    alike.get?_eq consistent consistentOther]

/-- The stores hold the same of the scenario of the iteration that is named. -/
theorem of_iteration {iteration : Iteration} (alike : (Target.iteration id).AlikeIn one other)
    (found : one.iterations.get? id = some iteration) : one.SameFor iteration.scenario other := by
  refine alike.same _ ?_
  rw [scenario?, found, Option.map_some]

theorem of_scenario (same : one.SameFor id other) : (Target.scenario id).AlikeIn one other :=
  ⟨rfl, fun _ concerned => by cases concerned; exact same⟩

/-- Stores that hold the same of a scenario are alike for the iteration that is live in it. -/
theorem of_live {scenario : Scenario} {liveId : Uuid} (consistent : one.Consistent)
    (consistentOther : other.Consistent) (found : one.scenarios.get? id = some scenario)
    (isLive : scenario.live = some liveId) (same : one.SameFor id other) :
    (Target.iteration liveId).AlikeIn one other := by
  obtain ⟨live, foundLive, belongs, -⟩ := (consistent.live_iff found liveId).mp isLive
  have foundOther := same.found consistent consistentOther foundLive belongs
  refine ⟨?_, ?_⟩
  · rw [scenario?, scenario?, foundLive, foundOther]
  · intro concerned isConcerned
    rw [scenario?, foundLive, Option.map_some, belongs] at isConcerned
    cases isConcerned
    exact same

/-- The iteration that is live in the scenario is replaced alike. -/
theorem replacement_eq {scenario : Scenario} (consistent : one.Consistent)
    (consistentOther : other.Consistent) (found : one.scenarios.get? id = some scenario)
    (same : one.SameFor id other) :
    other.replacement scenario.live = one.replacement scenario.live := by
  cases isLive : scenario.live with
  | none => rfl
  | some liveId =>
    have known := of_live consistent consistentOther found isLive same
    rw [ScenarioStore.replacement, ScenarioStore.replacement,
      known.getIteration_eq consistent consistentOther]

end Target.AlikeIn

/-- Stores that are alike for what a goal names give the same plan. -/
theorem Goal.plan_congr (goal : Goal) {one other : ScenarioStore} (consistent : one.Consistent)
    (consistentOther : other.Consistent) (alike : goal.target.AlikeIn one other) :
    goal.plan other = goal.plan one := by
  cases goal with
  | publish id =>
    rw [plan, plan, Target.AlikeIn.getIteration_eq alike consistent consistentOther]
    refine Except.bind_congr fun iteration readIteration => ?_
    have found := ScenarioStore.getIteration_of_mapError readIteration
    have same := Target.AlikeIn.of_iteration alike found
    rw [← same.getScenario]
    refine Except.bind_congr fun scenario readScenario => ?_
    have owner := ScenarioStore.getScenario_of_mapError readScenario
    have hasId : scenario.id = iteration.scenario := consistent.scenario_id owner
    rw [Target.AlikeIn.replacement_eq consistent consistentOther owner same, hasId, same.lastRank]
  | unpublish id =>
    have same := alike.same id rfl
    rw [plan, plan, ← same.getScenario]
    refine Except.bind_congr fun scenario readScenario => ?_
    have found := ScenarioStore.getScenario_of_mapError readScenario
    have hasId : scenario.id = id := consistent.scenario_id found
    cases isLive : scenario.live with
    | none => rfl
    | some liveId =>
      have known := Target.AlikeIn.of_live consistent consistentOther found isLive same
      dsimp only
      rw [known.getIteration_eq consistent consistentOther, hasId, same.lastRank]

theorem Goal.callPlan_congr (goal : Goal) (retries : UInt32) {one other : ScenarioStore}
    (consistent : one.Consistent) (consistentOther : other.Consistent)
    (alike : goal.target.AlikeIn one other) :
    goal.callPlan retries other = goal.callPlan retries one := by
  have same := goal.plan_congr consistent consistentOther alike
  cases goal with
  | publish id =>
    rw [callPlan, callPlan, Target.AlikeIn.getIteration_eq alike consistent consistentOther]
    refine Except.bind_congr fun iteration _ => ?_
    rw [planWithin, planWithin, same]
  | unpublish id => rw [callPlan, callPlan, planWithin, planWithin, same]

/-- Stores that are alike for what an errand names give the same plan. -/
theorem Errand.plan_congr (errand : Errand) {one other : ScenarioStore}
    (consistent : one.Consistent) (consistentOther : other.Consistent)
    (alike : errand.target.AlikeIn one other) : errand.plan other = errand.plan one := by
  cases errand with
  | publish retries id =>
    exact (Goal.publish id).callPlan_congr retries consistent consistentOther alike
  | unpublish retries id =>
    exact (Goal.unpublish id).callPlan_congr retries consistent consistentOther alike
  | apply retries request =>
    rw [plan, plan]
    refine Except.bind_congr fun action _ => ?_
    cases action with
    | publish =>
      exact (Goal.publish request.iteration).callPlan_congr retries consistent consistentOther alike
    | unpublish =>
      dsimp only
      rw [Target.AlikeIn.getIteration_eq alike consistent consistentOther]
      refine Except.bind_congr fun iteration readIteration => ?_
      have found := ScenarioStore.getIteration_of_mapError readIteration
      have same := Target.AlikeIn.of_iteration alike found
      rw [← same.getScenario]
      refine Except.bind_congr fun scenario readScenario => ?_
      have owner := ScenarioStore.getScenario_of_mapError readScenario
      have hasId : scenario.id = iteration.scenario := consistent.scenario_id owner
      have alikeOwner : (Goal.unpublish scenario.id).target.AlikeIn one other :=
        .of_scenario (hasId ▸ same)
      rw [Goal.callPlan_congr _ retries consistent consistentOther alikeOwner]

/-- The commit of a plan is proposed for a goal that concerns the same scenario. -/
theorem Errand.proposes_of_plan (errand : Errand) {store : ScenarioStore}
    (consistent : store.Consistent) {commit : Stamp → Commit}
    (plans : errand.plan store = .ok (some commit)) :
    ∃ goal : Goal, goal.Proposes store commit ∧
      goal.target.scenario? store = errand.target.scenario? store := by
  have proposes (goal : Goal) (retries : UInt32)
      (decides : goal.callPlan retries store = .ok (some commit)) : goal.Proposes store commit :=
    goal.proposes_of_plan consistent (Goal.plan_of_callPlan decides)
  cases errand with
  | publish retries id => exact ⟨.publish id, proposes _ retries plans, rfl⟩
  | unpublish retries id => exact ⟨.unpublish id, proposes _ retries plans, rfl⟩
  | apply retries request =>
    obtain ⟨action, -, decides⟩ := Except.bind_eq_ok_iff.mp plans
    cases action with
    | publish => exact ⟨.publish request.iteration, proposes _ retries decides, rfl⟩
    | unpublish =>
      obtain ⟨iteration, readIteration, goesOn⟩ := Except.bind_eq_ok_iff.mp decides
      obtain ⟨scenario, readScenario, checked⟩ := Except.bind_eq_ok_iff.mp goesOn
      have found := ScenarioStore.getIteration_of_mapError readIteration
      have owner := ScenarioStore.getScenario_of_mapError readScenario
      have hasId : scenario.id = iteration.scenario := consistent.scenario_id owner
      split at checked
      · cases checked
      · refine ⟨.unpublish scenario.id, proposes _ retries checked, ?_⟩
        show some scenario.id = (store.iterations.get? request.iteration).map Iteration.scenario
        rw [found, Option.map_some, hasId]

/-! ## Operations -/

/-- An operation, with the identifiers and times that it is given. -/
inductive Operation where
  | createIteration (given : Stamp) (scenario : Uuid) (draft : IterationDraft)
  | updateIteration (given : Stamp) (id : Uuid) (edit : IterationEdit)
  /-- What a client of a publisher comes with. -/
  | serve (stamps : Nat → Stamp) (errand : Errand)

namespace Operation

/-- What an operation answers. -/
inductive Result where
  | iteration (result : Except StoreError Iteration)
  | publications (result : PublicationResult)

/-- The operation on a store, with no one else acting on it. -/
def run (store : ScenarioStore) : Operation → Result × ScenarioStore
  | createIteration given scenario draft =>
    let (result, after) := store.createIteration given scenario draft
    (.iteration result, after)
  | updateIteration given id edit =>
    let (result, after) := store.updateIteration given id edit
    (.iteration result, after)
  | serve stamps errand =>
    let (result, after) := store.runPublisher stamps (ExceptT.mk errand.call)
    (.publications result, after)

def target : Operation → Target
  | createIteration _ scenario _ => .scenario scenario
  | updateIteration _ id _ => .iteration id
  | serve _ errand => errand.target

/-- The identifier that a new iteration gets. -/
def newIteration? : Operation → Option Uuid
  | createIteration given _ _ => some given.id
  | _ => none

/-- The identifier that a new entry of the log gets. -/
def newPublication? : Operation → Option Uuid
  | serve stamps _ => some (stamps 0).id
  | _ => none

/-- No iteration has the identifier that a new one gets. -/
def Fresh (operation : Operation) (store : ScenarioStore) : Prop :=
  ∀ id, operation.newIteration? = some id → store.iterations.get? id = none

/-- What the operation comes to: its result and its effect. -/
def outcome (store : ScenarioStore) : Operation → Result × Effect
  | createIteration given scenario draft =>
    match store.getScenario scenario with
    | .error error => (.iteration (.error error), .unchanged)
    | .ok _ =>
      let iteration := draft.toIteration scenario (store.nextVersion scenario) given
      (.iteration (.ok iteration), .put iteration)
  | updateIteration given id edit =>
    match store.getIteration id with
    | .error error => (.iteration (.error error), .unchanged)
    | .ok iteration =>
      if iteration.state.isEditable then
        let edited := edit.applyTo iteration given.parts (given.now.later iteration.updatedAt.next)
        (.iteration (.ok edited), .put edited)
      else (.iteration (.error (.immutable id)), .unchanged)
  | serve stamps errand =>
    match errand.plan store with
    | .error error => (.publications (.error error), .unchanged)
    | .ok none => (.publications (.ok []), .unchanged)
    | .ok (some commit) =>
      (.publications (.ok [(commit (stamps 0)).publication]),
        .commit (stamps 1).now (commit (stamps 0)))

variable {store one other : ScenarioStore}

/-- An operation has its result, and its effect on the store. -/
theorem run_eq (operation : Operation) (consistent : store.Consistent)
    (uninjected : store.injectedConflicts = 0) :
    operation.run store =
      ((operation.outcome store).1, (operation.outcome store).2.apply store) := by
  cases operation with
  | createIteration given scenario draft =>
    rw [run, outcome, ScenarioStore.createIteration]
    cases store.getScenario scenario with
    | error error => rfl
    | ok owner => rfl
  | updateIteration given id edit =>
    rw [run, outcome, ScenarioStore.updateIteration]
    cases found : store.getIteration id with
    | error error => rfl
    | ok iteration =>
      have hasId : iteration.id = id :=
        consistent.iteration_id (ScenarioStore.getIteration_eq_ok.mp found)
      dsimp only
      split
      · subst hasId
        rfl
      · rfl
  | serve stamps errand =>
    rw [run, outcome, errand.run_plan consistent uninjected]
    rcases errand.plan store with error | _ | commit
    · rfl
    · rfl
    · rfl

/-- The effect of an operation is one on the scenario that it concerns. -/
theorem fitsIn (operation : Operation) (consistent : store.Consistent)
    (fresh : operation.Fresh store) :
    (operation.outcome store).2 = .unchanged ∨
      ∃ scenario, operation.target.scenario? store = some scenario ∧
        (operation.outcome store).2.FitsIn scenario store := by
  cases operation with
  | createIteration given scenario draft =>
    rw [outcome]
    cases found : store.getScenario scenario with
    | error error => exact Or.inl rfl
    | ok owner =>
      refine Or.inr ⟨scenario, rfl, .put rfl rfl ⟨owner, ?_⟩ ?_⟩
      · exact ScenarioStore.getScenario_eq_ok.mp found
      · intro old present
        exact absurd rfl (Dict.ne_of_fresh (fresh given.id rfl) present)
  | updateIteration given id edit =>
    rw [outcome]
    cases read : store.getIteration id with
    | error error => exact Or.inl rfl
    | ok iteration =>
      have found := ScenarioStore.getIteration_eq_ok.mp read
      have hasId : iteration.id = id := consistent.iteration_id found
      dsimp only
      split
      · rename_i isEditable
        have isDraft := IterationState.isEditable_iff.mp isEditable
        refine Or.inr ⟨iteration.scenario, ?_, .put rfl isDraft (consistent.owner found) ?_⟩
        · rw [target, Target.scenario?, found, Option.map_some]
        · intro old present
          obtain rfl : iteration = old := Option.some.inj ((hasId ▸ found).symm.trans present)
          exact ⟨isDraft, rfl⟩
      · exact Or.inl rfl
  | serve stamps errand =>
    rw [outcome]
    rcases plans : errand.plan store with error | _ | commit
    · exact Or.inl rfl
    · exact Or.inl rfl
    · obtain ⟨goal, proposes, concerned⟩ := errand.proposes_of_plan consistent plans
      have grounds := proposes.grounds (stamps 0)
      refine Or.inr ⟨_, concerned.symm.trans grounds.concerned, ?_⟩
      exact .commit _ rfl (proposes.accepts _) grounds

/-- Stores that are alike for what an operation names give the same result and effect. -/
theorem outcome_congr (operation : Operation) (consistent : one.Consistent)
    (consistentOther : other.Consistent) (alike : operation.target.AlikeIn one other) :
    operation.outcome other = operation.outcome one := by
  cases operation with
  | createIteration given scenario draft =>
    have same := alike.same scenario rfl
    rw [outcome, outcome, same.getScenario, same.nextVersion]
  | updateIteration given id edit =>
    rw [outcome, outcome, Target.AlikeIn.getIteration_eq alike consistent consistentOther]
  | serve stamps errand =>
    rw [outcome, outcome, errand.plan_congr consistent consistentOther alike]

end Operation

end RiskScoring
