import RiskScoring.Proofs.Checks
import RiskScoring.Proofs.Publication.Uninterrupted

/-!
# What a publisher decides on

A publisher that is alone on a store reads, decides and commits in one go. What it decides on is a
function of the store; the stamp comes in only afterwards.

* `Goal.plan`: the commit that an attempt decides on. `Goal.run_attempt` says that it does just
  that.
* `Goal.Proposes`, `Goal.proposes_of_plan`: a consistent store accepts the commit, and the attempt
  has grounds for it.
* `Goal.callPlan`, `Goal.run_call`: the same for a call. As no commit conflicts, no attempt is made
  again; but none is made at all if their number overflows.
* `Errand.plan`, `Errand.run_plan`: the same for what clients come with.
-/

namespace RiskScoring

/-! ## Calls without interruption -/

/-- A call is run, and then what follows it. -/
theorem Call.run_bind {α β : Type} (call : Call α) (next : α → Call β) (serving : Serving) :
    (Call.run Serving.backend (call.bind next)).run serving =
      let (result, after) := (Call.run Serving.backend call).run serving
      (Call.run Serving.backend (next result)).run after := by
  induction call generalizing serving with
  | done result => rfl
  | getScenario id goesOn ih => exact ih _ _
  | getIteration id goesOn ih => exact ih _ _
  | listPublications scenario goesOn ih => exact ih _ _
  | stamp goesOn ih => exact ih _ _
  | commit change goesOn ih => exact ih _ _

/-! ## How many attempts -/

namespace Publisher

variable {retries : UInt32}

/-- As long as the count does not wrap around, there is one attempt more than retries. -/
theorem toNat_attempts (inBounds : retries.toNat + 1 < UInt32.size) :
    (retries + 1).toNat = retries.toNat + 1 := by
  rw [UInt32.toNat_add]
  exact Nat.mod_eq_of_lt inBounds

theorem attempts_ne_zero (inBounds : retries.toNat + 1 < UInt32.size) : retries + 1 ≠ 0 := by
  intro none
  have counted := toNat_attempts inBounds
  rw [none] at counted
  exact Nat.zero_ne_add_one _ counted

theorem exists_attempts (attempted : retries + 1 ≠ 0) : ∃ left, (retries + 1).toNat = left + 1 :=
  Nat.exists_eq_succ_of_ne_zero fun none => attempted (UInt32.toNat_inj.mp none)

end Publisher

/-! ## Conflicts -/

/-- The result is no conflict, so that no further attempt is made. -/
def NoConflict {α : Type} (result : Except PublicationError α) : Prop :=
  ∀ scenario, result ≠ .error (.store (.conflict scenario))

namespace NoConflict

variable {α β : Type} {store : ScenarioStore}

theorem ok (value : α) : NoConflict (.ok value) := fun _ same => nomatch same

theorem bind {result : Except PublicationError α} {next : α → Except PublicationError β}
    (first : NoConflict result) (goesOn : ∀ value, NoConflict (next value)) :
    NoConflict (result >>= next) := by
  cases result with
  | error error => exact fun scenario same => by cases same; exact first scenario rfl
  | ok value => exact goesOn value

theorem ite {p : Prop} [Decidable p] {one other : Except PublicationError α}
    (holds : NoConflict one) (fails : NoConflict other) :
    NoConflict (if p then one else other) := by
  split
  · exact holds
  · exact fails

theorem getScenario (id : Uuid) : NoConflict ((store.getScenario id).mapError .store) := by
  intro scenario same
  unfold ScenarioStore.getScenario at same
  split at same <;> cases same

theorem getIteration (id : Uuid) : NoConflict ((store.getIteration id).mapError .store) := by
  intro scenario same
  unfold ScenarioStore.getIteration at same
  split at same <;> cases same

theorem checkMove (source target : IterationState) : NoConflict (source.checkMove target) :=
  .ite (.ok ()) fun _ same => nomatch same

theorem checkPublishable (iteration : Iteration) : NoConflict iteration.checkPublishable :=
  .ite (.ok ()) fun _ same => nomatch same

end NoConflict

namespace ScenarioStore

variable {store : ScenarioStore} {stamps : Nat → Stamp} {α β : Type}

/-- An attempt that does not end in a conflict is not made again. -/
theorem runPublisher_attempt {once : Publishing (List Publication)}
    (settles : NoConflict (store.runPublisher stamps once).1)
    (scenario : Uuid) (attempts : UInt32) (left : Nat) :
    store.runPublisher stamps (Publisher.attempt scenario attempts once (left + 1)) =
      store.runPublisher stamps once := by
  unfold runPublisher at settles ⊢
  rw [Publisher.attempt, ExceptT.run_mk, Call.run_bind]
  revert settles
  rcases (Call.run Serving.backend once.run).run ⟨store, stamps⟩ with ⟨result, serving⟩
  intro settles
  cases result with
  | ok publications => rfl
  | error error =>
    cases error with
    | store error =>
      cases error with
      | conflict id => exact absurd rfl (settles id)
      | notFound | immutable => rfl
    | badParameter | invalidTransition | exhausted => rfl

theorem runPublisher_withRetries {once : Publishing (List Publication)}
    (settles : NoConflict (store.runPublisher stamps once).1) {retries : UInt32}
    (attempted : retries + 1 ≠ 0) (scenario : Uuid) :
    store.runPublisher stamps (Publisher.withRetries retries scenario once) =
      store.runPublisher stamps once := by
  obtain ⟨left, isLeft⟩ := Publisher.exists_attempts attempted
  rw [Publisher.withRetries, isLeft]
  exact runPublisher_attempt settles scenario (retries + 1) left

/-- If the number of attempts overflows, none is made. -/
theorem runPublisher_withRetries_of_overflow {retries : UInt32} (overflows : retries + 1 = 0)
    (scenario : Uuid) (once : Publishing (List Publication)) :
    store.runPublisher stamps (Publisher.withRetries retries scenario once) =
      (.error (.exhausted scenario 0), store) := by
  rw [Publisher.withRetries, overflows]
  rfl

/-- The replacement of the iteration that is live. -/
def replacement (store : ScenarioStore) :
    Option Uuid → Except PublicationError Publisher.Replacement
  | none => .ok ⟨[], []⟩
  | some id => do
    let previous ← (store.getIteration id).mapError .store
    previous.state.checkMove .superseded
    return ⟨[(id, .superseded)], [(id, previous.updatedAt)]⟩

theorem replacement_noConflict (store : ScenarioStore) (live : Option Uuid) :
    NoConflict (store.replacement live) := by
  cases live with
  | none => exact .ok _
  | some id => exact .bind (.getIteration id) fun previous => .bind (.checkMove _ _) fun _ => .ok _

theorem getIteration_of_mapError {id : Uuid} {iteration : Iteration}
    (reads : (store.getIteration id).mapError PublicationError.store = .ok iteration) :
    store.iterations.get? id = some iteration := by
  cases found : store.getIteration id with
  | error error => rw [found] at reads; cases reads
  | ok stored =>
    rw [found] at reads
    cases reads
    exact getIteration_eq_ok.mp found

theorem getScenario_of_mapError {id : Uuid} {scenario : Scenario}
    (reads : (store.getScenario id).mapError PublicationError.store = .ok scenario) :
    store.scenarios.get? id = some scenario := by
  cases found : store.getScenario id with
  | error error => rw [found] at reads; cases reads
  | ok stored =>
    rw [found] at reads
    cases reads
    exact getScenario_eq_ok.mp found

/-- What is known of a replacement that was read. -/
theorem replacement_eq_ok {live : Option Uuid} {replaced : Publisher.Replacement}
    (replaces : store.replacement live = .ok replaced) :
    replaced.Of live ∧ (∀ transition ∈ replaced.transitions, live = some transition.1) ∧
      ∀ entry ∈ replaced.expected, ∃ previous,
        store.iterations.get? entry.1 = some previous ∧ previous.updatedAt = entry.2 := by
  cases live with
  | none =>
    cases replaces
    exact ⟨rfl, List.forall_mem_nil _, List.forall_mem_nil _⟩
  | some id =>
    obtain ⟨previous, reads, moves⟩ := Except.bind_eq_ok_iff.mp replaces
    obtain ⟨_, mayMove, built⟩ := Except.bind_eq_ok_iff.mp moves
    cases built
    refine ⟨⟨previous.updatedAt, rfl⟩, ?_, ?_⟩
    · intro transition named
      rw [List.mem_singleton.mp named]
    · intro entry isExpected
      rw [List.mem_singleton.mp isExpected]
      exact ⟨previous, getIteration_of_mapError reads, rfl⟩

theorem runPublisher_replacement (live : Option Uuid)
    (next : Publisher.Replacement → Publishing α) :
    store.runPublisher stamps (Publisher.replaceLive live >>= next) =
      store.runPublisher stamps (liftExcept (store.replacement live) >>= next) := by
  cases live with
  | none => rfl
  | some id =>
    let goesOn (previous : Iteration) : Publishing Publisher.Replacement := do
      liftExcept (previous.state.checkMove .superseded)
      return ⟨[(id, .superseded)], [(id, previous.updatedAt)]⟩
    have answered : store.runPublisher stamps (Publisher.replaceLive (some id) >>= next) =
        store.runPublisher stamps (ExceptT.mk
          (ExceptT.bindCont goesOn ((store.getIteration id).mapError .store)) >>= next) := rfl
    rw [answered, replacement]
    cases store.getIteration id with
    | error error => rfl
    | ok previous =>
      show store.runPublisher stamps (goesOn previous >>= next) = store.runPublisher stamps
        (liftExcept ((previous.state.checkMove .superseded).bind fun _ => .ok _) >>= next)
      simp only [goesOn]
      cases previous.state.checkMove .superseded with
      | error error => rfl
      | ok done => rfl

end ScenarioStore

namespace Goal

open Publisher

/-- What an attempt decides on: a commit that only lacks its stamp, or that nothing is to be
done. -/
def plan (store : ScenarioStore) : Goal → Except PublicationError (Option (Stamp → Commit))
  | publish id => do
    let iteration ← (store.getIteration id).mapError .store
    let scenario ← (store.getScenario iteration.scenario).mapError .store
    if scenario.live = some iteration.id then return none
    else
      iteration.checkPublishable
      iteration.state.checkMove .live
      let replaced ← store.replacement scenario.live
      return some (publishing scenario iteration replaced (store.lastRank scenario.id))
  | unpublish id => do
    let scenario ← (store.getScenario id).mapError .store
    match scenario.live with
    | none => return none
    | some liveId =>
      let live ← (store.getIteration liveId).mapError .store
      live.state.checkMove .unpublished
      return some (unpublishing scenario liveId live.updatedAt (store.lastRank scenario.id))

end Goal

theorem Iteration.valid_of_checkPublishable {iteration : Iteration}
    (publishable : iteration.checkPublishable = .ok ()) :
    iteration.validateStructure.isValid = true := by
  by_cases isValid : iteration.validateStructure.isValid = true
  · exact isValid
  · simp only [Iteration.checkPublishable, if_neg isValid] at publishable
    cases publishable

namespace ScenarioStore

/-- What becomes of a plan: it fails, or nothing is done, or its commit is submitted. -/
def carryOut (store : ScenarioStore) (stamps : Nat → Stamp) :
    Except PublicationError (Option (Stamp → Commit)) → PublicationResult × ScenarioStore
  | .error error => (.error error, store)
  | .ok none => (.ok [], store)
  | .ok (some commit) =>
    store.runPublisher (fun n => stamps (n + 1)) (Publisher.submit (commit (stamps 0)))

/-- What comes of a plan if its commit is accepted. -/
def settle (store : ScenarioStore) (stamps : Nat → Stamp) :
    Except PublicationError (Option (Stamp → Commit)) → PublicationResult × ScenarioStore
  | .error error => (.error error, store)
  | .ok none => (.ok [], store)
  | .ok (some commit) =>
    (.ok [(commit (stamps 0)).publication], store.applyCommit (stamps 1).now (commit (stamps 0)))

variable {store : ScenarioStore} {stamps : Nat → Stamp} {α β : Type}

/-- A check or a read in front of a publisher is one in front of its plan, whatever is made of plans
that do not fail. -/
theorem runPublisher_check {finish : Except PublicationError α → PublicationResult × ScenarioStore}
    (fails : ∀ error, finish (.error error) = (.error error, store))
    {check : Except PublicationError β} {next : β → Publishing (List Publication)}
    {rest : β → Except PublicationError α}
    (goesOn : ∀ value, store.runPublisher stamps (next value) = finish (rest value)) :
    store.runPublisher stamps (liftExcept check >>= next) = finish (check >>= rest) := by
  cases check with
  | error error => exact (fails error).symm
  | ok value => exact goesOn value

end ScenarioStore

namespace Goal

open Publisher ScenarioStore

/-- Whatever its stamp is, the store accepts the commit, and the attempt has grounds for it. -/
structure Proposes (goal : Goal) (store : ScenarioStore) (commit : Stamp → Commit) : Prop where
  accepts : ∀ stamp, store.Accepts (commit stamp)
  grounds : ∀ stamp, Grounds store goal (commit stamp)
  publication_id : ∀ stamp, (commit stamp).publication.id = stamp.id

variable {store : ScenarioStore} {goal : Goal} {stamps : Nat → Stamp}

/-- An attempt that is made alone does what it decides on. -/
theorem run_attempt (goal : Goal) (store : ScenarioStore) (stamps : Nat → Stamp) :
    store.runPublisher stamps goal.attempt = store.carryOut stamps (goal.plan store) := by
  cases goal with
  | publish id =>
    rw [attempt, tryPublish, plan, runPublisher_read_iteration]
    refine runPublisher_check (fun _ => rfl) fun iteration => ?_
    rw [runPublisher_read_scenario]
    refine runPublisher_check (fun _ => rfl) fun scenario => ?_
    split
    · rfl
    · refine runPublisher_check (fun _ => rfl) fun _ => ?_
      refine runPublisher_check (fun _ => rfl) fun _ => ?_
      rw [runPublisher_replacement]
      refine runPublisher_check (fun _ => rfl) fun replaced => ?_
      rw [runPublisher_lastRank]
      rfl
  | unpublish id =>
    rw [attempt, tryUnpublish, plan, runPublisher_read_scenario]
    refine runPublisher_check (fun _ => rfl) fun scenario => ?_
    cases scenario.live with
    | none => rfl
    | some liveId =>
      dsimp only
      rw [runPublisher_read_iteration]
      refine runPublisher_check (fun _ => rfl) fun live => ?_
      refine runPublisher_check (fun _ => rfl) fun _ => ?_
      rw [runPublisher_lastRank]
      rfl

theorem plan_noConflict (goal : Goal) (store : ScenarioStore) : NoConflict (goal.plan store) := by
  cases goal with
  | publish id =>
    refine .bind (.getIteration id) fun iteration => ?_
    refine .bind (.getScenario iteration.scenario) fun scenario => .ite (.ok none) ?_
    refine .bind (.checkPublishable iteration) fun _ => .bind (.checkMove _ _) fun _ => ?_
    exact .bind (store.replacement_noConflict _) fun replaced => .ok _
  | unpublish id =>
    refine .bind (.getScenario id) fun scenario => ?_
    cases scenario.live with
    | none => exact .ok none
    | some liveId =>
      exact .bind (.getIteration liveId) fun live => .bind (.checkMove _ _) fun _ => .ok _

/-- A consistent store accepts the publication that an attempt decides on. -/
theorem proposes_publish (consistent : store.Consistent) {id : Uuid} {commit : Stamp → Commit}
    (plans : (publish id).plan store = .ok (some commit)) :
    (publish id).Proposes store commit := by
  obtain ⟨iteration, readIteration, goesOn⟩ := Except.bind_eq_ok_iff.mp plans
  obtain ⟨scenario, readScenario, decides⟩ := Except.bind_eq_ok_iff.mp goesOn
  have found := getIteration_of_mapError readIteration
  have owner := getScenario_of_mapError readScenario
  obtain rfl : iteration.id = id := consistent.iteration_id found
  have hasId : scenario.id = iteration.scenario := consistent.scenario_id owner
  split at decides
  · cases decides
  rename_i notLive
  obtain ⟨_, publishable, moves⟩ := Except.bind_eq_ok_iff.mp decides
  obtain ⟨_, mayMove, commits⟩ := Except.bind_eq_ok_iff.mp moves
  obtain ⟨replaced, replaces, built⟩ := Except.bind_eq_ok_iff.mp commits
  cases built
  have valid := Iteration.valid_of_checkPublishable publishable
  obtain ⟨isReplacement, moved, expected⟩ := replacement_eq_ok replaces
  have foundScenario : store.scenarios.get? scenario.id = some scenario := by rw [hasId, owner]
  refine ⟨fun stamp => ⟨⟨scenario, foundScenario, rfl⟩, rfl, ?_, ?_⟩, fun stamp =>
    .publish _ stamp found (.refl iteration) hasId owner notLive valid isReplacement,
    fun stamp => rfl⟩
  · intro transition named
    rcases List.mem_append.mp named with isPrevious | isNew
    · obtain ⟨previous, foundPrevious, belongs, -⟩ :=
        (consistent.live_iff owner _).mp (moved transition isPrevious)
      exact ⟨previous, foundPrevious, belongs.trans hasId.symm⟩
    · obtain rfl := List.mem_singleton.mp isNew
      exact ⟨iteration, found, hasId.symm⟩
  · intro entry isExpected
    rcases List.mem_append.mp isExpected with isPrevious | isNew
    · exact expected entry isPrevious
    · obtain rfl := List.mem_singleton.mp isNew
      exact ⟨iteration, found, rfl⟩

/-- A consistent store accepts the withdrawal that an attempt decides on. -/
theorem proposes_unpublish (consistent : store.Consistent) {id : Uuid} {commit : Stamp → Commit}
    (plans : (unpublish id).plan store = .ok (some commit)) :
    (unpublish id).Proposes store commit := by
  obtain ⟨scenario, readScenario, decides⟩ := Except.bind_eq_ok_iff.mp plans
  have foundScenario := getScenario_of_mapError readScenario
  obtain rfl : scenario.id = id := consistent.scenario_id foundScenario
  split at decides
  · cases decides
  rename_i liveId isLive
  obtain ⟨live, readLive, moves⟩ := Except.bind_eq_ok_iff.mp decides
  obtain ⟨_, mayMove, built⟩ := Except.bind_eq_ok_iff.mp moves
  cases built
  have found := getIteration_of_mapError readLive
  have belongs : live.scenario = scenario.id := by
    obtain ⟨same, foundSame, belongs, -⟩ := (consistent.live_iff foundScenario _).mp isLive
    rw [found] at foundSame
    cases foundSame
    exact belongs
  refine ⟨fun stamp => ⟨⟨scenario, foundScenario, isLive⟩, rfl, ?_, ?_⟩, fun stamp =>
    .unpublish live.updatedAt _ stamp foundScenario isLive, fun stamp => rfl⟩
  · intro transition named
    obtain rfl := List.mem_singleton.mp named
    exact ⟨live, found, belongs⟩
  · intro entry isExpected
    obtain rfl := List.mem_singleton.mp isExpected
    exact ⟨live, found, rfl⟩

theorem proposes_of_plan (goal : Goal) (consistent : store.Consistent) {commit : Stamp → Commit}
    (plans : goal.plan store = .ok (some commit)) : goal.Proposes store commit := by
  cases goal with
  | publish id => exact proposes_publish consistent plans
  | unpublish id => exact proposes_unpublish consistent plans

/-- What comes of a plan on a store that refuses no commit without cause. -/
theorem carryOut_plan (consistent : store.Consistent) (uninjected : store.injectedConflicts = 0)
    (stamps : Nat → Stamp) :
    store.carryOut stamps (goal.plan store) = settle store stamps (goal.plan store) := by
  cases plans : goal.plan store with
  | error error => rfl
  | ok change =>
    cases change with
    | none => rfl
    | some commit =>
      exact runPublisher_submit uninjected ((goal.proposes_of_plan consistent plans).accepts _)

/-- An attempt that carries out its plan comes to no conflict. -/
theorem run_attempt_noConflict (goal : Goal)
    (settles : store.carryOut stamps (goal.plan store) = store.settle stamps (goal.plan store)) :
    NoConflict (store.runPublisher stamps goal.attempt).1 := by
  rw [goal.run_attempt, settles]
  have unopposed := goal.plan_noConflict store
  rcases plans : goal.plan store with error | _ | commit
  · intro scenario same
    cases same
    exact unopposed scenario plans
  · exact .ok _
  · exact .ok _

/-- An attempt that carries out its plan is not made again. -/
theorem run_retried (goal : Goal)
    (settles : store.carryOut stamps (goal.plan store) = store.settle stamps (goal.plan store))
    (scenario : Uuid) (attempts : UInt32) (left : Nat) :
    store.runPublisher stamps (Publisher.attempt scenario attempts goal.attempt (left + 1)) =
      store.settle stamps (goal.plan store) := by
  rw [runPublisher_attempt (goal.run_attempt_noConflict settles), goal.run_attempt, settles]

/-! ### Calls -/

/-- The call of a client with the goal. -/
def call (retries : UInt32) : Goal → Publishing (List Publication)
  | publish id => Publisher.publish retries id
  | unpublish id => Publisher.unpublish retries id

/-- What the attempts in a scenario decide on: what one of them does, if there are any. -/
def planWithin (retries : UInt32) (scenario : Uuid) (store : ScenarioStore) (goal : Goal) :
    Except PublicationError (Option (Stamp → Commit)) :=
  if retries + 1 = 0 then .error (.exhausted scenario 0) else goal.plan store

/-- What a call decides on. To publish, it has to find the scenario of the iteration first. -/
def callPlan (retries : UInt32) (store : ScenarioStore) :
    Goal → Except PublicationError (Option (Stamp → Commit))
  | publish id => do
    let iteration ← (store.getIteration id).mapError .store
    (publish id).planWithin retries iteration.scenario store
  | unpublish id => (unpublish id).planWithin retries id store

/-- A call that makes attempts decides on what they do. -/
theorem callPlan_eq (goal : Goal) (store : ScenarioStore) {retries : UInt32}
    (attempted : retries + 1 ≠ 0) : goal.callPlan retries store = goal.plan store := by
  cases goal with
  | publish id =>
    rw [callPlan, plan]
    refine Except.bind_congr fun iteration readIteration => ?_
    rw [planWithin, if_neg attempted, plan, readIteration]
    rfl
  | unpublish id => exact if_neg attempted

/-- What a call decides on is what an attempt does, unless it fails. -/
theorem plan_of_callPlan {retries : UInt32} {change : Option (Stamp → Commit)}
    (plans : goal.callPlan retries store = .ok change) : goal.plan store = .ok change := by
  by_cases overflows : retries + 1 = 0
  · cases goal with
    | publish id =>
      obtain ⟨iteration, -, decides⟩ := Except.bind_eq_ok_iff.mp plans
      rw [planWithin, if_pos overflows] at decides
      cases decides
    | unpublish id =>
      rw [callPlan, planWithin, if_pos overflows] at plans
      cases plans
  · rw [← goal.callPlan_eq store overflows, plans]

/-- As no attempt conflicts, none is made again. -/
theorem run_withRetries (goal : Goal) (consistent : store.Consistent)
    (uninjected : store.injectedConflicts = 0) (stamps : Nat → Stamp) (retries : UInt32)
    (scenario : Uuid) :
    store.runPublisher stamps (withRetries retries scenario goal.attempt) =
      store.settle stamps (goal.planWithin retries scenario store) := by
  have settles : store.carryOut stamps (goal.plan store) = store.settle stamps (goal.plan store) :=
    carryOut_plan consistent uninjected stamps
  rw [planWithin]
  split
  · rename_i overflows
    exact runPublisher_withRetries_of_overflow overflows scenario goal.attempt
  · rename_i attempted
    rw [runPublisher_withRetries (goal.run_attempt_noConflict settles) attempted,
      goal.run_attempt, settles]

/-- A call on a store that no one else acts on, and that refuses no commit without cause. -/
theorem run_call (goal : Goal) (consistent : store.Consistent)
    (uninjected : store.injectedConflicts = 0) (stamps : Nat → Stamp) (retries : UInt32) :
    store.runPublisher stamps (goal.call retries) =
      store.settle stamps (goal.callPlan retries store) := by
  cases goal with
  | publish id =>
    rw [call, Publisher.publish, runPublisher_read_iteration, callPlan]
    refine runPublisher_check (fun _ => rfl) fun iteration => ?_
    exact (publish id).run_withRetries consistent uninjected stamps retries iteration.scenario
  | unpublish id =>
    exact (unpublish id).run_withRetries consistent uninjected stamps retries id

/-- The call does what an attempt decides on, if it makes attempts. -/
theorem run_call_of_attempted (goal : Goal) (consistent : store.Consistent)
    (uninjected : store.injectedConflicts = 0) (stamps : Nat → Stamp) {retries : UInt32}
    (attempted : retries + 1 ≠ 0) :
    store.runPublisher stamps (goal.call retries) = store.settle stamps (goal.plan store) := by
  rw [goal.run_call consistent uninjected, goal.callPlan_eq store attempted]

end Goal

namespace Errand

open Publisher ScenarioStore

/-- What an errand decides on. -/
def plan (store : ScenarioStore) : Errand → Except PublicationError (Option (Stamp → Commit))
  | apply retries request => do
    match ← PublicationAction.ofName request.action with
    | .publish => (Goal.publish request.iteration).callPlan retries store
    | .unpublish =>
      let iteration ← (store.getIteration request.iteration).mapError .store
      let scenario ← (store.getScenario iteration.scenario).mapError .store
      if scenario.live.isSome ∧ scenario.live ≠ some iteration.id then
        throw (.badParameter (.notLive iteration.id scenario.id))
      else (Goal.unpublish scenario.id).callPlan retries store
  | publish retries iteration => (Goal.publish iteration).callPlan retries store
  | unpublish retries scenario => (Goal.unpublish scenario).callPlan retries store

/-- An errand on a store that no one else acts on, and that refuses no commit without cause. -/
theorem run_plan (errand : Errand) {store : ScenarioStore} (consistent : store.Consistent)
    (uninjected : store.injectedConflicts = 0) (stamps : Nat → Stamp) :
    store.runPublisher stamps (ExceptT.mk errand.call) =
      store.settle stamps (errand.plan store) := by
  have calls (goal : Goal) (retries : UInt32) := goal.run_call consistent uninjected stamps retries
  cases errand with
  | publish retries iteration => exact calls (.publish iteration) retries
  | unpublish retries scenario => exact calls (.unpublish scenario) retries
  | apply retries request =>
    show store.runPublisher stamps (Publisher.apply retries request) = _
    rw [Publisher.apply, plan]
    refine runPublisher_check (fun _ => rfl) fun action => ?_
    cases action with
    | publish => exact calls (.publish request.iteration) retries
    | unpublish =>
      dsimp only
      rw [runPublisher_read_iteration]
      refine runPublisher_check (fun _ => rfl) fun iteration => ?_
      rw [runPublisher_read_scenario]
      refine runPublisher_check (fun _ => rfl) fun scenario => ?_
      split
      · rfl
      · exact calls (.unpublish scenario.id) retries

end Errand

end RiskScoring
