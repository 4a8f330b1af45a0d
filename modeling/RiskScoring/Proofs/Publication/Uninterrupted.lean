import RiskScoring.Proofs.Publication.Attempt

/-!
# Attempts without interruption

What one attempt does to a store when no one else acts on it.

* `ScenarioStore.runPublisher_*`: one rule for each request.
* `Goal.Settled.run`: an attempt at a settled goal does nothing.
* `Grounds.run`: if a store accepts a commit that has its grounds, then the attempt, made once more
  on that store from its start, comes to the same commit with stamps of its own.
-/

namespace RiskScoring

namespace ScenarioStore

variable {α : Type} {store : ScenarioStore} {stamps : Nat → Stamp}

/-- An answer is taken as the result of a check is. -/
theorem runPublisher_answer {β : Type} (answer : Except PublicationError β)
    (next : β → Publishing α) :
    store.runPublisher stamps (ExceptT.mk (ExceptT.bindCont next answer)) =
      store.runPublisher stamps (liftExcept answer >>= next) := by
  cases answer <;> rfl

/-- A read is answered from the store. -/
theorem runPublisher_read_scenario (id : Uuid) (next : Scenario → Publishing α) :
    store.runPublisher stamps (Publishing.getScenario id >>= next) =
      store.runPublisher stamps
        (liftExcept ((store.getScenario id).mapError PublicationError.store) >>= next) :=
  runPublisher_answer _ next

theorem runPublisher_read_iteration (id : Uuid) (next : Iteration → Publishing α) :
    store.runPublisher stamps (Publishing.getIteration id >>= next) =
      store.runPublisher stamps
        (liftExcept ((store.getIteration id).mapError PublicationError.store) >>= next) :=
  runPublisher_answer _ next

theorem runPublisher_getScenario {id : Uuid} {scenario : Scenario}
    (found : store.scenarios.get? id = some scenario) (next : Scenario → Publishing α) :
    store.runPublisher stamps (Publishing.getScenario id >>= next) =
      store.runPublisher stamps (next scenario) := by
  rw [runPublisher_read_scenario, getScenario_eq_ok.mpr found]
  rfl

theorem runPublisher_getIteration {id : Uuid} {iteration : Iteration}
    (found : store.iterations.get? id = some iteration) (next : Iteration → Publishing α) :
    store.runPublisher stamps (Publishing.getIteration id >>= next) =
      store.runPublisher stamps (next iteration) := by
  rw [runPublisher_read_iteration, getIteration_eq_ok.mpr found]
  rfl

theorem runPublisher_lastRank (scenario : Uuid) (next : UInt32 → Publishing α) :
    store.runPublisher stamps (Publishing.lastRank scenario >>= next) =
      store.runPublisher stamps (next (store.lastRank scenario)) := by
  rw [← greatest_listPublications]
  rfl

theorem runPublisher_stamp (next : Stamp → Publishing α) :
    store.runPublisher stamps (Publishing.stamp >>= next) =
      store.runPublisher (fun n => stamps (n + 1)) (next (stamps 0)) := rfl

theorem runPublisher_liftExcept {β : Type} {check : Except PublicationError β} {value : β}
    (passes : check = .ok value) (next : β → Publishing α) :
    store.runPublisher stamps (liftExcept check >>= next) =
      store.runPublisher stamps (next value) := by
  rw [passes]
  rfl

theorem runPublisher_submit {change : Commit}
    (uninjected : store.injectedConflicts = 0) (accepts : store.Accepts change) :
    store.runPublisher stamps (Publisher.submit change) =
      (.ok [change.publication], store.applyCommit (stamps 0).now change) := by
  have answered : store.runPublisher stamps (Publisher.submit change) =
      (store.commit (stamps 0).now change).2.runPublisher (fun n => stamps (n + 1))
        (ExceptT.mk (ExceptT.bindCont (fun _ => pure [change.publication])
          ((store.commit (stamps 0).now change).1.mapError .store))) := rfl
  rw [answered, commit_of_accepts uninjected accepts]
  rfl

/-- The iteration that is live can always be replaced. -/
theorem runPublisher_replaceLive {live : Option Uuid} {replaced : Publisher.Replacement}
    (isLive : ∀ id, live = some id → ∃ previous, store.iterations.get? id = some previous ∧
      previous.state = .live ∧ replaced = ⟨[(id, .superseded)], [(id, previous.updatedAt)]⟩)
    (isNone : live = none → replaced = ⟨[], []⟩)
    (next : Publisher.Replacement → Publishing α) :
    store.runPublisher stamps (Publisher.replaceLive live >>= next) =
      store.runPublisher stamps (next replaced) := by
  cases live with
  | none =>
    rw [isNone rfl]
    rfl
  | some id =>
    obtain ⟨previous, found, state, rfl⟩ := isLive id rfl
    have mayMove : previous.state.checkMove .superseded = .ok () := by
      rw [state]
      rfl
    let goesOn (previous : Iteration) : Publishing Publisher.Replacement := do
      liftExcept (previous.state.checkMove .superseded)
      return ⟨[(id, .superseded)], [(id, previous.updatedAt)]⟩
    have answered : store.runPublisher stamps (Publisher.replaceLive (some id) >>= next) =
        store.runPublisher stamps (ExceptT.mk
          (ExceptT.bindCont goesOn ((store.getIteration id).mapError .store)) >>= next) := rfl
    rw [answered, getIteration_eq_ok.mpr found]
    show store.runPublisher stamps (goesOn previous >>= next) = _
    simp only [goesOn, mayMove]
    rfl

end ScenarioStore

/-- An attempt at a settled goal does nothing. -/
theorem Goal.Settled.run {store : ScenarioStore} {goal : Goal} (settled : goal.Settled store)
    (consistent : store.Consistent) (stamps : Nat → Stamp) :
    store.runPublisher stamps goal.attempt = (.ok [], store) := by
  cases goal with
  | publish id =>
    obtain ⟨iteration, scenario, found, owner, isLive⟩ := settled
    obtain rfl : iteration.id = id := consistent.iteration_id found
    rw [attempt, Publisher.tryPublish, ScenarioStore.runPublisher_getIteration found,
      ScenarioStore.runPublisher_getScenario owner, if_pos isLive]
    rfl
  | unpublish id =>
    obtain ⟨scenario, found, notLive⟩ := settled
    rw [attempt, Publisher.tryUnpublish, ScenarioStore.runPublisher_getScenario found, notLive]
    rfl

/-- The commit with another stamp for its entry in the log. -/
def Commit.restamp (change : Commit) (stamp : Stamp) : Commit :=
  { change with publication :=
    { change.publication with id := stamp.id, createdAt := stamp.now } }

theorem ScenarioStore.Accepts.restamp {store : ScenarioStore} {change : Commit}
    (accepts : store.Accepts change) (stamp : Stamp) : store.Accepts (change.restamp stamp) :=
  ⟨accepts.scenario, accepts.rank, accepts.transitions, accepts.iterations⟩

namespace Grounds

open Publisher ScenarioStore

variable {store : ScenarioStore} {goal : Goal} {change : Commit}

theorem run_publishing {iteration stored : Iteration} {scenario : Scenario} {current : Option Uuid}
    {replaced : Replacement} {rank : UInt32} {stamp : Stamp}
    (consistent : store.Consistent) (uninjected : store.injectedConflicts = 0)
    (accepts : store.Accepts (publishing scenario iteration replaced rank stamp))
    (found : store.iterations.get? iteration.id = some stored)
    (precedes : iteration.Precedes stored) (hasId : scenario.id = iteration.scenario)
    (owner : store.scenarios.get? iteration.scenario = some { scenario with live := current })
    (changes : scenario.live ≠ some iteration.id)
    (valid : iteration.validateStructure.isValid = true) (replaces : replaced.Of scenario.live)
    (stamps : Nat → Stamp) :
    store.runPublisher stamps (tryPublish iteration.id) =
      (.ok [((publishing scenario iteration replaced rank stamp).restamp (stamps 0)).publication],
        store.applyCommit (stamps 1).now
          ((publishing scenario iteration replaced rank stamp).restamp (stamps 0))) := by
  have unchanged : stored.updatedAt = iteration.updatedAt := unchanged_of_accepts accepts found
  -- The scenario that is stored now is the one that was read.
  have foundOwner : store.scenarios.get? stored.scenario = some scenario := by
    obtain ⟨same, foundSame, isExpected⟩ := accepts.scenario
    have key : (publishing scenario iteration replaced rank stamp).scenario =
        iteration.scenario := hasId
    rw [key, owner] at foundSame
    cases foundSame
    rw [precedes.scenario, owner, show current = scenario.live from isExpected]
  have publishable : stored.checkPublishable = .ok () := by
    have isValid := stored_valid consistent found precedes valid unchanged
    simp only [Iteration.checkPublishable, if_pos isValid]
  have mayMove : stored.state.checkMove .live = .ok () := by
    have named : (iteration.id, IterationState.live) ∈
        (publishing scenario iteration replaced rank stamp).transitions :=
      List.mem_append_right _ (List.mem_singleton.mpr rfl)
    obtain ⟨same, foundSame, -, allowed⟩ :=
      accepts.mayMove consistent (publishing_isSwap rank stamp changes replaces) named
    rw [found] at foundSame
    cases foundSame
    rw [IterationState.checkMove, if_pos allowed]
  have isReplaced : ∀ id, scenario.live = some id → ∃ previous,
      store.iterations.get? id = some previous ∧ previous.state = .live ∧
        replaced = ⟨[(id, .superseded)], [(id, previous.updatedAt)]⟩ := by
    intro id isLive
    obtain ⟨previous, foundPrevious, -, state⟩ := (accepts.expected_live consistent).mp isLive
    rw [isLive] at replaces
    obtain ⟨updatedAt, rfl⟩ := replaces
    obtain ⟨same, foundSame, read⟩ := accepts.iterations (id, updatedAt)
      (List.mem_append_left _ (List.mem_singleton.mpr rfl))
    rw [foundPrevious] at foundSame
    cases foundSame
    exact ⟨previous, foundPrevious, state, by rw [read]⟩
  have nothingReplaced : scenario.live = none → replaced = ⟨[], []⟩ := by
    intro isNone
    rw [isNone] at replaces
    exact replaces
  have sameRank : store.lastRank scenario.id = rank := accepts.rank
  have sameId : stored.id = iteration.id := precedes.id
  have goesOn : ¬ scenario.live = some stored.id := by
    rw [sameId]
    exact changes
  have sameCommit : publishing scenario stored replaced rank (stamps 0) =
      (publishing scenario iteration replaced rank stamp).restamp (stamps 0) := by
    simp only [publishing, Commit.restamp, entry, sameId, unchanged]
  rw [tryPublish, runPublisher_getIteration found, runPublisher_getScenario foundOwner,
    if_neg goesOn, runPublisher_liftExcept publishable, runPublisher_liftExcept mayMove,
    runPublisher_replaceLive isReplaced nothingReplaced, runPublisher_lastRank, sameRank,
    runPublisher_stamp, sameCommit, runPublisher_submit uninjected (accepts.restamp (stamps 0))]

theorem run_unpublishing {scenario : Scenario} {current : Option Uuid} {liveId : Uuid}
    {updatedAt : Instant} {rank : UInt32} {stamp : Stamp}
    (consistent : store.Consistent) (uninjected : store.injectedConflicts = 0)
    (accepts : store.Accepts (unpublishing scenario liveId updatedAt rank stamp))
    (found : store.scenarios.get? scenario.id = some { scenario with live := current })
    (isLive : scenario.live = some liveId) (stamps : Nat → Stamp) :
    store.runPublisher stamps (tryUnpublish scenario.id) =
      (.ok [((unpublishing scenario liveId updatedAt rank stamp).restamp (stamps 0)).publication],
        store.applyCommit (stamps 1).now
          ((unpublishing scenario liveId updatedAt rank stamp).restamp (stamps 0))) := by
  have foundScenario : store.scenarios.get? scenario.id = some scenario := by
    obtain ⟨same, foundSame, isExpected⟩ := accepts.scenario
    have key : (unpublishing scenario liveId updatedAt rank stamp).scenario = scenario.id := rfl
    rw [key, found] at foundSame
    cases foundSame
    have same : current = scenario.live := by
      rw [isLive]
      exact isExpected
    rw [found, same]
  have expected : (unpublishing scenario liveId updatedAt rank stamp).expectedLive = some liveId :=
    rfl
  obtain ⟨live, foundLive, -, state⟩ := (accepts.expected_live consistent).mp expected
  have mayMove : live.state.checkMove .unpublished = .ok () := by
    rw [state]
    rfl
  have unchanged : live.updatedAt = updatedAt := by
    obtain ⟨same, foundSame, read⟩ := accepts.iterations (liveId, updatedAt)
      (List.mem_singleton.mpr rfl)
    rw [foundLive] at foundSame
    cases foundSame
    exact read
  have sameRank : store.lastRank scenario.id = rank := accepts.rank
  have sameCommit : unpublishing scenario liveId live.updatedAt rank (stamps 0) =
      (unpublishing scenario liveId updatedAt rank stamp).restamp (stamps 0) := by
    rw [unchanged]
    rfl
  rw [tryUnpublish, runPublisher_getScenario foundScenario, isLive]
  show store.runPublisher stamps (Publishing.getIteration liveId >>= _) = _
  rw [runPublisher_getIteration foundLive, runPublisher_liftExcept mayMove, runPublisher_lastRank,
    sameRank, runPublisher_stamp, sameCommit,
    runPublisher_submit uninjected (accepts.restamp (stamps 0))]

/-- The attempt, made once more and without interruption on a store that accepts its commit, comes
to the same commit with stamps of its own. -/
theorem run (grounds : Grounds store goal change) (consistent : store.Consistent)
    (uninjected : store.injectedConflicts = 0) (accepts : store.Accepts change)
    (stamps : Nat → Stamp) :
    store.runPublisher stamps goal.attempt =
      (.ok [(change.restamp (stamps 0)).publication],
        store.applyCommit (stamps 1).now (change.restamp (stamps 0))) := by
  cases grounds with
  | publish rank stamp found precedes hasId owner changes valid replaces =>
    exact run_publishing consistent uninjected accepts found precedes hasId owner changes valid
      replaces stamps
  | unpublish updatedAt rank stamp found isLive =>
    exact run_unpublishing consistent uninjected accepts found isLive stamps

end Grounds

end RiskScoring
