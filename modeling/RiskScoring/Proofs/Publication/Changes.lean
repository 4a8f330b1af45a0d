import RiskScoring.Proofs.Publication.History

/-!
# What a step makes of the store

* `ScenarioStore.Becomes`: the five ways in which one step of a run may change the store, each with
  all that is known when it happens.
* `System.Reachable.becomes`: every step of a run takes one of them.

An invariant of the store needs one case for each way, and need not look at clients and calls.
-/

namespace RiskScoring

/-- What one step of a run may make of the store. -/
inductive ScenarioStore.Becomes (store : ScenarioStore) : ScenarioStore → Prop
  /-- All records stay as they are. -/
  | same (left : Nat) : Becomes store { store with injectedConflicts := left }
  /-- A scenario comes, with nothing live. -/
  | scenario {stamp : Stamp} (fresh : store.scenarios.get? stamp.id = none)
    (draft : ScenarioDraft) :
    Becomes store { store with
      scenarios := store.scenarios.insert stamp.id (draft.toScenario stamp) }
  /-- A draft of a scenario that is there comes. -/
  | iteration {stamp : Stamp} (fresh : store.iterations.get? stamp.id = none) {scenario : Uuid}
    {owner : Scenario} (found : store.scenarios.get? scenario = some owner)
    (draft : IterationDraft) :
    Becomes store { store with
      iterations := store.iterations.insert stamp.id
        (draft.toIteration scenario (store.nextVersion scenario) stamp) }
  /-- A draft is edited. -/
  | edit {id : Uuid} {draft : Iteration} (found : store.iterations.get? id = some draft)
    (isDraft : draft.state = .draft) (edit : IterationEdit) (stamp : Stamp) :
    Becomes store { store with
      iterations := store.iterations.insert id
        (edit.applyTo draft stamp.parts (stamp.now.later draft.updatedAt.next)) }
  /-- A publisher commits what it has grounds for. -/
  | commit {goal : Goal} {change : Commit} (uninjected : store.injectedConflicts = 0)
    (accepts : store.Accepts change) (grounds : Grounds store goal change) (now : Instant) :
    Becomes store (store.applyCommit now change)

namespace ScenarioStore

variable (store : ScenarioStore)

theorem becomes_self : store.Becomes store := .same store.injectedConflicts

theorem becomes_createIteration {stamp : Stamp} (fresh : store.iterations.get? stamp.id = none)
    (scenario : Uuid) (draft : IterationDraft) :
    store.Becomes (store.createIteration stamp scenario draft).2 := by
  unfold createIteration
  cases found : store.getScenario scenario with
  | error error => exact store.becomes_self
  | ok owner => exact .iteration fresh (getScenario_eq_ok.mp found) draft

theorem becomes_updateIteration (stamp : Stamp) (id : Uuid) (edit : IterationEdit) :
    store.Becomes (store.updateIteration stamp id edit).2 := by
  rcases store.updateIteration_cases stamp id edit with same | ⟨draft, found, isDraft, edited⟩
  · rw [same]
    exact store.becomes_self
  · rw [edited]
    exact .edit found isDraft edit stamp

theorem becomes_commit {goal : Goal} {change : Commit} (grounds : Grounds store goal change)
    (now : Instant) : store.Becomes (store.commit now change).2 := by
  rcases store.commit_cases now change with ⟨uninjected, accepts, applied⟩ | ⟨error, left, refused⟩
  · rw [applied]
    exact .commit uninjected accepts grounds now
  · rw [refused]
    exact .same left

end ScenarioStore

/-- Every step of a run changes the store in one of the five ways. -/
theorem System.Reachable.becomes {system : System} (reachable : system.Reachable) {event : Event}
    (fresh : event.Fresh system.store) : system.store.Becomes (system.step event).store := by
  cases event with
  | createScenario given draft => exact .scenario fresh draft
  | createIteration given scenario draft =>
    exact system.store.becomes_createIteration fresh scenario draft
  | updateIteration given id edit => exact system.store.becomes_updateIteration given id edit
  | injectConflicts count => exact .same count
  | arrive errand => exact system.store.becomes_self
  | serve client given =>
    cases present : system.clients[client]? with
    | none =>
      simp only [System.step, System.serve, present]
      exact system.store.becomes_self
    | some call =>
      simp only [System.step, System.serve_of_getElem? present]
      cases call with
      | commit change next =>
        obtain ⟨goal, grounds⟩ := reachable.exists_grounds present
        exact system.store.becomes_commit grounds given.now
      | _ => exact system.store.becomes_self

end RiskScoring
