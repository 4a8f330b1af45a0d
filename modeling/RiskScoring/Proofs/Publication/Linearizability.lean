import RiskScoring.Proofs.Publication.History
import RiskScoring.Proofs.Publication.Uninterrupted

/-!
# Attempts are as if they were not interrupted

An attempt reads in several requests and commits in one, and anything may happen in between.
Still, if its commit goes through, then the attempt does what it would have done if it had been made
without interruption right then.

* `ScenarioStore.unstamped`: a store without what identifiers and clocks decide.
* `System.Attempt.linearizable`: the statement for every attempt in every run.
-/

namespace RiskScoring

/-! ## Up to identifiers and clocks -/

/-- The iteration without the time of its last change. -/
def Iteration.unstamped (iteration : Iteration) : Iteration :=
  { iteration with updatedAt := .epoch }

/-- The publication without its identifier and time. -/
def Publication.unstamped (publication : Publication) : Publication :=
  { publication with id := default, createdAt := .epoch }

/-- The store without the identifiers and times of publications, and without the times at which
iterations were changed. -/
def ScenarioStore.unstamped (store : ScenarioStore) : ScenarioStore :=
  { store with
    iterations := store.iterations.map fun _ => Iteration.unstamped
    publications := store.publications.map Publication.unstamped }

theorem ScenarioStore.moveIteration_unstamped {x y : Dict Uuid Iteration}
    (same : x.map (fun _ => Iteration.unstamped) = y.map fun _ => Iteration.unstamped)
    (now other : Instant) (transition : Uuid × IterationState) :
    (moveIteration now x transition).map (fun _ => Iteration.unstamped) =
      (moveIteration other y transition).map fun _ => Iteration.unstamped := by
  have stored := congrArg (Dict.get? · transition.1) same
  simp only [Dict.get?_map] at stored
  unfold moveIteration
  cases foundX : x.get? transition.1 with
  | none =>
    cases foundY : y.get? transition.1 with
    | none => exact same
    | some iteration =>
      rw [foundX, foundY] at stored
      cases stored
  | some iteration =>
    cases foundY : y.get? transition.1 with
    | none =>
      rw [foundX, foundY] at stored
      cases stored
    | some iteration' =>
      rw [foundX, foundY] at stored
      have unstamped : iteration.unstamped = iteration'.unstamped := Option.some.inj stored
      have moved : Iteration.unstamped { iteration with state := transition.2, updatedAt := now } =
          Iteration.unstamped { iteration' with state := transition.2, updatedAt := other } := by
        simp only [Iteration.unstamped, Iteration.mk.injEq] at unstamped ⊢
        simp [unstamped]
      simp only [Dict.map_insert, same, moved]

/-- Another clock and another stamp leave a commit the same but for them. -/
theorem ScenarioStore.applyCommit_unstamped (store : ScenarioStore) (change : Commit)
    (now other : Instant) (stamp : Stamp) :
    (store.applyCommit now (change.restamp stamp)).unstamped =
      (store.applyCommit other change).unstamped := by
  have moved : ∀ (transitions : List (Uuid × IterationState)) (x y : Dict Uuid Iteration),
      x.map (fun _ => Iteration.unstamped) = y.map (fun _ => Iteration.unstamped) →
      (transitions.foldl (moveIteration now) x).map (fun _ => Iteration.unstamped) =
        (transitions.foldl (moveIteration other) y).map fun _ => Iteration.unstamped := by
    intro transitions
    induction transitions with
    | nil => exact fun x y same => same
    | cons transition rest ih =>
      exact fun x y same => ih _ _ (moveIteration_unstamped same now other transition)
  have iterations := moved change.transitions store.iterations store.iterations rfl
  simp only [unstamped, applyCommit, Commit.restamp, List.map_append, ScenarioStore.mk.injEq]
  exact ⟨trivial, iterations, rfl, trivial⟩

/-! ## The statement -/

namespace System

theorem follow_submits {system : System} {client : Nat} {rest : Call PublicationResult}
    (submits : rest.Submits) (events : List Event) :
    (system.follow client rest events).Submits := by
  induction events generalizing system rest with
  | nil => exact submits
  | cons event events ih =>
    refine ih ?_
    cases event with
    | serve other given =>
      simp only [Event.advance]
      split
      · exact submits.answer given system.store
      · exact submits
    | _ => exact submits

/-- The last answer of an attempt that finds nothing to be done leaves the store as it is. -/
theorem store_of_nothing {system : System} {client : Nat} {rest : Call PublicationResult}
    {next : PublicationResult → Call PublicationResult} {given : Stamp} {events : List Event}
    (present : system.clients[client]? = some (rest.bind next)) (isOpen : rest.isDone = false)
    (submits : rest.Submits)
    (ends : system.follow client rest (.serve client given :: events) = .done (.ok [])) :
    (system.step (.serve client given)).store = system.store := by
  simp only [step, serve_of_getElem? present, Call.answer_bind isOpen]
  cases rest with
  | commit change goesOn =>
    rw [follow, Event.advance, if_pos rfl, Call.answer, submits, follow_done] at ends
    cases result : (system.store.commit given.now change).1 with
    | error error =>
      rw [result] at ends
      cases ends
    | ok done =>
      rw [result] at ends
      cases ends
  | _ => rfl

namespace Attempt

variable {goal : Goal}

theorem rest_submits (attempt : Attempt goal) : attempt.rest.Submits :=
  follow_submits goal.attempt_submits attempt.events

/-- The attempt made once more on the store that its commit meets comes to the same. -/
theorem run_of_commit (attempt : Attempt goal) {given : Stamp} {change : Commit}
    {next : Except StoreError Unit → Call PublicationResult} {after : ScenarioStore}
    (asks : attempt.rest = .commit change next)
    (succeeds : attempt.system.store.commit given.now change = (.ok (), after))
    (stamps : Nat → Stamp) :
    after = attempt.system.store.applyCommit given.now change ∧
      attempt.system.store.runPublisher stamps goal.attempt =
        (.ok [(change.restamp (stamps 0)).publication],
          attempt.system.store.applyCommit (stamps 1).now (change.restamp (stamps 0))) := by
  have consistent := attempt.reachable_system.sound.consistent
  obtain ⟨uninjected, accepts, applied⟩ := ScenarioStore.commit_eq_ok succeeds
  exact ⟨applied, (attempt.grounds asks).run consistent uninjected accepts stamps⟩

/-- An attempt that ends with nothing to be done had a moment at which its goal was settled. -/
theorem settled_of_nothing (attempt : Attempt goal) (ends : attempt.rest = .done (.ok [])) :
    ∃ before after, attempt.events = before ++ after ∧
      (attempt.start.follow attempt.client goal.attempt.run before).isDone = false ∧
      (attempt.start.run before).Reachable ∧ goal.Settled (attempt.start.run before).store := by
  have isOpen : goal.attempt.run.isDone = false := by
    cases goal <;> rfl
  obtain ⟨before, given, after, split, stillOpen, settled⟩ :=
    follow_ends covers_evolves attempt.reachable attempt.begins
      (goal.attempt_meets attempt.start.store) isOpen attempt.admits ends
  have admits := attempt.admits
  rw [split] at admits
  rw [rest, split, follow_append] at ends
  have unchanged : ((attempt.start.run before).step (.serve attempt.client given)).store =
      (attempt.start.run before).store :=
    store_of_nothing (clients_run attempt.begins stillOpen) stillOpen
      (follow_submits goal.attempt_submits before) ends
  refine ⟨before, .serve attempt.client given :: after, split, stillOpen,
    attempt.reachable.run admits.append_left, ?_⟩
  rw [← unchanged]
  exact settled rfl

/-- When the commit of an attempt goes through, the attempt ends with its publication, and the
attempt made without interruption at that moment would have come to the same, up to identifiers and
clocks. When an attempt ends with nothing to be done, then there is a moment within it at which the
attempt made without interruption would have found nothing to be done either. -/
theorem linearizable (attempt : Attempt goal) :
    (∀ (given : Stamp) change next after, attempt.rest = .commit change next →
      attempt.system.store.commit given.now change = (.ok (), after) →
      next (.ok ()) = .done (.ok [change.publication]) ∧
      ∀ stamps, ∃ publication other,
        attempt.system.store.runPublisher stamps goal.attempt = (.ok [publication], other) ∧
        publication.unstamped = change.publication.unstamped ∧
        other.unstamped = after.unstamped ∧
        ((stamps 0).id = change.publication.id → (stamps 0).now = change.publication.createdAt →
          (stamps 1).now = given.now → publication = change.publication ∧ other = after)) ∧
    (attempt.rest = .done (.ok []) →
      ∃ before after, attempt.events = before ++ after ∧
        (attempt.start.follow attempt.client goal.attempt.run before).isDone = false ∧
        goal.Settled (attempt.start.run before).store ∧
        ∀ stamps, (attempt.start.run before).store.runPublisher stamps goal.attempt =
          (.ok [], (attempt.start.run before).store)) := by
  constructor
  · intro given change next after asks succeeds
    have submits := attempt.rest_submits
    rw [asks] at submits
    refine ⟨submits (.ok ()), fun stamps => ?_⟩
    obtain ⟨applied, runs⟩ := attempt.run_of_commit asks succeeds stamps
    refine ⟨_, _, runs, rfl, ?_, ?_⟩
    · rw [applied]
      exact ScenarioStore.applyCommit_unstamped _ change _ _ _
    · intro sameId sameTime sameClock
      have same : change.restamp (stamps 0) = change := by
        rw [Commit.restamp, sameId, sameTime]
      rw [same, sameClock, applied]
      exact ⟨rfl, rfl⟩
  · intro ends
    obtain ⟨before, after, split, stillOpen, reachable, settled⟩ := attempt.settled_of_nothing ends
    exact ⟨before, after, split, stillOpen, settled, settled.run reachable.sound.consistent⟩

/-- The first publication is the commit of an attempt, and the attempt made without interruption on
the store as it is then comes to the same. -/
theorem linearizable_first_publication :
    ∃ (goal : Goal) (attempt : Attempt goal) (after : ScenarioStore),
      attempt.system = System.start.run firstPublication ∧
      attempt.system.store.commit (Stamp.numbered 4).now firstCommit = (.ok (), after) ∧
      ∀ stamps, ∃ publication other,
        attempt.system.store.runPublisher stamps goal.attempt = (.ok [publication], other) ∧
        publication.unstamped = firstCommit.publication.unstamped ∧
        other.unstamped = after.unstamped := by
  have goesThrough : ((System.start.run firstPublication).store.commit (Stamp.numbered 4).now
      firstCommit).1 = .ok () := by with_unfolding_all rfl
  obtain ⟨next, present⟩ := exists_of_asked asked_firstPublication
  obtain ⟨goal, attempt, goesOn, here, -, asked⟩ :=
    reachable_firstPublication.exists_attempt present
  rw [← here] at goesThrough
  have succeeds : attempt.system.store.commit (Stamp.numbered 4).now firstCommit =
      (.ok (), (attempt.system.store.commit (Stamp.numbered 4).now firstCommit).2) :=
    Prod.ext goesThrough rfl
  refine ⟨goal, attempt, _, here, succeeds, fun stamps => ?_⟩
  obtain ⟨publication, other, runs, samePublication, sameStore, -⟩ :=
    (attempt.linearizable.1 (.numbered 4) firstCommit goesOn _ asked succeeds).2 stamps
  exact ⟨publication, other, runs, samePublication, sameStore⟩

end Attempt

end System

end RiskScoring
