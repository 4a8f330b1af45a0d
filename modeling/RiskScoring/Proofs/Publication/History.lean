import RiskScoring.Proofs.Publication.Invariant

/-!
# Attempts within a run

* `System.Attempt`: an attempt of a client within a run, as far as it has come.
* `Call.Staged`: the calls of clients are made of attempts, with single requests before them.
* `System.Reachable.exists_attempt`: every commit of a run is the commit of an attempt.
-/

namespace RiskScoring

/-! ## Attempts within a run -/

namespace System

/-- An attempt of a client: where it began, what comes after it, and what has happened since. -/
structure Attempt (goal : Goal) where
  start : System
  client : Nat
  next : PublicationResult → Call PublicationResult
  events : List Event
  reachable : start.Reachable
  begins : start.clients[client]? = some (goal.attempt.run.bind next)
  admits : start.Admits events

namespace Attempt

variable {goal : Goal}

/-- The system as the attempt finds it now. -/
def system (attempt : Attempt goal) : System := attempt.start.run attempt.events

/-- What is left of the attempt. -/
def rest (attempt : Attempt goal) : Call PublicationResult :=
  attempt.start.follow attempt.client goal.attempt.run attempt.events

theorem reachable_system (attempt : Attempt goal) : attempt.system.Reachable :=
  attempt.reachable.run attempt.admits

/-- While the attempt has requests left, it keeps its guarantee. -/
theorem rest_meets (attempt : Attempt goal) (isOpen : attempt.rest.isDone = false) :
    attempt.rest.Meets ScenarioStore.Evolves goal.Grounded goal.Ends attempt.system.store :=
  follow_meets covers_evolves attempt.reachable attempt.begins
    (goal.attempt_meets attempt.start.store) attempt.admits isOpen

/-- When the attempt asks for its commit, it has the grounds for it. -/
theorem grounds (attempt : Attempt goal) {change : Commit}
    {next : Except StoreError Unit → Call PublicationResult}
    (asks : attempt.rest = .commit change next) : Grounds attempt.system.store goal change := by
  have meets := attempt.rest_meets (by rw [asks]; rfl)
  rw [asks] at meets
  have consistent := attempt.reachable_system.sound.consistent
  exact (meets attempt.system.store ⟨.refl _, consistent⟩).1.2

end Attempt

/-- The attempt after one more event. -/
def Attempt.extend {goal : Goal} (attempt : Attempt goal) {event : Event}
    (fresh : event.Fresh attempt.system.store) : Attempt goal :=
  { attempt with
    events := attempt.events ++ [event]
    admits := attempt.admits.append ⟨fresh, trivial⟩ }

end System

/-! ## Calls made of attempts -/

/-- A call that is made of attempts, with requests for scenarios and iterations before them. -/
inductive Call.Staged : Call PublicationResult → Prop
  | done (result : PublicationResult) : Staged (.done result)
  | getScenario (id : Uuid) {next : Except StoreError Scenario → Call PublicationResult}
    (goesOn : ∀ answer, Staged (next answer)) : Staged (.getScenario id next)
  | getIteration (id : Uuid) {next : Except StoreError Iteration → Call PublicationResult}
    (goesOn : ∀ answer, Staged (next answer)) : Staged (.getIteration id next)
  | attempt (goal : Goal) {next : PublicationResult → Call PublicationResult}
    (goesOn : ∀ result, Staged (next result)) : Staged (goal.attempt.run.bind next)

namespace Publisher

theorem retried_staged (goal : Goal) (scenario : Uuid) (attempts : UInt32) (left : Nat) :
    (attempt scenario attempts goal.attempt left).run.Staged := by
  induction left with
  | zero => exact .done _
  | succ left ih =>
    refine .attempt goal fun result => ?_
    split
    · exact ih
    · exact .done _

theorem unpublish_staged (retries : UInt32) (scenario : Uuid) :
    (unpublish retries scenario).run.Staged :=
  retried_staged (.unpublish scenario) scenario (retries + 1) (retries + 1).toNat

theorem publish_staged (retries : UInt32) (id : Uuid) : (publish retries id).run.Staged := by
  refine .getIteration id fun answer => ?_
  cases answer with
  | error error => exact .done _
  | ok iteration =>
    exact retried_staged (.publish id) iteration.scenario (retries + 1) (retries + 1).toNat

theorem apply_staged (retries : UInt32) (request : PublicationRequest) :
    (apply retries request).run.Staged := by
  unfold apply
  cases PublicationAction.ofName request.action with
  | error error => exact .done _
  | ok action =>
    cases action with
    | publish => exact publish_staged retries request.iteration
    | unpublish =>
      refine .getIteration request.iteration fun answer => ?_
      cases answer with
      | error error => exact .done _
      | ok iteration =>
        refine .getScenario iteration.scenario fun answer => ?_
        cases answer with
        | error error => exact .done _
        | ok scenario =>
          show Call.Staged (ExceptT.run (if _ then _ else unpublish retries scenario.id))
          split
          · exact .done _
          · exact unpublish_staged retries scenario.id

end Publisher

theorem Errand.call_staged (errand : Errand) : errand.call.Staged := by
  cases errand with
  | apply retries request => exact Publisher.apply_staged retries request
  | publish retries iteration => exact Publisher.publish_staged retries iteration
  | unpublish retries scenario => exact Publisher.unpublish_staged retries scenario

/-! ## Where each call comes from -/

namespace System

variable {system : System} {client : Nat} {call : Call PublicationResult}

/-- A call is within an attempt, and will be made of attempts after it. -/
structure Within (system : System) (client : Nat) (call : Call PublicationResult) {goal : Goal}
    (attempt : Attempt goal) : Prop where
  here : attempt.system = system
  hasClient : attempt.client = client
  isOpen : attempt.rest.isDone = false
  split : call = attempt.rest.bind attempt.next
  goesOn : ∀ result, (attempt.next result).Staged

/-- A call is accounted for if it is within an attempt, or between attempts. -/
inductive Accounted (system : System) (client : Nat) (call : Call PublicationResult) : Prop
  | between (staged : call.Staged)
  | within {goal : Goal} (attempt : Attempt goal) (within : Within system client call attempt)

/-- One event later, the call is still within the attempt, or the attempt has come to its end. -/
theorem Within.step {goal : Goal} {attempt : Attempt goal}
    (within : Within system client call attempt) {event : Event}
    (fresh : event.Fresh system.store) :
    Accounted (system.step event) client (event.advance client system.store call) := by
  obtain ⟨rfl, rfl, isOpen, rfl, goesOn⟩ := within
  have present : attempt.system.clients[attempt.client]? =
      some (attempt.rest.bind attempt.next) := clients_run attempt.begins isOpen
  have advanced : event.advance attempt.client attempt.system.store
      (attempt.rest.bind attempt.next) =
      (event.advance attempt.client attempt.system.store attempt.rest).bind attempt.next :=
    Option.some.inj ((clients_advance present event).symm.trans (clients_step present isOpen event))
  rw [advanced]
  cases reached : event.advance attempt.client attempt.system.store attempt.rest with
  | done result => exact .between (goesOn result)
  | _ =>
    have rest : (attempt.extend fresh).rest =
        event.advance attempt.client attempt.system.store attempt.rest :=
      follow_append attempt.start attempt.client goal.attempt.run attempt.events [event]
    refine .within (attempt.extend fresh) ⟨?_, rfl, ?_, ?_, goesOn⟩
    · exact run_append attempt.start attempt.events [event]
    · rw [rest, reached]
      rfl
    · rw [rest, reached]
      rfl

theorem Accounted.step (reachable : system.Reachable)
    (present : system.clients[client]? = some call) (accounted : Accounted system client call)
    {event : Event} (fresh : event.Fresh system.store) :
    Accounted (system.step event) client (event.advance client system.store call) := by
  cases accounted with
  | within attempt within => exact within.step fresh
  | between staged =>
    cases staged with
    | done result =>
      rw [Event.advance_done]
      exact .between (.done result)
    | @attempt goal next goesOn =>
      have isOpen : goal.attempt.run.isDone = false := by
        cases goal <;> rfl
      let begun : Attempt goal := ⟨system, client, next, [], reachable, present, trivial⟩
      have within : Within system client (goal.attempt.run.bind next) begun :=
        ⟨rfl, rfl, isOpen, rfl, goesOn⟩
      exact within.step fresh
    | getScenario id goesOn =>
      cases event with
      | serve other given =>
        simp only [Event.advance]
        split
        · exact .between (goesOn _)
        · exact .between (.getScenario id goesOn)
      | _ => exact .between (.getScenario id goesOn)
    | getIteration id goesOn =>
      cases event with
      | serve other given =>
        simp only [Event.advance]
        split
        · exact .between (goesOn _)
        · exact .between (.getIteration id goesOn)
      | _ => exact .between (.getIteration id goesOn)

theorem Reachable.accounted (reachable : system.Reachable) :
    ∀ client call, system.clients[client]? = some call → Accounted system client call := by
  induction reachable with
  | start =>
    intro client call present
    simp [System.start] at present
  | @step system event reachable fresh ih =>
    intro client call present
    rcases clients_of_step present with ⟨earlier, wasPresent⟩ | ⟨errand, rfl, rfl⟩
    · have advanced := clients_advance wasPresent event
      rw [present] at advanced
      cases advanced
      exact (ih client earlier wasPresent).step reachable wasPresent fresh
    · exact .between errand.call_staged

/-- Every commit that a client asks for in a run is the commit of an attempt within that run. -/
theorem Reachable.exists_attempt (reachable : system.Reachable) {change : Commit}
    {next : Except StoreError Unit → Call PublicationResult}
    (present : system.clients[client]? = some (.commit change next)) :
    ∃ (goal : Goal) (attempt : Attempt goal) (goesOn : Except StoreError Unit → _),
      attempt.system = system ∧ attempt.client = client ∧ attempt.rest = .commit change goesOn := by
  cases reachable.accounted client _ present with
  | between staged =>
    generalize asked : Call.commit change next = call at staged
    cases staged with
    | attempt goal goesOn => cases goal <;> cases asked
    | _ => cases asked
  | @within goal attempt within =>
    obtain ⟨rfl, rfl, isOpen, split, -⟩ := within
    have asks : attempt.system.asked attempt.client = some change := asked_of_getElem? present
    rw [split] at present
    obtain ⟨goesOn, commits⟩ := commit_of_asked present isOpen asks
    exact ⟨goal, attempt, goesOn, rfl, rfl, commits⟩

/-- Every commit that a client asks for in a run has its grounds in the store of that moment. -/
theorem Reachable.exists_grounds (reachable : system.Reachable) {change : Commit}
    {next : Except StoreError Unit → Call PublicationResult}
    (present : system.clients[client]? = some (.commit change next)) :
    ∃ goal, Grounds system.store goal change := by
  obtain ⟨goal, attempt, goesOn, rfl, -, asks⟩ := reachable.exists_attempt present
  exact ⟨goal, attempt.grounds asks⟩

end System

end RiskScoring
