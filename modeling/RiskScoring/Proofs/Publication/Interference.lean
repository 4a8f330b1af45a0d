import RiskScoring.Proofs.Publication.System

/-!
# Calls under interference

`Call.Meets rely allowed post call store` says what a call guarantees from a store on, whatever
others do before each of its requests, as long as what they do is covered by `rely`: every commit
that it requests is `allowed` by the store of that moment, and its result satisfies `post` in the
store in which its last request was answered.

* `Call.Meets.answer`, `Call.Meets.later`: an answer and the steps of others keep the guarantee.
* `Call.Meets.bind`: a call after a call.
* `Publishing.meets_*`: one rule for each request of a publisher.
* `System.follow_meets`, `System.follow_ends`: what a part of a client's call guarantees holds in
  every run in which all steps are covered by `rely`.
-/

namespace RiskScoring

namespace Call

variable {α β : Type} {rely : ScenarioStore → ScenarioStore → Prop}
  {allowed : ScenarioStore → Commit → Prop} {post : ScenarioStore → α → Prop}

/-- What a call guarantees from a store on, under interference. -/
def Meets (rely : ScenarioStore → ScenarioStore → Prop) (allowed : ScenarioStore → Commit → Prop)
    (post : ScenarioStore → α → Prop) : Call α → ScenarioStore → Prop
  | done result, store => post store result
  | getScenario id next, store =>
    ∀ later, rely store later → Meets rely allowed post (next (later.getScenario id)) later
  | getIteration id next, store =>
    ∀ later, rely store later → Meets rely allowed post (next (later.getIteration id)) later
  | listPublications id next, store =>
    ∀ later, rely store later →
      Meets rely allowed post (next (.ok (later.listPublications id))) later
  | stamp next, store =>
    ∀ later, rely store later → ∀ given, Meets rely allowed post (next given) later
  | commit change next, store =>
    ∀ later, rely store later → allowed later change ∧
      ∀ now, Meets rely allowed post (next (later.commit now change).1) (later.commit now change).2

/-- An answer keeps the guarantee. -/
theorem Meets.answer {call : Call α} {store later : ScenarioStore}
    (meets : call.Meets rely allowed post store) (isOpen : call.isDone = false)
    (steps : rely store later) (given : Stamp) :
    (call.answer given later).1.Meets rely allowed post (call.answer given later).2 := by
  cases call with
  | done result => cases isOpen
  | getScenario id next => exact meets later steps
  | getIteration id next => exact meets later steps
  | listPublications id next => exact meets later steps
  | stamp next => exact meets later steps given
  | commit change next => exact (meets later steps).2 given.now

/-- The steps of others keep the guarantee of a call that has requests left. -/
theorem Meets.later (trans : ∀ ⦃x y z⦄, rely x y → rely y z → rely x z) {call : Call α}
    {store later : ScenarioStore} (meets : call.Meets rely allowed post store)
    (isOpen : call.isDone = false) (steps : rely store later) :
    call.Meets rely allowed post later := by
  cases call with
  | done result => cases isOpen
  | getScenario id next => exact fun last more => meets last (trans steps more)
  | getIteration id next => exact fun last more => meets last (trans steps more)
  | listPublications id next => exact fun last more => meets last (trans steps more)
  | stamp next => exact fun last more => meets last (trans steps more)
  | commit change next => exact fun last more => meets last (trans steps more)

/-- A call meets its guarantee if it meets a stronger one. -/
theorem Meets.mono {allowed' : ScenarioStore → Commit → Prop} {post' : ScenarioStore → α → Prop}
    (weakerAllowed : ∀ {store change}, allowed store change → allowed' store change)
    (weakerPost : ∀ {store result}, post store result → post' store result) {call : Call α}
    {store : ScenarioStore} (meets : call.Meets rely allowed post store) :
    call.Meets rely allowed' post' store := by
  induction call generalizing store with
  | done result => exact weakerPost meets
  | getScenario id next ih => exact fun later steps => ih _ (meets later steps)
  | getIteration id next ih => exact fun later steps => ih _ (meets later steps)
  | listPublications id next ih => exact fun later steps => ih _ (meets later steps)
  | stamp next ih => exact fun later steps given => ih given (meets later steps given)
  | commit change next ih =>
    intro later steps
    obtain ⟨isAllowed, rest⟩ := meets later steps
    exact ⟨weakerAllowed isAllowed, fun now => ih _ (rest now)⟩

/-- A call after a call: the second one starts in the store in which the first one ended. -/
theorem Meets.bind {first : ScenarioStore → α → Prop} {second : ScenarioStore → β → Prop}
    {call : Call α} {next : α → Call β} {store : ScenarioStore}
    (meets : call.Meets rely allowed first store)
    (goesOn : ∀ {later result}, first later result →
      (next result).Meets rely allowed second later) :
    (call.bind next).Meets rely allowed second store := by
  induction call generalizing store with
  | done result => exact goesOn meets
  | getScenario id next ih => exact fun later steps => ih _ (meets later steps)
  | getIteration id next ih => exact fun later steps => ih _ (meets later steps)
  | listPublications id next ih => exact fun later steps => ih _ (meets later steps)
  | stamp next ih => exact fun later steps given => ih given (meets later steps given)
  | commit change next ih =>
    intro later steps
    obtain ⟨isAllowed, rest⟩ := meets later steps
    exact ⟨isAllowed, fun now => ih _ (rest now)⟩

end Call

/-! ## Requests of a publisher -/

namespace Publishing

variable {α : Type} {rely : ScenarioStore → ScenarioStore → Prop}
  {allowed : ScenarioStore → Commit → Prop}
  {post : ScenarioStore → Except PublicationError α → Prop} {store : ScenarioStore}

theorem meets_getScenario {id : Uuid} {next : Scenario → Publishing α}
    (missing : ∀ {later error}, later.getScenario id = .error error →
      post later (.error (.store error)))
    (found : ∀ {later scenario}, rely store later → later.getScenario id = .ok scenario →
      (next scenario).run.Meets rely allowed post later) :
    (getScenario id >>= next).run.Meets rely allowed post store := by
  intro later steps
  cases answer : later.getScenario id with
  | error error => exact missing answer
  | ok scenario => exact found steps answer

theorem meets_getIteration {id : Uuid} {next : Iteration → Publishing α}
    (missing : ∀ {later error}, later.getIteration id = .error error →
      post later (.error (.store error)))
    (found : ∀ {later iteration}, rely store later → later.getIteration id = .ok iteration →
      (next iteration).run.Meets rely allowed post later) :
    (getIteration id >>= next).run.Meets rely allowed post store := by
  intro later steps
  cases answer : later.getIteration id with
  | error error => exact missing answer
  | ok iteration => exact found steps answer

theorem meets_lastRank {scenario : Uuid} {next : UInt32 → Publishing α}
    (found : ∀ {later}, rely store later →
      (next (greatest ((later.listPublications scenario).map Publication.rank))).run.Meets
        rely allowed post later) :
    (lastRank scenario >>= next).run.Meets rely allowed post store :=
  fun _ steps => found steps

theorem meets_stamp {next : Stamp → Publishing α}
    (found : ∀ {later} given, rely store later →
      (next given).run.Meets rely allowed post later) :
    (stamp >>= next).run.Meets rely allowed post store :=
  fun _ steps given => found given steps

theorem meets_liftExcept {β : Type} {check : Except PublicationError β}
    {next : β → Publishing α}
    (fails : ∀ {error}, check = .error error → post store (.error error))
    (passes : ∀ {value}, check = .ok value → (next value).run.Meets rely allowed post store) :
    ((liftExcept check : Publishing β) >>= next).run.Meets rely allowed post store := by
  cases check with
  | error error => exact fails rfl
  | ok value => exact passes rfl

theorem meets_bind {β : Type} {first : ScenarioStore → Except PublicationError β → Prop}
    {publishing : Publishing β} {next : β → Publishing α}
    (meets : publishing.run.Meets rely allowed first store)
    (fails : ∀ {later error}, first later (.error error) → post later (.error error))
    (passes : ∀ {later value}, first later (.ok value) →
      (next value).run.Meets rely allowed post later) :
    (publishing >>= next).run.Meets rely allowed post store := by
  refine Call.Meets.bind meets ?_
  intro later result holds
  cases result with
  | error error => exact fails holds
  | ok value => exact passes holds

theorem meets_submit {change : Commit}
    {post : ScenarioStore → Except PublicationError (List Publication) → Prop}
    (fits : ∀ {later}, rely store later → allowed later change)
    (refused : ∀ {later error}, post later (.error (.store error)))
    (accepted : ∀ {later}, post later (.ok [change.publication])) :
    (Publisher.submit change).run.Meets rely allowed post store := by
  intro later steps
  refine ⟨fits steps, fun now => ?_⟩
  cases (later.commit now change).1 with
  | error error => exact refused
  | ok done => exact accepted

end Publishing

/-! ## Calls within a run -/

namespace System

variable {α : Type} {rely : ScenarioStore → ScenarioStore → Prop}
  {allowed : ScenarioStore → Commit → Prop} {post : ScenarioStore → α → Prop}

/-- Every step of a run is covered, and so is taking none. -/
structure Covers (rely : ScenarioStore → ScenarioStore → Prop) : Prop where
  trans : ∀ ⦃x y z⦄, rely x y → rely y z → rely x z
  stay : ∀ {system : System}, system.Reachable → rely system.store system.store
  step : ∀ {system : System} {event : Event}, system.Reachable → event.Fresh system.store →
    rely system.store (system.step event).store

/-- One event keeps what a part of a client's call guarantees, if what the event does is covered. An
answer to the client itself need not be. -/
theorem advance_meets_of (trans : ∀ ⦃x y z⦄, rely x y → rely y z → rely x z) {system : System}
    {client : Nat} {rest : Call α} {next : α → Call PublicationResult}
    (present : system.clients[client]? = some (rest.bind next))
    (meets : rest.Meets rely allowed post system.store) (isOpen : rest.isDone = false)
    (stay : rely system.store system.store) {event : Event}
    (others : (∀ given, event ≠ .serve client given) →
      rely system.store (system.step event).store) :
    (event.advance client system.store rest).Meets rely allowed post (system.step event).store := by
  cases event with
  | serve other given =>
    by_cases same : other = client
    · subst same
      have answered := meets.answer isOpen stay given
      simpa only [Event.advance, if_pos, step, serve_of_getElem? present,
        Call.answer_bind isOpen] using answered
    · have another : ∀ taken, Event.serve other given ≠ .serve client taken :=
        fun taken isSame => same (Event.serve.inj isSame).1
      simpa only [Event.advance, if_neg same] using meets.later trans isOpen (others another)
  | _ =>
    refine meets.later trans isOpen (others fun _ isSame => ?_)
    cases isSame

/-- One event keeps what a part of a client's call guarantees. -/
theorem advance_meets (covers : Covers rely) {system : System} (reachable : system.Reachable)
    {client : Nat} {rest : Call α} {next : α → Call PublicationResult}
    (present : system.clients[client]? = some (rest.bind next))
    (meets : rest.Meets rely allowed post system.store) (isOpen : rest.isDone = false)
    {event : Event} (fresh : event.Fresh system.store) :
    (event.advance client system.store rest).Meets rely allowed post (system.step event).store :=
  advance_meets_of covers.trans present meets isOpen (covers.stay reachable) fun _ =>
    covers.step reachable fresh

/-- While a part of a client's call has requests left, its guarantee holds. -/
theorem follow_meets (covers : Covers rely) {system : System} (reachable : system.Reachable)
    {client : Nat} {rest : Call α} {next : α → Call PublicationResult}
    (present : system.clients[client]? = some (rest.bind next))
    (meets : rest.Meets rely allowed post system.store) {events : List Event}
    (admits : system.Admits events) (isOpen : (system.follow client rest events).isDone = false) :
    (system.follow client rest events).Meets rely allowed post (system.run events).store := by
  induction events generalizing system rest with
  | nil => exact meets
  | cons event events ih =>
    cases restOpen : rest.isDone with
    | true =>
      cases rest with
      | done result =>
        rw [follow_done] at isOpen
        cases isOpen
      | _ => cases restOpen
    | false =>
      exact ih (.step reachable admits.1) (clients_step present restOpen event)
        (advance_meets covers reachable present meets restOpen admits.1) admits.2 isOpen

/-- A part that has come to its end did so when one of its requests was answered, and its result
satisfies the postcondition in the store of that moment. -/
theorem follow_ends (covers : Covers rely) {system : System} (reachable : system.Reachable)
    {client : Nat} {rest : Call α} {next : α → Call PublicationResult}
    (present : system.clients[client]? = some (rest.bind next))
    (meets : rest.Meets rely allowed post system.store) (isOpen : rest.isDone = false)
    {events : List Event} (admits : system.Admits events) {result : α}
    (ends : system.follow client rest events = .done result) :
    ∃ before given after, events = before ++ .serve client given :: after ∧
      (system.follow client rest before).isDone = false ∧
      post ((system.run before).step (.serve client given)).store result := by
  induction events generalizing system rest with
  | nil =>
    rw [follow] at ends
    rw [ends] at isOpen
    cases isOpen
  | cons event events ih =>
    have advanced := advance_meets covers reachable present meets isOpen admits.1
    cases nextOpen : (event.advance client system.store rest).isDone with
    | false =>
      obtain ⟨before, given, after, split, stillOpen, holds⟩ :=
        ih (.step reachable admits.1) (clients_step present isOpen event) advanced nextOpen
          admits.2 ends
      exact ⟨event :: before, given, after, by rw [split]; rfl, stillOpen, holds⟩
    | true =>
      -- Only an answer to the client can have ended the part.
      obtain ⟨given, rfl⟩ : ∃ given, event = .serve client given := by
        cases event with
        | serve other given =>
          by_cases same : other = client
          · exact ⟨given, by rw [same]⟩
          · rw [Event.advance, if_neg same, isOpen] at nextOpen
            cases nextOpen
        | _ => cases isOpen.symm.trans nextOpen
      refine ⟨[], given, events, rfl, isOpen, ?_⟩
      cases reached : (Event.serve client given).advance client system.store rest with
      | done last =>
        rw [follow, reached, follow_done] at ends
        cases ends
        rw [reached] at advanced
        exact advanced
      | _ =>
        rw [reached] at nextOpen
        cases nextOpen

end System

end RiskScoring
