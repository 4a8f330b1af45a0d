import RiskScoring.Scenario.Publisher

/-!
# Publishers side by side

A `System` is a store together with the calls of its clients, each as far as it has come. One
`Event` is one atomic step: a scenario or an iteration is created, a draft is edited, a client
arrives with an errand, or one request of one client is answered. Events come in any order, with any
identifiers and clock readings they carry; `Event.Fresh` asks only that an identifier that is given
to a new record is not in use.

* `System.Reachable`: what a run can arrive at from the empty store.
* `System.follow`: how far a part of a client's call has come after some events. An attempt to
  publish is such a part, and what comes after it is its continuation.
* `System.clients_run`: the part that is followed and the client's own call stay together.
-/

namespace RiskScoring

/-- What a publisher answers in the end. -/
abbrev PublicationResult := Except PublicationError (List Publication)

namespace Call

variable {α β γ : Type}

/-- Whether the call has come to its end. -/
def isDone : Call α → Bool
  | done _ => true
  | _ => false

/-- Answers the next request from a store. The stamp serves whoever asks for an identifier or the
time. -/
def answer (given : Stamp) (store : ScenarioStore) : Call α → Call α × ScenarioStore
  | done result => (done result, store)
  | getScenario id next => (next (store.getScenario id), store)
  | getIteration id next => (next (store.getIteration id), store)
  | listPublications id next => (next (.ok (store.listPublications id)), store)
  | stamp next => (next given, store)
  | commit change next =>
    (next (store.commit given.now change).1, (store.commit given.now change).2)

/-- While a part of a call still has requests, they are the requests of the call. -/
theorem answer_bind {rest : Call α} (isOpen : rest.isDone = false) (next : α → Call β)
    (given : Stamp) (store : ScenarioStore) :
    (rest.bind next).answer given store =
      ((rest.answer given store).1.bind next, (rest.answer given store).2) := by
  cases rest with
  | done result => cases isOpen
  | getScenario id next => rfl
  | getIteration id next => rfl
  | listPublications id next => rfl
  | stamp next => rfl
  | commit change next => rfl

end Call

/-! ## Errands and events -/

/-- What a client wants of a publisher. -/
inductive Errand where
  | apply (retries : UInt32) (request : PublicationRequest)
  | publish (retries : UInt32) (iteration : Uuid)
  | unpublish (retries : UInt32) (scenario : Uuid)

/-- The call that serves an errand. -/
def Errand.call : Errand → Call PublicationResult
  | apply retries request => (Publisher.apply retries request).run
  | publish retries iteration => (Publisher.publish retries iteration).run
  | unpublish retries scenario => (Publisher.unpublish retries scenario).run

/-- One atomic step of a system. -/
inductive Event where
  | createScenario (given : Stamp) (draft : ScenarioDraft)
  | createIteration (given : Stamp) (scenario : Uuid) (draft : IterationDraft)
  | updateIteration (given : Stamp) (id : Uuid) (edit : IterationEdit)
  /-- The next commits are made to conflict. -/
  | injectConflicts (count : Nat)
  /-- A client comes with an errand. -/
  | arrive (errand : Errand)
  /-- The next request of a client is answered. -/
  | serve (client : Nat) (given : Stamp)

namespace Event

/-- The identifier of a new record is not in use. -/
def Fresh (store : ScenarioStore) : Event → Prop
  | createScenario given _ => store.scenarios.get? given.id = none
  | createIteration given _ _ => store.iterations.get? given.id = none
  | _ => True

/-- What an event makes of a part of a client's call: only an answer to that client moves it. -/
def advance {α : Type} (client : Nat) (store : ScenarioStore) (rest : Call α) : Event → Call α
  | serve other given => if other = client then (rest.answer given store).1 else rest
  | _ => rest

theorem advance_done {α : Type} (client : Nat) (store : ScenarioStore) (result : α)
    (event : Event) : event.advance client store (.done result) = .done result := by
  cases event with
  | serve other given => simp [advance, Call.answer]
  | _ => rfl

end Event

/-! ## Systems -/

/-- A store and the calls of its clients, each as far as it has come. -/
structure System where
  store : ScenarioStore
  clients : List (Call PublicationResult)

namespace System

/-- The empty store, before anyone has come. -/
def start : System := ⟨.empty, []⟩

/-- Answers the next request of a client. -/
def serve (system : System) (client : Nat) (given : Stamp) : System :=
  match system.clients[client]? with
  | some call =>
    ⟨(call.answer given system.store).2,
      system.clients.set client (call.answer given system.store).1⟩
  | none => system

/-- The system after an event. -/
def step (system : System) : Event → System
  | .createScenario given draft =>
    { system with store := (system.store.createScenario given draft).2 }
  | .createIteration given scenario draft =>
    { system with store := (system.store.createIteration given scenario draft).2 }
  | .updateIteration given id edit =>
    { system with store := (system.store.updateIteration given id edit).2 }
  | .injectConflicts count => { system with store := system.store.injectConflicts count }
  | .arrive errand => { system with clients := system.clients ++ [errand.call] }
  | .serve client given => system.serve client given

/-- The system after some events. -/
def run (system : System) : List Event → System
  | [] => system
  | event :: events => (system.step event).run events

/-- Every event finds its identifiers fresh. -/
def Admits (system : System) : List Event → Prop
  | [] => True
  | event :: events => event.Fresh system.store ∧ (system.step event).Admits events

/-- What a run can arrive at. -/
inductive Reachable : System → Prop
  | start : Reachable start
  | step {system : System} {event : Event} :
    Reachable system → event.Fresh system.store → Reachable (system.step event)

/-- A part of a client's call after some events. -/
def follow {α : Type} (system : System) (client : Nat) (rest : Call α) : List Event → Call α
  | [] => rest
  | event :: events =>
    (system.step event).follow client (event.advance client system.store rest) events

theorem run_append (system : System) (before after : List Event) :
    system.run (before ++ after) = (system.run before).run after := by
  induction before generalizing system with
  | nil => rfl
  | cons event events ih => exact ih (system.step event)

theorem follow_append {α : Type} (system : System) (client : Nat) (rest : Call α)
    (before after : List Event) :
    system.follow client rest (before ++ after) =
      (system.run before).follow client (system.follow client rest before) after := by
  induction before generalizing system rest with
  | nil => rfl
  | cons event events ih => exact ih (system.step event) _

theorem Admits.append_left {system : System} {before after : List Event}
    (admits : system.Admits (before ++ after)) : system.Admits before := by
  induction before generalizing system with
  | nil => trivial
  | cons event events ih => exact ⟨admits.1, ih admits.2⟩

theorem Admits.append_right {system : System} {before after : List Event}
    (admits : system.Admits (before ++ after)) : (system.run before).Admits after := by
  induction before generalizing system with
  | nil => exact admits
  | cons event events ih => exact ih admits.2

theorem Admits.append {system : System} {before after : List Event}
    (admits : system.Admits before) (goesOn : (system.run before).Admits after) :
    system.Admits (before ++ after) := by
  induction before generalizing system with
  | nil => exact goesOn
  | cons event events ih => exact ⟨admits.1, ih admits.2 goesOn⟩

theorem Reachable.run {system : System} (reachable : system.Reachable) {events : List Event}
    (admits : system.Admits events) : (system.run events).Reachable := by
  induction events generalizing system with
  | nil => exact reachable
  | cons event events ih => exact ih (.step reachable admits.1) admits.2

theorem serve_of_getElem? {system : System} {client : Nat} {call : Call PublicationResult}
    (present : system.clients[client]? = some call) (given : Stamp) :
    system.serve client given =
      ⟨(call.answer given system.store).2,
        system.clients.set client (call.answer given system.store).1⟩ := by
  simp only [serve, present]

/-- An event moves the call of a client as `Event.advance` says. -/
theorem clients_advance {system : System} {client : Nat} {call : Call PublicationResult}
    (present : system.clients[client]? = some call) (event : Event) :
    (system.step event).clients[client]? = some (event.advance client system.store call) := by
  have inBounds : client < system.clients.length := (List.getElem?_eq_some_iff.mp present).1
  cases event with
  | createScenario given draft => exact present
  | createIteration given scenario draft => exact present
  | updateIteration given id edit => exact present
  | injectConflicts count => exact present
  | arrive errand =>
    show (system.clients ++ [errand.call])[client]? = some call
    rw [List.getElem?_append_left inBounds, present]
  | serve other given =>
    by_cases same : other = client
    · subst same
      simp [step, serve_of_getElem? present, Event.advance, inBounds]
    · simp only [Event.advance, if_neg same]
      cases found : system.clients[other]? with
      | none => simpa only [step, serve, found] using present
      | some served =>
        simp only [step, serve_of_getElem? found]
        rw [List.getElem?_set_ne same, present]

/-- Whoever is there after an event was there before it, or has just come. -/
theorem clients_of_step {system : System} {event : Event} {client : Nat}
    {call : Call PublicationResult} (present : (system.step event).clients[client]? = some call) :
    (∃ earlier, system.clients[client]? = some earlier) ∨
      ∃ errand, event = .arrive errand ∧ call = errand.call := by
  cases event with
  | createScenario given draft => exact Or.inl ⟨call, present⟩
  | createIteration given scenario draft => exact Or.inl ⟨call, present⟩
  | updateIteration given id edit => exact Or.inl ⟨call, present⟩
  | injectConflicts count => exact Or.inl ⟨call, present⟩
  | arrive errand =>
    have arrived : (system.clients ++ [errand.call])[client]? = some call := present
    by_cases inBounds : client < system.clients.length
    · rw [List.getElem?_append_left inBounds] at arrived
      exact Or.inl ⟨call, arrived⟩
    · rw [List.getElem?_append_right (by omega), List.getElem?_singleton] at arrived
      split at arrived
      · cases arrived
        exact Or.inr ⟨errand, rfl, rfl⟩
      · cases arrived
  | serve other given =>
    cases found : system.clients[other]? with
    | none =>
      simp only [step, serve, found] at present
      exact Or.inl ⟨call, present⟩
    | some served =>
      simp only [step, serve_of_getElem? found] at present
      have inBounds := (List.getElem?_eq_some_iff.mp present).1
      rw [List.length_set] at inBounds
      exact Or.inl ⟨system.clients[client], List.getElem?_eq_getElem inBounds⟩

/-- As long as the part has requests left, the client's call is the part and its continuation. -/
theorem clients_step {α : Type} {system : System} {client : Nat} {rest : Call α}
    {next : α → Call PublicationResult}
    (present : system.clients[client]? = some (rest.bind next)) (isOpen : rest.isDone = false)
    (event : Event) :
    (system.step event).clients[client]? =
      some ((event.advance client system.store rest).bind next) := by
  rw [clients_advance present event]
  cases event with
  | serve other given =>
    by_cases same : other = client
    · simp only [Event.advance, if_pos same, Call.answer_bind isOpen]
    · simp only [Event.advance, if_neg same]
  | _ => rfl

/-- A part that has come to its end stays there. -/
theorem follow_done {α : Type} {system : System} {client : Nat} {result : α}
    (events : List Event) : system.follow client (.done result) events = .done result := by
  induction events generalizing system with
  | nil => rfl
  | cons event events ih =>
    rw [follow, Event.advance_done]
    exact ih

/-- A part that has requests left after some events had requests left before. -/
theorem isDone_append_left {α : Type} {system : System} {client : Nat} {rest : Call α}
    {before after : List Event}
    (isOpen : (system.follow client rest (before ++ after)).isDone = false) :
    (system.follow client rest before).isDone = false := by
  rw [follow_append] at isOpen
  cases here : system.follow client rest before with
  | done result =>
    rw [here, follow_done] at isOpen
    cases isOpen
  | _ => rfl

/-- As long as the part has requests left after some events, the client's call is still the part and
its continuation. -/
theorem clients_run {α : Type} {system : System} {client : Nat} {rest : Call α}
    {next : α → Call PublicationResult} {events : List Event}
    (present : system.clients[client]? = some (rest.bind next))
    (isOpen : (system.follow client rest events).isDone = false) :
    (system.run events).clients[client]? =
      some ((system.follow client rest events).bind next) := by
  induction events generalizing system rest with
  | nil => exact present
  | cons event events ih =>
    cases rest with
    | done result =>
      rw [follow_done] at isOpen
      cases isOpen
    | _ => exact ih (clients_step present rfl event) isOpen

/-! ## Commits -/

/-- The commit that a client asks for next. -/
def asked (system : System) (client : Nat) : Option Commit :=
  match system.clients[client]? with
  | some (.commit change _) => some change
  | _ => none

theorem asked_of_getElem? {system : System} {client : Nat} {change : Commit}
    {next : Except StoreError Unit → Call PublicationResult}
    (present : system.clients[client]? = some (.commit change next)) :
    system.asked client = some change := by
  rw [asked, present]

theorem exists_of_asked {system : System} {client : Nat} {change : Commit}
    (asks : system.asked client = some change) :
    ∃ next, system.clients[client]? = some (.commit change next) := by
  unfold asked at asks
  split at asks
  · rename_i change' next present
    cases asks
    exact ⟨next, present⟩
  · cases asks

/-- A part of a client's call with requests left asks for the commits that the client asks for. -/
theorem commit_of_asked {α : Type} {system : System} {client : Nat} {rest : Call α}
    {next : α → Call PublicationResult} {change : Commit}
    (present : system.clients[client]? = some (rest.bind next)) (isOpen : rest.isDone = false)
    (asks : system.asked client = some change) :
    ∃ goesOn, rest = .commit change goesOn := by
  rw [asked, present] at asks
  cases rest with
  | done result => cases isOpen
  | commit change goesOn =>
    cases asks
    exact ⟨goesOn, rfl⟩
  | _ => cases asks

end System

/-! ## A first publication -/

/-- A stamp that has a number for its identifier and for its time. -/
def Stamp.numbered (n : Nat) : Stamp := ⟨⟨BitVec.ofNat 128 n⟩, ⟨n, 0⟩, fun _ => ⟨0⟩⟩

namespace System

/-- A scenario with a draft, and a client that publishes the draft, up to its commit. -/
def firstPublication : List Event :=
  [.createScenario (.numbered 1) ⟨⟨7⟩, "transfers", "", "transactions"⟩,
    .createIteration (.numbered 2) ⟨1⟩ ⟨.bool true, [], 1, 2⟩,
    .arrive (.publish 0 ⟨2⟩),
    .serve 0 (.numbered 3), .serve 0 (.numbered 3), .serve 0 (.numbered 3),
    .serve 0 (.numbered 3), .serve 0 (.numbered 3)]

/-- The commit that the client then asks for. -/
def firstCommit : Commit :=
  Publisher.publishing ⟨⟨1⟩, ⟨7⟩, "transfers", "", "transactions", none, ⟨1, 0⟩⟩
    ⟨⟨2⟩, ⟨1⟩, 1, .bool true, [], 1, 2, .draft, ⟨2, 0⟩, ⟨2, 0⟩⟩ ⟨[], []⟩ 0 (.numbered 3)

theorem reachable_firstPublication : (start.run firstPublication).Reachable := by
  have admits : start.Admits firstPublication :=
    ⟨rfl, rfl, trivial, trivial, trivial, trivial, trivial, trivial, trivial⟩
  exact Reachable.start.run admits

theorem asked_firstPublication : (start.run firstPublication).asked 0 = some firstCommit := by
  with_unfolding_all rfl

end System

end RiskScoring
