import RiskScoring.Proofs.Publication.LivePointer

/-!
# How a client comes to its result

* `System.exists_answer`: a part of a call that has moved was answered at some event.
* `Call.Earns`: a call ends with a publication only if a commit of it went through.
* `System.exists_commit`: whatever a client says that it has published, it has committed.
* `System.serve_cases`: an answer to a client is a commit that goes through, or it leaves the
  records as they are.
* `System.exists_publication`: an iteration becomes the live one of its scenario when a
  client's commit says so, and in no other way.
-/

namespace RiskScoring

/-! ## Answers -/

theorem Call.bind_done {α : Type} (call : Call α) : call.bind .done = call := by
  induction call with
  | done result => rfl
  | getScenario id next ih => exact congrArg (Call.getScenario id) (funext ih)
  | getIteration id next ih => exact congrArg (Call.getIteration id) (funext ih)
  | listPublications id next ih => exact congrArg (Call.listPublications id) (funext ih)
  | stamp next ih => exact congrArg Call.stamp (funext ih)
  | commit change next ih => exact congrArg (Call.commit change) (funext ih)

namespace System

variable {α : Type} {system : System} {client : Nat}

/-- The whole call of a client, followed through some events. -/
theorem clients_follow {call : Call PublicationResult}
    (present : system.clients[client]? = some call) (events : List Event) :
    (system.run events).clients[client]? = some (system.follow client call events) := by
  induction events generalizing system call with
  | nil => exact present
  | cons event events ih => exact ih (clients_advance present event)

/-- After some events a part of a call is where it was, or one of them has answered its first
request. -/
theorem exists_answer (system : System) (client : Nat) (rest : Call α) (events : List Event) :
    system.follow client rest events = rest ∨
      ∃ before given after, events = before ++ .serve client given :: after ∧
        system.follow client rest before = rest := by
  induction events generalizing system with
  | nil => exact Or.inl rfl
  | cons event events ih =>
    have others (unmoved : event.advance client system.store rest = rest) :
        system.follow client rest (event :: events) = rest ∨
          ∃ before given after, event :: events = before ++ .serve client given :: after ∧
            system.follow client rest before = rest := by
      rw [follow, unmoved]
      rcases ih (system.step event) with same | ⟨before, given, after, split, same⟩
      · exact Or.inl same
      · refine Or.inr ⟨event :: before, given, after, by rw [split]; rfl, ?_⟩
        rw [follow, unmoved, same]
    cases event with
    | serve other given =>
      by_cases same : other = client
      · subst same
        exact Or.inr ⟨[], given, events, rfl, rfl⟩
      · exact others (if_neg same)
    | _ => exact others rfl

/-- The answer to the first request of a part of a call. -/
theorem clients_answer {rest : Call α} {next : α → Call PublicationResult} {before : List Event}
    (begins : system.clients[client]? = some (rest.bind next)) (isOpen : rest.isDone = false)
    (unmoved : system.follow client rest before = rest) (given : Stamp) :
    ((system.run before).step (.serve client given)).clients[client]? =
        some ((rest.answer given (system.run before).store).1.bind next) ∧
      ((system.run before).step (.serve client given)).store =
        (rest.answer given (system.run before).store).2 := by
  have still : (system.run before).clients[client]? = some (rest.bind next) := by
    have present := clients_run begins (by rw [unmoved]; exact isOpen)
    rwa [unmoved] at present
  constructor
  · rw [clients_step still isOpen, Event.advance, if_pos rfl]
  · rw [step, serve_of_getElem? still, Call.answer_bind isOpen]

theorem run_step (system : System) (before : List Event) (event : Event) :
    system.run (before ++ [event]) = (system.run before).step event := by
  rw [run_append]
  rfl

/-- What the answer to the first request makes of a part of a call. -/
theorem follow_answer {rest : Call α} {before after : List Event} {given : Stamp}
    (unmoved : system.follow client rest before = rest) :
    system.follow client rest (before ++ .serve client given :: after) =
      (system.run (before ++ [.serve client given])).follow client
        (rest.answer given (system.run before).store).1 after := by
  rw [follow_append, unmoved, follow, Event.advance, if_pos rfl, run_step]

variable {next : Except PublicationError α → Call PublicationResult} {events : List Event}
  {last : Call (Except PublicationError α)}

/-- A part of a call that starts with a read, after the answer: the store is as it was when it was
read. -/
theorem exists_read {β : Type} {rest : Call (Except PublicationError α)}
    {read : ScenarioStore → Except StoreError β} {goesOn : β → Publishing α}
    (reads : ∀ given store, rest.answer given store =
      ((ExceptT.mk (ExceptT.bindCont goesOn ((read store).mapError .store))).run, store))
    (isOpen : rest.isDone = false) (begins : system.clients[client]? = some (rest.bind next))
    (follows : system.follow client rest events = last) (moved : last ≠ rest)
    (noError : ∀ error, last ≠ .done (.error (.store error))) :
    ∃ first later value, events = first ++ later ∧
      read (system.run first).store = .ok value ∧
      (system.run first).clients[client]? = some ((goesOn value).run.bind next) ∧
      (system.run first).follow client (goesOn value).run later = last := by
  rcases exists_answer system client rest events with
    same | ⟨before, given, after, rfl, unmoved⟩
  · exact absurd (follows.symm.trans same) moved
  obtain ⟨present, sameStore⟩ := clients_answer begins isOpen unmoved given
  rw [← run_step, reads] at present sameStore
  rw [follow_answer unmoved, reads] at follows
  cases answered : read (system.run before).store with
  | error error =>
    rw [answered] at follows
    exact absurd (follows.symm.trans (follow_done after)) (noError error)
  | ok value =>
    rw [answered] at present follows
    refine ⟨before ++ [.serve client given], after, value, List.append_cons .., ?_, present,
      follows⟩
    rw [sameStore, answered]

theorem exists_getIteration {id : Uuid} {goesOn : Iteration → Publishing α}
    (begins : system.clients[client]? =
      some ((Publishing.getIteration id >>= goesOn).run.bind next))
    (follows : system.follow client (Publishing.getIteration id >>= goesOn).run events = last)
    (moved : last ≠ (Publishing.getIteration id >>= goesOn).run)
    (noError : ∀ error, last ≠ .done (.error (.store error))) :
    ∃ first later iteration, events = first ++ later ∧
      (system.run first).store.iterations.get? id = some iteration ∧
      (system.run first).clients[client]? = some ((goesOn iteration).run.bind next) ∧
      (system.run first).follow client (goesOn iteration).run later = last := by
  obtain ⟨first, later, iteration, split, found, present, goesOn⟩ :=
    exists_read (fun _ _ => rfl) rfl begins follows moved noError
  exact ⟨first, later, iteration, split, ScenarioStore.getIteration_eq_ok.mp found, present, goesOn⟩

theorem exists_getScenario {id : Uuid} {goesOn : Scenario → Publishing α}
    (begins : system.clients[client]? =
      some ((Publishing.getScenario id >>= goesOn).run.bind next))
    (follows : system.follow client (Publishing.getScenario id >>= goesOn).run events = last)
    (moved : last ≠ (Publishing.getScenario id >>= goesOn).run)
    (noError : ∀ error, last ≠ .done (.error (.store error))) :
    ∃ first later scenario, events = first ++ later ∧
      (system.run first).store.scenarios.get? id = some scenario ∧
      (system.run first).clients[client]? = some ((goesOn scenario).run.bind next) ∧
      (system.run first).follow client (goesOn scenario).run later = last := by
  obtain ⟨first, later, scenario, split, found, present, goesOn⟩ :=
    exists_read (fun _ _ => rfl) rfl begins follows moved noError
  exact ⟨first, later, scenario, split, ScenarioStore.getScenario_eq_ok.mp found, present, goesOn⟩

end System

/-! ## Publications that were committed -/

/-- The call ends with publications only if a commit of it went through, and then with the
publication of that commit. -/
def Call.Earns : Call PublicationResult → Prop
  | done result => ∀ log, result = .ok log → log = []
  | getScenario _ next => ∀ answer, (next answer).Earns
  | getIteration _ next => ∀ answer, (next answer).Earns
  | listPublications _ next => ∀ answer, (next answer).Earns
  | stamp next => ∀ given, (next given).Earns
  | commit change next => next (.ok ()) = .done (.ok [change.publication]) ∧
      ∀ error, (next (.error error)).Earns

theorem Call.earns_error (error : PublicationError) : (Call.done (.error error)).Earns :=
  fun _ isLog => nomatch isLog

/-- A call that goes on only after an error. -/
theorem Call.Earns.recover {call : Call PublicationResult}
    {handle : PublicationResult → Call PublicationResult} (earns : call.Earns)
    (keeps : ∀ log, handle (.ok log) = .done (.ok log))
    (handles : ∀ error, (handle (.error error)).Earns) : (call.bind handle).Earns := by
  induction call with
  | done result =>
    cases result with
    | error error => exact handles error
    | ok log =>
      show (handle (.ok log)).Earns
      rw [keeps]
      exact earns
  | getScenario id next ih => exact fun answer => ih answer (earns answer)
  | getIteration id next ih => exact fun answer => ih answer (earns answer)
  | listPublications id next ih => exact fun answer => ih answer (earns answer)
  | stamp next ih => exact fun given => ih given (earns given)
  | commit change next ih =>
    refine ⟨?_, fun error => ih _ (earns.2 error)⟩
    show (next (.ok ())).bind handle = _
    rw [earns.1]
    exact keeps _

namespace Publishing

theorem earns_carried : Carried Call.Earns :=
  ⟨⟨id, id, id, id⟩, Call.earns_error⟩

theorem earns_submit (change : Commit) : (Publisher.submit change).run.Earns :=
  ⟨rfl, fun _ => Call.earns_error _⟩

theorem earns_nothing : (Call.done (.ok [])).Earns := by
  intro log isLog
  cases isLog
  rfl

end Publishing

namespace Publisher

open Publishing

theorem retried_earns (goal : Goal) (scenario : Uuid) (attempts : UInt32) (left : Nat) :
    (attempt scenario attempts goal.attempt left).run.Earns := by
  induction left with
  | zero => exact Call.earns_error _
  | succ left ih =>
    have earns := goal.attempt_of_carried earns_carried earns_nothing earns_submit
    refine earns.recover (fun log => rfl) fun error => ?_
    split
    · exact ih
    · exact Call.earns_error _

theorem unpublish_earns (retries : UInt32) (scenario : Uuid) :
    (unpublish retries scenario).run.Earns :=
  retried_earns (.unpublish scenario) scenario (retries + 1) (retries + 1).toNat

theorem publish_earns (retries : UInt32) (id : Uuid) : (publish retries id).run.Earns :=
  earns_carried.bind (fun _ => trivial) fun iteration =>
    retried_earns (.publish id) iteration.scenario (retries + 1) (retries + 1).toNat

theorem apply_earns (retries : UInt32) (request : PublicationRequest) :
    (apply retries request).run.Earns := by
  refine earns_carried.bind (reads_liftExcept _) fun action => ?_
  cases action with
  | publish => exact publish_earns retries request.iteration
  | unpublish =>
    refine earns_carried.bind (fun _ => trivial) fun iteration => ?_
    refine earns_carried.bind (fun _ => trivial) fun scenario => ?_
    split
    · exact Call.earns_error _
    · exact unpublish_earns retries scenario.id

end Publisher

theorem Errand.call_earns (errand : Errand) : errand.call.Earns := by
  cases errand with
  | apply retries request => exact Publisher.apply_earns retries request
  | publish retries iteration => exact Publisher.publish_earns retries iteration
  | unpublish retries scenario => exact Publisher.unpublish_earns retries scenario

namespace System

/-- A client asks for a commit, and the commit goes through. -/
structure Commits (system : System) (client : Nat) (given : Stamp) (change : Commit) : Prop where
  asks : system.asked client = some change
  succeeds : (system.store.commit given.now change).1 = .ok ()

variable {system : System} {client : Nat}

/-- An answer to a client is a commit that goes through, or it leaves the records as they are. -/
theorem serve_cases (system : System) (client : Nat) (given : Stamp) :
    (∃ change, system.Commits client given change ∧
      (system.step (.serve client given)).store = system.store.applyCommit given.now change) ∨
      ∃ left, (system.step (.serve client given)).store =
        { system.store with injectedConflicts := left } := by
  cases present : system.clients[client]? with
  | none =>
    simp only [step, serve, present]
    exact Or.inr ⟨system.store.injectedConflicts, rfl⟩
  | some call =>
    simp only [step, serve_of_getElem? present]
    cases call with
    | commit change next =>
      rcases system.store.commit_cases given.now change with
        ⟨-, -, applied⟩ | ⟨error, left, refused⟩
      · have succeeds : (system.store.commit given.now change).1 = .ok () := by rw [applied]
        exact Or.inl ⟨change, ⟨asked_of_getElem? present, succeeds⟩, congrArg Prod.snd applied⟩
      · exact Or.inr ⟨left, congrArg Prod.snd refused⟩
    | _ => exact Or.inr ⟨system.store.injectedConflicts, rfl⟩

/-- A client that ends with publications has committed one, and it is the one. -/
theorem exists_commit {call : Call PublicationResult} {log : List Publication}
    {events : List Event} (present : system.clients[client]? = some call) (earns : call.Earns)
    (ends : system.follow client call events = .done (.ok log)) (gains : log ≠ []) :
    ∃ before given after change, events = before ++ .serve client given :: after ∧
      (system.run before).Commits client given change ∧ log = [change.publication] := by
  induction events generalizing system call with
  | nil =>
    have isDone : call = .done (.ok log) := ends
    rw [isDone] at earns
    exact absurd (earns log rfl) gains
  | cons event events ih =>
    -- An event after which the call still earns what it ends with.
    have later (goesOn : (event.advance client system.store call).Earns) :
        ∃ before given after change, event :: events = before ++ .serve client given :: after ∧
          (system.run before).Commits client given change ∧ log = [change.publication] := by
      obtain ⟨before, given, after, change, split, commits, isLog⟩ :=
        ih (clients_advance present event) goesOn ends
      exact ⟨event :: before, given, after, change, by rw [split]; rfl, commits, isLog⟩
    cases event with
    | serve other given =>
      by_cases same : other = client
      · subst same
        rw [Event.advance, if_pos rfl] at later
        cases call with
        | done result => exact later earns
        | getScenario id next => exact later (earns _)
        | getIteration id next => exact later (earns _)
        | listPublications id next => exact later (earns _)
        | stamp next => exact later (earns given)
        | commit change next =>
          cases answered : (system.store.commit given.now change).1 with
          | error error =>
            rw [Call.answer, answered] at later
            exact later (earns.2 error)
          | ok done =>
            rw [follow, Event.advance, if_pos rfl, Call.answer, answered, earns.1,
              follow_done] at ends
            cases ends
            exact ⟨[], given, events, change, rfl, ⟨asked_of_getElem? present, answered⟩, rfl⟩
      · rw [Event.advance, if_neg same] at later
        exact later earns
    | _ => exact later earns

end System

/-! ## What became live -/

/-- The iteration is the live one of the scenario. -/
def ScenarioStore.HasLive (store : ScenarioStore) (scenario iteration : Uuid) : Prop :=
  ∃ stored, store.scenarios.get? scenario = some stored ∧ stored.live = some iteration

namespace System

variable {system : System} {scenario iteration : Uuid}

theorem live_of_step {event : Event}
    (isLive : (system.step event).store.HasLive scenario iteration) :
    system.store.HasLive scenario iteration ∨
      ∃ client given change, event = .serve client given ∧ system.Commits client given change ∧
        change.scenario = scenario ∧ change.newLive = some iteration := by
  obtain ⟨stored, found, live⟩ := isLive
  cases event with
  | createScenario given draft =>
    have inserted : (system.store.scenarios.insert given.id (draft.toScenario given)).get?
        scenario = some stored := found
    rw [Dict.get?_insert] at inserted
    split at inserted
    · cases inserted
      cases live
    · exact Or.inl ⟨stored, inserted, live⟩
  | createIteration given owner draft =>
    have same : (system.store.createIteration given owner draft).2.scenarios =
        system.store.scenarios := by
      unfold ScenarioStore.createIteration
      split <;> rfl
    simp only [step, same] at found
    exact Or.inl ⟨stored, found, live⟩
  | updateIteration given id edit =>
    rcases system.store.updateIteration_cases given id edit with same | ⟨draft, -, -, edited⟩
    · simp only [step, same] at found
      exact Or.inl ⟨stored, found, live⟩
    · simp only [step, edited] at found
      exact Or.inl ⟨stored, found, live⟩
  | injectConflicts count => exact Or.inl ⟨stored, found, live⟩
  | arrive errand => exact Or.inl ⟨stored, found, live⟩
  | serve client given =>
    rcases system.serve_cases client given with ⟨change, commits, applied⟩ | ⟨left, same⟩
    · rw [applied] at found
      obtain ⟨earlier, foundEarlier, ⟨same, rfl⟩ | ⟨-, rfl⟩⟩ :=
        ScenarioStore.applyCommit_scenarios given.now found
      · exact Or.inr ⟨client, given, change, rfl, commits, same, live⟩
      · exact Or.inl ⟨_, foundEarlier, live⟩
    · rw [same] at found
      exact Or.inl ⟨stored, found, live⟩

/-- An iteration that becomes the live one of its scenario in a run does so at a commit. -/
theorem exists_publication {events : List Event}
    (notYet : ¬ system.store.HasLive scenario iteration)
    (isLive : (system.run events).store.HasLive scenario iteration) :
    ∃ before client given after change, events = before ++ .serve client given :: after ∧
      (system.run before).Commits client given change ∧ change.scenario = scenario ∧
      change.newLive = some iteration := by
  induction events generalizing system with
  | nil => exact absurd isLive notYet
  | cons event events ih =>
    by_cases already : (system.step event).store.HasLive scenario iteration
    · rcases live_of_step already with before | ⟨client, given, change, rfl, commits, same, live⟩
      · exact absurd before notYet
      · exact ⟨[], client, given, events, change, rfl, commits, same, live⟩
    · obtain ⟨before, client, given, after, change, split, commits, same, live⟩ := ih already isLive
      exact ⟨event :: before, client, given, after, change, by rw [split]; rfl, commits, same, live⟩

end System

end RiskScoring
