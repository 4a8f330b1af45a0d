import RiskScoring.Proofs.Publication.Failures
import RiskScoring.Proofs.Publication.Retrying
import RiskScoring.Proofs.Publication.Undisturbed

/-!
# No conflict without a cause

An attempt meets a conflict only if another operation on its scenario took effect after its first
answer. A call that gives up has been overtaken as often as it has made attempts.

* `Event.overtakes`: the operations of others that take effect on what an attempt reads.
* `Goal.keeps_createIteration`, `Goal.keeps_updateIteration`, `System.Reachable.keeps_step`: all
  others leave that as it is.
* `System.overtakings`: how often a client is overtaken in a run.
* `System.Attempt.exists_overtaking`: a commit that is refused was overtaken.
* `System.overtakings_retried`: so was each attempt after which another one is made.
* `System.no_spurious_conflicts`: the statement for attempts and for calls.
-/

namespace RiskScoring

/-- What comes after an attempt: the attempts that are left if it conflicts, and nothing
otherwise. -/
theorem Publisher.attempt_succ (scenario : Uuid) (attempts : UInt32)
    (once : Publishing (List Publication)) (left : Nat) :
    ∃ next, (attempt scenario attempts once (left + 1)).run = once.run.bind next ∧
      (∀ id, next (.error (.store (.conflict id))) =
        (attempt scenario attempts once left).run) ∧
      ∀ result, (∀ id, result ≠ .error (.store (.conflict id))) → next result = .done result := by
  refine ⟨_, rfl, fun id => rfl, fun result other => ?_⟩
  split
  · exact absurd rfl (other _)
  · rfl

/-! ## Overtaking -/

/-- Whether the goal is to publish the iteration. -/
def Goal.names : Goal → Uuid → Bool
  | publish named, id => named == id
  | unpublish _, _ => false

theorem Goal.names_of_target {goal : Goal} {id : Uuid} (isNamed : goal.target = .iteration id) :
    goal.names id = true := by
  cases goal with
  | publish named =>
    cases isNamed
    exact beq_self_eq_true id
  | unpublish named => cases isNamed

/-- Whether an event takes effect on what an attempt of a client reads: the commit of another client
to the same scenario goes through, or an edit of the iteration that is to be published. -/
def Event.overtakes (goal : Goal) (client : Nat) (system : System) : Event → Bool
  | serve other given =>
    other != client && (system.asked other).any fun change =>
      goal.target.scenario? system.store == some change.scenario &&
        (system.store.commit given.now change).1.isOk
  | updateIteration given id edit =>
    goal.names id && (system.store.updateIteration given id edit).1.isOk
  | _ => false

/-- No conflict is injected before or during a run. -/
structure System.Uninjected (system : System) (events : List Event) : Prop where
  before : system.store.injectedConflicts = 0
  meanwhile : ∀ count, .injectConflicts count ∈ events → count = 0

namespace ScenarioStore

variable {store : ScenarioStore}

theorem commit_uninjected (uninjected : store.injectedConflicts = 0) (now : Instant)
    (change : Commit) : (store.commit now change).2.injectedConflicts = 0 := by
  unfold commit
  rw [if_pos uninjected]
  cases store.checkCommit change <;> exact uninjected

theorem createIteration_injectedConflicts (stamp : Stamp) (scenario : Uuid)
    (draft : IterationDraft) :
    (store.createIteration stamp scenario draft).2.injectedConflicts =
      store.injectedConflicts := by
  unfold createIteration
  cases store.getScenario scenario <;> rfl

end ScenarioStore

/-! ## What others leave alone -/

namespace Goal

variable {goal : Goal} {scenario : Uuid} {store : ScenarioStore}

theorem keeps_createIteration (consistent : store.Consistent) {stamp : Stamp}
    (fresh : store.iterations.get? stamp.id = none) (owner : Uuid) (draft : IterationDraft)
    (uninjected : (store.createIteration stamp owner draft).2.injectedConflicts = 0) :
    goal.Keeps scenario store (store.createIteration stamp owner draft).2 := by
  have after := consistent.createIteration fresh owner draft
  unfold ScenarioStore.createIteration at uninjected after ⊢
  cases read : store.getScenario owner with
  | error error =>
    rw [read] at uninjected
    exact .refl consistent uninjected
  | ok found =>
    rw [read] at uninjected after
    exact ⟨after, uninjected, rfl, rfl,
      fun _ _ _ found => Dict.get?_insert_of_fresh fresh found _,
      fun _ _ found _ _ => Dict.get?_insert_of_fresh fresh found _⟩

/-- An edit changes a draft, and not the one that is to be published. -/
theorem keeps_updateIteration (consistent : store.Consistent) (stamp : Stamp) (id : Uuid)
    (edit : IterationEdit)
    (uninjected : (store.updateIteration stamp id edit).2.injectedConflicts = 0)
    (unnoticed : (goal.names id && (store.updateIteration stamp id edit).1.isOk) = false) :
    goal.Keeps scenario store (store.updateIteration stamp id edit).2 := by
  have after := consistent.updateIteration stamp id edit
  cases result : (store.updateIteration stamp id edit).1 with
  | error error =>
    rw [ScenarioStore.updateIteration_of_error result] at uninjected ⊢
    exact .refl consistent uninjected
  | ok iteration =>
    have unnamed : goal.names id = false := by
      simpa [result, Except.isOk, Except.toBool] using unnoticed
    rcases store.updateIteration_cases stamp id edit with
      same | ⟨draft, foundDraft, isDraft, edited⟩
    · rw [same] at uninjected ⊢
      exact .refl consistent uninjected
    · rw [edited] at uninjected after ⊢
      refine ⟨after, uninjected, rfl, rfl, ?_, ?_⟩
      · intro other iteration isNamed found
        have different : id ≠ other := by
          rintro rfl
          rw [names_of_target isNamed] at unnamed
          cases unnamed
        exact (Dict.get?_insert ..).trans ((if_neg different).trans found)
      · -- What is edited is a draft, and what is live is none.
        intro other iteration found belongs isLive
        have different : id ≠ other := by
          rintro rfl
          rw [foundDraft] at found
          cases found
          rw [isDraft] at isLive
          cases isLive
        exact (Dict.get?_insert ..).trans ((if_neg different).trans found)

end Goal

namespace System

variable {system : System} {client : Nat} {event : Event} {events : List Event}

theorem Uninjected.step (uninjected : system.Uninjected (event :: events)) :
    (system.step event).Uninjected events := by
  refine ⟨?_, fun count isLater => uninjected.meanwhile count (List.mem_cons_of_mem event isLater)⟩
  have before := uninjected.before
  cases event with
  | createScenario given draft => exact before
  | createIteration given scenario draft =>
    exact (ScenarioStore.createIteration_injectedConflicts given scenario draft).trans before
  | updateIteration given id edit =>
    rcases system.store.updateIteration_cases given id edit with same | ⟨draft, -, -, edited⟩
    · simp only [System.step, same, before]
    · simp only [System.step, edited, before]
  | injectConflicts count => exact uninjected.meanwhile count List.mem_cons_self
  | arrive errand => exact before
  | serve other given =>
    cases present : system.clients[other]? with
    | none => simpa only [System.step, serve, present] using before
    | some call =>
      simp only [System.step, serve_of_getElem? present]
      cases call with
      | commit change next => exact ScenarioStore.commit_uninjected before given.now change
      | _ => exact before

theorem Uninjected.run {before after : List Event}
    (uninjected : system.Uninjected (before ++ after)) : (system.run before).Uninjected after := by
  induction before generalizing system with
  | nil => exact uninjected
  | cons event before ih => exact ih uninjected.step

theorem Uninjected.after (uninjected : system.Uninjected events) :
    (system.run events).store.injectedConflicts = 0 := by
  rw [← List.append_nil events] at uninjected
  exact uninjected.run.before

theorem Uninjected.append_left {before after : List Event}
    (uninjected : system.Uninjected (before ++ after)) : system.Uninjected before :=
  ⟨uninjected.before, fun count isEarlier =>
    uninjected.meanwhile count (List.mem_append_left after isEarlier)⟩

/-- An event that does not overtake a client leaves what an attempt of it reads as it is. -/
theorem Reachable.keeps_step {goal : Goal} {scenario : Uuid} {record : Scenario}
    (reachable : system.Reachable) (fresh : event.Fresh system.store)
    (uninjected : (system.step event).store.injectedConflicts = 0)
    (concerned : goal.target.scenario? system.store = some scenario)
    (owner : system.store.scenarios.get? scenario = some record)
    (others : ∀ given, event ≠ .serve client given)
    (unnoticed : event.overtakes goal client system = false) :
    goal.Keeps scenario system.store (system.step event).store := by
  have consistent := reachable.sound.consistent
  have after : (system.step event).store.Consistent := (reachable.sound.evolves fresh).consistent
  cases event with
  | createScenario given draft =>
    refine ⟨after, uninjected, ?_, rfl, fun _ _ _ found => found, fun _ _ found _ _ => found⟩
    exact (Dict.get?_insert_of_fresh fresh owner _).trans owner.symm
  | createIteration given other draft =>
    exact Goal.keeps_createIteration consistent fresh other draft uninjected
  | updateIteration given id edit =>
    exact Goal.keeps_updateIteration consistent given id edit uninjected unnoticed
  | injectConflicts count =>
    exact ⟨after, uninjected, rfl, rfl, fun _ _ _ found => found, fun _ _ found _ _ => found⟩
  | arrive errand => exact .refl consistent uninjected
  | serve other given =>
    rcases system.serve_cases other given with ⟨change, commits, applied⟩ | ⟨left, same⟩
    · obtain ⟨next, present⟩ := exists_of_asked commits.asks
      obtain ⟨_, grounds⟩ := reachable.exists_grounds present
      obtain ⟨-, accepts, -⟩ := ScenarioStore.commit_eq_ok (Prod.ext commits.succeeds rfl)
      have elsewhere : change.scenario ≠ scenario := by
        rintro rfl
        have another : other ≠ client :=
          fun same => others given (congrArg (Event.serve · given) same)
        simp [Event.overtakes, another, commits.asks, concerned, commits.succeeds, Except.isOk,
          Except.toBool] at unnoticed
      have fits : (Effect.commit given.now change).FitsIn change.scenario system.store :=
        .commit given.now rfl accepts grounds
      rw [applied] at uninjected after ⊢
      exact .of_sameFor (fits.elsewhere consistent elsewhere) consistent after uninjected concerned
    · rw [same] at uninjected after ⊢
      exact ⟨after, uninjected, rfl, rfl, fun _ _ _ found => found, fun _ _ found _ _ => found⟩

/-! ## Runs -/

/-- How often an attempt of a client is overtaken in a run. -/
def overtakings (goal : Goal) (client : Nat) (system : System) : List Event → Nat
  | [] => 0
  | event :: events =>
    (if event.overtakes goal client system then 1 else 0) +
      overtakings goal client (system.step event) events

variable {goal : Goal}

theorem overtakings_append (goal : Goal) (client : Nat) (system : System)
    (before after : List Event) :
    system.overtakings goal client (before ++ after) =
      system.overtakings goal client before +
        (system.run before).overtakings goal client after := by
  induction before generalizing system with
  | nil => exact (Nat.zero_add _).symm
  | cons event events ih =>
    rw [List.cons_append, overtakings, overtakings, ih, run, Nat.add_assoc]

/-- Whoever is overtaken is so at some event. -/
theorem exists_overtakes (isOvertaken : system.overtakings goal client events ≠ 0) :
    ∃ before event after, events = before ++ event :: after ∧
      event.overtakes goal client (system.run before) = true := by
  induction events generalizing system with
  | nil => exact absurd rfl isOvertaken
  | cons event events ih =>
    by_cases here : event.overtakes goal client system = true
    · exact ⟨[], event, events, rfl, here⟩
    · rw [overtakings, if_neg here, Nat.zero_add] at isOvertaken
      obtain ⟨before, later, after, rfl, overtakes⟩ := ih isOvertaken
      exact ⟨event :: before, later, after, rfl, overtakes⟩

/-- The scenario that a goal concerns stays the same. -/
theorem concerned_of_precedes {store later : ScenarioStore} (precedes : store.Precedes later)
    {scenario : Uuid} (concerned : goal.target.scenario? store = some scenario) :
    goal.target.scenario? later = some scenario := by
  cases goal with
  | publish id =>
    obtain ⟨iteration, found, belongs⟩ := Option.map_eq_some_iff.mp concerned
    obtain ⟨last, foundLast, precedesLast⟩ := precedes.iterations found
    exact Option.map_eq_some_iff.mpr ⟨last, foundLast, precedesLast.scenario.trans belongs⟩
  | unpublish id => exact concerned

section Meets

variable {α : Type} {rest : Call α} {next : α → Call PublicationResult}
  {allowed : ScenarioStore → Commit → Prop} {post : ScenarioStore → α → Prop} {scenario : Uuid}
  {record : Scenario}

/-- A part of a client's call that relies on what it has read keeps its guarantee while the client
is not overtaken. -/
theorem follow_keeps (reachable : system.Reachable)
    (present : system.clients[client]? = some (rest.bind next))
    (meets : rest.Meets (goal.Keeps scenario) allowed post system.store)
    (concerned : goal.target.scenario? system.store = some scenario)
    (owner : system.store.scenarios.get? scenario = some record)
    (admits : system.Admits events) (uninjected : system.Uninjected events)
    (undisturbed : system.overtakings goal client events = 0)
    (isOpen : (system.follow client rest events).isDone = false) :
    (system.follow client rest events).Meets (goal.Keeps scenario) allowed post
      (system.run events).store := by
  induction events generalizing system rest record with
  | nil => exact meets
  | cons event events ih =>
    have restOpen : (system.follow client rest []).isDone = false := isDone_append_left isOpen
    rw [overtakings, Nat.add_eq_zero_iff] at undisturbed
    have unnoticed : event.overtakes goal client system = false := by
      by_contra noticed
      rw [if_pos (Bool.of_not_eq_false noticed)] at undisturbed
      cases undisturbed.1
    have advanced := advance_meets_of (fun _ _ _ => .trans) present meets restOpen
      (.refl reachable.sound.consistent uninjected.before) fun others =>
        reachable.keeps_step admits.1 uninjected.step.before concerned owner others unnoticed
    have precedes := (reachable.sound.evolves admits.1).precedes
    obtain ⟨live, stillThere⟩ := precedes.scenarios owner
    exact ih (.step reachable admits.1) (clients_step present restOpen event) advanced
      (concerned_of_precedes precedes concerned) stillThere admits.2 uninjected.step undisturbed.2
      isOpen

end Meets

/-! ## Attempts -/

variable {next : PublicationResult → Call PublicationResult}

/-- An attempt that has requests left has not begun, or it was overtaken since its first answer, or
it meets no conflict as long as it is not. -/
theorem attempt_cases (reachable : system.Reachable)
    (begins : system.clients[client]? = some (goal.attempt.run.bind next))
    (admits : system.Admits events) (uninjected : system.Uninjected events)
    (isOpen : (system.follow client goal.attempt.run events).isDone = false) :
    system.follow client goal.attempt.run events = goal.attempt.run ∨
      (∃ before given after, events = before ++ .serve client given :: after ∧
        (system.run (before ++ [.serve client given])).overtakings goal client after ≠ 0) ∨
      ∃ scenario, (system.follow client goal.attempt.run events).Meets (goal.Keeps scenario)
        ScenarioStore.Accepts (fun _ => NoConflict) (system.run events).store := by
  rcases exists_answer system client goal.attempt.run events with
    same | ⟨before, given, after, rfl, unmoved⟩
  · exact Or.inl same
  by_cases undisturbed : (system.run (before ++ [.serve client given])).overtakings goal client
      after = 0
  · have beginsOpen : goal.attempt.run.isDone = false := by
      cases goal <;> rfl
    obtain ⟨present, sameStore⟩ := clients_answer begins beginsOpen unmoved given
    rw [← run_step] at present sameStore
    have unchanged : (system.run (before ++ [.serve client given])).store =
        (system.run before).store := by
      rw [sameStore]
      cases goal <;> rfl
    rw [follow_answer unmoved] at isOpen ⊢
    rw [List.append_cons] at admits uninjected
    have reachableBefore := reachable.run admits.append_left.append_left
    rcases goal.first_answer given reachableBefore.sound.consistent with
      ⟨result, ended, -⟩ | ⟨scenario, record, concerned, owner, meets⟩
    · rw [ended, follow_done] at isOpen
      cases isOpen
    · have here : system.run (before ++ .serve client given :: after) =
          (system.run (before ++ [.serve client given])).run after := by
        rw [← run_append, ← List.append_cons]
      rw [here]
      refine Or.inr (Or.inr ⟨scenario, ?_⟩)
      have stillOwner : (system.run (before ++ [.serve client given])).store.scenarios.get?
          scenario = some record := by rw [unchanged, owner]
      refine follow_keeps (reachable.run admits.append_left) present ?_ ?_ stillOwner
        admits.append_right uninjected.run undisturbed isOpen
      · rw [unchanged]
        exact meets
      · rw [unchanged]
        exact concerned
  · exact Or.inr (Or.inl ⟨before, given, after, rfl, undisturbed⟩)

/-- A commit that is refused was overtaken, after the first answer to its attempt. -/
theorem Attempt.exists_overtaking (attempt : Attempt goal) {change : Commit}
    {goesOn : Except StoreError Unit → Call PublicationResult}
    (asks : attempt.rest = .commit change goesOn)
    (uninjected : attempt.start.Uninjected attempt.events) {now : Instant} {error : StoreError}
    (refused : (attempt.system.store.commit now change).1 = .error error) :
    ∃ before event after, attempt.events = before ++ event :: after ∧
      (∃ given, .serve attempt.client given ∈ before) ∧
      event.overtakes goal attempt.client (attempt.start.run before) = true := by
  have isOpen : attempt.rest.isDone = false := by rw [asks]; rfl
  rcases attempt_cases attempt.reachable attempt.begins attempt.admits uninjected isOpen with
    notBegun | ⟨before, given, after, split, isOvertaken⟩ | ⟨scenario, meets⟩
  · cases goal <;> cases notBegun.symm.trans asks
  · obtain ⟨meanwhile, event, later, rfl, overtakes⟩ := exists_overtakes isOvertaken
    refine ⟨before ++ .serve attempt.client given :: meanwhile, event, later, ?_, ⟨given, ?_⟩, ?_⟩
    · rw [split, List.append_assoc, List.cons_append]
    · exact List.mem_append_right before List.mem_cons_self
    · rwa [← run_append, ← List.append_cons] at overtakes
  · have without : attempt.system.store.injectedConflicts = 0 := uninjected.after
    have kept : goal.Keeps scenario attempt.system.store attempt.system.store :=
      .refl attempt.reachable_system.sound.consistent without
    change attempt.rest.Meets _ _ _ attempt.system.store at meets
    rw [asks] at meets
    rw [ScenarioStore.commit_of_accepts without (meets _ kept).1 now] at refused
    cases refused

/-- An attempt that ends in a conflict was overtaken. -/
theorem overtaken_of_conflict (reachable : system.Reachable)
    (begins : system.clients[client]? = some (goal.attempt.run.bind next))
    (admits : system.Admits events) (uninjected : system.Uninjected events)
    (isOpen : (system.follow client goal.attempt.run events).isDone = false) {given : Stamp}
    {id : Uuid}
    (conflicts : system.follow client goal.attempt.run (events ++ [.serve client given]) =
      .done (.error (.store (.conflict id)))) :
    system.overtakings goal client events ≠ 0 := by
  rw [follow_append, follow, follow, Event.advance, if_pos rfl] at conflicts
  have consistent := (reachable.run admits).sound.consistent
  rcases attempt_cases reachable begins admits uninjected isOpen with
    notBegun | ⟨before, taken, after, rfl, isOvertaken⟩ | ⟨scenario, meets⟩
  · rw [notBegun] at conflicts
    rcases goal.first_answer given consistent with
      ⟨result, ended, unopposed⟩ | ⟨scenario, record, -, -, meets⟩
    · rw [conflicts] at ended
      cases ended
      exact absurd rfl (unopposed id)
    · rw [conflicts] at meets
      exact absurd rfl (meets id)
  · rw [List.append_cons, overtakings_append]
    omega
  · have answered := meets.answer isOpen (.refl consistent uninjected.after) given
    rw [conflicts] at answered
    exact absurd rfl (answered id)

end System

/-! ## Calls -/

/-- An event moves a part of a call that has requests left within the call. -/
theorem Event.advance_bind {α : Type} {rest : Call α} (isOpen : rest.isDone = false)
    (next : α → Call PublicationResult) (client : Nat) (store : ScenarioStore) (event : Event) :
    event.advance client store (rest.bind next) = (event.advance client store rest).bind next := by
  cases event with
  | serve other given =>
    by_cases same : other = client
    · simp only [advance, if_pos same, Call.answer_bind isOpen]
    · simp only [advance, if_neg same]
  | _ => rfl

namespace System

variable {system : System} {client : Nat} {events : List Event} {goal : Goal}

/-- A call that has come to its end has come to the end of its first part before. -/
theorem exists_end {α : Type} {rest : Call α} {next : α → Call PublicationResult}
    {result : PublicationResult} (isOpen : rest.isDone = false)
    (ends : system.follow client (rest.bind next) events = .done result) :
    ∃ before given after value, events = (before ++ [.serve client given]) ++ after ∧
      (system.follow client rest before).isDone = false ∧
      system.follow client rest (before ++ [.serve client given]) = .done value ∧
      system.follow client (rest.bind next) (before ++ [.serve client given]) = next value := by
  induction events generalizing system rest with
  | nil =>
    rw [follow] at ends
    cases rest with
    | done value => cases isOpen
    | _ => cases ends
  | cons event events ih =>
    have within := Event.advance_bind isOpen next client system.store event
    rw [follow, within] at ends
    cases nextOpen : (event.advance client system.store rest).isDone with
    | false =>
      obtain ⟨before, given, after, value, rfl, stillOpen, ended, goesOn⟩ := ih nextOpen ends
      rw [← within] at goesOn
      exact ⟨event :: before, given, after, value, rfl, stillOpen, ended, goesOn⟩
    | true =>
      -- Only an answer to the client can have ended the part.
      obtain ⟨given, rfl⟩ : ∃ given, event = .serve client given := by
        cases event with
        | serve other given =>
          by_cases same : other = client
          · exact ⟨given, by rw [same]⟩
          · rw [Event.advance, if_neg same, isOpen] at nextOpen
            cases nextOpen
        | _ => cases isOpen.symm.trans nextOpen
      cases advanced : (Event.serve client given).advance client system.store rest with
      | done value =>
        rw [advanced] at within
        exact ⟨[], given, events, value, rfl, isOpen, advanced, within⟩
      | _ =>
        rw [advanced] at nextOpen
        cases nextOpen

theorem covers_any : Covers fun _ _ => True :=
  ⟨fun _ _ _ _ _ => trivial, fun _ => trivial, fun _ _ => trivial⟩

/-- An attempt after which another one is made was overtaken. -/
theorem overtakings_retried (goal : Goal) {scenario found : Uuid} {attempts made : UInt32}
    {left : Nat}
    (reachable : system.Reachable)
    (begins : system.clients[client]? =
      some (Publisher.attempt scenario attempts goal.attempt left).run)
    (admits : system.Admits events) (uninjected : system.Uninjected events)
    (givesUp : system.follow client (Publisher.attempt scenario attempts goal.attempt left).run
      events = .done (.error (.exhausted found made))) :
    found = scenario ∧ made = attempts ∧ left ≤ system.overtakings goal client events := by
  induction left generalizing system events with
  | zero =>
    cases (follow_done events).symm.trans givesUp
    exact ⟨rfl, rfl, Nat.zero_le _⟩
  | succ left ih =>
    obtain ⟨next, isAttempt, goesOnAfter, stopsAfter⟩ :=
      Publisher.attempt_succ scenario attempts goal.attempt left
    rw [isAttempt] at begins givesUp
    have beginsOpen : goal.attempt.run.isDone = false := by
      cases goal <;> rfl
    obtain ⟨before, given, after, result, rfl, stillOpen, ended, handled⟩ :=
      exists_end beginsOpen givesUp
    have present := (clients_follow begins (before ++ [.serve client given])).trans
      (congrArg some handled)
    have goesOn := (follow_append ..).symm.trans givesUp
    rw [handled] at goesOn
    have admitsFirst := admits.append_left
    obtain ⟨-, -, -, -, -, unexhausted⟩ := follow_ends covers_any reachable begins
      (goal.attempt_unexhausted system.store) beginsOpen admitsFirst ended
    obtain ⟨id, rfl⟩ : ∃ id, result = .error (.store (.conflict id)) := by
      by_contra other
      rw [stopsAfter result fun id same => other ⟨id, same⟩] at goesOn
      cases (follow_done after).symm.trans goesOn
      exact absurd rfl (unexhausted found made)
    rw [goesOnAfter id] at present goesOn
    have isOvertaken := overtaken_of_conflict reachable begins admitsFirst.append_left
      uninjected.append_left.append_left stillOpen ended
    obtain ⟨isScenario, isAttempts, later⟩ := ih (reachable.run admitsFirst) present
      admits.append_right uninjected.run goesOn
    refine ⟨isScenario, isAttempts, ?_⟩
    rw [overtakings_append, overtakings_append]
    omega

end System

namespace Errand

/-- How often an errand may be tried once more. -/
def retries : Errand → UInt32
  | apply retries _ => retries
  | publish retries _ => retries
  | unpublish retries _ => retries

/-- What the attempts of an errand are made for. A request to unpublish names an iteration, and
takes down the live one of the scenario that this belongs to. -/
def goal (scenario : Uuid) : Errand → Goal
  | publish _ id => .publish id
  | unpublish _ id => .unpublish id
  | apply _ request =>
    match PublicationAction.ofName request.action with
    | .ok .publish => .publish request.iteration
    | _ => .unpublish scenario

end Errand

namespace System

variable {system : System} {client : Nat} {events : List Event} {scenario : Uuid}
  {attempts : UInt32}

/-- What is known when a client gives up after some attempts: they were made in that scenario, they
were all that it had, and it was overtaken as often. -/
structure GivesUp (system : System) (client : Nat) (events : List Event) (goal : Goal)
    (retries : UInt32) (scenario : Uuid) (attempts : UInt32) : Prop where
  counted : attempts = retries + 1
  concerned : goal.target.scenario? (system.run events).store = some scenario
  overtaken : attempts.toNat ≤ system.overtakings goal client events

theorem GivesUp.of_append {goal : Goal} {retries : UInt32} {before after : List Event}
    (givesUp : (system.run before).GivesUp client after goal retries scenario attempts) :
    system.GivesUp client (before ++ after) goal retries scenario attempts where
  counted := givesUp.counted
  concerned := by
    rw [run_append]
    exact givesUp.concerned
  overtaken := by
    rw [overtakings_append]
    exact Nat.le_add_left_of_le givesUp.overtaken

theorem givesUp_unpublish {retries : UInt32} {id : Uuid} (reachable : system.Reachable)
    (begins : system.clients[client]? = some (Publisher.unpublish retries id).run)
    (admits : system.Admits events) (uninjected : system.Uninjected events)
    (ends : system.follow client (Publisher.unpublish retries id).run events =
      .done (.error (.exhausted scenario attempts))) :
    scenario = id ∧ system.GivesUp client events (.unpublish id) retries scenario attempts := by
  obtain ⟨rfl, rfl, isOvertaken⟩ :=
    overtakings_retried (.unpublish id) reachable begins admits uninjected ends
  exact ⟨rfl, rfl, rfl, isOvertaken⟩

theorem givesUp_publish {retries : UInt32} {id : Uuid} (reachable : system.Reachable)
    (begins : system.clients[client]? = some (Publisher.publish retries id).run)
    (admits : system.Admits events) (uninjected : system.Uninjected events)
    (ends : system.follow client (Publisher.publish retries id).run events =
      .done (.error (.exhausted scenario attempts))) :
    system.GivesUp client events (.publish id) retries scenario attempts := by
  rw [← Call.bind_done (Publisher.publish retries id).run] at begins
  obtain ⟨first, later, iteration, rfl, found, present, follows⟩ :=
    exists_getIteration begins ends (fun isOpen => nomatch isOpen)
      (fun _ isError => nomatch isError)
  rw [Call.bind_done] at present
  have reachableFirst := reachable.run admits.append_left
  obtain ⟨rfl, rfl, isOvertaken⟩ := overtakings_retried (.publish id) reachableFirst present
    admits.append_right uninjected.run follows
  refine .of_append ⟨rfl, ?_, isOvertaken⟩
  refine concerned_of_precedes (reachableFirst.evolves_run admits.append_right).precedes ?_
  exact Option.map_eq_some_iff.mpr ⟨iteration, found, rfl⟩

theorem givesUp_apply {retries : UInt32} {request : PublicationRequest}
    (reachable : system.Reachable)
    (begins : system.clients[client]? = some (Publisher.apply retries request).run)
    (admits : system.Admits events) (uninjected : system.Uninjected events)
    (ends : system.follow client (Publisher.apply retries request).run events =
      .done (.error (.exhausted scenario attempts))) :
    system.GivesUp client events ((Errand.apply retries request).goal scenario) retries scenario
      attempts := by
  unfold Publisher.apply at begins ends
  simp only [Errand.goal]
  cases named : PublicationAction.ofName request.action with
  | error error =>
    rw [named] at ends
    cases (follow_done events).symm.trans ends
    unfold PublicationAction.ofName at named
    split at named <;> cases named
  | ok action =>
    rw [named] at begins ends
    cases action with
    | publish => exact givesUp_publish reachable begins admits uninjected ends
    | unpublish =>
      rw [← Call.bind_done (ExceptT.run _)] at begins
      obtain ⟨first, events, iteration, rfl, -, begins, ends⟩ :=
        exists_getIteration begins ends (fun isOpen => nomatch isOpen)
          (fun _ isError => nomatch isError)
      obtain ⟨second, later, record, rfl, -, present, ends⟩ :=
        exists_getScenario begins ends (fun isOpen => nomatch isOpen)
          (fun _ isError => nomatch isError)
      by_cases other : record.live.isSome ∧ record.live ≠ some iteration.id
      · rw [if_pos other] at ends
        cases ends.symm.trans (follow_done later)
      · rw [if_neg other] at present ends
        rw [Call.bind_done] at present
        have reachableFirst := reachable.run admits.append_left
        have reachableSecond := reachableFirst.run admits.append_right.append_left
        obtain ⟨rfl, givesUp⟩ := givesUp_unpublish reachableSecond present
          admits.append_right.append_right uninjected.run.run ends
        exact givesUp.of_append.of_append

/-- A call that gives up was overtaken as often as it has made attempts. -/
theorem givesUp_of_errand {errand : Errand} (reachable : system.Reachable)
    (begins : system.clients[client]? = some errand.call) (admits : system.Admits events)
    (uninjected : system.Uninjected events)
    (ends : system.follow client errand.call events =
      .done (.error (.exhausted scenario attempts))) :
    system.GivesUp client events (errand.goal scenario) errand.retries scenario attempts := by
  cases errand with
  | publish retries id => exact givesUp_publish reachable begins admits uninjected ends
  | unpublish retries id => exact (givesUp_unpublish reachable begins admits uninjected ends).2
  | apply retries request => exact givesUp_apply reachable begins admits uninjected ends

/-! ## The statement -/

/-- As long as no conflicts are injected, whatever clients do in whatever order. When the commit of
an attempt is refused, the attempt was overtaken after its first answer: another client's commit to
the same scenario went through, or an edit of the iteration that is to be published. All else causes
no conflict. When a call gives up, it has made all its attempts, one more than it has retries unless
the count wraps around, and during the call it was overtaken as often. -/
theorem no_spurious_conflicts :
    (∀ (goal : Goal) (attempt : Attempt goal) change goesOn now error,
      attempt.start.Uninjected attempt.events → attempt.rest = .commit change goesOn →
      (attempt.system.store.commit now change).1 = .error error →
      ∃ before event after, attempt.events = before ++ event :: after ∧
        (∃ given, .serve attempt.client given ∈ before) ∧
        event.overtakes goal attempt.client (attempt.start.run before) = true) ∧
    ∀ (system : System) client (errand : Errand) events scenario attempts,
      system.Reachable → system.Admits events → system.Uninjected events →
      system.clients[client]? = some errand.call →
      (system.run events).clients[client]? = some (.done (.error (.exhausted scenario attempts))) →
      attempts = errand.retries + 1 ∧
      (errand.goal scenario).target.scenario? (system.run events).store = some scenario ∧
      (errand.retries.toNat + 1 < UInt32.size →
        attempts.toNat = errand.retries.toNat + 1 ∧
        ∃ during given after, events = (during ++ [.serve client given]) ++ after ∧
          (system.follow client errand.call during).isDone = false ∧
          attempts.toNat ≤ system.overtakings (errand.goal scenario) client during) := by
  constructor
  · intro goal attempt change goesOn now error uninjected asks refused
    exact attempt.exists_overtaking asks uninjected refused
  · intro system client errand events scenario attempts reachable admits uninjected begins gaveUp
    have ends : system.follow client errand.call events =
        .done (.error (.exhausted scenario attempts)) :=
      Option.some.inj ((clients_follow begins events).symm.trans gaveUp)
    have givesUp := givesUp_of_errand reachable begins admits uninjected ends
    refine ⟨givesUp.counted, givesUp.concerned, fun inBounds => ?_⟩
    have counted : attempts.toNat = errand.retries.toNat + 1 := by
      rw [givesUp.counted, Publisher.toNat_attempts inBounds]
    have isOpen : errand.call.isDone = false := by
      cases here : errand.call with
      | done result =>
        -- A call without requests has made no attempts.
        have nothing : System.Uninjected system [] := ⟨uninjected.before, nofun⟩
        rw [here, follow_done] at ends
        have ended : system.follow client errand.call [] =
            .done (.error (.exhausted scenario attempts)) := here.trans ends
        have admitsNothing : system.Admits [] := trivial
        have overtaken : attempts.toNat ≤ 0 :=
          (givesUp_of_errand reachable begins admitsNothing nothing ended).overtaken
        omega
      | _ => rfl
    rw [← Call.bind_done errand.call] at ends
    obtain ⟨during, given, after, result, rfl, stillOpen, ended, -⟩ := exists_end isOpen ends
    rw [Call.bind_done, follow_append, ended, follow_done] at ends
    rw [ends] at ended
    have overtaken := (givesUp_of_errand reachable begins admits.append_left uninjected.append_left
      ended).overtaken
    rw [overtakings_append] at overtaken
    -- Its own answers do not overtake a client.
    have own : (system.run during).overtakings (errand.goal scenario) client
        [.serve client given] = 0 := by
      simp [overtakings, Event.overtakes]
    refine ⟨counted, during, given, after, rfl, stillOpen, ?_⟩
    omega

/-- While one client publishes the first draft, another one does so too, and is faster. -/
def overtaken : List Event :=
  firstPublication ++ .arrive (.publish 0 ⟨2⟩) ::
    ((List.range 6).map fun n => .serve 1 (.numbered (10 + n))) ++ [.serve 0 (.numbered 20)]

/-- The commit of the first client is refused, and no attempt is left. -/
theorem givesUp_overtaken :
    ((start.run (overtaken.take 3)).run (overtaken.drop 3)).clients[0]? =
      some (.done (.error (.exhausted ⟨1⟩ 1))) := by
  obtain ⟨next, asks, ends⟩ : ∃ next, (start.run (overtaken.take 15)).clients[0]? =
        some (.commit firstCommit next) ∧
      next (.error (.conflict ⟨1⟩)) = .done (.error (.exhausted ⟨1⟩ 1)) := by
    with_unfolding_all exact ⟨_, rfl, rfl⟩
  have refused : ((start.run (overtaken.take 15)).store.commit ⟨20, 0⟩ firstCommit).1 =
      .error (.conflict ⟨1⟩) := by
    with_unfolding_all rfl
  have answered := clients_advance asks (.serve 0 (.numbered 20))
  rw [Event.advance, if_pos rfl, Call.answer] at answered
  exact answered.trans (congrArg some ((congrArg next refused).trans ends))

/-- The first client then gives up, as it has no retries. It was overtaken by the commit of the
second one. -/
theorem no_spurious_conflicts_overtaken :
    let arrived := start.run (overtaken.take 3)
    arrived.Reachable ∧ arrived.clients[0]? = some (Errand.publish 0 ⟨2⟩).call ∧
    (arrived.run (overtaken.drop 3)).clients[0]? = some (.done (.error (.exhausted ⟨1⟩ 1))) ∧
    ∃ during given after, overtaken.drop 3 = (during ++ [.serve 0 given]) ++ after ∧
      1 ≤ arrived.overtakings (.publish ⟨2⟩) 0 during := by
  intro arrived
  have admits : start.Admits (overtaken.take 3 ++ overtaken.drop 3) :=
    ⟨rfl, rfl, trivial, trivial, trivial, trivial, trivial, trivial, trivial, trivial, trivial,
      trivial, trivial, trivial, trivial, trivial, trivial⟩
  have reachable : arrived.Reachable := .run .start admits.append_left
  have uninjected : arrived.Uninjected (overtaken.drop 3) := by
    refine ⟨by with_unfolding_all rfl, fun count isInjected => ?_⟩
    simp [overtaken, firstPublication, List.range, List.range.loop] at isInjected
  have begins : arrived.clients[0]? = some (Errand.publish 0 ⟨2⟩).call := by
    with_unfolding_all rfl
  obtain ⟨-, -, whenCounted⟩ :=
    no_spurious_conflicts.2 arrived 0 (.publish 0 ⟨2⟩) (overtaken.drop 3) ⟨1⟩ 1 reachable
      admits.append_right uninjected begins givesUp_overtaken
  obtain ⟨-, during, given, after, split, -, isOvertaken⟩ := whenCounted (by decide)
  exact ⟨reachable, begins, givesUp_overtaken, during, given, after, split, isOvertaken⟩

end System

end RiskScoring
