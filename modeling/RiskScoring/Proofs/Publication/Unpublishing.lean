import RiskScoring.Proofs.Publication.Answers
import RiskScoring.Proofs.Publication.Recorded

/-!
# Requests to unpublish

A request to unpublish names an iteration, which has to be the live one of its scenario, unless none
is live. That is checked with one read. What is then taken down is whatever another read finds live,
once more at each attempt, and in between others may publish.

* `System.TakesDown`: a commit takes the live iteration of a scenario down.
* `System.exists_check`: the check of a request that is served.
* `System.Reachable.takes_down_named`: the iteration that is taken down is the one that is named, or
  another client has made it live since the check.
* `System.takes_down_overtaking`: that other client is served first, and its iteration taken down.
-/

namespace RiskScoring

namespace System

/-- The client takes the live iteration of a scenario down, and the publication says so. -/
structure TakesDown (system : System) (client : Nat) (given : Stamp) (publication : Publication) :
    Prop where
  action : publication.action = .unpublish
  wasLive : system.store.HasLive publication.scenario publication.iteration
  moves : ∃ iteration, system.store.iterations.get? publication.iteration = some iteration ∧
    iteration.scenario = publication.scenario ∧ iteration.state = .live ∧
    (system.step (.serve client given)).store.iterations.get? publication.iteration =
      some { iteration with state := .unpublished, updatedAt := given.now }

variable {system : System} {client : Nat}

/-! ## Commits that unpublish -/

/-- A commit that goes through and has the grounds to unpublish takes an iteration down. -/
theorem takesDown_of_commit (reachable : system.Reachable) {given : Stamp} {change : Commit}
    {scenario : Uuid} (commits : system.Commits client given change)
    (grounds : Grounds system.store (.unpublish scenario) change) :
    change.newLive = none ∧ change.publication.scenario = scenario ∧
      system.TakesDown client given change.publication := by
  have consistent := reachable.sound.consistent
  have swap : change.IsSwap := (grounds.allows consistent).swap
  obtain ⟨next, present⟩ := exists_of_asked commits.asks
  obtain ⟨accepts, applied⟩ := applied_of_commit present commits.succeeds
  cases grounds with
  | @unpublish owner current liveId updatedAt rank stamp found isLive =>
    obtain ⟨stored, foundStored, pointer⟩ := accepts.scenario
    have expected : (Publisher.unpublishing owner liveId updatedAt rank stamp).expectedLive =
        some liveId := rfl
    obtain ⟨iteration, foundLive, belongs, state⟩ := (accepts.expected_live consistent).mp expected
    have named : (liveId, IterationState.unpublished) ∈
        (Publisher.unpublishing owner liveId updatedAt rank stamp).transitions :=
      List.mem_singleton.mpr rfl
    have moved := ScenarioStore.applyCommit_of_mem swap given.now named foundLive
    rw [← applied] at moved
    exact ⟨rfl, rfl, rfl, ⟨stored, foundStored, pointer⟩, iteration, foundLive, belongs, state,
      moved⟩

/-- Every commit of a client that unpublishes has the grounds for it. -/
theorem grounds_of_unpublish (reachable : system.Reachable) {retries : UInt32} {scenario : Uuid}
    (present : system.clients[client]? = some (Publisher.unpublish retries scenario).run)
    {events : List Event} (admits : system.Admits events) {change : Commit}
    (asks : (system.run events).asked client = some change) :
    Grounds (system.run events).store (.unpublish scenario) change := by
  obtain ⟨next, asking⟩ := exists_of_asked asks
  have rest : system.follow client (Publisher.unpublish retries scenario).run events =
      .commit change next :=
    Option.some.inj ((clients_follow present events).symm.trans asking)
  have begins : system.clients[client]? =
      some ((Publisher.unpublish retries scenario).run.bind .done) := by
    rw [Call.bind_done, present]
  have grounded : (Publisher.unpublish retries scenario).run.Meets ScenarioStore.Evolves
      (Goal.unpublish scenario).Grounded (fun _ _ => True) system.store :=
    Publisher.retried_grounded (.unpublish scenario) scenario (retries + 1) (retries + 1).toNat
  have meets := follow_meets covers_evolves reachable begins grounded admits (by rw [rest]; rfl)
  rw [rest] at meets
  have consistent := (reachable.run admits).sound.consistent
  exact (meets (system.run events).store ⟨.refl _, consistent⟩).1.2

/-! ## The check -/

/-- What the check of a request to unpublish has found when the request goes on: the iteration that
is named, and its scenario, in which no other iteration is live. -/
structure Checked (system : System) (client : Nat) (retries : UInt32) (name scenario : Uuid) :
    Prop where
  goesOn : system.clients[client]? = some (Publisher.unpublish retries scenario).run
  named : ∃ iteration, system.store.iterations.get? name = some iteration ∧
    iteration.scenario = scenario
  onlyNamed : ∀ live, system.store.HasLive scenario live → live = name

/-- A request to unpublish that ends with publications has passed its check. -/
theorem exists_check (reachable : system.Reachable) {retries : UInt32} {name : Uuid}
    (begins : system.clients[client]? = some (Errand.apply retries ⟨name, "unpublish"⟩).call)
    {events : List Event} (admits : system.Admits events) {log : List Publication}
    (ends : system.follow client (Errand.apply retries ⟨name, "unpublish"⟩).call events =
      .done (.ok log)) :
    ∃ first later scenario, events = first ++ later ∧
      (system.run first).Checked client retries name scenario ∧
      (system.run first).follow client (Publisher.unpublish retries scenario).run later =
        .done (.ok log) := by
  rw [← Call.bind_done (Errand.apply retries ⟨name, "unpublish"⟩).call] at begins
  obtain ⟨first, events, named, rfl, foundNamed, begins, ends⟩ :=
    exists_getIteration begins ends (fun isOpen => nomatch isOpen)
      (fun _ isError => nomatch isError)
  obtain ⟨second, later, scenario, rfl, foundScenario, present, ends⟩ :=
    exists_getScenario begins ends (fun isOpen => nomatch isOpen)
      (fun _ isError => nomatch isError)
  have reachableFirst : (system.run first).Reachable := reachable.run admits.append_left
  have admitsSecond : (system.run first).Admits second := admits.append_right.append_left
  have evolves := reachableFirst.evolves_run admitsSecond
  have hasId : scenario.id = named.scenario := evolves.consistent.scenario_id foundScenario
  have isNamed : named.id = name := reachableFirst.sound.consistent.iteration_id foundNamed
  by_cases other : scenario.live.isSome ∧ scenario.live ≠ some named.id
  · rw [if_pos other] at ends
    cases ends.symm.trans (follow_done later)
  · rw [if_neg other] at present ends
    rw [Call.bind_done] at present
    refine ⟨first ++ second, later, scenario.id, (List.append_assoc ..).symm, ?_, ?_⟩
    · rw [run_append]
      obtain ⟨still, foundStill, precedes⟩ := evolves.precedes.iterations foundNamed
      refine ⟨present, ⟨still, foundStill, precedes.scenario.trans hasId.symm⟩, ?_⟩
      rintro live ⟨stored, foundStored, isLive⟩
      rw [hasId, foundScenario] at foundStored
      cases foundStored
      have isSame : scenario.live = some named.id :=
        Decidable.of_not_not fun different => other ⟨by rw [isLive]; rfl, different⟩
      rw [isLive, isNamed] at isSame
      exact Option.some.inj isSame
    · rw [run_append]
      exact ends

/-! ## The statement -/

/-- A request to unpublish that ends with publications has taken down one iteration, which was the
live one of the scenario of the iteration that it names. At its check no other one was live. So it
has taken down the iteration that it names, or one that another client has made live between
the check and the commit. -/
theorem Reachable.takes_down_named (reachable : system.Reachable) {retries : UInt32} {name : Uuid}
    (begins : system.clients[client]? = some (Errand.apply retries ⟨name, "unpublish"⟩).call)
    {events : List Event} (admits : system.Admits events) {log : List Publication}
    (ends : (system.run events).clients[client]? = some (.done (.ok log))) (gains : log ≠ []) :
    ∃ first second given last scenario publication,
      events = first ++ second ++ .serve client given :: last ∧
      (system.run first).Checked client retries name scenario ∧
      (system.run (first ++ second)).TakesDown client given publication ∧
      log = [publication] ∧ publication.scenario = scenario ∧
      (publication.iteration = name ∨
        ∃ before other taken after change, second = before ++ .serve other taken :: after ∧
          other ≠ client ∧ (system.run (first ++ before)).Commits other taken change ∧
          change.scenario = scenario ∧ change.newLive = some publication.iteration) := by
  have follows : system.follow client (Errand.apply retries ⟨name, "unpublish"⟩).call events =
      .done (.ok log) :=
    Option.some.inj ((clients_follow begins events).symm.trans ends)
  obtain ⟨first, later, scenario, rfl, checked, follows⟩ :=
    exists_check reachable begins admits follows
  have reachableFirst : (system.run first).Reachable := reachable.run admits.append_left
  obtain ⟨second, given, last, change, rfl, commits, rfl⟩ :=
    exists_commit checked.goesOn (Publisher.unpublish_earns retries scenario) follows gains
  have admitsSecond : (system.run first).Admits second := admits.append_right.append_left
  have grounds := grounds_of_unpublish reachableFirst checked.goesOn admitsSecond commits.asks
  obtain ⟨-, sameScenario, takesDown⟩ :=
    takesDown_of_commit (reachableFirst.run admitsSecond) commits grounds
  refine ⟨first, second, given, last, scenario, change.publication, (List.append_assoc ..).symm,
    checked, ?_, rfl, sameScenario, ?_⟩
  · rw [run_append]
    exact takesDown
  by_cases isNamed : change.publication.iteration = name
  · exact Or.inl isNamed
  -- It was not live at the check, so someone has published it since.
  have isLive : ((system.run first).run second).store.HasLive scenario
      change.publication.iteration := by
    rw [← sameScenario]
    exact takesDown.wasLive
  have notYet : ¬ (system.run first).store.HasLive scenario change.publication.iteration :=
    fun already => isNamed (checked.onlyNamed _ already)
  obtain ⟨before, other, taken, after, published, rfl, publishes, published_scenario, newLive⟩ :=
    exists_publication notYet isLive
  refine Or.inr ⟨before, other, taken, after, published, rfl, ?_, ?_, published_scenario, newLive⟩
  · rintro rfl
    have others := grounds_of_unpublish reachableFirst checked.goesOn admitsSecond.append_left
      publishes.asks
    obtain ⟨nothingLive, -, -⟩ := takesDown_of_commit
      (reachableFirst.run admitsSecond.append_left) publishes others
    rw [newLive] at nothingLive
    cases nothingLive
  · rw [run_append]
    exact publishes

/-! ## Between the check and the commit -/

/-- One iteration of a scenario is live, another one is a draft, and a client comes that wants to
take the live one down. -/
def takingDown : List Event :=
  [.createScenario (.numbered 1) ⟨⟨7⟩, "transfers", "", "transactions"⟩,
    .createIteration (.numbered 2) ⟨1⟩ ⟨.bool true, [], 1, 2⟩,
    .createIteration (.numbered 3) ⟨1⟩ ⟨.bool true, [], 3, 4⟩,
    .arrive (.publish 0 ⟨2⟩),
    .serve 0 (.numbered 10), .serve 0 (.numbered 11), .serve 0 (.numbered 12),
    .serve 0 (.numbered 13), .serve 0 (.numbered 14), .serve 0 (.numbered 15),
    .arrive (.apply 0 ⟨⟨2⟩, "unpublish"⟩)]

/-- The client has been checked when another one publishes the draft. Then the client goes on. -/
def overtaking : List Event :=
  [.serve 1 (.numbered 20), .serve 1 (.numbered 21),
    .arrive (.publish 0 ⟨3⟩),
    .serve 2 (.numbered 30), .serve 2 (.numbered 31), .serve 2 (.numbered 32),
    .serve 2 (.numbered 33), .serve 2 (.numbered 34), .serve 2 (.numbered 35),
    .serve 2 (.numbered 36),
    .serve 1 (.numbered 40), .serve 1 (.numbered 41), .serve 1 (.numbered 42),
    .serve 1 (.numbered 43), .serve 1 (.numbered 44)]

/-- What the client then says that it has done. -/
def takenDown : Publication :=
  ⟨(Stamp.numbered 43).id, ⟨7⟩, ⟨1⟩, ⟨3⟩, .unpublish, 3, (Stamp.numbered 43).now⟩

theorem reachable_takingDown : (start.run takingDown).Reachable := by
  have admits : start.Admits takingDown := by
    simp only [takingDown, Admits, Event.Fresh, and_true]
    exact ⟨rfl, rfl, rfl⟩
  exact Reachable.start.run admits

theorem admits_overtaking : (start.run takingDown).Admits overtaking := by
  simp only [overtaking, Admits, Event.Fresh, and_true]

theorem begins_takingDown :
    (start.run takingDown).clients[1]? = some (Errand.apply 0 ⟨⟨2⟩, "unpublish"⟩).call := by
  with_unfolding_all rfl

theorem ends_overtaking :
    ((start.run takingDown).run overtaking).clients[1]? = some (.done (.ok [takenDown])) ∧
    (((start.run takingDown).run overtaking).store.iterations.get?
      takenDown.iteration).map Iteration.state = some .unpublished := by
  have admits : (start.run takingDown).Admits (overtaking.take 12 ++ overtaking.drop 12) :=
    admits_overtaking
  -- The log has two entries when the client asks for it, and `rfl` does not unfold their sorting.
  let before := (start.run takingDown).run (overtaking.take 12)
  have two : (before.store.publicationsOf ⟨1⟩).length = 2 := by with_unfolding_all rfl
  obtain ⟨next, asks, ends, taken⟩ : ∃ next,
      before.clients[1]? = some (.listPublications ⟨1⟩ next) ∧
      let told := next (.ok (before.store.publicationsOf ⟨1⟩))
      let last := System.run ⟨before.store, before.clients.set 1 told⟩ (overtaking.drop 13)
      last.clients[1]? = some (.done (.ok [takenDown])) ∧
        (last.store.iterations.get? takenDown.iteration).map Iteration.state =
          some .unpublished := by
    with_unfolding_all exact ⟨_, rfl, rfl, rfl⟩
  have ran : (start.run takingDown).run overtaking = _ :=
    reachable_takingDown.run_listing admits.append_left asks (by rw [two]; decide) (.numbered 42)
      (overtaking.drop 13)
  rw [ran]
  exact ⟨ends, taken⟩

/-- The client names the iteration that is live when it comes, and that is still live when it is
checked. What it takes down is another iteration, which goes live after the check. -/
theorem takes_down_overtaking :
    (start.run takingDown).Reachable ∧ (start.run takingDown).Admits overtaking ∧
    (start.run takingDown).clients[1]? = some (Errand.apply 0 ⟨⟨2⟩, "unpublish"⟩).call ∧
    ((start.run takingDown).run (overtaking.take 2)).store.HasLive ⟨1⟩ ⟨2⟩ ∧
    ((start.run takingDown).run overtaking).clients[1]? = some (.done (.ok [takenDown])) ∧
    takenDown.action = .unpublish ∧ takenDown.iteration ≠ ⟨2⟩ ∧
    (((start.run takingDown).run (overtaking.take 14)).store.iterations.get?
      takenDown.iteration).map Iteration.state = some .live ∧
    (((start.run takingDown).run overtaking).store.iterations.get?
      takenDown.iteration).map Iteration.state = some .unpublished := by
  refine ⟨reachable_takingDown, admits_overtaking, begins_takingDown, ?_, ends_overtaking.1, rfl,
    ?_, ?_, ends_overtaking.2⟩
  · exact ⟨⟨⟨1⟩, ⟨7⟩, "transfers", "", "transactions", some ⟨2⟩, ⟨1, 0⟩⟩, by with_unfolding_all rfl,
      rfl⟩
  · decide
  · with_unfolding_all rfl

/-- The client has been overtaken: what it takes down is what another client has made live. -/
theorem takes_down_named_overtaken :
    ∃ first second given last scenario,
      overtaking = first ++ second ++ .serve 1 given :: last ∧
      ((start.run takingDown).run first).Checked 1 0 ⟨2⟩ scenario ∧
      ((start.run takingDown).run (first ++ second)).TakesDown 1 given takenDown ∧
      ∃ before other taken after change, second = before ++ .serve other taken :: after ∧
        other ≠ 1 ∧ ((start.run takingDown).run (first ++ before)).Commits other taken change ∧
        change.newLive = some ⟨3⟩ := by
  obtain ⟨first, second, given, last, scenario, publication, split, checked, takesDown, isLog, -,
      isNamed | ⟨before, other, taken, after, change, rfl, another, commits, -, newLive⟩⟩ :=
    reachable_takingDown.takes_down_named begins_takingDown admits_overtaking ends_overtaking.1
      (List.cons_ne_nil takenDown [])
  · cases isLog
    exact absurd isNamed (by decide)
  · cases isLog
    exact ⟨first, _, given, last, scenario, split, checked, takesDown, before, other, taken, after,
      change, rfl, another, commits, newLive⟩

end System

end RiskScoring
