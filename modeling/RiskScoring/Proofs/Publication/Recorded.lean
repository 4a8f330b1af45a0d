import RiskScoring.Proofs.Publication.Changes
import RiskScoring.Proofs.Publication.Log

/-!
# The log tells it all

The live iteration of a scenario and the states of its iterations can be read off its log, in
whatever order publishers and editors act.

* `Commit.Entered`: the entry of a commit says what the commit does.
* `ScenarioStore.Recorded`: the store is as its log says.
* `ScenarioStore.Recorded.becomes`: every step of a run keeps it so.
* `System.Reachable.run_listing`: what a client is told that asks for a log.
* `System.Reachable.log_tells`: the statement for every run.
-/

namespace RiskScoring

/-! ## Entries of commits -/

/-- The entry of a commit says what the commit does. -/
structure Commit.Entered (change : Commit) : Prop where
  scenario : change.publication.scenario = change.scenario
  rank : change.publication.rank = change.expectedRank + 1
  publish : ∀ id, change.newLive = some id →
    change.publication.action = .publish ∧ change.publication.iteration = id
  unpublish : change.newLive = none →
    change.publication.action = .unpublish ∧
      change.expectedLive = some change.publication.iteration

namespace Commit.Entered

variable {change : Commit}

/-- What is live after the entry is live after the commit. -/
theorem leavesLive (entered : change.Entered) :
    change.publication.leavesLive = change.newLive := by
  cases new : change.newLive with
  | none =>
    have action := (entered.unpublish new).1
    simp [Publication.leavesLive, action]
  | some id =>
    obtain ⟨action, names⟩ := entered.publish id new
    simp [Publication.leavesLive, action, names]

theorem fits (entered : change.Entered) (swap : change.IsSwap) :
    change.publication.Fits change.expectedLive := by
  cases new : change.newLive with
  | none =>
    obtain ⟨action, names⟩ := entered.unpublish new
    simp [Publication.Fits, action, names]
  | some id =>
    obtain ⟨action, names⟩ := entered.publish id new
    have changes := swap.changes
    rw [new, ← names] at changes
    simpa [Publication.Fits, action] using changes

/-- The entry names an iteration that the commit moves. -/
theorem exists_transition (entered : change.Entered) (swap : change.IsSwap) :
    ∃ state, (change.publication.iteration, state) ∈ change.transitions := by
  cases new : change.newLive with
  | none =>
    exact ⟨_, swap.mem_transitions.mpr (Or.inl ⟨(entered.unpublish new).2, rfl⟩)⟩
  | some id =>
    obtain ⟨-, rfl⟩ := entered.publish id new
    exact ⟨_, swap.mem_transitions.mpr (Or.inr ⟨new, rfl⟩)⟩

end Commit.Entered

theorem Grounds.entered {store : ScenarioStore} {goal : Goal} {change : Commit}
    (grounds : Grounds store goal change) : change.Entered := by
  cases grounds with
  | publish rank stamp =>
    refine ⟨rfl, rfl, ?_, ?_⟩
    · rintro _ ⟨⟩
      exact ⟨rfl, rfl⟩
    · rintro ⟨⟩
  | unpublish updatedAt rank stamp =>
    refine ⟨rfl, rfl, ?_, fun _ => ⟨rfl, rfl⟩⟩
    rintro _ ⟨⟩

/-! ## The invariant -/

/-- The store is as its log says. The ranks of a log are in order as long as a word holds them. -/
structure ScenarioStore.Recorded (store : ScenarioStore) : Prop where
  named : ∀ entry ∈ store.publications, ∃ iteration,
    store.iterations.get? entry.iteration = some iteration ∧ iteration.scenario = entry.scenario
  ranked : ∀ id, (store.publicationsOf id).length < UInt32.size →
    Publication.Ranked (store.publicationsOf id)
  isLog : ∀ id, Publication.IsLog (store.publicationsOf id)
  live : ∀ ⦃id scenario⦄, store.scenarios.get? id = some scenario →
    scenario.live = Publication.liveIn (store.publicationsOf id)
  state : ∀ ⦃id iteration⦄, store.iterations.get? id = some iteration →
    iteration.state = Publication.stateIn (store.publicationsOf iteration.scenario) id

namespace ScenarioStore

variable {store : ScenarioStore} {change : Commit}

theorem mem_publicationsOf {id : Uuid} {entry : Publication} :
    entry ∈ store.publicationsOf id ↔ entry ∈ store.publications ∧ entry.scenario = id := by
  simp [publicationsOf]

/-- By rank, the entries come in the order in which they were made. -/
theorem listPublications_of_ranked {id : Uuid}
    (ranked : Publication.Ranked (store.publicationsOf id)) :
    store.listPublications id = store.publicationsOf id :=
  (Publication.ranked_iff.mp ranked).mergeSort_eq

namespace Recorded

theorem empty : empty.Recorded :=
  ⟨by simp [ScenarioStore.empty], fun _ _ => rfl, fun _ => .nil, by simp [ScenarioStore.empty],
    by simp [ScenarioStore.empty]⟩

/-- No entry names what is not there yet. -/
theorem ne_of_fresh (recorded : store.Recorded) {id : Uuid}
    (fresh : store.iterations.get? id = none) :
    ∀ entry ∈ store.publications, entry.iteration ≠ id := by
  intro entry listed
  obtain ⟨iteration, found, -⟩ := recorded.named entry listed
  exact (Dict.ne_of_fresh fresh found).symm

/-- A scenario that is not there yet has no entries. -/
theorem publicationsOf_of_fresh (recorded : store.Recorded) (consistent : store.Consistent)
    {id : Uuid} (fresh : store.scenarios.get? id = none) : store.publicationsOf id = [] := by
  rw [List.eq_nil_iff_forall_not_mem]
  intro entry listed
  obtain ⟨isEntry, belongs⟩ := mem_publicationsOf.mp listed
  obtain ⟨iteration, found, owner⟩ := recorded.named entry isEntry
  obtain ⟨scenario, owns⟩ := consistent.owner found
  exact Dict.ne_of_fresh fresh owns (belongs.symm.trans owner.symm)

theorem insertScenario (recorded : store.Recorded) (consistent : store.Consistent) {id : Uuid}
    (fresh : store.scenarios.get? id = none) {new : Scenario} (notLive : new.live = none) :
    Recorded { store with scenarios := store.scenarios.insert id new } := by
  refine ⟨recorded.named, recorded.ranked, recorded.isLog, ?_, recorded.state⟩
  intro other scenario present
  rw [Dict.get?_insert] at present
  split at present
  · rename_i same
    cases present
    subst same
    have nothing : store.publicationsOf id = [] := recorded.publicationsOf_of_fresh consistent fresh
    show new.live = Publication.liveIn (store.publicationsOf id)
    rw [notLive, nothing]
    rfl
  · exact recorded.live present

/-- A draft that takes a free place, or the place of a draft of the same scenario. -/
theorem insertDraft (recorded : store.Recorded) {id : Uuid} {new : Iteration}
    (replaces : ∀ old, store.iterations.get? id = some old →
      old.state = .draft ∧ old.scenario = new.scenario)
    (isDraft : new.state = .draft) :
    Recorded { store with iterations := store.iterations.insert id new } := by
  refine ⟨?_, recorded.ranked, recorded.isLog, recorded.live, ?_⟩
  · intro entry listed
    obtain ⟨iteration, found, belongs⟩ := recorded.named entry listed
    rw [Dict.get?_insert]
    by_cases same : id = entry.iteration
    · rw [← same] at found
      exact ⟨new, if_pos same, (replaces iteration found).2.symm.trans belongs⟩
    · exact ⟨iteration, by rw [if_neg same, found], belongs⟩
  · intro other iteration present
    rw [Dict.get?_insert] at present
    split at present
    · rename_i same
      cases present
      subst same
      show new.state = Publication.stateIn (store.publicationsOf new.scenario) id
      rw [isDraft]
      cases found : store.iterations.get? id with
      | none =>
        refine (Publication.stateIn_eq_draft ?_).symm
        exact fun entry listed => recorded.ne_of_fresh found entry (mem_publicationsOf.mp listed).1
      | some old =>
        obtain ⟨wasDraft, belongs⟩ := replaces old found
        rw [← belongs, ← recorded.state found, wasDraft]
    · exact recorded.state present

/-! ## Commits -/

theorem publicationsOf_applyCommit (entered : change.Entered) (now : Instant) (id : Uuid) :
    (store.applyCommit now change).publicationsOf id =
      if change.scenario = id then store.publicationsOf id ++ [change.publication]
      else store.publicationsOf id := by
  simp only [publicationsOf, applyCommit, List.filter_append]
  by_cases same : change.scenario = id
  · simp [entered.scenario, same]
  · simp [entered.scenario, same]

/-- What the commit expects to be live is what the log says. -/
theorem expectedLive (recorded : store.Recorded) (accepts : store.Accepts change) :
    change.expectedLive = Publication.liveIn (store.publicationsOf change.scenario) := by
  obtain ⟨scenario, found, isExpected⟩ := accepts.scenario
  rw [← isExpected]
  exact recorded.live found

/-- The iterations that a commit moves end up where the longer log says. -/
theorem state_of_transition (recorded : store.Recorded) (consistent : store.Consistent)
    (accepts : store.Accepts change) (swap : change.IsSwap) (entered : change.Entered) {id : Uuid}
    {state : IterationState} (named : (id, state) ∈ change.transitions) :
    state = Publication.stateIn
      (store.publicationsOf change.scenario ++ [change.publication]) id := by
  rcases swap.mem_transitions.mp named with ⟨isOld, rfl⟩ | ⟨isNew, rfl⟩
  · obtain ⟨iteration, found, belongs, isLive⟩ := (accepts.expected_live consistent).mp isOld
    cases new : change.newLive with
    | none =>
      obtain ⟨action, names⟩ := entered.unpublish new
      rw [isOld] at names
      rw [Publication.stateIn_append_unpublish _ (Option.some.inj names).symm action,
        Commit.leaving, new]
      rfl
    | some target =>
      obtain ⟨-, names⟩ := entered.publish target new
      have other : change.publication.iteration ≠ id := by
        rintro rfl
        exact swap.changes (by rw [isOld, new, names])
      have wasLive := recorded.state found
      rw [isLive, belongs] at wasLive
      rw [Publication.stateIn_append_of_ne _ other, if_pos wasLive.symm, Commit.leaving, new]
      rfl
  · obtain ⟨action, names⟩ := entered.publish id isNew
    rw [Publication.stateIn_append_publish _ names action]

/-- An iteration that a commit does not move is where it was, and the longer log says so. -/
theorem stateIn_of_unnamed (recorded : store.Recorded) (consistent : store.Consistent)
    (accepts : store.Accepts change) (swap : change.IsSwap) (entered : change.Entered) {id : Uuid}
    {iteration : Iteration} (found : store.iterations.get? id = some iteration)
    (belongs : iteration.scenario = change.scenario)
    (unnamed : id ∉ change.transitions.map Prod.fst) :
    iteration.state = Publication.stateIn
      (store.publicationsOf change.scenario ++ [change.publication]) id := by
  have other : change.publication.iteration ≠ id := by
    rintro rfl
    obtain ⟨state, named⟩ := entered.exists_transition swap
    exact unnamed (List.mem_map_of_mem named)
  have notLive : iteration.state ≠ .live := by
    intro isLive
    have isOld := (accepts.expected_live consistent).mpr ⟨iteration, found, belongs, isLive⟩
    have named : (id, change.leaving) ∈ change.transitions :=
      swap.mem_transitions.mpr (Or.inl ⟨isOld, rfl⟩)
    exact unnamed (List.mem_map_of_mem named)
  have before := recorded.state found
  rw [belongs] at before
  rw [before] at notLive
  rw [Publication.stateIn_append_of_ne _ other, if_neg notLive, before]

theorem applyCommit (recorded : store.Recorded) (consistent : store.Consistent)
    (accepts : store.Accepts change) (swap : change.IsSwap) (entered : change.Entered)
    (now : Instant) : (store.applyCommit now change).Recorded where
  named := by
    intro entry listed
    have stored : ∃ iteration, store.iterations.get? entry.iteration = some iteration ∧
        iteration.scenario = entry.scenario := by
      rcases List.mem_append.mp listed with earlier | new
      · exact recorded.named entry earlier
      · obtain rfl := List.mem_singleton.mp new
        obtain ⟨state, named⟩ := entered.exists_transition swap
        rw [entered.scenario]
        exact accepts.transitions _ named
    obtain ⟨iteration, found, belongs⟩ := stored
    obtain ⟨later, still, precedes⟩ :=
      (Precedes.applyCommit swap now store).iterations found
    exact ⟨later, still, precedes.scenario.trans belongs⟩
  ranked := by
    intro id
    rw [publicationsOf_applyCommit entered]
    split
    · rename_i same
      subst same
      intro inBounds
      rw [List.length_append, List.length_singleton] at inBounds
      have ranked := recorded.ranked change.scenario (by omega)
      refine ranked.append inBounds ?_
      rw [entered.rank, ← accepts.rank]
      rfl
    · exact recorded.ranked id
  isLog := by
    intro id
    rw [publicationsOf_applyCommit entered]
    split
    · rename_i same
      subst same
      refine (recorded.isLog change.scenario).append ?_
      rw [← recorded.expectedLive accepts]
      exact entered.fits swap
    · exact recorded.isLog id
  live := by
    intro id later present
    rw [publicationsOf_applyCommit entered]
    obtain ⟨scenario, found, ⟨same, rfl⟩ | ⟨different, rfl⟩⟩ := applyCommit_scenarios now present
    · rw [if_pos same, Publication.liveIn_append, entered.leavesLive]
    · rw [if_neg different]
      exact recorded.live found
  state := by
    intro id later present
    rw [publicationsOf_applyCommit entered]
    rcases applyCommit_iterations swap now present with
      ⟨state, iteration, named, found, rfl⟩ | ⟨unnamed, found⟩
    · obtain ⟨same, foundSame, belongs⟩ := accepts.transitions (id, state) named
      rw [found] at foundSame
      cases foundSame
      show state = Publication.stateIn (if change.scenario = iteration.scenario then _ else _) id
      rw [if_pos belongs.symm, belongs]
      exact recorded.state_of_transition consistent accepts swap entered named
    · by_cases belongs : change.scenario = later.scenario
      · rw [if_pos belongs, ← belongs]
        exact recorded.stateIn_of_unnamed consistent accepts swap entered found belongs.symm unnamed
      · rw [if_neg belongs]
        exact recorded.state found

/-- Every step of a run leaves the store as its log says. -/
theorem becomes (recorded : store.Recorded) (consistent : store.Consistent)
    {next : ScenarioStore} (becomes : store.Becomes next) : next.Recorded := by
  cases becomes with
  | same left =>
    exact ⟨recorded.named, recorded.ranked, recorded.isLog, recorded.live, recorded.state⟩
  | scenario fresh draft => exact recorded.insertScenario consistent fresh rfl
  | iteration fresh found draft =>
    refine recorded.insertDraft ?_ rfl
    intro old present
    exact absurd rfl (Dict.ne_of_fresh fresh present)
  | edit found isDraft edit stamp =>
    refine recorded.insertDraft ?_ isDraft
    intro old present
    rw [found] at present
    cases present
    exact ⟨isDraft, rfl⟩
  | commit uninjected accepts grounds now =>
    exact recorded.applyCommit consistent accepts (grounds.allows consistent).swap grounds.entered
      now

end Recorded

end ScenarioStore

/-! ## Every run -/

namespace System

variable {system : System}

theorem Reachable.recorded (reachable : system.Reachable) : system.store.Recorded := by
  induction reachable with
  | start => exact .empty
  | step reachable fresh ih => exact ih.becomes reachable.sound.consistent (reachable.becomes fresh)

/-- A client that asks for the log of a scenario is told its entries in the order in which they were
made, as long as a word holds the ranks. -/
theorem Reachable.run_listing (reachable : system.Reachable) {before : List Event}
    (admits : system.Admits before) {client : Nat} {scenario : Uuid}
    {next : Except StoreError (List Publication) → Call PublicationResult}
    (asks : (system.run before).clients[client]? = some (.listPublications scenario next))
    (inBounds : ((system.run before).store.publicationsOf scenario).length < UInt32.size)
    (given : Stamp) (after : List Event) :
    system.run (before ++ .serve client given :: after) =
      System.run ⟨(system.run before).store, (system.run before).clients.set client
        (next (.ok ((system.run before).store.publicationsOf scenario)))⟩ after := by
  have recorded := (reachable.run admits).recorded
  rw [run_append, System.run, System.step, serve_of_getElem? asks, Call.answer,
    ScenarioStore.listPublications_of_ranked (recorded.ranked scenario inBounds)]

/-- In every state that a run reaches, and for every scenario: the ranks of its entries are the
numbers from one on, in the order in which the entries were made, as long as a word holds them. The
first entry is a publication; an entry that takes an iteration down comes right after the one that
published it, and no iteration is published twice in a row. What is live, and where each iteration
stands, is what the log says. Every entry names an iteration of its scenario, and no later step
changes or removes one. -/
theorem Reachable.log_tells (reachable : system.Reachable) :
    (∀ id scenario, system.store.scenarios.get? id = some scenario →
      ((system.store.publicationsOf id).length < UInt32.size →
        ((system.store.publicationsOf id).map fun entry => entry.rank.toNat) =
            List.range' 1 (system.store.publicationsOf id).length ∧
          system.store.listPublications id = system.store.publicationsOf id) ∧
      (∀ entry, (system.store.publicationsOf id).head? = some entry → entry.action = .publish) ∧
      (system.store.publicationsOf id).IsChain Publication.Follows ∧
      scenario.live = Publication.liveIn (system.store.publicationsOf id) ∧
      ∀ other iteration, system.store.iterations.get? other = some iteration →
        iteration.scenario = id →
        iteration.state = Publication.stateIn (system.store.publicationsOf id) other) ∧
    (∀ entry ∈ system.store.publications, ∃ iteration,
      system.store.iterations.get? entry.iteration = some iteration ∧
        iteration.scenario = entry.scenario) ∧
    ∀ events, system.Admits events →
      system.store.publications <+: (system.run events).store.publications := by
  have recorded := reachable.recorded
  refine ⟨fun id scenario found => ⟨fun inBounds => ?_, (recorded.isLog id).first,
    (recorded.isLog id).chain, recorded.live found, ?_⟩, recorded.named, fun events admits => ?_⟩
  · have ranked := recorded.ranked id inBounds
    exact ⟨ranked, ScenarioStore.listPublications_of_ranked ranked⟩
  · rintro other iteration stored rfl
    exact recorded.state stored
  · exact (reachable.evolves_run admits).precedes.publications

/-- Two drafts of a scenario: the first one goes live, and then the second one takes its place. -/
def replacement : List Event :=
  [.createScenario (.numbered 1) ⟨⟨7⟩, "transfers", "", "transactions"⟩,
    .createIteration (.numbered 2) ⟨1⟩ ⟨.bool true, [], 1, 2⟩,
    .createIteration (.numbered 3) ⟨1⟩ ⟨.bool false, [], 1, 2⟩] ++
  (.arrive (.publish 0 ⟨2⟩) :: (List.range 6).map fun n => .serve 0 (.numbered (10 + n))) ++
  (.arrive (.publish 0 ⟨3⟩) :: (List.range 7).map fun n => .serve 1 (.numbered (20 + n)))

theorem reachable_replacement : (start.run replacement).Reachable := by
  have admits : start.Admits replacement :=
    ⟨rfl, rfl, rfl, trivial, trivial, trivial, trivial, trivial, trivial, trivial, trivial, trivial,
      trivial, trivial, trivial, trivial, trivial, trivial, trivial⟩
  exact Reachable.start.run admits

/-- The log of the replacement has two entries. It says that the second draft is live, and that the
first one is superseded, and so they are. -/
theorem log_tells_replacement :
    (start.run replacement).Reachable ∧
    ((start.run replacement).store.publicationsOf ⟨1⟩).map
        (fun entry => (entry.rank.toNat, entry.action, entry.iteration)) =
      [(1, .publish, ⟨2⟩), (2, .publish, ⟨3⟩)] ∧
    (∃ scenario, (start.run replacement).store.scenarios.get? ⟨1⟩ = some scenario ∧
      scenario.live = some ⟨3⟩) ∧
    (∃ iteration, (start.run replacement).store.iterations.get? ⟨2⟩ = some iteration ∧
      iteration.state = .superseded) ∧
    ∃ iteration, (start.run replacement).store.iterations.get? ⟨3⟩ = some iteration ∧
      iteration.state = .live := by
  have isThere : ((start.run replacement).store.scenarios.get? ⟨1⟩).isSome = true := by
    with_unfolding_all rfl
  have ownerFirst : ((start.run replacement).store.iterations.get? ⟨2⟩).map Iteration.scenario =
      some ⟨1⟩ := by with_unfolding_all rfl
  have ownerSecond : ((start.run replacement).store.iterations.get? ⟨3⟩).map Iteration.scenario =
      some ⟨1⟩ := by with_unfolding_all rfl
  obtain ⟨scenario, found⟩ := Option.isSome_iff_exists.mp isThere
  obtain ⟨first, foundFirst, belongsFirst⟩ := Option.map_eq_some_iff.mp ownerFirst
  obtain ⟨second, foundSecond, belongsSecond⟩ := Option.map_eq_some_iff.mp ownerSecond
  obtain ⟨-, -, -, live, states⟩ := reachable_replacement.log_tells.1 ⟨1⟩ scenario found
  refine ⟨reachable_replacement, ?_, ⟨scenario, found, ?_⟩, ⟨first, foundFirst, ?_⟩, second,
    foundSecond, ?_⟩
  · with_unfolding_all rfl
  · rw [live]
    with_unfolding_all rfl
  · rw [states _ first foundFirst belongsFirst]
    with_unfolding_all rfl
  · rw [states _ second foundSecond belongsSecond]
    with_unfolding_all rfl

end System

end RiskScoring
