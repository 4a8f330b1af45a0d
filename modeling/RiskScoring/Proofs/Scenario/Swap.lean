import RiskScoring.Proofs.Scenario.Consistency

/-!
# Commits that swap the live iteration

* `Commit.IsSwap`: the shape of the commits of publishers. One iteration goes live in the place of
  another, or of none, or for none.
* `ScenarioStore.Accepts.mayMove`: in a consistent store that accepts a swap, each iteration may
  move to its new state.
* `ScenarioStore.Consistent.commit`, `ScenarioStore.Precedes.commit`: swaps keep a store consistent.
-/

namespace RiskScoring

namespace Commit

/-- What becomes of the iteration that was live: it is superseded if another one takes its place,
and otherwise unpublished. -/
def leaving (change : Commit) : IterationState :=
  if change.newLive.isSome then .superseded else .unpublished

/-- The commit makes one iteration live in the place of another, of none, or for none. -/
structure IsSwap (change : Commit) : Prop where
  changes : change.expectedLive ≠ change.newLive
  transitions : change.transitions =
    change.expectedLive.toList.map (·, change.leaving) ++
      change.newLive.toList.map (·, IterationState.live)

theorem leaving_ne_draft (change : Commit) : change.leaving ≠ .draft := by
  unfold leaving
  split <;> decide

theorem leaving_ne_live (change : Commit) : change.leaving ≠ .live := by
  unfold leaving
  split <;> decide

theorem live_mayBecome_leaving (change : Commit) :
    IterationState.live.mayBecome change.leaving = true := by
  unfold leaving
  split <;> rfl

variable {change : Commit}

/-- A swap moves the iteration that was live and the one that will be. -/
theorem IsSwap.mem_transitions (swap : change.IsSwap) {id : Uuid} {state : IterationState} :
    (id, state) ∈ change.transitions ↔
      change.expectedLive = some id ∧ state = change.leaving ∨
        change.newLive = some id ∧ state = .live := by
  rw [swap.transitions, List.mem_append]
  simp only [List.mem_map, Option.mem_toList, Prod.mk.injEq]
  constructor
  · rintro (⟨old, isOld, rfl, rfl⟩ | ⟨new, isNew, rfl, rfl⟩)
    · exact Or.inl ⟨isOld, rfl⟩
    · exact Or.inr ⟨isNew, rfl⟩
  · rintro (⟨isOld, rfl⟩ | ⟨isNew, rfl⟩)
    · exact Or.inl ⟨id, isOld, rfl, rfl⟩
    · exact Or.inr ⟨id, isNew, rfl, rfl⟩

/-- Nothing becomes a draft again. -/
theorem IsSwap.ne_draft (swap : change.IsSwap) {id : Uuid} {state : IterationState}
    (named : (id, state) ∈ change.transitions) : state ≠ .draft := by
  rcases swap.mem_transitions.mp named with ⟨-, rfl⟩ | ⟨-, rfl⟩
  · exact change.leaving_ne_draft
  · decide

theorem IsSwap.distinct (swap : change.IsSwap) : (change.transitions.map Prod.fst).Nodup := by
  have changes := swap.changes
  rw [swap.transitions]
  cases old : change.expectedLive with
  | none =>
    cases new : change.newLive with
    | none => exact List.nodup_nil
    | some target => simp
  | some previous =>
    cases new : change.newLive with
    | none => simp
    | some target =>
      rw [old, new] at changes
      simpa using fun same => changes (congrArg some same)

end Commit

namespace ScenarioStore

variable {store : ScenarioStore} {change : Commit}

/-- A commit that may come: a swap that takes no invalid iteration live. -/
structure Allows (store : ScenarioStore) (change : Commit) : Prop where
  swap : change.IsSwap
  valid : store.Accepts change → ∀ {target iteration}, change.newLive = some target →
    store.iterations.get? target = some iteration → iteration.validateStructure.isValid = true

/-- The iteration that is expected to be live is, and belongs to the scenario of the commit. -/
theorem Accepts.expected_live (accepts : store.Accepts change) (consistent : store.Consistent)
    {id : Uuid} :
    change.expectedLive = some id ↔ ∃ iteration, store.iterations.get? id = some iteration ∧
      iteration.scenario = change.scenario ∧ iteration.state = .live := by
  obtain ⟨scenario, found, isExpected⟩ := accepts.scenario
  rw [← isExpected]
  exact consistent.live_iff found id

/-- When a swap is accepted, each iteration may move to its new state, from the state that it has
at that moment. -/
theorem Accepts.mayMove (accepts : store.Accepts change) (consistent : store.Consistent)
    (swap : change.IsSwap) {id : Uuid} {state : IterationState}
    (named : (id, state) ∈ change.transitions) :
    ∃ iteration, store.iterations.get? id = some iteration ∧
      iteration.scenario = change.scenario ∧ iteration.state.mayBecome state = true := by
  obtain ⟨iteration, found, belongs⟩ := accepts.transitions (id, state) named
  refine ⟨iteration, found, belongs, ?_⟩
  rcases swap.mem_transitions.mp named with ⟨isOld, rfl⟩ | ⟨isNew, rfl⟩
  · obtain ⟨live, foundLive, -, isLive⟩ := (accepts.expected_live consistent).mp isOld
    rw [foundLive] at found
    cases found
    rw [isLive]
    exact change.live_mayBecome_leaving
  · have notLive : iteration.state ≠ .live := by
      intro isLive
      have isOld := (accepts.expected_live consistent).mpr ⟨iteration, found, belongs, isLive⟩
      exact swap.changes (isOld.trans isNew.symm)
    cases reached : iteration.state with
    | live => exact absurd reached notLive
    | draft => rfl
    | superseded => rfl
    | unpublished => rfl

/-- The iterations after a swap: those that it names have moved, all others are as they were. -/
theorem applyCommit_iterations (swap : change.IsSwap) (now : Instant) {id : Uuid}
    {later : Iteration} (present : (store.applyCommit now change).iterations.get? id = some later) :
    (∃ state iteration, (id, state) ∈ change.transitions ∧
        store.iterations.get? id = some iteration ∧
        later = { iteration with state, updatedAt := now }) ∨
      id ∉ change.transitions.map Prod.fst ∧ store.iterations.get? id = some later := by
  have moved : (change.transitions.foldl (moveIteration now) store.iterations).get? id =
      some later := present
  by_cases named : id ∈ change.transitions.map Prod.fst
  · obtain ⟨⟨_, state⟩, listed, rfl⟩ := List.mem_map.mp named
    rw [get?_move_of_mem now swap.distinct listed, Option.map_eq_some_iff] at moved
    obtain ⟨iteration, found, rfl⟩ := moved
    exact Or.inl ⟨state, iteration, listed, found, rfl⟩
  · rw [get?_move_of_not_mem now named] at moved
    exact Or.inr ⟨named, moved⟩

/-- The iteration that one transition of a swap names is in its state afterwards. -/
theorem applyCommit_of_mem (swap : change.IsSwap) (now : Instant) {id : Uuid}
    {state : IterationState} {iteration : Iteration} (named : (id, state) ∈ change.transitions)
    (found : store.iterations.get? id = some iteration) :
    (store.applyCommit now change).iterations.get? id =
      some { iteration with state, updatedAt := now } := by
  have moved : (change.transitions.foldl (moveIteration now) store.iterations).get? id =
      (store.iterations.get? id).map fun iteration => { iteration with state, updatedAt := now } :=
    get?_move_of_mem now swap.distinct named
  rw [found] at moved
  exact moved

/-- An iteration that a commit does not name stays as it is. -/
theorem applyCommit_of_not_mem (now : Instant) {id : Uuid}
    (unnamed : id ∉ change.transitions.map Prod.fst) :
    (store.applyCommit now change).iterations.get? id = store.iterations.get? id :=
  get?_move_of_not_mem now unnamed

/-- The scenarios after a commit: the one of the commit has the new live iteration. -/
theorem applyCommit_scenarios (now : Instant) {id : Uuid} {later : Scenario}
    (present : (store.applyCommit now change).scenarios.get? id = some later) :
    ∃ scenario, store.scenarios.get? id = some scenario ∧
      (change.scenario = id ∧ later = { scenario with live := change.newLive } ∨
        change.scenario ≠ id ∧ later = scenario) := by
  have changed : (setLive store.scenarios change.scenario change.newLive).get? id = some later :=
    present
  rw [get?_setLive, Option.map_eq_some_iff] at changed
  obtain ⟨scenario, found, rfl⟩ := changed
  refine ⟨scenario, found, ?_⟩
  split
  · rename_i same
    exact Or.inl ⟨same, rfl⟩
  · rename_i different
    exact Or.inr ⟨different, rfl⟩

theorem Precedes.applyCommit (swap : change.IsSwap) (now : Instant) (store : ScenarioStore) :
    store.Precedes (store.applyCommit now change) where
  scenarios := by
    intro id scenario found
    have after : (store.applyCommit now change).scenarios.get? id =
        some (if change.scenario = id then { scenario with live := change.newLive }
          else scenario) := by
      show (setLive store.scenarios change.scenario change.newLive).get? id = _
      rw [get?_setLive, found]
      rfl
    by_cases same : change.scenario = id
    · exact ⟨change.newLive, by rw [after, if_pos same]⟩
    · exact ⟨scenario.live, by rw [after, if_neg same]⟩
  iterations := by
    intro id iteration found
    by_cases named : id ∈ change.transitions.map Prod.fst
    · obtain ⟨⟨_, state⟩, listed, rfl⟩ := List.mem_map.mp named
      exact ⟨_, applyCommit_of_mem swap now listed found,
        .move iteration now (swap.ne_draft listed)⟩
    · exact ⟨iteration, by rw [applyCommit_of_not_mem now named, found], .refl iteration⟩
  publications := List.prefix_append store.publications [change.publication]

/-- After a swap the new iteration is live, and no other one of the scenario is. -/
theorem swapped_live_iff (consistent : store.Consistent) (accepts : store.Accepts change)
    (swap : change.IsSwap) (now : Instant) {id : Uuid} :
    change.newLive = some id ↔ ∃ iteration,
      (store.applyCommit now change).iterations.get? id = some iteration ∧
        iteration.scenario = change.scenario ∧ iteration.state = .live := by
  constructor
  · intro isNew
    have named : (id, IterationState.live) ∈ change.transitions :=
      swap.mem_transitions.mpr (Or.inr ⟨isNew, rfl⟩)
    obtain ⟨iteration, found, belongs⟩ := accepts.transitions _ named
    exact ⟨_, applyCommit_of_mem swap now named found, belongs, rfl⟩
  · rintro ⟨later, present, belongs, isLive⟩
    rcases applyCommit_iterations swap now present with
      ⟨state, iteration, named, -, rfl⟩ | ⟨unnamed, found⟩
    · rcases swap.mem_transitions.mp named with ⟨-, rfl⟩ | ⟨isNew, -⟩
      · exact absurd isLive change.leaving_ne_live
      · exact isNew
    · -- An iteration that was live before is the expected one, and so it is named.
      have isOld := (accepts.expected_live consistent).mpr ⟨later, found, belongs, isLive⟩
      have named : (id, change.leaving) ∈ change.transitions :=
        swap.mem_transitions.mpr (Or.inl ⟨isOld, rfl⟩)
      exact absurd (List.mem_map_of_mem named) unnamed

/-- An accepted swap that is allowed keeps the store consistent. -/
theorem Consistent.applyCommit (consistent : store.Consistent) (accepts : store.Accepts change)
    (allows : store.Allows change) (now : Instant) :
    (store.applyCommit now change).Consistent where
  scenario_id := by
    intro id later present
    obtain ⟨scenario, found, ⟨-, rfl⟩ | ⟨-, rfl⟩⟩ := applyCommit_scenarios now present
    · have hasId : scenario.id = id := consistent.scenario_id found
      exact hasId
    · exact consistent.scenario_id found
  iteration_id := by
    intro id later present
    rcases applyCommit_iterations allows.swap now present with
      ⟨state, iteration, -, found, rfl⟩ | ⟨-, found⟩
    · have hasId : iteration.id = id := consistent.iteration_id found
      exact hasId
    · exact consistent.iteration_id found
  owner := by
    intro id later present
    have owned : ∃ scenario, store.scenarios.get? later.scenario = some scenario := by
      rcases applyCommit_iterations allows.swap now present with
        ⟨state, iteration, -, found, rfl⟩ | ⟨-, found⟩
      · have owned : ∃ scenario, store.scenarios.get? iteration.scenario = some scenario :=
          consistent.owner found
        exact owned
      · exact consistent.owner found
    obtain ⟨scenario, owns⟩ := owned
    obtain ⟨live, still⟩ := (Precedes.applyCommit allows.swap now store).scenarios owns
    exact ⟨_, still⟩
  live_iff := by
    intro id later present other
    obtain ⟨scenario, found, ⟨rfl, rfl⟩ | ⟨elsewhere, rfl⟩⟩ := applyCommit_scenarios now present
    · exact swapped_live_iff consistent accepts allows.swap now
    · rw [consistent.live_iff found other]
      by_cases named : other ∈ change.transitions.map Prod.fst
      · -- What the commit moves belongs to its own scenario.
        obtain ⟨⟨_, state⟩, listed, rfl⟩ := List.mem_map.mp named
        obtain ⟨iteration, stored, belongs⟩ := accepts.transitions (_, state) listed
        have moved := applyCommit_of_mem allows.swap now listed stored
        constructor
        · rintro ⟨same, stored', belongs', -⟩
          rw [stored] at stored'
          cases stored'
          exact absurd (belongs.symm.trans belongs') elsewhere
        · rintro ⟨same, stored', belongs', -⟩
          rw [moved] at stored'
          cases stored'
          exact absurd (belongs.symm.trans belongs') elsewhere
      · rw [applyCommit_of_not_mem now named]
  published_valid := by
    intro id later present published
    rcases applyCommit_iterations allows.swap now present with
      ⟨state, iteration, named, found, rfl⟩ | ⟨-, found⟩
    · have valid : iteration.validateStructure.isValid = true := by
        rcases allows.swap.mem_transitions.mp named with ⟨isOld, -⟩ | ⟨isNew, -⟩
        · obtain ⟨live, foundLive, -, isLive⟩ := (accepts.expected_live consistent).mp isOld
          rw [foundLive] at found
          cases found
          refine consistent.published_valid foundLive ?_
          rw [isLive]
          decide
        · exact allows.valid accepts isNew found
      exact valid
    · exact consistent.published_valid found published

theorem Consistent.commit (consistent : store.Consistent) (allows : store.Allows change)
    (now : Instant) : (store.commit now change).2.Consistent := by
  rcases store.commit_cases now change with ⟨-, accepts, applied⟩ | ⟨error, left, refused⟩
  · rw [applied]
    exact consistent.applyCommit accepts allows now
  · rw [refused]
    exact consistent.injectConflicts left

theorem Precedes.commit (swap : change.IsSwap) (now : Instant) (store : ScenarioStore) :
    store.Precedes (store.commit now change).2 := by
  rcases store.commit_cases now change with ⟨-, -, applied⟩ | ⟨error, left, refused⟩
  · rw [applied]
    exact .applyCommit swap now store
  · rw [refused]
    exact .injectConflicts store left

end ScenarioStore

end RiskScoring
