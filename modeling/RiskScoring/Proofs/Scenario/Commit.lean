import RiskScoring.Scenario.Store

/-!
# What a commit checks and does

* `ScenarioStore.Accepts`: what a store has to look like for a commit to go through.
* `ScenarioStore.checkCommit_eq_ok`: the check finds out exactly that.
* `ScenarioStore.commit_cases`: a commit is applied as a whole, or it leaves the records alone.
* `ScenarioStore.get?_move_of_mem`, `ScenarioStore.get?_move_of_not_mem`: the iterations after it.
-/

namespace RiskScoring

/-! ## The greatest of a list -/

theorem word_max_le_iff (x y bound : UInt32) : max x y ≤ bound ↔ x ≤ bound ∧ y ≤ bound := by
  have unfolded : max x y = if x ≤ y then y else x := rfl
  rw [unfolded]
  simp only [UInt32.le_iff_toNat_le]
  split <;> omega

theorem foldl_max_le_iff {words : List UInt32} {first bound : UInt32} :
    words.foldl max first ≤ bound ↔ first ≤ bound ∧ ∀ word ∈ words, word ≤ bound := by
  induction words generalizing first with
  | nil => simp
  | cons word rest ih =>
    rw [List.foldl_cons, ih, word_max_le_iff, List.forall_mem_cons, and_assoc]

theorem greatest_le_iff {words : List UInt32} {bound : UInt32} :
    greatest words ≤ bound ↔ ∀ word ∈ words, word ≤ bound := by
  rw [greatest, foldl_max_le_iff]
  simp

/-- The order of the words does not matter. -/
theorem greatest_congr {words others : List UInt32}
    (same : ∀ word, word ∈ words ↔ word ∈ others) : greatest words = greatest others := by
  have bounds : ∀ bound, greatest words ≤ bound ↔ greatest others ≤ bound := by
    intro bound
    rw [greatest_le_iff, greatest_le_iff]
    simp only [same]
  exact UInt32.le_antisymm ((bounds _).mpr (UInt32.le_refl _)) ((bounds _).mp (UInt32.le_refl _))

namespace ScenarioStore

variable {store : ScenarioStore} {change : Commit}

/-- The log in order gives the rank that a commit compares. -/
theorem greatest_listPublications (store : ScenarioStore) (scenario : Uuid) :
    greatest ((store.listPublications scenario).map Publication.rank) =
      store.lastRank scenario := by
  refine greatest_congr fun rank => ?_
  rw [listPublications, List.mem_map, List.mem_map]
  simp only [List.mem_mergeSort]

/-! ## Requests -/

theorem getScenario_eq_ok {id : Uuid} {scenario : Scenario} :
    store.getScenario id = .ok scenario ↔ store.scenarios.get? id = some scenario := by
  unfold getScenario
  cases store.scenarios.get? id with
  | none => simp
  | some stored => simp

theorem getIteration_eq_ok {id : Uuid} {iteration : Iteration} :
    store.getIteration id = .ok iteration ↔ store.iterations.get? id = some iteration := by
  unfold getIteration
  cases store.iterations.get? id with
  | none => simp
  | some stored => simp

/-! ## The check -/

/-- Everything that a commit expects is so. -/
structure Accepts (store : ScenarioStore) (change : Commit) : Prop where
  scenario : ∃ scenario, store.scenarios.get? change.scenario = some scenario ∧
    scenario.live = change.expectedLive
  rank : store.lastRank change.scenario = change.expectedRank
  transitions : ∀ transition ∈ change.transitions, ∃ iteration,
    store.iterations.get? transition.1 = some iteration ∧ iteration.scenario = change.scenario
  iterations : ∀ expected ∈ change.expectedIterations, ∃ iteration,
    store.iterations.get? expected.1 = some iteration ∧ iteration.updatedAt = expected.2

theorem checkTransitions_eq_ok {scenario : Uuid} {transitions : List (Uuid × IterationState)} :
    store.checkTransitions scenario transitions = .ok () ↔
      ∀ transition ∈ transitions, ∃ iteration,
        store.iterations.get? transition.1 = some iteration ∧ iteration.scenario = scenario := by
  induction transitions with
  | nil => simp [checkTransitions]
  | cons transition rest ih =>
    rw [checkTransitions, List.forall_mem_cons]
    cases found : store.iterations.get? transition.1 with
    | none => simp
    | some iteration =>
      by_cases belongs : iteration.scenario = scenario
      · simp [belongs, ih]
      · simp [belongs]

theorem checkIterations_eq_ok {scenario : Uuid} {expected : List (Uuid × Instant)} :
    store.checkIterations scenario expected = .ok () ↔
      ∀ entry ∈ expected, ∃ iteration,
        store.iterations.get? entry.1 = some iteration ∧ iteration.updatedAt = entry.2 := by
  induction expected with
  | nil => simp [checkIterations]
  | cons entry rest ih =>
    rw [checkIterations, List.forall_mem_cons]
    cases found : store.iterations.get? entry.1 with
    | none => simp
    | some iteration =>
      by_cases unchanged : iteration.updatedAt = entry.2
      · simp [unchanged, ih]
      · simp [unchanged]

/-- A commit passes its check exactly if everything that it expects is so. -/
theorem checkCommit_eq_ok : store.checkCommit change = .ok () ↔ store.Accepts change := by
  unfold checkCommit
  constructor
  · intro passes
    cases found : store.getScenario change.scenario with
    | error error => rw [found] at passes; cases passes
    | ok scenario =>
      by_cases moved : scenario.live ≠ change.expectedLive ∨
          store.lastRank change.scenario ≠ change.expectedRank
      · simp only [found, bind, Except.bind, if_pos moved] at passes
        cases passes
      · simp only [found, bind, Except.bind, if_neg moved] at passes
        cases transitions : store.checkTransitions change.scenario change.transitions with
        | error error => rw [transitions] at passes; cases passes
        | ok checked =>
          rw [transitions] at passes
          rw [not_or, Decidable.not_not, Decidable.not_not] at moved
          exact ⟨⟨scenario, getScenario_eq_ok.mp found, moved.1⟩, moved.2,
            checkTransitions_eq_ok.mp transitions, checkIterations_eq_ok.mp passes⟩
  · intro accepts
    obtain ⟨scenario, found, live⟩ := accepts.scenario
    have transitions := checkTransitions_eq_ok.mpr accepts.transitions
    have iterations : store.checkIterations change.scenario change.expectedIterations = .ok () :=
      checkIterations_eq_ok.mpr accepts.iterations
    simp [getScenario_eq_ok.mpr found, live, accepts.rank, transitions, iterations, bind,
      Except.bind]

theorem commit_of_accepts (uninjected : store.injectedConflicts = 0)
    (accepts : store.Accepts change) (now : Instant) :
    store.commit now change = (.ok (), store.applyCommit now change) := by
  rw [commit, if_pos uninjected, checkCommit_eq_ok.mpr accepts]

/-- A commit is applied as a whole, or it leaves the records as they are. -/
theorem commit_cases (store : ScenarioStore) (now : Instant) (change : Commit) :
    store.injectedConflicts = 0 ∧ store.Accepts change ∧
        store.commit now change = (.ok (), store.applyCommit now change) ∨
      ∃ error left,
        store.commit now change = (.error error, { store with injectedConflicts := left }) := by
  by_cases uninjected : store.injectedConflicts = 0
  · cases checked : store.checkCommit change with
    | ok done =>
      have accepts := checkCommit_eq_ok.mp checked
      exact Or.inl ⟨uninjected, accepts, commit_of_accepts uninjected accepts now⟩
    | error error =>
      refine Or.inr ⟨error, store.injectedConflicts, ?_⟩
      rw [commit, if_pos uninjected, checked]
  · refine Or.inr ⟨.conflict change.scenario, store.injectedConflicts - 1, ?_⟩
    rw [commit, if_neg uninjected]

/-- What a commit that went through says about the store before it, and the store after it. -/
theorem commit_eq_ok {now : Instant} {after : ScenarioStore}
    (succeeds : store.commit now change = (.ok (), after)) :
    store.injectedConflicts = 0 ∧ store.Accepts change ∧
      after = store.applyCommit now change := by
  rcases store.commit_cases now change with ⟨uninjected, accepts, applied⟩ | ⟨error, left, refused⟩
  · rw [applied] at succeeds
    exact ⟨uninjected, accepts, (Prod.mk.inj succeeds).2.symm⟩
  · rw [refused] at succeeds
    cases (Prod.mk.inj succeeds).1

/-! ## The changes -/

theorem get?_setLive (scenarios : Dict Uuid Scenario) (id other : Uuid) (live : Option Uuid) :
    (setLive scenarios id live).get? other =
      (scenarios.get? other).map fun scenario =>
        if id = other then { scenario with live } else scenario := by
  unfold setLive
  cases found : scenarios.get? id with
  | none =>
    cases present : scenarios.get? other with
    | none => rfl
    | some scenario => simp [Dict.ne_of_fresh found present]
  | some scenario =>
    simp only [Dict.get?_insert]
    by_cases same : id = other
    · subst same
      simp [found]
    · simp [same]

theorem get?_moveIteration (now : Instant) (iterations : Dict Uuid Iteration)
    (transition : Uuid × IterationState) (id : Uuid) :
    (moveIteration now iterations transition).get? id =
      (iterations.get? id).map fun iteration =>
        if transition.1 = id then { iteration with state := transition.2, updatedAt := now }
        else iteration := by
  unfold moveIteration
  cases found : iterations.get? transition.1 with
  | none =>
    cases present : iterations.get? id with
    | none => rfl
    | some iteration => simp [Dict.ne_of_fresh found present]
  | some iteration =>
    simp only [Dict.get?_insert]
    by_cases same : transition.1 = id
    · subst same
      simp [found]
    · simp [same]

/-- An iteration that no transition names stays as it is. -/
theorem get?_move_of_not_mem (now : Instant) {transitions : List (Uuid × IterationState)}
    {iterations : Dict Uuid Iteration} {id : Uuid} (unnamed : id ∉ transitions.map Prod.fst) :
    (transitions.foldl (moveIteration now) iterations).get? id = iterations.get? id := by
  induction transitions generalizing iterations with
  | nil => rfl
  | cons transition rest ih =>
    rw [List.map_cons, List.mem_cons, not_or] at unnamed
    rw [List.foldl_cons, ih unnamed.2, get?_moveIteration]
    simp [Ne.symm unnamed.1]

/-- An iteration that one transition names moves to its state. -/
theorem get?_move_of_mem (now : Instant) {transitions : List (Uuid × IterationState)}
    {iterations : Dict Uuid Iteration} (distinct : (transitions.map Prod.fst).Nodup)
    {id : Uuid} {state : IterationState} (named : (id, state) ∈ transitions) :
    (transitions.foldl (moveIteration now) iterations).get? id =
      (iterations.get? id).map fun iteration => { iteration with state, updatedAt := now } := by
  induction transitions generalizing iterations with
  | nil => cases named
  | cons transition rest ih =>
    rw [List.map_cons, List.nodup_cons] at distinct
    rw [List.foldl_cons]
    rcases List.mem_cons.mp named with rfl | later
    · rw [get?_move_of_not_mem now distinct.1, get?_moveIteration]
      simp
    · have other : transition.1 ≠ id := by
        rintro rfl
        exact distinct.1 (List.mem_map.mpr ⟨_, later, rfl⟩)
      rw [ih distinct.2 later, get?_moveIteration]
      simp [other]

end ScenarioStore

end RiskScoring
