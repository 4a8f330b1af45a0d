import RiskScoring.Proofs.Publication.Recorded

/-!
# The part of a store that belongs to a scenario

All scenarios share the dictionaries and the log of a store, but what concerns one of them can be
told apart: its record, its iterations and its publications. A change that concerns one scenario
leaves the parts of all others as they are, and acts on its own part alone.

* `ScenarioStore.SameFor`: two stores hold the same of a scenario.
* `Effect`: what an operation makes of a store, and `Effect.FitsIn`: an effect on one scenario.
* `Effect.FitsIn.elsewhere`, `Effect.FitsIn.alike`: other parts stay, and the part of the scenario
  changes in the same way wherever it is the same.
-/

namespace RiskScoring

namespace Dict

variable {κ α β : Type} [DecidableEq κ] {dict : Dict κ α} {key : κ}

/-- The value of a new key comes last. -/
theorem values_insert_of_fresh (fresh : dict.get? key = none) (value : α) :
    (dict.insert key value).values = dict.values ++ [value] := by
  have entries : (dict.insert key value).entries = dict.entries ++ [(key, value)] :=
    insertEntry_of_fresh (find?_eq_none.mp fresh) value
  rw [values, entries, List.map_append]
  rfl

/-- What the values of a key have in common stays when one takes the place of the other. -/
theorem map_values_insert_of_found {old new : α} (found : dict.get? key = some old) {f : α → β}
    (same : f new = f old) : (dict.insert key new).values.map f = dict.values.map f := by
  have listed : key ∈ dict.entries.map Prod.fst := List.mem_map_of_mem (get?_eq_some.mp found)
  have entries : (dict.insert key new).entries =
      dict.entries.map fun entry => if entry.1 = key then (key, new) else entry :=
    insertEntry_of_mem dict.distinct listed new
  simp only [values, entries, List.map_map]
  refine List.map_congr_left fun entry isEntry => ?_
  by_cases isKey : entry.1 = key
  · have stored := get?_eq_some.mpr isEntry
    rw [isKey, found] at stored
    cases stored
    simp only [Function.comp, if_pos isKey, same]
  · simp only [Function.comp, if_neg isKey]

end Dict

namespace ScenarioStore

/-- The stores hold the same of a scenario. -/
structure SameFor (scenario : Uuid) (one other : ScenarioStore) : Prop where
  record : one.scenarios.get? scenario = other.scenarios.get? scenario
  iterations : one.iterationsOf scenario = other.iterationsOf scenario
  publications : one.publicationsOf scenario = other.publicationsOf scenario

variable {store one other : ScenarioStore} {scenario : Uuid}

/-! ## Iterations by scenario -/

/-- Every iteration is stored under its own identifier. -/
def Keyed (store : ScenarioStore) : Prop :=
  ∀ ⦃id iteration⦄, store.iterations.get? id = some iteration → iteration.id = id

theorem mem_iterationsOf (keyed : store.Keyed) {iteration : Iteration} :
    iteration ∈ store.iterationsOf scenario ↔
      store.iterations.get? iteration.id = some iteration ∧ iteration.scenario = scenario := by
  simp only [iterationsOf, Dict.values, List.mem_filter, List.mem_map, beq_iff_eq, Prod.exists,
    exists_eq_right]
  constructor
  · intro listed
    rcases listed with ⟨⟨id, listed⟩, belongs⟩
    have found := Dict.get?_eq_some.mpr listed
    rw [keyed found]
    exact ⟨found, belongs⟩
  · intro held
    exact ⟨⟨iteration.id, Dict.get?_eq_some.mp held.1⟩, held.2⟩

/-- A new iteration comes last among those of its scenario. -/
theorem iterationsOf_insert_of_fresh {id : Uuid} (fresh : store.iterations.get? id = none)
    (new : Iteration) :
    iterationsOf { store with iterations := store.iterations.insert id new } scenario =
      store.iterationsOf scenario ++ if new.scenario = scenario then [new] else [] := by
  rw [iterationsOf, iterationsOf, Dict.values_insert_of_fresh fresh, List.filter_append]
  by_cases belongs : new.scenario = scenario <;> simp [belongs]

/-- An iteration that takes the place of another one of the same scenario. -/
theorem iterationsOf_insert_of_found (keyed : store.Keyed) {id : Uuid} {old : Iteration}
    (found : store.iterations.get? id = some old) {new : Iteration}
    (belongs : new.scenario = old.scenario) :
    iterationsOf { store with iterations := store.iterations.insert id new } scenario =
      (store.iterationsOf scenario).map fun iteration =>
        if iteration.id = id then new else iteration := by
  have listed : id ∈ store.iterations.entries.map Prod.fst :=
    List.mem_map_of_mem (Dict.get?_eq_some.mp found)
  let replace (iteration : Iteration) : Iteration := if iteration.id = id then new else iteration
  have values : (store.iterations.insert id new).values =
      store.iterations.values.map replace := by
    have entries : (store.iterations.insert id new).entries = store.iterations.entries.map
        fun entry => if entry.1 = id then (id, new) else entry :=
      Dict.insertEntry_of_mem store.iterations.distinct listed new
    simp only [Dict.values, entries, List.map_map]
    refine List.map_congr_left fun entry isEntry => ?_
    have hasId := keyed (Dict.get?_eq_some.mpr isEntry)
    simp only [Function.comp, replace, hasId]
    split <;> rfl
  -- What is replaced has the scenario of its replacement, so the selection stays the same.
  have selected : ∀ iteration ∈ store.iterations.values,
      ((replace iteration).scenario == scenario) = (iteration.scenario == scenario) := by
    intro iteration isValue
    obtain ⟨entry, isEntry, rfl⟩ := List.mem_map.mp isValue
    have stored := Dict.get?_eq_some.mpr isEntry
    by_cases same : entry.2.id = id
    · rw [← keyed stored, same, found] at stored
      cases stored
      simp only [replace, if_pos same, belongs]
    · simp only [replace, if_neg same]
  show (store.iterations.insert id new).values.filter _ = _
  rw [values, List.filter_map]
  exact congrArg (List.map replace) (List.filter_congr selected)

namespace SameFor

theorem refl (store : ScenarioStore) (scenario : Uuid) : store.SameFor scenario store :=
  ⟨rfl, rfl, rfl⟩

theorem symm (same : one.SameFor scenario other) : other.SameFor scenario one :=
  ⟨same.record.symm, same.iterations.symm, same.publications.symm⟩

theorem trans {another : ScenarioStore} (first : one.SameFor scenario other)
    (second : other.SameFor scenario another) : one.SameFor scenario another :=
  ⟨first.record.trans second.record, first.iterations.trans second.iterations,
    first.publications.trans second.publications⟩

/-- An iteration of the scenario is found in both stores. -/
theorem found (same : one.SameFor scenario other) (consistent : one.Consistent)
    (consistentOther : other.Consistent) {id : Uuid} {iteration : Iteration}
    (found : one.iterations.get? id = some iteration) (belongs : iteration.scenario = scenario) :
    other.iterations.get? id = some iteration := by
  have hasId : iteration.id = id := consistent.iteration_id found
  subst hasId
  have listed := (mem_iterationsOf consistent.iteration_id).mpr ⟨found, belongs⟩
  rw [same.iterations] at listed
  exact ((mem_iterationsOf consistentOther.iteration_id).mp listed).1

theorem getScenario (same : one.SameFor scenario other) :
    one.getScenario scenario = other.getScenario scenario := by
  rw [ScenarioStore.getScenario, ScenarioStore.getScenario, same.record]

theorem nextVersion (same : one.SameFor scenario other) :
    one.nextVersion scenario = other.nextVersion scenario := by
  rw [ScenarioStore.nextVersion, ScenarioStore.nextVersion, same.iterations]

theorem lastRank (same : one.SameFor scenario other) :
    one.lastRank scenario = other.lastRank scenario := by
  rw [ScenarioStore.lastRank, ScenarioStore.lastRank, same.publications]

theorem listIterations (same : one.SameFor scenario other) :
    one.listIterations scenario = other.listIterations scenario := by
  rw [ScenarioStore.listIterations, ScenarioStore.listIterations, same.iterations]

theorem listPublications (same : one.SameFor scenario other) :
    one.listPublications scenario = other.listPublications scenario := by
  rw [ScenarioStore.listPublications, ScenarioStore.listPublications, same.publications]

end SameFor

end ScenarioStore

/-! ## Iterations after a commit -/

/-- The iteration after a transition, if that names it. -/
def Iteration.moved (now : Instant) (iteration : Iteration)
    (transition : Uuid × IterationState) : Iteration :=
  if iteration.id = transition.1 then { iteration with state := transition.2, updatedAt := now }
  else iteration

/-- An iteration that no transition names stays as it is. -/
theorem Iteration.foldl_moved_of_unnamed (now : Instant) {iteration : Iteration}
    {transitions : List (Uuid × IterationState)}
    (unnamed : ∀ transition ∈ transitions, transition.1 ≠ iteration.id) :
    transitions.foldl (moved now) iteration = iteration := by
  induction transitions with
  | nil => rfl
  | cons transition rest ih =>
    obtain ⟨first, others⟩ := List.forall_mem_cons.mp unnamed
    rw [List.foldl_cons, moved, if_neg (Ne.symm first), ih others]

namespace ScenarioStore

variable {store one other : ScenarioStore} {scenario : Uuid}

theorem Keyed.moveIteration (keyed : store.Keyed) (now : Instant)
    (transition : Uuid × IterationState) :
    Keyed { store with iterations := moveIteration now store.iterations transition } := by
  intro id later found
  simp only [get?_moveIteration, Option.map_eq_some_iff] at found
  obtain ⟨iteration, stored, rfl⟩ := found
  have hasId := keyed stored
  split
  · exact hasId
  · exact hasId

theorem iterationsOf_moveIteration (keyed : store.Keyed) (now : Instant)
    (transition : Uuid × IterationState) :
    iterationsOf { store with iterations := moveIteration now store.iterations transition }
        scenario = (store.iterationsOf scenario).map (·.moved now transition) := by
  unfold moveIteration
  cases found : store.iterations.get? transition.1 with
  | none =>
    refine ((List.map_congr_left fun iteration listed => ?_).trans (List.map_id _)).symm
    have stored := ((mem_iterationsOf keyed).mp listed).1
    exact if_neg (Dict.ne_of_fresh found stored).symm
  | some old =>
    let new : Iteration := { old with state := transition.2, updatedAt := now }
    have belongs : new.scenario = old.scenario := rfl
    refine (iterationsOf_insert_of_found keyed found belongs).trans ?_
    refine List.map_congr_left fun iteration listed => ?_
    have stored := ((mem_iterationsOf keyed).mp listed).1
    unfold Iteration.moved
    split
    · rename_i same
      rw [same, found] at stored
      cases stored
      rfl
    · rfl

/-- The iterations of a scenario after a commit, each moved by the transitions that name it. -/
theorem iterationsOf_applyCommit (keyed : store.Keyed) (now : Instant) (change : Commit) :
    (store.applyCommit now change).iterationsOf scenario =
      (store.iterationsOf scenario).map fun iteration =>
        change.transitions.foldl (Iteration.moved now) iteration := by
  have moved : ∀ (transitions : List (Uuid × IterationState)) (store : ScenarioStore),
      store.Keyed → iterationsOf { store with
        iterations := transitions.foldl (moveIteration now) store.iterations } scenario =
      (store.iterationsOf scenario).map fun iteration =>
        transitions.foldl (Iteration.moved now) iteration := by
    intro transitions
    induction transitions with
    | nil => exact fun store _ => (List.map_id _).symm
    | cons transition rest ih =>
      intro store keyed
      refine (ih _ (keyed.moveIteration now transition)).trans ?_
      rw [iterationsOf_moveIteration keyed, List.map_map]
      rfl
  exact moved change.transitions store keyed

end ScenarioStore

/-! ## Effects -/

/-- What an operation makes of a store. -/
inductive Effect where
  | unchanged
  /-- An iteration comes, or takes the place of the one that has its identifier. -/
  | put (iteration : Iteration)
  | commit (now : Instant) (change : Commit)

namespace Effect

/-- The store after an effect. -/
def apply (store : ScenarioStore) : Effect → ScenarioStore
  | unchanged => store
  | put iteration =>
    { store with iterations := store.iterations.insert iteration.id iteration }
  | commit now change => store.applyCommit now change

/-- The entries that an effect adds to the log. -/
def entries : Effect → List Publication
  | commit _ change => [change.publication]
  | _ => []

/-- The effect is one on a scenario of the store: a draft of it comes or takes the place of one, or
an attempt commits what it has grounds for. -/
inductive FitsIn (scenario : Uuid) (store : ScenarioStore) : Effect → Prop
  | unchanged : FitsIn scenario store .unchanged
  | put {iteration : Iteration} (belongs : iteration.scenario = scenario)
    (isDraft : iteration.state = .draft)
    (owner : ∃ record, store.scenarios.get? scenario = some record)
    (replaces : ∀ old, store.iterations.get? iteration.id = some old →
      old.state = .draft ∧ old.scenario = scenario) :
    FitsIn scenario store (.put iteration)
  | commit {goal : Goal} {change : Commit} (now : Instant) (concerns : change.scenario = scenario)
    (accepts : store.Accepts change) (grounds : Grounds store goal change) :
    FitsIn scenario store (.commit now change)

variable {store one other : ScenarioStore} {scenario another : Uuid} {effect : Effect}

@[simp]
theorem publications_apply (store : ScenarioStore) (effect : Effect) :
    (effect.apply store).publications = store.publications ++ effect.entries := by
  cases effect <;> simp [apply, entries, ScenarioStore.applyCommit]

@[simp]
theorem injectedConflicts_apply (store : ScenarioStore) (effect : Effect) :
    (effect.apply store).injectedConflicts = store.injectedConflicts := by
  cases effect <;> rfl

namespace FitsIn

theorem consistent (fits : effect.FitsIn scenario store) (consistent : store.Consistent) :
    (effect.apply store).Consistent := by
  cases fits with
  | unchanged => exact consistent
  | put belongs isDraft owner replaces =>
    exact consistent.insertDraft (fun old found => (replaces old found).1) rfl
      (belongs ▸ owner) isDraft
  | commit now concerns accepts grounds =>
    exact consistent.applyCommit accepts (grounds.allows consistent) now

/-- An effect on a scenario leaves the parts of all others. -/
theorem elsewhere (fits : effect.FitsIn scenario store) (consistent : store.Consistent)
    (different : scenario ≠ another) : store.SameFor another (effect.apply store) := by
  cases fits with
  | unchanged => exact ⟨rfl, rfl, rfl⟩
  | @put iteration belongs isDraft owner replaces =>
    refine ⟨rfl, ?_, rfl⟩
    cases found : store.iterations.get? iteration.id with
    | none =>
      rw [apply, ScenarioStore.iterationsOf_insert_of_fresh found,
        if_neg (belongs ▸ different), List.append_nil]
    | some old =>
      have owned := (replaces old found).2
      rw [apply, ScenarioStore.iterationsOf_insert_of_found consistent.iteration_id found
        (belongs.trans owned.symm)]
      refine ((List.map_congr_left fun other listed => if_neg fun same => ?_).trans
        (List.map_id _)).symm
      -- The iterations elsewhere are stored under other identifiers.
      obtain ⟨stored, belongsElsewhere⟩ :=
        (ScenarioStore.mem_iterationsOf consistent.iteration_id).mp listed
      rw [same, found] at stored
      cases stored
      exact different (owned.symm.trans belongsElsewhere)
  | @commit goal change now concerns accepts grounds =>
    have entered := grounds.entered
    refine ⟨?_, ?_, ?_⟩
    · show _ = (ScenarioStore.setLive _ _ _).get? another
      rw [ScenarioStore.get?_setLive]
      simp only [if_neg (concerns ▸ different : change.scenario ≠ another), Option.map_id']
    · rw [apply, ScenarioStore.iterationsOf_applyCommit consistent.iteration_id]
      refine ((List.map_congr_left fun iteration listed => ?_).trans (List.map_id _)).symm
      refine Iteration.foldl_moved_of_unnamed now fun transition named same => ?_
      obtain ⟨stored, belongsElsewhere⟩ :=
        (ScenarioStore.mem_iterationsOf consistent.iteration_id).mp listed
      obtain ⟨moved, found, belongs⟩ := accepts.transitions transition named
      rw [same, stored] at found
      cases found
      exact different (concerns.symm.trans (belongs.symm.trans belongsElsewhere))
    · rw [apply, ScenarioStore.Recorded.publicationsOf_applyCommit entered,
        if_neg (concerns ▸ different)]

/-- An effect on a scenario acts alike on stores that hold the same of it. -/
theorem alike (fits : effect.FitsIn scenario one) (fitsOther : effect.FitsIn scenario other)
    (consistent : one.Consistent) (consistentOther : other.Consistent)
    (same : one.SameFor scenario other) :
    (effect.apply one).SameFor scenario (effect.apply other) := by
  cases fits with
  | unchanged => exact same
  | @put iteration belongs isDraft owner replaces =>
    refine ⟨same.record, ?_, same.publications⟩
    cases fitsOther with
    | put _ _ _ replacesOther =>
    cases found : one.iterations.get? iteration.id with
    | some old =>
      have owned := (replaces old found).2
      have foundOther := same.found consistent consistentOther found owned
      have keeps : iteration.scenario = old.scenario := belongs.trans owned.symm
      rw [apply, apply,
        ScenarioStore.iterationsOf_insert_of_found consistent.iteration_id found keeps,
        ScenarioStore.iterationsOf_insert_of_found consistentOther.iteration_id foundOther keeps,
        same.iterations]
    | none =>
      have freshOther : other.iterations.get? iteration.id = none := by
        cases foundOther : other.iterations.get? iteration.id with
        | none => rfl
        | some old =>
          have owned := (replacesOther old foundOther).2
          have back := same.symm.found consistentOther consistent foundOther owned
          rw [found] at back
          cases back
      rw [apply, apply, ScenarioStore.iterationsOf_insert_of_fresh found,
        ScenarioStore.iterationsOf_insert_of_fresh freshOther, same.iterations]
  | @commit goal change now concerns accepts grounds =>
    have entered := grounds.entered
    refine ⟨?_, ?_, ?_⟩
    · show (ScenarioStore.setLive _ _ _).get? scenario = (ScenarioStore.setLive _ _ _).get? scenario
      rw [ScenarioStore.get?_setLive, ScenarioStore.get?_setLive, same.record]
    · rw [apply, apply, ScenarioStore.iterationsOf_applyCommit consistent.iteration_id,
        ScenarioStore.iterationsOf_applyCommit consistentOther.iteration_id, same.iterations]
    · rw [apply, apply, ScenarioStore.Recorded.publicationsOf_applyCommit entered,
        ScenarioStore.Recorded.publicationsOf_applyCommit entered, same.publications]

end FitsIn

end Effect

end RiskScoring
