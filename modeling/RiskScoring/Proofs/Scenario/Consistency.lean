import RiskScoring.Proofs.Scenario.Commit
import RiskScoring.Scenario.Validation

/-!
# Consistent stores and how they change

* `ScenarioStore.Consistent`: the invariant of a store. The live iteration of a scenario is the one
  iteration of it that is live, and whatever has been live is valid.
* `Iteration.Precedes`, `ScenarioStore.Precedes`: what may become of records in time. A draft
  that is edited gets a later time of its last change, and an iteration that is no draft keeps its
  content for good.
* `ScenarioStore.Consistent.insertDraft`: drafts may come and be edited.
-/

namespace RiskScoring

theorem IterationState.isEditable_iff {state : IterationState} :
    state.isEditable = true ↔ state = .draft := by
  cases state <;> decide

/-! ## Records in time -/

/-- What may become of an iteration. -/
structure Iteration.Precedes (old new : Iteration) : Prop where
  id : new.id = old.id
  scenario : new.scenario = old.scenario
  version : new.version = old.version
  createdAt : new.createdAt = old.createdAt
  draft : new.state = .draft →
    old.state = .draft ∧ (new = old ∨ old.updatedAt.before new.updatedAt = true)
  frozen : old.state ≠ .draft →
    new = { old with state := new.state, updatedAt := new.updatedAt }

namespace Iteration

theorem Precedes.refl (iteration : Iteration) : iteration.Precedes iteration :=
  ⟨rfl, rfl, rfl, rfl, fun isDraft => ⟨isDraft, Or.inl rfl⟩, fun _ => rfl⟩

theorem Precedes.trans {x y z : Iteration} (first : x.Precedes y) (second : y.Precedes z) :
    x.Precedes z where
  id := second.id.trans first.id
  scenario := second.scenario.trans first.scenario
  version := second.version.trans first.version
  createdAt := second.createdAt.trans first.createdAt
  draft := by
    intro isDraft
    obtain ⟨middleDraft, later⟩ := second.draft isDraft
    obtain ⟨oldDraft, earlier⟩ := first.draft middleDraft
    refine ⟨oldDraft, ?_⟩
    rcases later with rfl | later
    · exact earlier
    · rcases earlier with rfl | earlier
      · exact Or.inr later
      · exact Or.inr (Instant.before_trans earlier later)
  frozen := by
    intro published
    have middle : y.state ≠ .draft := fun isDraft => published (first.draft isDraft).1
    rw [second.frozen middle, first.frozen published]

/-- Nothing becomes a draft again. -/
theorem Precedes.ne_draft {old new : Iteration} (precedes : old.Precedes new)
    (published : old.state ≠ .draft) : new.state ≠ .draft :=
  fun isDraft => published (precedes.draft isDraft).1

/-- A draft with the time of change that it had is the draft that it was. -/
theorem Precedes.eq_of_updatedAt {old new : Iteration} (precedes : old.Precedes new)
    (isDraft : new.state = .draft) (unchanged : new.updatedAt = old.updatedAt) : new = old := by
  rcases (precedes.draft isDraft).2 with same | later
  · exact same
  · rw [unchanged, Instant.before_irrefl] at later
    cases later

/-- A move to another state. What becomes a draft was one. -/
theorem Precedes.move (iteration : Iteration) {state : IterationState} (now : Instant)
    (moves : state ≠ .draft) :
    iteration.Precedes { iteration with state, updatedAt := now } :=
  ⟨rfl, rfl, rfl, rfl, fun isDraft => absurd isDraft moves, fun _ => rfl⟩

/-- An edit of a draft at whatever time the clock shows. -/
theorem Precedes.edit {iteration : Iteration} (isDraft : iteration.state = .draft)
    (edit : IterationEdit) (ids : Nat → Uuid) (now : Instant) :
    iteration.Precedes
      (edit.applyTo iteration ids (now.later iteration.updatedAt.next)) :=
  ⟨rfl, rfl, rfl, rfl,
    fun _ => ⟨isDraft, Or.inr (Instant.before_later_next now iteration.updatedAt)⟩,
    fun published => absurd isDraft published⟩

end Iteration

/-- What may become of a store: no record is lost, of a scenario only the live iteration changes,
and the log of publications grows at its end. -/
structure ScenarioStore.Precedes (old new : ScenarioStore) : Prop where
  scenarios : ∀ ⦃id scenario⦄, old.scenarios.get? id = some scenario →
    ∃ live, new.scenarios.get? id = some { scenario with live }
  iterations : ∀ ⦃id iteration⦄, old.iterations.get? id = some iteration →
    ∃ later, new.iterations.get? id = some later ∧ iteration.Precedes later
  publications : old.publications <+: new.publications

/-- The invariant of a store. -/
structure ScenarioStore.Consistent (store : ScenarioStore) : Prop where
  scenario_id : ∀ ⦃id scenario⦄, store.scenarios.get? id = some scenario → scenario.id = id
  iteration_id : ∀ ⦃id iteration⦄, store.iterations.get? id = some iteration → iteration.id = id
  owner : ∀ ⦃id iteration⦄, store.iterations.get? id = some iteration →
    ∃ scenario, store.scenarios.get? iteration.scenario = some scenario
  live_iff : ∀ ⦃id scenario⦄, store.scenarios.get? id = some scenario → ∀ other,
    scenario.live = some other ↔ ∃ iteration, store.iterations.get? other = some iteration ∧
      iteration.scenario = id ∧ iteration.state = .live
  published_valid : ∀ ⦃id iteration⦄, store.iterations.get? id = some iteration →
    iteration.state ≠ .draft → iteration.validateStructure.isValid = true

namespace ScenarioStore

variable {store : ScenarioStore} {change : Commit}

theorem Precedes.refl (store : ScenarioStore) : store.Precedes store :=
  ⟨fun _ scenario found => ⟨scenario.live, found⟩,
    fun _ iteration found => ⟨iteration, found, .refl iteration⟩, List.prefix_rfl⟩

theorem Precedes.trans {x y z : ScenarioStore} (first : x.Precedes y) (second : y.Precedes z) :
    x.Precedes z where
  scenarios := by
    intro id scenario found
    obtain ⟨_, middle⟩ := first.scenarios found
    obtain ⟨live, last⟩ := second.scenarios middle
    exact ⟨live, last⟩
  iterations := by
    intro id iteration found
    obtain ⟨middle, foundMiddle, earlier⟩ := first.iterations found
    obtain ⟨last, foundLast, later⟩ := second.iterations foundMiddle
    exact ⟨last, foundLast, earlier.trans later⟩
  publications := first.publications.trans second.publications

theorem Consistent.empty : empty.Consistent :=
  ⟨by simp [ScenarioStore.empty], by simp [ScenarioStore.empty], by simp [ScenarioStore.empty],
    by simp [ScenarioStore.empty], by simp [ScenarioStore.empty]⟩

/-! ## New records and edits -/

theorem Precedes.createScenario {stamp : Stamp} (fresh : store.scenarios.get? stamp.id = none)
    (draft : ScenarioDraft) : store.Precedes (store.createScenario stamp draft).2 where
  scenarios := by
    intro id scenario found
    exact ⟨scenario.live, Dict.get?_insert_of_fresh fresh found (draft.toScenario stamp)⟩
  iterations _ iteration found := ⟨iteration, found, .refl iteration⟩
  publications := List.prefix_rfl

/-- A new scenario has no iterations, so none of them is live. -/
theorem Consistent.createScenario (consistent : store.Consistent) {stamp : Stamp}
    (fresh : store.scenarios.get? stamp.id = none) (draft : ScenarioDraft) :
    (store.createScenario stamp draft).2.Consistent where
  scenario_id := by
    intro id scenario found
    simp only [ScenarioStore.createScenario, Dict.get?_insert] at found
    split at found
    · rename_i same
      cases found
      exact same
    · exact consistent.scenario_id found
  iteration_id := consistent.iteration_id
  owner := by
    intro id iteration found
    obtain ⟨scenario, owns⟩ := consistent.owner found
    obtain ⟨live, still⟩ := (Precedes.createScenario fresh draft).scenarios owns
    exact ⟨_, still⟩
  live_iff := by
    intro id scenario found other
    simp only [ScenarioStore.createScenario, Dict.get?_insert] at found
    split at found
    · rename_i same
      cases found
      constructor
      · intro isLive
        cases isLive
      · rintro ⟨iteration, stored, belongs, -⟩
        obtain ⟨scenario, owns⟩ := consistent.owner stored
        have other := Dict.ne_of_fresh fresh owns
        exact absurd (same.trans belongs.symm) other
    · exact consistent.live_iff found other
  published_valid := consistent.published_valid

/-- A draft that takes a free place, or the place of a draft, leaves all that is live alone. -/
theorem Consistent.insertDraft (consistent : store.Consistent) {id : Uuid} {new : Iteration}
    (replaces : ∀ old, store.iterations.get? id = some old → old.state = .draft)
    (hasId : new.id = id)
    (owner : ∃ scenario, store.scenarios.get? new.scenario = some scenario)
    (isDraft : new.state = .draft) :
    Consistent { store with iterations := store.iterations.insert id new } := by
  have stored : ∀ ⦃other iteration⦄,
      (store.iterations.insert id new).get? other = some iteration →
      (id = other ∧ iteration = new) ∨ store.iterations.get? other = some iteration := by
    intro other iteration present
    rw [Dict.get?_insert] at present
    split at present
    · rename_i same
      cases present
      exact Or.inl ⟨same, rfl⟩
    · exact Or.inr present
  refine ⟨consistent.scenario_id, ?_, ?_, ?_, ?_⟩
  · intro other iteration present
    rcases stored present with ⟨rfl, rfl⟩ | earlier
    · exact hasId
    · exact consistent.iteration_id earlier
  · intro other iteration present
    rcases stored present with ⟨rfl, rfl⟩ | earlier
    · exact owner
    · exact consistent.owner earlier
  · intro scenarioId scenario present other
    rw [consistent.live_iff present other]
    constructor
    · rintro ⟨iteration, earlier, belongs, isLive⟩
      have different : id ≠ other := by
        rintro rfl
        rw [replaces iteration earlier] at isLive
        cases isLive
      exact ⟨iteration, by rw [Dict.get?_insert, if_neg different, earlier], belongs, isLive⟩
    · rintro ⟨iteration, later, belongs, isLive⟩
      rcases stored later with ⟨rfl, rfl⟩ | earlier
      · rw [isDraft] at isLive
        cases isLive
      · exact ⟨iteration, earlier, belongs, isLive⟩
  · intro other iteration present published
    rcases stored present with ⟨rfl, rfl⟩ | earlier
    · exact absurd isDraft published
    · exact consistent.published_valid earlier published

theorem Precedes.createIteration {stamp : Stamp} (fresh : store.iterations.get? stamp.id = none)
    (scenario : Uuid) (draft : IterationDraft) :
    store.Precedes (store.createIteration stamp scenario draft).2 := by
  unfold ScenarioStore.createIteration
  cases store.getScenario scenario with
  | error error => exact .refl store
  | ok owner =>
    refine ⟨fun _ scenario found => ⟨scenario.live, found⟩, ?_, List.prefix_rfl⟩
    intro id iteration found
    exact ⟨iteration, Dict.get?_insert_of_fresh fresh found _, .refl iteration⟩

/-- A new iteration is a draft. -/
theorem Consistent.createIteration (consistent : store.Consistent) {stamp : Stamp}
    (fresh : store.iterations.get? stamp.id = none) (scenario : Uuid) (draft : IterationDraft) :
    (store.createIteration stamp scenario draft).2.Consistent := by
  unfold ScenarioStore.createIteration
  cases found : store.getScenario scenario with
  | error error => exact consistent
  | ok owner =>
    refine consistent.insertDraft ?_ rfl ⟨owner, getScenario_eq_ok.mp found⟩ rfl
    intro old present
    exact absurd rfl (Dict.ne_of_fresh fresh present)

/-- An edit that is refused changes nothing, and one that goes through takes the place of a draft
under its identifier. -/
theorem updateIteration_cases (store : ScenarioStore) (stamp : Stamp) (id : Uuid)
    (edit : IterationEdit) :
    (store.updateIteration stamp id edit).2 = store ∨
      ∃ draft, store.iterations.get? id = some draft ∧ draft.state = .draft ∧
        (store.updateIteration stamp id edit).2 =
          { store with iterations := store.iterations.insert id (edit.applyTo draft stamp.parts
            (stamp.now.later draft.updatedAt.next)) } := by
  unfold updateIteration
  cases found : store.getIteration id with
  | error error => exact Or.inl rfl
  | ok iteration =>
    by_cases isEditable : iteration.state.isEditable = true
    · refine Or.inr ⟨iteration, getIteration_eq_ok.mp found,
        IterationState.isEditable_iff.mp isEditable, ?_⟩
      simp only [if_pos isEditable]
    · simp only [if_neg isEditable, true_or]

theorem Precedes.updateIteration (store : ScenarioStore) (stamp : Stamp) (id : Uuid)
    (edit : IterationEdit) : store.Precedes (store.updateIteration stamp id edit).2 := by
  rcases store.updateIteration_cases stamp id edit with same | ⟨draft, found, isDraft, edited⟩
  · rw [same]
    exact .refl store
  · rw [edited]
    refine ⟨fun _ scenario found => ⟨scenario.live, found⟩, ?_, List.prefix_rfl⟩
    intro other iteration present
    simp only [Dict.get?_insert]
    by_cases same : id = other
    · subst same
      rw [found] at present
      cases present
      exact ⟨_, if_pos rfl, .edit isDraft edit stamp.parts stamp.now⟩
    · exact ⟨iteration, by rw [if_neg same, present], .refl iteration⟩

/-- An edit turns a draft into a draft of the same scenario. -/
theorem Consistent.updateIteration (consistent : store.Consistent) (stamp : Stamp) (id : Uuid)
    (edit : IterationEdit) : (store.updateIteration stamp id edit).2.Consistent := by
  rcases store.updateIteration_cases stamp id edit with same | ⟨draft, found, isDraft, edited⟩
  · rw [same]
    exact consistent
  · rw [edited]
    have hasId : draft.id = id := consistent.iteration_id found
    have owner : ∃ scenario, store.scenarios.get? draft.scenario = some scenario :=
      consistent.owner found
    refine consistent.insertDraft ?_ hasId owner isDraft
    intro old present
    rw [found] at present
    cases present
    exact isDraft

theorem Consistent.injectConflicts (consistent : store.Consistent) (count : Nat) :
    (store.injectConflicts count).Consistent :=
  ⟨consistent.scenario_id, consistent.iteration_id, consistent.owner, consistent.live_iff,
    consistent.published_valid⟩

theorem Precedes.injectConflicts (store : ScenarioStore) (count : Nat) :
    store.Precedes (store.injectConflicts count) :=
  ⟨(Precedes.refl store).scenarios, (Precedes.refl store).iterations, List.prefix_rfl⟩

end ScenarioStore

end RiskScoring
