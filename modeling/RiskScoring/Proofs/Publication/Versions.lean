import RiskScoring.Proofs.Publication.Failures
import RiskScoring.Proofs.Publication.Parts

/-!
# Versions

An iteration carries a mark that nothing ever takes off: its identifier, its scenario and its
version. The marks in a store are a list that grows at its end, by one for each iteration that is
created, and each scenario counts its own from one on. The clients may make any calls whatever, not
only those of a publisher, and so may commit what they like.

* `Iteration.Mark`, `ScenarioStore.marks`: what stays of an iteration, and the list of it.
* `ScenarioStore.Grows`: what an operation may do as far as marks are concerned. Creating, editing
  and committing do just that, and so does every event (`System.grows_step`).
* `ScenarioStore.Counted`: the invariant of a store. It is kept by what grows, so by every run.
* `System.marks_run`: the marks after a run are those of the iterations that it has created.
* `System.versions_gap_free`: the statement for every run from the empty store.
-/

namespace RiskScoring

/-! ## Marks -/

/-- What an iteration keeps for good. -/
structure Iteration.Mark where
  id : Uuid
  scenario : Uuid
  version : UInt32
deriving DecidableEq

/-- The mark of an iteration. -/
def Iteration.mark (iteration : Iteration) : Mark :=
  ⟨iteration.id, iteration.scenario, iteration.version⟩

@[simp]
theorem Iteration.mark_movedTo (iteration : Iteration) (now : Instant)
    (state : Option IterationState) : (iteration.movedTo now state).mark = iteration.mark := by
  cases state <;> rfl

namespace ScenarioStore

variable {store old new : ScenarioStore} {scenario : Uuid}

/-- The marks of all iterations in the order in which they came. -/
def marks (store : ScenarioStore) : List Iteration.Mark :=
  store.iterations.values.map Iteration.mark

/-- The versions of the iterations of a scenario in the order in which they came. -/
def versionsOf (store : ScenarioStore) (scenario : Uuid) : List UInt32 :=
  (store.iterationsOf scenario).map Iteration.version

theorem marks_iterationsOf (store : ScenarioStore) (scenario : Uuid) :
    (store.iterationsOf scenario).map Iteration.mark =
      store.marks.filter fun mark => mark.scenario == scenario := by
  rw [iterationsOf, marks, List.filter_map]
  rfl

theorem versionsOf_eq (store : ScenarioStore) (scenario : Uuid) :
    store.versionsOf scenario =
      (store.marks.filter fun mark => mark.scenario == scenario).map Iteration.Mark.version := by
  rw [← marks_iterationsOf, List.map_map]
  rfl

theorem mark_mem_marks {id : Uuid} {iteration : Iteration}
    (found : store.iterations.get? id = some iteration) : iteration.mark ∈ store.marks :=
  List.mem_map_of_mem (Dict.mem_values.mpr ⟨id, found⟩)

/-- Every mark is on an iteration that can be found by it. -/
theorem Keyed.exists_of_mem_marks (keyed : store.Keyed) {mark : Iteration.Mark}
    (listed : mark ∈ store.marks) :
    ∃ iteration, store.iterations.get? mark.id = some iteration ∧ iteration.mark = mark := by
  rw [marks, List.mem_map] at listed
  obtain ⟨iteration, isValue, rfl⟩ := listed
  obtain ⟨id, found⟩ := Dict.mem_values.mp isValue
  have hasId : iteration.id = id := keyed found
  subst hasId
  exact ⟨iteration, found, rfl⟩

/-- No two iterations have the same identifier. -/
theorem Keyed.nodup_ids (keyed : store.Keyed) (scenario : Uuid) :
    ((store.iterationsOf scenario).map Iteration.id).Nodup := by
  have keys : store.iterations.values.map Iteration.id = store.iterations.entries.map Prod.fst := by
    rw [Dict.values, List.map_map]
    exact List.map_congr_left fun entry isEntry => keyed (Dict.get?_eq_some.mpr isEntry)
  have all : (store.iterations.values.map Iteration.id).Nodup := by
    rw [keys]
    exact store.iterations.distinct
  exact all.sublist (List.filter_sublist.map Iteration.id)

/-! ## Growth -/

/-- There is a scenario of this identifier. -/
def Knows (store : ScenarioStore) (scenario : Uuid) : Prop :=
  ∃ record, store.scenarios.get? scenario = some record

/-- What an operation may do as far as marks are concerned. It may add an iteration to a scenario
that is there, with the next version of it. All marks and all scenarios stay. -/
structure Grows (old : ScenarioStore) (added : Option Iteration) (new : ScenarioStore) : Prop where
  marks : new.marks = old.marks ++ (added.map Iteration.mark).toList
  keyed : old.Keyed → new.Keyed
  knows : ∀ ⦃scenario⦄, old.Knows scenario → new.Knows scenario
  added : ∀ iteration ∈ added,
    old.Knows iteration.scenario ∧ iteration.version = old.nextVersion iteration.scenario

/-- An operation that adds no iteration. -/
theorem Grows.of_marks (marks : new.marks = old.marks) (keyed : old.Keyed → new.Keyed)
    (knows : ∀ ⦃scenario⦄, old.Knows scenario → new.Knows scenario) : old.Grows none new where
  marks := marks.trans (List.append_nil _).symm
  keyed := keyed
  knows := knows
  added iteration isAdded := by cases isAdded

theorem Grows.refl (store : ScenarioStore) : store.Grows none store :=
  .of_marks rfl (fun keyed => keyed) fun _ known => known

theorem grows_createScenario (store : ScenarioStore) (stamp : Stamp) (draft : ScenarioDraft) :
    store.Grows none (store.createScenario stamp draft).2 := by
  refine .of_marks rfl (fun keyed => keyed) fun scenario known => ?_
  obtain ⟨record, found⟩ := known
  rw [Knows, createScenario, Dict.get?_insert]
  split
  · exact ⟨_, rfl⟩
  · exact ⟨record, found⟩

/-- What is stored under its own identifier leaves all the rest as it was. -/
theorem Keyed.insert (keyed : store.Keyed) {id : Uuid} {new : Iteration} (hasId : new.id = id) :
    Keyed { store with iterations := store.iterations.insert id new } := by
  intro other iteration found
  simp only [Dict.get?_insert] at found
  split at found
  · rename_i same
    cases found
    exact hasId.trans same
  · exact keyed found

/-- What creates an iteration answers with the one that it adds. -/
theorem grows_createIteration {stamp : Stamp} (fresh : store.iterations.get? stamp.id = none)
    (scenario : Uuid) (draft : IterationDraft) :
    store.Grows (store.createIteration stamp scenario draft).1.toOption
      (store.createIteration stamp scenario draft).2 := by
  unfold createIteration
  cases owner : store.getScenario scenario with
  | error error => exact .refl store
  | ok record =>
    let new := draft.toIteration scenario (store.nextVersion scenario) stamp
    refine ⟨?_, fun keyed => keyed.insert rfl, fun _ known => known, fun iteration isAdded => ?_⟩
    · have values : (store.iterations.insert new.id new).values =
          store.iterations.values ++ [new] :=
        Dict.values_insert_of_fresh fresh new
      show (store.iterations.insert new.id new).values.map Iteration.mark = _
      rw [values, List.map_append]
      rfl
    · cases isAdded
      exact ⟨⟨record, getScenario_eq_ok.mp owner⟩, rfl⟩

theorem grows_updateIteration (store : ScenarioStore) (stamp : Stamp) (id : Uuid)
    (edit : IterationEdit) : store.Grows none (store.updateIteration stamp id edit).2 := by
  rcases store.updateIteration_cases stamp id edit with same | ⟨draft, found, -, edited⟩
  · rw [same]
    exact .refl store
  · rw [edited]
    refine .of_marks ?_ (fun keyed => ?_) fun _ known => known
    · rw [marks, marks]
      exact Dict.map_values_insert_of_found found rfl
    · have hasId : draft.id = id := keyed found
      exact keyed.insert hasId

/-- A commit may move iterations and set what is live, and no more, whatever it says. -/
theorem grows_commit (store : ScenarioStore) (now : Instant) (change : Commit) :
    store.Grows none (store.commit now change).2 := by
  rcases store.commit_cases now change with ⟨-, -, applied⟩ | ⟨error, left, refused⟩
  · rw [applied, applyCommit_eq_committed]
    refine .of_marks ?_ ?_ ?_
    · simp only [marks, committed, Dict.values, Dict.map, List.map_map]
      exact List.map_congr_left fun entry _ => Iteration.mark_movedTo entry.2 now _
    · intro keyed id later found
      simp only [committed, Dict.get?_map, Option.map_eq_some_iff] at found
      obtain ⟨iteration, stored, rfl⟩ := found
      have sameId := congrArg Iteration.Mark.id (iteration.mark_movedTo now (change.stateOf? id))
      exact sameId.trans (keyed stored)
    · intro scenario known
      obtain ⟨record, found⟩ := known
      rw [Knows, committed, Dict.get?_map, found]
      exact ⟨_, rfl⟩
  · rw [refused]
    exact .of_marks rfl (fun keyed => keyed) fun _ known => known

/-! ## What growth keeps -/

/-- The invariant of a store. Every iteration is stored under its identifier and belongs to a
scenario, and the versions of a scenario count from one on unless they have come to the greatest
word. -/
structure Counted (store : ScenarioStore) : Prop where
  keyed : store.Keyed
  owned : ∀ mark ∈ store.marks, store.Knows mark.scenario
  consecutive : ∀ scenario,
    (∀ version ∈ store.versionsOf scenario, version.toNat < UInt32.size - 1) →
      Consecutive (store.versionsOf scenario)

theorem Counted.empty : empty.Counted where
  keyed id iteration found := by cases found
  owned mark listed := by cases listed
  consecutive scenario _ := .nil

/-- The iterations that are listed are those of the scenario. -/
theorem listIterations_perm (store : ScenarioStore) (scenario : Uuid) :
    (store.listIterations scenario).Perm (store.iterationsOf scenario) :=
  List.mergeSort_perm _ _

theorem Counted.consecutive_of_listed (counted : store.Counted)
    (below : ∀ iteration ∈ store.listIterations scenario,
      iteration.version.toNat < UInt32.size - 1) :
    Consecutive ((store.iterationsOf scenario).map Iteration.version) := by
  refine counted.consecutive scenario (List.forall_mem_map.mpr fun iteration isIteration => ?_)
  exact below iteration ((store.listIterations_perm scenario).mem_iff.mpr isIteration)

namespace Grows

variable {added : Option Iteration}

/-- An iteration that is added comes after the others of its scenario. -/
theorem versionsOf (grows : old.Grows added new) (scenario : Uuid) :
    new.versionsOf scenario = old.versionsOf scenario ∨
      new.versionsOf scenario = old.versionsOf scenario ++ [old.nextVersion scenario] := by
  rw [versionsOf_eq, versionsOf_eq, grows.marks, List.filter_append, List.map_append]
  cases added with
  | none => exact Or.inl (List.append_nil _)
  | some iteration =>
    by_cases belongs : iteration.scenario = scenario
    · obtain ⟨-, next⟩ := grows.added iteration rfl
      rw [belongs] at next
      right
      simp [Iteration.mark, belongs, next]
    · left
      simp [Iteration.mark, belongs]

theorem counted (grows : old.Grows added new) (counted : old.Counted) : new.Counted where
  keyed := grows.keyed counted.keyed
  owned := by
    intro mark listed
    rw [grows.marks, List.mem_append] at listed
    rcases listed with earlier | isAdded
    · exact grows.knows (counted.owned mark earlier)
    · rw [Option.mem_toList, Option.map_eq_some_iff] at isAdded
      obtain ⟨iteration, isAdded, rfl⟩ := isAdded
      exact grows.knows (grows.added iteration isAdded).1
  consecutive := by
    intro scenario below
    rcases grows.versionsOf scenario with same | next
    · rw [same] at below ⊢
      exact counted.consecutive scenario below
    · rw [next] at below ⊢
      have earlier := List.forall_mem_append.mp below
      have consecutive := counted.consecutive scenario earlier.1
      exact consecutive.concat_of_below earlier.1

end Grows

end ScenarioStore

/-! ## Runs -/

namespace Event

/-- The iteration that an event creates, as it is answered. -/
def created (store : ScenarioStore) : Event → Option Iteration
  | createIteration given scenario draft => (store.createIteration given scenario draft).1.toOption
  | _ => none

end Event

namespace System

variable {system : System} {event : Event} {events : List Event}

/-- The iterations that are created by some events, each as it is answered. -/
def created (system : System) : List Event → List Iteration
  | [] => []
  | event :: events => (event.created system.store).toList ++ (system.step event).created events

/-- A call may ask for whatever it likes. -/
theorem grows_serve (system : System) (client : Nat) (given : Stamp) :
    system.store.Grows none (system.serve client given).store := by
  unfold serve
  cases system.clients[client]? with
  | none => exact .refl system.store
  | some call =>
    cases call with
    | commit change next => exact system.store.grows_commit given.now change
    | _ => exact .refl system.store

theorem grows_step (fresh : event.Fresh system.store) :
    system.store.Grows (event.created system.store) (system.step event).store := by
  cases event with
  | createScenario given draft => exact system.store.grows_createScenario given draft
  | createIteration given scenario draft =>
    exact ScenarioStore.grows_createIteration fresh scenario draft
  | updateIteration given id edit => exact system.store.grows_updateIteration given id edit
  | injectConflicts count => exact .of_marks rfl (fun keyed => keyed) fun _ known => known
  | arrive errand => exact .refl system.store
  | serve client given => exact system.grows_serve client given

theorem counted_run (counted : system.store.Counted) (admits : system.Admits events) :
    (system.run events).store.Counted := by
  induction events generalizing system with
  | nil => exact counted
  | cons event events ih => exact ih ((grows_step admits.1).counted counted) admits.2

/-- The marks after a run: those of the iterations that were there, and then those of the iterations
that it has created. -/
theorem marks_run (admits : system.Admits events) :
    (system.run events).store.marks =
      system.store.marks ++ (system.created events).map Iteration.mark := by
  induction events generalizing system with
  | nil => exact (List.append_nil _).symm
  | cons event events ih =>
    rw [run, ih admits.2, (grows_step admits.1).marks, created, List.map_append,
      List.append_assoc, Option.toList_map]

/-- Whatever is stored keeps its mark, and can still be found. -/
theorem mark_run (counted : system.store.Counted) (admits : system.Admits events) {id : Uuid}
    {iteration : Iteration} (found : system.store.iterations.get? id = some iteration) :
    ∃ later, (system.run events).store.iterations.get? id = some later ∧
      later.mark = iteration.mark := by
  have later : iteration.mark ∈ (system.run events).store.marks := by
    rw [marks_run admits]
    exact List.mem_append_left _ (ScenarioStore.mark_mem_marks found)
  obtain ⟨kept, stored, same⟩ := (counted_run counted admits).keyed.exists_of_mem_marks later
  have hasId : iteration.mark.id = id := counted.keyed found
  rw [hasId] at stored
  exact ⟨kept, stored, same⟩

/-- For any events from the empty store, among clients that make any calls whatever. The iterations
of each scenario are listed once each. Their versions count from one on, in the order in which they
were created and in whatever order the store goes through them, as long as a word can count further.
Every iteration belongs to a scenario. No events that come after change the identifier, the scenario
or the version of an iteration, or lose it. -/
theorem versions_gap_free (clients : List (Call PublicationResult)) (events : List Event)
    (admits : Admits ⟨.empty, clients⟩ events) :
    let system : System := ⟨.empty, clients⟩
    let store := (system.run events).store
    (∀ scenario,
      let listed := store.listIterations scenario
      let created := (system.created events).filter fun iteration => iteration.scenario == scenario
      (∀ iteration, iteration ∈ listed ↔
        store.iterations.get? iteration.id = some iteration ∧ iteration.scenario = scenario) ∧
      (listed.map Iteration.id).Nodup ∧
      ((∀ iteration ∈ listed, iteration.version.toNat < UInt32.size - 1) →
        listed.map (fun iteration => iteration.version.toNat) = List.range' 1 created.length ∧
        listed.map Iteration.mark = created.map Iteration.mark ∧
        ∀ visited : List Iteration, visited.Perm (store.iterationsOf scenario) →
          (visited.mergeSort fun x y => decide (x.version ≤ y.version)) = listed)) ∧
    (∀ id iteration, store.iterations.get? id = some iteration →
      iteration.id = id ∧ ∃ record, store.scenarios.get? iteration.scenario = some record) ∧
    ∀ after, (system.run events).Admits after →
      ∀ id iteration, store.iterations.get? id = some iteration →
        ∃ later, ((system.run events).run after).store.iterations.get? id = some later ∧
          later.mark = iteration.mark := by
  intro system store
  have counted : store.Counted := counted_run .empty admits
  refine ⟨fun scenario => ?_, fun id iteration found => ?_, fun after admitted id iteration found =>
    mark_run counted admitted found⟩
  · intro listed created
    have permuted : listed.Perm (store.iterationsOf scenario) := store.listIterations_perm scenario
    refine ⟨fun iteration => ?_, ?_, fun below => ?_⟩
    · rw [permuted.mem_iff]
      exact ScenarioStore.mem_iterationsOf counted.keyed
    · rw [(permuted.map Iteration.id).nodup_iff]
      exact counted.keyed.nodup_ids scenario
    · have consecutive := counted.consecutive_of_listed below
      have inOrder : listed = store.iterationsOf scenario := consecutive.mergeSort_eq
      have marks : (store.iterationsOf scenario).map Iteration.mark =
          created.map Iteration.mark := by
        rw [ScenarioStore.marks_iterationsOf, marks_run admits]
        exact List.filter_map
      refine ⟨?_, ?_, fun visited same => ?_⟩
      · have count : listed.length = created.length := by
          rw [inOrder, ← List.length_map Iteration.mark, marks, List.length_map]
        rw [← count, inOrder]
        rw [Consecutive, List.map_map, List.length_map] at consecutive
        exact consecutive
      · rw [inOrder, marks]
      · rw [inOrder]
        exact consecutive.mergeSort_of_perm same
  · exact ⟨counted.keyed found, counted.owned _ (ScenarioStore.mark_mem_marks found)⟩

/-- Two scenarios with iterations that come by turns. Then a client commits what no publisher would
commit, and the last iteration of the first scenario keeps its mark. -/
theorem versions_gap_free_by_turns :
    let change : Commit := ⟨⟨1⟩, none, 0, [], some ⟨9⟩, [(⟨3⟩, .live), (⟨3⟩, .draft)],
      ⟨⟨8⟩, ⟨7⟩, ⟨4⟩, ⟨5⟩, .publish, 5, ⟨8, 0⟩⟩⟩
    let clients : List (Call PublicationResult) := [.commit change fun _ => .done (.ok [])]
    let draft : IterationDraft := ⟨.bool true, [], 1, 2⟩
    let events : List Event :=
      [.createScenario (.numbered 1) ⟨⟨7⟩, "transfers", "", "transactions"⟩,
        .createScenario (.numbered 4) ⟨⟨7⟩, "deposits", "", "transactions"⟩,
        .createIteration (.numbered 2) ⟨1⟩ draft, .createIteration (.numbered 5) ⟨4⟩ draft,
        .createIteration (.numbered 3) ⟨1⟩ draft]
    let after : List Event :=
      [.serve 0 (.numbered 6), .updateIteration (.numbered 7) ⟨3⟩ ⟨none, none, some 5, none⟩]
    Admits ⟨.empty, clients⟩ events ∧
      ((run ⟨.empty, clients⟩ events).store.listIterations ⟨1⟩).map Iteration.mark =
        [⟨⟨2⟩, ⟨1⟩, 1⟩, ⟨⟨3⟩, ⟨1⟩, 2⟩] ∧
      ((run ⟨.empty, clients⟩ events).run after).store.publications = [change.publication] ∧
      ∃ later, ((run ⟨.empty, clients⟩ events).run after).store.iterations.get? ⟨3⟩ = some later ∧
        later.mark = ⟨⟨3⟩, ⟨1⟩, 2⟩ := by
  intro change clients draft events after
  have admits : Admits ⟨.empty, clients⟩ events := ⟨rfl, rfl, rfl, rfl, rfl, trivial⟩
  have admitsAfter : (run ⟨.empty, clients⟩ events).Admits after := ⟨trivial, trivial, trivial⟩
  obtain ⟨scenarios, -, permanent⟩ := versions_gap_free clients events admits
  obtain ⟨-, -, counts⟩ := scenarios ⟨1⟩
  have below : ∀ iteration ∈ (run ⟨.empty, clients⟩ events).store.listIterations ⟨1⟩,
      iteration.version.toNat < UInt32.size - 1 := by
    intro iteration listed
    rw [ScenarioStore.listIterations, List.mem_mergeSort] at listed
    have versions : (run ⟨.empty, clients⟩ events).store.versionsOf ⟨1⟩ = [1, 2] := by
      with_unfolding_all rfl
    have isVersion : iteration.version ∈ (run ⟨.empty, clients⟩ events).store.versionsOf ⟨1⟩ :=
      List.mem_map_of_mem listed
    rw [versions, List.mem_pair] at isVersion
    rcases isVersion with first | second
    · rw [first]
      decide
    · rw [second]
      decide
  obtain ⟨-, listed, -⟩ := counts below
  have isCreated : ((created ⟨.empty, clients⟩ events).filter (·.scenario == ⟨1⟩)).map
      Iteration.mark = [⟨⟨2⟩, ⟨1⟩, 1⟩, ⟨⟨3⟩, ⟨1⟩, 2⟩] := by with_unfolding_all rfl
  have committed : ((run ⟨.empty, clients⟩ events).run after).store.publications =
      [change.publication] := by with_unfolding_all rfl
  have found : (run ⟨.empty, clients⟩ events).store.iterations.get? ⟨3⟩ =
      some (draft.toIteration ⟨1⟩ 2 (.numbered 3)) := by with_unfolding_all rfl
  exact ⟨admits, listed.trans isCreated, committed, permanent after admitsAfter ⟨3⟩ _ found⟩

end System

end RiskScoring
