import RiskScoring.Proofs.Publication.Answers
import RiskScoring.Proofs.Publication.LiveSwap

/-!
# What fails changes nothing

On any store whatever, a call that ends in an error leaves all records as they were. Conflicts that
were injected may be used up on the way. A commit that goes through is applied as a whole.

* `ScenarioStore.SameRecords`: no record has changed.
* `ScenarioStore.committed`: the store after a commit, spelled out for every record, whatever the
  commit says.
* `Call.Earns.answer`: an answer to a publisher ends its call with a publication, or leaves the
  records as they are.
* `Call.Earns.run_of_error`, `System.sameRecords_of_error`: so a call that fails has changed
  nothing, alone on the store and among others.
* `ScenarioStore.failures_change_nothing`: the statement for every call.
-/

namespace RiskScoring

namespace ScenarioStore

/-- No record has changed, and no more of the next commits are refused without cause. -/
structure SameRecords (before after : ScenarioStore) : Prop where
  scenarios : after.scenarios = before.scenarios
  iterations : after.iterations = before.iterations
  publications : after.publications = before.publications
  injectedConflicts : after.injectedConflicts ≤ before.injectedConflicts

theorem SameRecords.refl (store : ScenarioStore) : store.SameRecords store :=
  ⟨rfl, rfl, rfl, Nat.le_refl _⟩

theorem SameRecords.trans {x y z : ScenarioStore} (first : x.SameRecords y)
    (second : y.SameRecords z) : x.SameRecords z where
  scenarios := second.scenarios.trans first.scenarios
  iterations := second.iterations.trans first.iterations
  publications := second.publications.trans first.publications
  injectedConflicts := Nat.le_trans second.injectedConflicts first.injectedConflicts

variable {store : ScenarioStore} {now : Instant} {change : Commit}

/-! ## Calls of the store -/

theorem createIteration_of_error {stamp : Stamp} {scenario : Uuid} {draft : IterationDraft}
    {error : StoreError} (fails : (store.createIteration stamp scenario draft).1 = .error error) :
    (store.createIteration stamp scenario draft).2 = store := by
  unfold createIteration at fails ⊢
  cases owner : store.getScenario scenario with
  | error missing => rfl
  | ok found =>
    rw [owner] at fails
    cases fails

theorem updateIteration_of_error {stamp : Stamp} {id : Uuid} {edit : IterationEdit}
    {error : StoreError} (fails : (store.updateIteration stamp id edit).1 = .error error) :
    (store.updateIteration stamp id edit).2 = store := by
  unfold updateIteration at fails ⊢
  cases found : store.getIteration id with
  | error missing => rfl
  | ok iteration =>
    by_cases isEditable : iteration.state.isEditable = true
    · simp only [found, if_pos isEditable] at fails
      cases fails
    · simp only [if_neg isEditable]

/-- A commit goes through exactly if everything that it expects is so, and it is not refused without
cause. -/
theorem commit_succeeds_iff :
    (store.commit now change).1 = .ok () ↔
      store.injectedConflicts = 0 ∧ store.Accepts change := by
  constructor
  · intro succeeds
    obtain ⟨uninjected, accepts, -⟩ := commit_eq_ok (Prod.ext succeeds rfl)
    exact ⟨uninjected, accepts⟩
  · intro holds
    rw [commit_of_accepts holds.1 holds.2]

theorem sameRecords_of_commit {error : StoreError}
    (fails : (store.commit now change).1 = .error error) :
    store.SameRecords (store.commit now change).2 := by
  unfold commit at fails ⊢
  by_cases uninjected : store.injectedConflicts = 0
  · rw [if_pos uninjected] at fails ⊢
    cases checked : store.checkCommit change with
    | error refusal => exact .refl store
    | ok done =>
      rw [checked] at fails
      cases fails
  · rw [if_neg uninjected]
    exact ⟨rfl, rfl, rfl, Nat.sub_le _ 1⟩

end ScenarioStore

/-! ## Commits that go through -/

/-- The state that a commit gives to an iteration, if it names it. The last transition counts. -/
def Commit.stateOf? (change : Commit) (id : Uuid) : Option IterationState :=
  change.transitions.reverse.lookup id

/-- An iteration after it was moved to a state, if there is one that it is moved to. -/
def Iteration.movedTo (iteration : Iteration) (now : Instant) :
    Option IterationState → Iteration
  | some state => { iteration with state, updatedAt := now }
  | none => iteration

namespace ScenarioStore

variable {store : ScenarioStore} {now : Instant} {change : Commit}

/-- The store after a commit: each iteration that it names is in the state that it gives to it, its
scenario has the new live iteration, and the log has its publication at the end. -/
def committed (store : ScenarioStore) (now : Instant) (change : Commit) : ScenarioStore :=
  { store with
    scenarios := store.scenarios.map fun id scenario =>
      if change.scenario = id then { scenario with live := change.newLive } else scenario
    iterations := store.iterations.map fun id iteration =>
      iteration.movedTo now (change.stateOf? id)
    publications := store.publications ++ [change.publication] }

/-- Transitions that are applied one after another, whether or not they name an iteration twice. -/
theorem get?_foldl_moveIteration (now : Instant) (transitions : List (Uuid × IterationState))
    (iterations : Dict Uuid Iteration) (id : Uuid) :
    (transitions.foldl (moveIteration now) iterations).get? id =
      (iterations.get? id).map (·.movedTo now (transitions.reverse.lookup id)) := by
  -- The last transition is applied last, and looked up first.
  induction transitions using List.reverseRecOn with
  | nil => exact Option.map_id'.symm
  | append_singleton earlier last ih =>
    obtain ⟨named, state⟩ := last
    rw [List.foldl_concat, get?_moveIteration, ih, List.reverse_concat, List.lookup_cons,
      Option.map_map]
    refine Option.map_congr fun iteration _ => ?_
    by_cases same : named = id
    · subst same
      simp only [Function.comp, if_pos, beq_self_eq_true, Iteration.movedTo]
      cases earlier.reverse.lookup named <;> rfl
    · have different : (id == named) = false := beq_eq_false_iff_ne.mpr (Ne.symm same)
      simp only [Function.comp, if_neg same, different]

/-- All of a commit is applied. -/
theorem applyCommit_eq_committed (store : ScenarioStore) (now : Instant) (change : Commit) :
    store.applyCommit now change = store.committed now change := by
  have scenarios : setLive store.scenarios change.scenario change.newLive =
      (store.committed now change).scenarios := by
    refine Dict.ext_get? ?_ fun id => ?_
    · rw [keys_setLive, committed, Dict.keys_map]
    · rw [get?_setLive, committed, Dict.get?_map]
  have iterations : change.transitions.foldl (moveIteration now) store.iterations =
      (store.committed now change).iterations := by
    refine Dict.ext_get? ?_ fun id => ?_
    · rw [keys_foldl_moveIteration, committed, Dict.keys_map]
    · rw [get?_foldl_moveIteration, committed, Dict.get?_map, Commit.stateOf?]
  rw [applyCommit, scenarios, iterations, committed]

theorem commit_of_ok (succeeds : (store.commit now change).1 = .ok ()) :
    (store.commit now change).2 = store.committed now change := by
  obtain ⟨-, -, applied⟩ := commit_eq_ok (Prod.ext succeeds rfl)
  exact applied.trans (applyCommit_eq_committed store now change)

end ScenarioStore

/-! ## Calls of a publisher -/

namespace Call

variable {call : Call PublicationResult}

/-- An answer to a publisher ends its call with a publication, or leaves the records as they are. -/
theorem Earns.answer (earns : call.Earns) (given : Stamp) (store : ScenarioStore) :
    (∃ publication, (call.answer given store).1 = .done (.ok [publication])) ∨
      (call.answer given store).1.Earns ∧ store.SameRecords (call.answer given store).2 := by
  cases call with
  | done result => exact Or.inr ⟨earns, .refl store⟩
  | getScenario id next => exact Or.inr ⟨earns _, .refl store⟩
  | getIteration id next => exact Or.inr ⟨earns _, .refl store⟩
  | listPublications id next => exact Or.inr ⟨earns _, .refl store⟩
  | stamp next => exact Or.inr ⟨earns given, .refl store⟩
  | commit change next =>
    simp only [Call.answer]
    cases answered : (store.commit given.now change).1 with
    | ok done => exact Or.inl ⟨change.publication, earns.1⟩
    | error error => exact Or.inr ⟨earns.2 error, ScenarioStore.sameRecords_of_commit answered⟩

/-- A call that fails, with no one else acting on the store, has changed no record. -/
theorem Earns.run_of_error (earns : call.Earns) (serving : Serving) {after : Serving}
    {error : PublicationError}
    (fails : (call.run Serving.backend).run serving = (.error error, after)) :
    serving.store.SameRecords after.store := by
  induction call generalizing serving with
  | done result =>
    cases fails
    exact .refl after.store
  | getScenario id next ih => exact ih _ (earns _) serving fails
  | getIteration id next ih => exact ih _ (earns _) serving fails
  | listPublications id next ih => exact ih _ (earns _) serving fails
  | stamp next ih =>
    exact ih _ (earns _) ⟨serving.store, fun n => serving.stamps (n + 1)⟩ fails
  | commit change next ih =>
    let answered := serving.store.commit (serving.stamps 0).now change
    have goesOn : ((next answered.1).run Serving.backend).run
        ⟨answered.2, fun n => serving.stamps (n + 1)⟩ = (.error error, after) := fails
    cases result : answered.1 with
    | ok done =>
      rw [result, earns.1] at goesOn
      cases goesOn
    | error refusal =>
      rw [result] at goesOn
      exact (ScenarioStore.sameRecords_of_commit result).trans (ih _ (earns.2 refusal) _ goesOn)

end Call

namespace System

variable {system : System} {client : Nat} {call : Call PublicationResult}

/-- A call that fails has changed no record at any of its requests, whatever happens between
them. -/
theorem sameRecords_of_error (present : system.clients[client]? = some call) (earns : call.Earns)
    {before after : List Event} {given : Stamp} {error : PublicationError}
    (fails : system.follow client call (before ++ .serve client given :: after) =
      .done (.error error)) :
    (system.run before).store.SameRecords (system.run (before ++ [.serve client given])).store := by
  induction before generalizing system call with
  | nil =>
    rw [List.nil_append, follow, Event.advance, if_pos rfl] at fails
    rcases earns.answer given system.store with ⟨publication, ended⟩ | ⟨-, same⟩
    · rw [ended, follow_done] at fails
      cases fails
    · show system.store.SameRecords (system.serve client given).store
      rw [serve_of_getElem? present]
      exact same
  | cons event before ih =>
    refine ih (clients_advance present event) ?_ fails
    rw [List.cons_append, follow] at fails
    cases event with
    | serve other taken =>
      by_cases same : other = client
      · rw [Event.advance, if_pos same] at fails ⊢
        rcases earns.answer taken system.store with ⟨publication, ended⟩ | ⟨goesOn, -⟩
        · rw [ended, follow_done] at fails
          cases fails
        · exact goesOn
      · rw [Event.advance, if_neg same]
        exact earns
    | _ => exact earns

end System

/-! ## Every call -/

namespace ScenarioStore

/-- For any store whatever. A call to create or to edit an iteration that fails leaves the store as
it is. A commit goes through exactly if everything that it expects is so and no conflict is
injected. Then all of it is applied, and otherwise no record changes. No record changes either at a
call of a publisher that fails, and no request of such a call changes one if others act on the store
in the meantime. -/
theorem failures_change_nothing (store : ScenarioStore) :
    (∀ stamp scenario draft error, (store.createIteration stamp scenario draft).1 = .error error →
      (store.createIteration stamp scenario draft).2 = store) ∧
    (∀ stamp id edit error, (store.updateIteration stamp id edit).1 = .error error →
      (store.updateIteration stamp id edit).2 = store) ∧
    (∀ now change,
      ((store.commit now change).1 = .ok () ↔
        store.injectedConflicts = 0 ∧ store.Accepts change) ∧
      ((store.commit now change).1 = .ok () →
        (store.commit now change).2 = store.committed now change) ∧
      ∀ error, (store.commit now change).1 = .error error →
        store.SameRecords (store.commit now change).2) ∧
    ∀ errand : Errand,
      (∀ stamps error, (store.runPublisher stamps (ExceptT.mk errand.call)).1 = .error error →
        store.SameRecords (store.runPublisher stamps (ExceptT.mk errand.call)).2) ∧
      ∀ clients client before given after error,
        let system : System := ⟨store, clients⟩
        clients[client]? = some errand.call →
        (system.run (before ++ .serve client given :: after)).clients[client]? =
          some (.done (.error error)) →
        (system.run before).store.SameRecords
          (system.run (before ++ [.serve client given])).store := by
  refine ⟨fun _ _ _ _ => createIteration_of_error, fun _ _ _ _ => updateIteration_of_error,
    fun now change => ⟨commit_succeeds_iff, commit_of_ok, fun _ => sameRecords_of_commit⟩,
    fun errand => ⟨?_, ?_⟩⟩
  · intro stamps error fails
    exact errand.call_earns.run_of_error ⟨store, stamps⟩ (Prod.ext fails rfl)
  · intro clients client before given after error system present fails
    have ends : system.follow client errand.call (before ++ .serve client given :: after) =
        .done (.error error) :=
      Option.some.inj ((System.clients_follow present _).symm.trans fails)
    exact System.sameRecords_of_error present errand.call_earns ends

/-- Two conflicts are more than one retry can take, and all records stay. A commit that moves an
iteration twice leaves it in the last of its states. -/
theorem failures_change_nothing_exhausted :
    let store := (System.start.run System.replacement).store
    let run := (store.injectConflicts 2).runPublisher (fun n => .numbered (30 + n))
      (Publisher.publish 1 ⟨2⟩)
    let change : Commit := ⟨⟨1⟩, some ⟨3⟩, 2, [], none, [(⟨2⟩, .live), (⟨2⟩, .unpublished)],
      ⟨⟨30⟩, ⟨7⟩, ⟨1⟩, ⟨2⟩, .unpublish, 3, ⟨30, 0⟩⟩⟩
    run.1 = .error (.exhausted ⟨1⟩ 2) ∧ run.2.injectedConflicts = 0 ∧
      (store.injectConflicts 2).SameRecords run.2 ∧
      (store.commit ⟨31, 0⟩ change).1 = .ok () ∧
      (store.commit ⟨31, 0⟩ change).2 = store.committed ⟨31, 0⟩ change ∧
      change.stateOf? ⟨2⟩ = some .unpublished := by
  intro store run change
  have fails : run.1 = .error (.exhausted ⟨1⟩ 2) := by with_unfolding_all rfl
  have usedUp : run.2.injectedConflicts = 0 := by with_unfolding_all rfl
  have succeeds : (store.commit ⟨31, 0⟩ change).1 = .ok () := by with_unfolding_all rfl
  obtain ⟨-, -, -, errands⟩ := failures_change_nothing (store.injectConflicts 2)
  have kept := (errands (.publish 1 ⟨2⟩)).1 (fun n => .numbered (30 + n)) _ fails
  obtain ⟨-, -, commits, -⟩ := failures_change_nothing store
  exact ⟨fails, usedUp, kept, succeeds, (commits ⟨31, 0⟩ change).2.1 succeeds, rfl⟩

end ScenarioStore

end RiskScoring
