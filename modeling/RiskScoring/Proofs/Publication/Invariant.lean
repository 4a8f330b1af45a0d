import RiskScoring.Proofs.Publication.Attempt

/-!
# The invariant of every run

* `System.Sound`: the store is consistent, and whatever happens next, each client will only ask for
  commits that the store of that moment allows.
* `System.Sound.step`, `System.Reachable.sound`: every event keeps it.
* `System.covers_evolves`: every step of a run is one that `ScenarioStore.Evolves` covers.
* `System.Reachable.evolves_run`: so are all steps together.
-/

namespace RiskScoring

/-! ## Calls of clients -/

/-- What a client's call does for sure: it asks only for commits that the store allows. -/
def Call.Behaves (call : Call PublicationResult) (store : ScenarioStore) : Prop :=
  call.Meets ScenarioStore.Evolves ScenarioStore.Allows (fun _ _ => True) store

namespace Publisher

variable {store : ScenarioStore}

/-- Attempts after conflicts are attempts: each of their commits has its grounds. -/
theorem retried_grounded (goal : Goal) (scenario : Uuid) (attempts : UInt32) (left : Nat) :
    (attempt scenario attempts goal.attempt left).run.Meets ScenarioStore.Evolves goal.Grounded
      (fun _ _ => True) store := by
  induction left generalizing store with
  | zero => exact trivial
  | succ left ih =>
    refine Call.Meets.bind (goal.attempt_meets store) ?_
    intro later result _
    split
    · exact ih
    · exact trivial

theorem retried_behaves (goal : Goal) (scenario : Uuid) (attempts : UInt32) (left : Nat) :
    (attempt scenario attempts goal.attempt left).run.Behaves store :=
  (retried_grounded goal scenario attempts left).mono
    (fun grounded => grounded.2.allows grounded.1) fun _ => trivial

theorem unpublish_behaves (retries : UInt32) (scenario : Uuid) :
    (unpublish retries scenario).run.Behaves store :=
  retried_behaves (.unpublish scenario) scenario (retries + 1) (retries + 1).toNat

theorem publish_behaves (retries : UInt32) (id : Uuid) :
    (publish retries id).run.Behaves store := by
  refine Publishing.meets_getIteration (fun _ => trivial) ?_
  intro later iteration _ _
  exact retried_behaves (.publish id) iteration.scenario (retries + 1) (retries + 1).toNat

theorem apply_behaves (retries : UInt32) (request : PublicationRequest) :
    (apply retries request).run.Behaves store := by
  refine Publishing.meets_liftExcept (fun _ => trivial) ?_
  intro action _
  cases action with
  | publish => exact publish_behaves retries request.iteration
  | unpublish =>
    refine Publishing.meets_getIteration (fun _ => trivial) ?_
    intro later iteration _ _
    refine Publishing.meets_getScenario (fun _ => trivial) ?_
    intro last scenario _ _
    split
    · exact trivial
    · exact unpublish_behaves retries scenario.id

end Publisher

theorem Errand.call_behaves (errand : Errand) (store : ScenarioStore) :
    errand.call.Behaves store := by
  cases errand with
  | apply retries request => exact Publisher.apply_behaves retries request
  | publish retries iteration => exact Publisher.publish_behaves retries iteration
  | unpublish retries scenario => exact Publisher.unpublish_behaves retries scenario

/-! ## Systems -/

namespace System

variable {system : System}

/-- The invariant of every run. -/
structure Sound (system : System) : Prop where
  consistent : system.store.Consistent
  clients : ∀ call ∈ system.clients, call.Behaves system.store

theorem Sound.start : start.Sound :=
  ⟨.empty, by simp [System.start]⟩

/-- A client whose call has come to its end has nothing left to keep. -/
theorem behaves_later {call : Call PublicationResult} {store later : ScenarioStore}
    (behaves : call.Behaves store) (evolves : store.Evolves later) : call.Behaves later := by
  cases ended : call.isDone with
  | false => exact behaves.later (fun _ _ _ => .trans) ended evolves
  | true =>
    cases call with
    | done result => exact trivial
    | _ => cases ended

/-- What an answer to a client makes of the store. -/
theorem evolves_answer {call : Call PublicationResult} {store : ScenarioStore}
    (consistent : store.Consistent) (behaves : call.Behaves store) (given : Stamp) :
    store.Evolves (call.answer given store).2 := by
  cases call with
  | commit change next =>
    have allowed : store.Allows change := (behaves store ⟨.refl store, consistent⟩).1
    exact ⟨.commit allowed.swap given.now store, consistent.commit allowed given.now⟩
  | _ => exact ⟨.refl store, consistent⟩

theorem behaves_answer {call : Call PublicationResult} {store : ScenarioStore}
    (consistent : store.Consistent) (behaves : call.Behaves store) (given : Stamp) :
    (call.answer given store).1.Behaves (call.answer given store).2 := by
  cases ended : call.isDone with
  | false => exact behaves.answer ended ⟨.refl store, consistent⟩ given
  | true =>
    cases call with
    | done result => exact trivial
    | _ => cases ended

/-- The store after an event. -/
theorem Sound.evolves (sound : system.Sound) {event : Event} (fresh : event.Fresh system.store) :
    system.store.Evolves (system.step event).store := by
  cases event with
  | createScenario given draft =>
    exact ⟨.createScenario fresh draft, sound.consistent.createScenario fresh draft⟩
  | createIteration given scenario draft =>
    exact ⟨.createIteration fresh scenario draft,
      sound.consistent.createIteration fresh scenario draft⟩
  | updateIteration given id edit =>
    exact ⟨.updateIteration system.store given id edit,
      sound.consistent.updateIteration given id edit⟩
  | injectConflicts count =>
    exact ⟨.injectConflicts system.store count, sound.consistent.injectConflicts count⟩
  | arrive errand => exact ⟨.refl system.store, sound.consistent⟩
  | serve client given =>
    cases present : system.clients[client]? with
    | none =>
      simp only [step, serve, present]
      exact ⟨.refl system.store, sound.consistent⟩
    | some call =>
      simp only [step, serve_of_getElem? present]
      exact evolves_answer sound.consistent (sound.clients call (List.mem_of_getElem? present))
        given

theorem Sound.step (sound : system.Sound) {event : Event} (fresh : event.Fresh system.store) :
    (system.step event).Sound := by
  have evolves := sound.evolves fresh
  refine ⟨evolves.consistent, ?_⟩
  have kept : ∀ call ∈ system.clients, call.Behaves (system.step event).store :=
    fun call isClient => behaves_later (sound.clients call isClient) evolves
  intro call isClient
  cases event with
  | arrive errand =>
    rcases List.mem_append.mp isClient with earlier | new
    · exact kept call earlier
    · rw [List.mem_singleton.mp new]
      exact errand.call_behaves system.store
  | serve client given =>
    cases present : system.clients[client]? with
    | none =>
      simp only [System.step, serve, present] at isClient
      exact kept call isClient
    | some served =>
      have behaves := sound.clients served (List.mem_of_getElem? present)
      have answered := behaves_answer sound.consistent behaves given
      simp only [System.step, serve_of_getElem? present] at isClient kept ⊢
      rcases List.mem_or_eq_of_mem_set isClient with other | rfl
      · exact kept call other
      · exact answered
  | _ => exact kept call isClient

/-- The invariant holds in every run. -/
theorem Reachable.sound (reachable : system.Reachable) : system.Sound := by
  induction reachable with
  | start => exact .start
  | step _ fresh ih => exact ih.step fresh

theorem Reachable.evolves_run (reachable : system.Reachable) {events : List Event}
    (admits : system.Admits events) : system.store.Evolves (system.run events).store := by
  induction events generalizing system with
  | nil => exact ⟨.refl system.store, reachable.sound.consistent⟩
  | cons event events ih =>
    exact (reachable.sound.evolves admits.1).trans (ih (.step reachable admits.1) admits.2)

theorem covers_evolves : Covers ScenarioStore.Evolves where
  trans _ _ _ := .trans
  stay reachable := ⟨.refl _, reachable.sound.consistent⟩
  step reachable fresh := reachable.sound.evolves fresh

end System

end RiskScoring
