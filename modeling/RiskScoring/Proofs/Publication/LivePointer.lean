import RiskScoring.Proofs.Publication.Invariant

/-!
# The live iteration of a scenario

Whatever publishers and editors do, and in whatever order, a scenario and its iterations agree on
which of them is live, and a commit that goes through moves iterations only as they may move from
the state that they have at that moment.

* `System.Reachable.live_agrees`: the statement for every run.
-/

namespace RiskScoring

namespace System

variable {system : System}

/-- A commit that goes through was accepted, and it is applied. -/
theorem applied_of_commit {client : Nat} {change : Commit}
    {next : Except StoreError Unit → Call PublicationResult}
    (present : system.clients[client]? = some (.commit change next)) {given : Stamp}
    (succeeds : (system.store.commit given.now change).1 = .ok ()) :
    system.store.Accepts change ∧
      (system.step (.serve client given)).store = system.store.applyCommit given.now change := by
  have committed : system.store.commit given.now change =
      (.ok (), (system.store.commit given.now change).2) := Prod.ext succeeds rfl
  obtain ⟨-, accepts, applied⟩ := ScenarioStore.commit_eq_ok committed
  refine ⟨accepts, ?_⟩
  simp only [step, serve_of_getElem? present, Call.answer]
  exact applied

/-- In every state that a run reaches, an iteration is the live one of its scenario exactly if its
state is live. Every commit that goes through moves the iterations that it names as they may move
from where they stand then, and leaves all others as they are. -/
theorem Reachable.live_agrees (reachable : system.Reachable) :
    (∀ id scenario, system.store.scenarios.get? id = some scenario → ∀ other,
      scenario.live = some other ↔
        ∃ iteration, system.store.iterations.get? other = some iteration ∧
          iteration.scenario = id ∧ iteration.state = .live) ∧
    ∀ client given change, system.asked client = some change →
      (system.store.commit given.now change).1 = .ok () → ∀ id,
        (∃ state iteration, (id, state) ∈ change.transitions ∧
          system.store.iterations.get? id = some iteration ∧
          iteration.state.mayBecome state = true ∧
          (system.step (.serve client given)).store.iterations.get? id =
            some { iteration with state, updatedAt := given.now }) ∨
        id ∉ change.transitions.map Prod.fst ∧
          (system.step (.serve client given)).store.iterations.get? id =
            system.store.iterations.get? id := by
  have sound := reachable.sound
  refine ⟨fun id scenario found other => sound.consistent.live_iff found other, ?_⟩
  intro client given change asks succeeds id
  obtain ⟨next, present⟩ := exists_of_asked asks
  have behaves := sound.clients _ (List.mem_of_getElem? present)
  have allowed : system.store.Allows change :=
    (behaves system.store ⟨.refl _, sound.consistent⟩).1
  obtain ⟨accepts, applied⟩ := applied_of_commit present succeeds
  rw [applied]
  by_cases named : id ∈ change.transitions.map Prod.fst
  · obtain ⟨⟨_, state⟩, listed, rfl⟩ := List.mem_map.mp named
    obtain ⟨iteration, found, -, mayMove⟩ := accepts.mayMove sound.consistent allowed.swap listed
    exact Or.inl ⟨state, iteration, listed, found, mayMove,
      ScenarioStore.applyCommit_of_mem allowed.swap given.now listed found⟩
  · exact Or.inr ⟨named, ScenarioStore.applyCommit_of_not_mem given.now named⟩

/-- The first publication moves the draft, and the scenario has it for its live iteration. -/
theorem live_agrees_first_publication :
    (start.run firstPublication).Reachable ∧
    (start.run firstPublication).asked 0 = some firstCommit ∧
    (∃ state iteration, (⟨2⟩, state) ∈ firstCommit.transitions ∧
      (start.run firstPublication).store.iterations.get? ⟨2⟩ = some iteration ∧
      iteration.state.mayBecome state = true ∧
      ((start.run firstPublication).step (.serve 0 (.numbered 4))).store.iterations.get? ⟨2⟩ =
        some { iteration with state, updatedAt := ⟨4, 0⟩ }) ∧
    ∃ iteration, ((start.run firstPublication).step (.serve 0 (.numbered 4))).store.iterations.get?
      ⟨2⟩ = some iteration ∧ iteration.scenario = ⟨1⟩ ∧ iteration.state = .live := by
  have reachable := reachable_firstPublication
  have asks := asked_firstPublication
  have succeeds : ((start.run firstPublication).store.commit (Stamp.numbered 4).now
      firstCommit).1 = .ok () := by with_unfolding_all rfl
  refine ⟨reachable, asks, ?_, ?_⟩
  · rcases reachable.live_agrees.2 0 (.numbered 4) firstCommit asks succeeds ⟨2⟩ with
      moved | ⟨unnamed, -⟩
    · exact moved
    · exact absurd (by decide) unnamed
  · have published : ((start.run firstPublication).step (.serve 0 (.numbered 4))).Reachable :=
      .step reachable trivial
    have stored : ∃ scenario, ((start.run firstPublication).step
        (.serve 0 (.numbered 4))).store.scenarios.get? ⟨1⟩ = some scenario ∧
        scenario.live = some ⟨2⟩ := by
      refine ⟨⟨⟨1⟩, ⟨7⟩, "transfers", "", "transactions", some ⟨2⟩, ⟨1, 0⟩⟩, ?_, rfl⟩
      with_unfolding_all rfl
    obtain ⟨scenario, found, isLive⟩ := stored
    exact (published.live_agrees.1 ⟨1⟩ scenario found ⟨2⟩).mp isLive

end System

end RiskScoring
