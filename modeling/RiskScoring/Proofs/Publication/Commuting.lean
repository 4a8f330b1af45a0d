import RiskScoring.Proofs.Publication.Operations

/-!
# Operations on different scenarios commute

All scenarios share the dictionaries and the log of a store. Still, two operations that concern no
common scenario may come in either order: each has the same result, and all that is read afterwards
is the same.

* `Operation.sameFor_run`: an operation leaves the parts of scenarios that it does not concern.
* `Operation.alike_run`: another operation, which it is apart from, does not notice it.
* `Operation.run_sameFor`: an operation acts alike on stores that are alike for it.
* `System.Reachable.operations_commute`: the statement for all states that come about.
-/

namespace RiskScoring

/-! ## Answers -/

namespace ScenarioStore

/-- Whatever is read, the stores answer the same. -/
structure AnswersAlike (one other : ScenarioStore) : Prop where
  getScenario : ∀ id, one.getScenario id = other.getScenario id
  listIterations : ∀ id, one.listIterations id = other.listIterations id
  listPublications : ∀ id, one.listPublications id = other.listPublications id
  getIteration : ∀ id, one.getIteration id = other.getIteration id
  getPublication : ∀ id, one.getPublication id = other.getPublication id

/-- Whatever is read of a scenario, the stores answer the same. -/
structure AnswersAlikeFor (scenario : Uuid) (one other : ScenarioStore) : Prop where
  getScenario : one.getScenario scenario = other.getScenario scenario
  listIterations : one.listIterations scenario = other.listIterations scenario
  listPublications : one.listPublications scenario = other.listPublications scenario
  getIteration : ∀ id iteration, iteration.scenario = scenario →
    (one.getIteration id = .ok iteration ↔ other.getIteration id = .ok iteration)
  getPublication : ∀ id publication, publication.scenario = scenario →
    (one.getPublication id = .ok publication ↔ other.getPublication id = .ok publication)

variable {store one other : ScenarioStore}

theorem getPublication_eq_ok {id : Uuid} {publication : Publication} :
    store.getPublication id = .ok publication ↔
      (store.publications.find? fun entry => entry.id == id) = some publication := by
  unfold getPublication
  split
  · rename_i found
    rw [found, Except.ok.injEq, Option.some.injEq]
  · rename_i missing
    rw [missing]
    constructor
    · intro same
      cases same
    · intro same
      cases same

namespace SameFor

variable {scenario : Uuid}

theorem getIteration_iff (same : one.SameFor scenario other) (consistent : one.Consistent)
    (consistentOther : other.Consistent) {id : Uuid} {iteration : Iteration}
    (belongs : iteration.scenario = scenario) :
    one.getIteration id = .ok iteration ↔ other.getIteration id = .ok iteration := by
  rw [getIteration_eq_ok, getIteration_eq_ok]
  constructor
  · intro found
    exact same.found consistent consistentOther found belongs
  · intro found
    exact same.symm.found consistentOther consistent found belongs

/-- Stores that hold the same of all scenarios have the same iterations. -/
theorem getIteration_eq (same : ∀ scenario, one.SameFor scenario other)
    (consistent : one.Consistent) (consistentOther : other.Consistent) (id : Uuid) :
    one.getIteration id = other.getIteration id := by
  cases found : one.iterations.get? id with
  | some iteration =>
    have foundOther := (same iteration.scenario).found consistent consistentOther found rfl
    rw [getIteration_eq_ok.mpr found, getIteration_eq_ok.mpr foundOther]
  | none =>
    cases foundOther : other.iterations.get? id with
    | some iteration =>
      have back := (same iteration.scenario).symm.found consistentOther consistent foundOther rfl
      rw [found] at back
      cases back
    | none => rw [getIteration, getIteration, found, foundOther]

end SameFor

end ScenarioStore

/-- Entries with different identifiers may follow in either order. -/
theorem Publication.find?_append_comm (log : List Publication) {first second : List Publication}
    (apart : ∀ entry ∈ first, ∀ later ∈ second, entry.id ≠ later.id) (id : Uuid) :
    (log ++ (first ++ second)).find? (fun entry => entry.id == id) =
      (log ++ (second ++ first)).find? fun entry => entry.id == id := by
  simp only [List.find?_append]
  cases foundFirst : first.find? fun entry => entry.id == id with
  | none => simp
  | some entry =>
    have missing : (second.find? fun entry => entry.id == id) = none := by
      refine List.find?_eq_none.mpr fun later listed same => ?_
      have hasId : entry.id = id := by simpa using List.find?_some foundFirst
      refine apart entry (List.mem_of_find?_eq_some foundFirst) later listed ?_
      rw [hasId, eq_of_beq same]
    rw [missing]
    rfl

/-! ## One operation -/

/-- No one else acts on the store, and it refuses no commit without cause. -/
structure ScenarioStore.Undisturbed (store : ScenarioStore) : Prop where
  consistent : store.Consistent
  uninjected : store.injectedConflicts = 0

namespace Operation

variable {store one other : ScenarioStore} {operation : Operation}

theorem undisturbed_run (undisturbed : store.Undisturbed) (fresh : operation.Fresh store) :
    (operation.run store).2.Undisturbed := by
  have ⟨consistent, uninjected⟩ := undisturbed
  rw [operation.run_eq consistent uninjected]
  rcases operation.fitsIn consistent fresh with unchanged | ⟨scenario, -, fits⟩
  · rw [unchanged]
    exact undisturbed
  · exact ⟨fits.consistent consistent, by rw [Effect.injectedConflicts_apply, uninjected]⟩

/-- An operation leaves the parts of the scenarios that it does not concern. -/
theorem sameFor_run (undisturbed : store.Undisturbed) (fresh : operation.Fresh store)
    {another : Uuid} (elsewhere : operation.target.scenario? store ≠ some another) :
    store.SameFor another (operation.run store).2 := by
  have ⟨consistent, uninjected⟩ := undisturbed
  rw [operation.run_eq consistent uninjected]
  rcases operation.fitsIn consistent fresh with unchanged | ⟨scenario, concerned, fits⟩
  · rw [unchanged]
    exact .refl store another
  · refine fits.elsewhere consistent ?_
    intro same
    exact elsewhere (concerned.trans (congrArg some same))

/-- Stores that are alike for an operation give the same result. -/
theorem result_run (undisturbed : one.Undisturbed) (undisturbedOther : other.Undisturbed)
    (alike : operation.target.AlikeIn one other) :
    (operation.run other).1 = (operation.run one).1 := by
  rw [operation.run_eq undisturbed.consistent undisturbed.uninjected,
    operation.run_eq undisturbedOther.consistent undisturbedOther.uninjected,
    operation.outcome_congr undisturbed.consistent undisturbedOther.consistent alike]

/-- An operation acts alike on stores that are alike for it. -/
theorem run_sameFor (undisturbed : one.Undisturbed) (undisturbedOther : other.Undisturbed)
    (fresh : operation.Fresh one) (freshOther : operation.Fresh other)
    (alike : operation.target.AlikeIn one other) {scenario : Uuid}
    (same : one.SameFor scenario other) :
    (operation.run one).2.SameFor scenario (operation.run other).2 := by
  by_cases concerned : operation.target.scenario? one = some scenario
  · have consistent := undisturbed.consistent
    have consistentOther := undisturbedOther.consistent
    have effects := operation.outcome_congr consistent consistentOther alike
    have fits := operation.fitsIn consistent fresh
    have fitsOther := operation.fitsIn consistentOther freshOther
    rw [effects, alike.concerned] at fitsOther
    rw [operation.run_eq consistent undisturbed.uninjected,
      operation.run_eq consistentOther undisturbedOther.uninjected, effects]
    rcases fits with unchanged | ⟨first, isConcerned, fits⟩
    · rw [unchanged]
      exact same
    · rcases fitsOther with unchanged | ⟨second, isConcernedToo, fitsOther⟩
      · rw [unchanged]
        exact same
      · obtain rfl := Option.some.inj (isConcerned.symm.trans concerned)
        obtain rfl := Option.some.inj (isConcernedToo.symm.trans concerned)
        exact fits.alike fitsOther consistent consistentOther same
  · have elsewhere := sameFor_run undisturbed fresh concerned
    have elsewhereOther := sameFor_run undisturbedOther freshOther (alike.concerned ▸ concerned)
    exact elsewhere.symm.trans (same.trans elsewhereOther)

/-- An identifier that no iteration has is one that no iteration has afterwards, unless a new one
gets it. -/
theorem unknown_run (undisturbed : store.Undisturbed) {id : Uuid}
    (unknown : store.iterations.get? id = none) (others : operation.newIteration? ≠ some id) :
    (operation.run store).2.iterations.get? id = none := by
  have consistent := undisturbed.consistent
  rw [operation.run_eq consistent undisturbed.uninjected]
  cases operation with
  | createIteration given scenario draft =>
    have different : given.id ≠ id := fun same => others (congrArg some same)
    rw [outcome]
    cases store.getScenario scenario with
    | error error => exact unknown
    | ok owner =>
      show (store.iterations.insert given.id _).get? id = none
      rw [Dict.get?_insert, if_neg different, unknown]
  | updateIteration given edited edit =>
    rw [outcome]
    cases read : store.getIteration edited with
    | error error => exact unknown
    | ok iteration =>
      have found := ScenarioStore.getIteration_eq_ok.mp read
      have different : iteration.id ≠ id := by
        rw [consistent.iteration_id found]
        exact (Dict.ne_of_fresh unknown found).symm
      dsimp only
      split
      · show (store.iterations.insert iteration.id _).get? id = none
        rw [Dict.get?_insert, if_neg different, unknown]
      · exact unknown
  | serve stamps errand =>
    rw [outcome]
    rcases plans : errand.plan store with error | _ | commit
    · exact unknown
    · exact unknown
    · obtain ⟨goal, proposes, -⟩ := errand.proposes_of_plan consistent plans
      refine (ScenarioStore.applyCommit_of_not_mem _ fun named => ?_).trans unknown
      obtain ⟨transition, listed, rfl⟩ := List.mem_map.mp named
      obtain ⟨iteration, found, -⟩ := (proposes.accepts (stamps 0)).transitions transition listed
      rw [unknown] at found
      cases found

/-- An operation is not noticed by what names neither an iteration that is new nor a scenario that
it concerns. -/
theorem alike_run (undisturbed : store.Undisturbed) (fresh : operation.Fresh store)
    {target : Target} (unnamed : ∀ id, operation.newIteration? = some id → target ≠ .iteration id)
    (elsewhere : ∀ scenario, operation.target.scenario? store = some scenario →
      target.scenario? store ≠ some scenario) :
    target.AlikeIn store (operation.run store).2 := by
  have same (scenario : Uuid) (concerned : target.scenario? store = some scenario) :
      store.SameFor scenario (operation.run store).2 :=
    sameFor_run undisturbed fresh fun concernedToo => elsewhere _ concernedToo concerned
  refine ⟨?_, same⟩
  cases target with
  | scenario id => rfl
  | iteration id =>
    cases found : store.iterations.get? id with
    | none =>
      have others : operation.newIteration? ≠ some id := fun isNew => unnamed id isNew rfl
      rw [Target.scenario?, Target.scenario?, found, unknown_run undisturbed found others]
    | some iteration =>
      have concerned : (Target.iteration id).scenario? store = some iteration.scenario := by
        rw [Target.scenario?, found, Option.map_some]
      have still := (same _ concerned).found undisturbed.consistent
        (undisturbed_run undisturbed fresh).consistent found rfl
      rw [Target.scenario?, Target.scenario?, found, still]

/-! ## The log -/

theorem publications_run (undisturbed : store.Undisturbed) :
    (operation.run store).2.publications =
      store.publications ++ (operation.outcome store).2.entries := by
  rw [operation.run_eq undisturbed.consistent undisturbed.uninjected, Effect.publications_apply]

/-- What an operation adds to the log has the identifier that is given, and is about the scenario
that is concerned. -/
theorem of_mem_entries (consistent : store.Consistent) {entry : Publication}
    (added : entry ∈ (operation.outcome store).2.entries) :
    operation.newPublication? = some entry.id ∧
      operation.target.scenario? store = some entry.scenario := by
  cases operation with
  | createIteration given scenario draft =>
    rw [outcome] at added
    split at added <;> cases added
  | updateIteration given id edit =>
    rw [outcome] at added
    split at added
    · cases added
    · dsimp only at added
      split at added <;> cases added
  | serve stamps errand =>
    rw [outcome] at added
    rcases plans : errand.plan store with error | _ | commit
    · rw [plans] at added
      cases added
    · rw [plans] at added
      cases added
    · rw [plans] at added
      obtain rfl := List.mem_singleton.mp added
      obtain ⟨goal, proposes, concerned⟩ := errand.proposes_of_plan consistent plans
      have grounds := proposes.grounds (stamps 0)
      refine ⟨congrArg some (proposes.publication_id _).symm, ?_⟩
      rw [grounds.entered.scenario]
      exact concerned.symm.trans grounds.concerned

/-- Whatever is read of a scenario that is not concerned, the answer stays the same. -/
theorem answersAlikeFor_run (undisturbed : store.Undisturbed) (fresh : operation.Fresh store)
    {another : Uuid} (elsewhere : operation.target.scenario? store ≠ some another) :
    (operation.run store).2.AnswersAlikeFor another store := by
  have same := (sameFor_run undisturbed fresh elsewhere).symm
  have consistent := (undisturbed_run undisturbed fresh).consistent
  refine ⟨same.getScenario, same.listIterations, same.listPublications, ?_, ?_⟩
  · intro id iteration belongs
    exact same.getIteration_iff consistent undisturbed.consistent belongs
  · intro id publication belongs
    rw [ScenarioStore.getPublication_eq_ok, ScenarioStore.getPublication_eq_ok,
      publications_run undisturbed, List.find?_append, Option.or_eq_some_iff]
    constructor
    · rintro (found | ⟨-, found⟩)
      · exact found
      · have added := of_mem_entries undisturbed.consistent (List.mem_of_find?_eq_some found)
        rw [belongs] at added
        exact absurd added.2 elsewhere
    · exact Or.inl

/-! ## Two operations -/

/-- The identifiers that two operations are given are different, and neither operation names an
iteration that the other one creates. -/
structure Apart (one other : Operation) : Prop where
  newIteration : ∀ id, one.newIteration? = some id → other.newIteration? ≠ some id
  newPublication : ∀ id, one.newPublication? = some id → other.newPublication? ≠ some id
  unnamed : ∀ id, one.newIteration? = some id → other.target ≠ .iteration id
  unnamedOther : ∀ id, other.newIteration? = some id → one.target ≠ .iteration id

theorem Apart.symm {first second : Operation} (apart : first.Apart second) :
    second.Apart first where
  newIteration id isNew isNewToo := apart.newIteration id isNewToo isNew
  newPublication id isNew isNewToo := apart.newPublication id isNewToo isNew
  unnamed := apart.unnamedOther
  unnamedOther := apart.unnamed

/-- No scenario is concerned by both operations. -/
def Elsewhere (store : ScenarioStore) (one other : Operation) : Prop :=
  ∀ scenario, one.target.scenario? store = some scenario →
    other.target.scenario? store ≠ some scenario

/-- The operations commute on the store: each has the same result in both orders, and whatever is
read afterwards, the answers are the same. -/
structure Commute (store : ScenarioStore) (one other : Operation) : Prop where
  result : (one.run (other.run store).2).1 = (one.run store).1
  resultOther : (other.run (one.run store).2).1 = (other.run store).1
  answers : (other.run (one.run store).2).2.AnswersAlike (one.run (other.run store).2).2

variable {first second : Operation}

/-- A new iteration stays new when other operations come in between. -/
theorem fresh_run (undisturbed : store.Undisturbed) (fresh : second.Fresh store)
    (apart : first.Apart second) : second.Fresh (first.run store).2 := by
  intro id isNew
  exact unknown_run undisturbed (fresh id isNew) fun isNewToo =>
    apart.newIteration id isNewToo isNew

/-- What the second operation leaves alone is the same in both orders. -/
theorem sameFor_both (undisturbed : store.Undisturbed) (freshFirst : first.Fresh store)
    (freshSecond : second.Fresh store) (apart : first.Apart second)
    (elsewhere : Elsewhere store first second) {scenario : Uuid}
    (spared : second.target.scenario? store ≠ some scenario) :
    (second.run (first.run store).2).2.SameFor scenario (first.run (second.run store).2).2 := by
  have afterFirst := undisturbed_run undisturbed freshFirst
  have afterSecond := undisturbed_run undisturbed freshSecond
  have alikeFirst : first.target.AlikeIn store (second.run store).2 :=
    alike_run undisturbed freshSecond apart.unnamedOther
      fun _ concerned concernedToo => elsewhere _ concernedToo concerned
  have alikeSecond : second.target.AlikeIn store (first.run store).2 :=
    alike_run undisturbed freshFirst apart.unnamed elsewhere
  have last : (first.run store).2.SameFor scenario (second.run (first.run store).2).2 :=
    sameFor_run afterFirst (fresh_run undisturbed freshSecond apart)
      (alikeSecond.concerned ▸ spared)
  have carried : (first.run store).2.SameFor scenario (first.run (second.run store).2).2 :=
    run_sameFor undisturbed afterSecond freshFirst
      (fresh_run undisturbed freshFirst apart.symm) alikeFirst
      (sameFor_run undisturbed freshSecond spared)
  exact last.symm.trans carried

/-- The entries that the first operation adds come in front of those of the second one. -/
theorem publications_both (undisturbed : store.Undisturbed) (freshFirst : first.Fresh store)
    (alike : second.target.AlikeIn store (first.run store).2) :
    (second.run (first.run store).2).2.publications = store.publications ++
      ((first.outcome store).2.entries ++ (second.outcome store).2.entries) := by
  have afterFirst := undisturbed_run undisturbed freshFirst
  rw [publications_run afterFirst, publications_run undisturbed,
    second.outcome_congr undisturbed.consistent afterFirst.consistent alike, List.append_assoc]

/-- Operations on different scenarios commute. -/
theorem commute (undisturbed : store.Undisturbed) (freshFirst : first.Fresh store)
    (freshSecond : second.Fresh store) (apart : first.Apart second)
    (elsewhere : Elsewhere store first second) : Commute store first second := by
  have back : Elsewhere store second first :=
    fun _ concerned concernedToo => elsewhere _ concernedToo concerned
  have afterFirst := undisturbed_run undisturbed freshFirst
  have afterSecond := undisturbed_run undisturbed freshSecond
  have alikeFirst : first.target.AlikeIn store (second.run store).2 :=
    alike_run undisturbed freshSecond apart.unnamedOther back
  have alikeSecond : second.target.AlikeIn store (first.run store).2 :=
    alike_run undisturbed freshFirst apart.unnamed elsewhere
  have same (scenario : Uuid) :
      (second.run (first.run store).2).2.SameFor scenario (first.run (second.run store).2).2 := by
    by_cases concerned : second.target.scenario? store = some scenario
    · exact (sameFor_both undisturbed freshSecond freshFirst apart.symm back
        (back _ concerned)).symm
    · exact sameFor_both undisturbed freshFirst freshSecond apart elsewhere concerned
  have consistent : (second.run (first.run store).2).2.Consistent :=
    (undisturbed_run afterFirst (fresh_run undisturbed freshSecond apart)).consistent
  have consistentOther : (first.run (second.run store).2).2.Consistent :=
    (undisturbed_run afterSecond (fresh_run undisturbed freshFirst apart.symm)).consistent
  refine ⟨result_run undisturbed afterSecond alikeFirst,
    result_run undisturbed afterFirst alikeSecond, ?_, ?_, ?_, ?_, ?_⟩
  · exact fun id => (same id).getScenario
  · exact fun id => (same id).listIterations
  · exact fun id => (same id).listPublications
  · exact ScenarioStore.SameFor.getIteration_eq same consistent consistentOther
  · intro id
    -- The log has the new entries in one order or the other, under different identifiers.
    have apartEntries : ∀ entry ∈ (first.outcome store).2.entries,
        ∀ later ∈ (second.outcome store).2.entries, entry.id ≠ later.id := by
      intro entry added later addedLater sameId
      have given := (of_mem_entries undisturbed.consistent added).1
      have givenLater := (of_mem_entries undisturbed.consistent addedLater).1
      exact apart.newPublication _ given (sameId ▸ givenLater)
    rw [ScenarioStore.getPublication, ScenarioStore.getPublication,
      publications_both undisturbed freshFirst alikeSecond,
      publications_both undisturbed freshSecond alikeFirst,
      Publication.find?_append_comm store.publications apartEntries]

end Operation

/-! ## All states -/

namespace System

variable {system : System}

/-- In every state that comes about, with no conflicts injected: an operation changes no answer
about a scenario that it does not concern, and operations that concern no common scenario
commute. -/
theorem Reachable.operations_commute (reachable : system.Reachable)
    (uninjected : system.store.injectedConflicts = 0) :
    (∀ operation : Operation, operation.Fresh system.store → ∀ another,
      operation.target.scenario? system.store ≠ some another →
        (operation.run system.store).2.AnswersAlikeFor another system.store) ∧
    ∀ first second : Operation, first.Fresh system.store → second.Fresh system.store →
      first.Apart second → Operation.Elsewhere system.store first second →
        Operation.Commute system.store first second := by
  have undisturbed : system.store.Undisturbed := ⟨reachable.sound.consistent, uninjected⟩
  constructor
  · intro operation fresh another elsewhere
    exact Operation.answersAlikeFor_run undisturbed fresh elsewhere
  · intro first second freshFirst freshSecond apart elsewhere
    exact Operation.commute undisturbed freshFirst freshSecond apart elsewhere

/-- Two scenarios with a draft each. -/
def twoDrafts : List Event :=
  [.createScenario (.numbered 1) ⟨⟨7⟩, "transfers", "", "transactions"⟩,
    .createScenario (.numbered 2) ⟨⟨7⟩, "accounts", "", "accounts"⟩,
    .createIteration (.numbered 3) ⟨1⟩ ⟨.bool true, [], 1, 2⟩,
    .createIteration (.numbered 4) ⟨2⟩ ⟨.bool true, [], 1, 2⟩]

theorem reachable_twoDrafts : (start.run twoDrafts).Reachable := by
  have admits : start.Admits twoDrafts := ⟨rfl, rfl, rfl, rfl, trivial⟩
  exact Reachable.start.run admits

/-- The draft of a scenario is published. -/
def publishing (draft stamp : Nat) : Operation :=
  .serve (fun n => .numbered (stamp + n)) (.publish 0 ⟨BitVec.ofNat 128 draft⟩)

/-- Both drafts are published, in either order. -/
theorem operations_commute_twoDrafts :
    ((publishing 3 10).run (start.run twoDrafts).store).1 = .publications (.ok
      [⟨⟨10⟩, ⟨7⟩, ⟨1⟩, ⟨3⟩, .publish, 1, ⟨10, 0⟩⟩]) ∧
    (start.run twoDrafts).store.injectedConflicts = 0 ∧
    Operation.Commute (start.run twoDrafts).store (publishing 3 10) (publishing 4 20) ∧
    ((publishing 3 10).run (start.run twoDrafts).store).2.AnswersAlikeFor ⟨2⟩
      (start.run twoDrafts).store := by
  have uninjected : (start.run twoDrafts).store.injectedConflicts = 0 := rfl
  have fresh (draft stamp : Nat) : (publishing draft stamp).Fresh (start.run twoDrafts).store :=
    nofun
  have apart : (publishing 3 10).Apart (publishing 4 20) := by
    refine ⟨nofun, ?_, nofun, nofun⟩
    intro id isNew isNewToo
    exact absurd (Option.some.inj (isNew.trans isNewToo.symm)) (by decide)
  have concerned : (publishing 3 10).target.scenario? (start.run twoDrafts).store = some ⟨1⟩ := by
    with_unfolding_all rfl
  have concernedToo : (publishing 4 20).target.scenario? (start.run twoDrafts).store =
      some ⟨2⟩ := by with_unfolding_all rfl
  have elsewhere :
      Operation.Elsewhere (start.run twoDrafts).store (publishing 3 10) (publishing 4 20) := by
    intro scenario isFirst isSecond
    have same := (concerned.symm.trans isFirst).trans (isSecond.symm.trans concernedToo)
    cases same
  have commute := reachable_twoDrafts.operations_commute uninjected
  refine ⟨?_, uninjected, commute.2 _ _ (fresh 3 10) (fresh 4 20) apart elsewhere,
    commute.1 _ (fresh 3 10) _ ?_⟩
  · with_unfolding_all rfl
  · rw [concerned]
    decide

end System

end RiskScoring
