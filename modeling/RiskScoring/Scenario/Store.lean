import RiskScoring.Scenario.Basic
import RiskScoring.StoreError

/-!
# The scenario store

The store keeps scenarios, their iterations, and the log of publications. Each operation is one
step. A publication is committed by comparing and swapping: `ScenarioStore.commit` applies all of
a commit if the scenario is still as the commit expects it to be, and otherwise nothing.
-/

namespace RiskScoring

/-- Scenarios, iterations and publications, each in the order they came. -/
structure ScenarioStore where
  scenarios : Dict Uuid Scenario
  iterations : Dict Uuid Iteration
  publications : List Publication
  /-- How many of the next commits are refused as conflicts, whatever they say. -/
  injectedConflicts : Nat

/-- A publication, with what it expects of its scenario and what it changes. -/
structure Commit where
  scenario : Uuid
  /-- The iteration that is expected to be live. -/
  expectedLive : Option Uuid
  /-- The rank that the last publication is expected to have. -/
  expectedRank : UInt32
  /-- Iterations as they were read, each with the time of its last change. -/
  expectedIterations : List (Uuid × Instant)
  newLive : Option Uuid
  transitions : List (Uuid × IterationState)
  publication : Publication

/-- The greatest of a list of words, and zero if there is none. -/
def greatest (words : List UInt32) : UInt32 := words.foldl max 0

namespace ScenarioStore

def empty : ScenarioStore := ⟨.empty, .empty, [], 0⟩

/-- Makes the next commits conflict. -/
def injectConflicts (store : ScenarioStore) (count : Nat) : ScenarioStore :=
  { store with injectedConflicts := count }

/-! ## Reading -/

/-- The scenario of an identifier. -/
def getScenario (store : ScenarioStore) (id : Uuid) : Except StoreError Scenario :=
  match store.scenarios.get? id with
  | some scenario => .ok scenario
  | none => .error (.notFound (.scenario id))

/-- The iteration of an identifier. -/
def getIteration (store : ScenarioStore) (id : Uuid) : Except StoreError Iteration :=
  match store.iterations.get? id with
  | some iteration => .ok iteration
  | none => .error (.notFound (.iteration id))

/-- The iterations of a scenario, in no particular order. -/
def iterationsOf (store : ScenarioStore) (scenario : Uuid) : List Iteration :=
  store.iterations.values.filter fun iteration => iteration.scenario == scenario

/-- The iterations of a scenario by version. -/
def listIterations (store : ScenarioStore) (scenario : Uuid) : List Iteration :=
  (store.iterationsOf scenario).mergeSort fun x y => decide (x.version ≤ y.version)

/-- The publications of a scenario in the order of their commits. -/
def publicationsOf (store : ScenarioStore) (scenario : Uuid) : List Publication :=
  store.publications.filter fun publication => publication.scenario == scenario

/-- The publications of a scenario by rank; those of equal rank in the order of their commits. -/
def listPublications (store : ScenarioStore) (scenario : Uuid) : List Publication :=
  (store.publicationsOf scenario).mergeSort fun x y => decide (x.rank ≤ y.rank)

/-- The publication of an identifier. -/
def getPublication (store : ScenarioStore) (id : Uuid) : Except StoreError Publication :=
  match store.publications.find? fun publication => publication.id == id with
  | some publication => .ok publication
  | none => .error (.notFound (.publication id))

/-- The rank of the last publication of a scenario; zero if there is none. -/
def lastRank (store : ScenarioStore) (scenario : Uuid) : UInt32 :=
  greatest ((store.publicationsOf scenario).map Publication.rank)

/-- The version that the next iteration of a scenario gets. -/
def nextVersion (store : ScenarioStore) (scenario : Uuid) : UInt32 :=
  greatest ((store.iterationsOf scenario).map Iteration.version) + 1

/-! ## Writing -/

def createScenario (store : ScenarioStore) (stamp : Stamp) (draft : ScenarioDraft) :
    Scenario × ScenarioStore :=
  let scenario := draft.toScenario stamp
  (scenario, { store with scenarios := store.scenarios.insert scenario.id scenario })

def createIteration (store : ScenarioStore) (stamp : Stamp) (scenario : Uuid)
    (draft : IterationDraft) : Except StoreError Iteration × ScenarioStore :=
  match store.getScenario scenario with
  | .error error => (.error error, store)
  | .ok _ =>
    let iteration := draft.toIteration scenario (store.nextVersion scenario) stamp
    (.ok iteration, { store with iterations := store.iterations.insert iteration.id iteration })

/-- Edits a draft iteration. The time of its last change grows even if the clock does not. -/
def updateIteration (store : ScenarioStore) (stamp : Stamp) (id : Uuid) (edit : IterationEdit) :
    Except StoreError Iteration × ScenarioStore :=
  match store.getIteration id with
  | .error error => (.error error, store)
  | .ok iteration =>
    if iteration.state.isEditable then
      let now := stamp.now.later iteration.updatedAt.next
      let edited := edit.applyTo iteration stamp.parts now
      (.ok edited, { store with iterations := store.iterations.insert id edited })
    else (.error (.immutable id), store)

/-- Checks that the iterations to be moved belong to the scenario of the commit. -/
def checkTransitions (store : ScenarioStore) (scenario : Uuid) :
    List (Uuid × IterationState) → Except StoreError Unit
  | [] => .ok ()
  | (id, _) :: rest =>
    match store.iterations.get? id with
    | some iteration =>
      if iteration.scenario = scenario then checkTransitions store scenario rest
      else .error (.notFound (.iteration id))
    | none => .error (.notFound (.iteration id))

/-- Checks that iterations have not changed since they were read. -/
def checkIterations (store : ScenarioStore) (scenario : Uuid) :
    List (Uuid × Instant) → Except StoreError Unit
  | [] => .ok ()
  | (id, updatedAt) :: rest =>
    match store.iterations.get? id with
    | some iteration =>
      if iteration.updatedAt = updatedAt then checkIterations store scenario rest
      else .error (.conflict scenario)
    | none => .error (.notFound (.iteration id))

/-- Checks all that a commit expects. -/
def checkCommit (store : ScenarioStore) (commit : Commit) : Except StoreError Unit := do
  let scenario ← store.getScenario commit.scenario
  if scenario.live ≠ commit.expectedLive ∨
      store.lastRank commit.scenario ≠ commit.expectedRank then
    throw (.conflict commit.scenario)
  store.checkTransitions commit.scenario commit.transitions
  store.checkIterations commit.scenario commit.expectedIterations

/-- Moves an iteration to a state. -/
def moveIteration (now : Instant) (iterations : Dict Uuid Iteration)
    (transition : Uuid × IterationState) : Dict Uuid Iteration :=
  match iterations.get? transition.1 with
  | some iteration =>
    iterations.insert transition.1 { iteration with state := transition.2, updatedAt := now }
  | none => iterations

/-- Sets the live iteration of a scenario. -/
def setLive (scenarios : Dict Uuid Scenario) (id : Uuid) (live : Option Uuid) :
    Dict Uuid Scenario :=
  match scenarios.get? id with
  | some scenario => scenarios.insert id { scenario with live }
  | none => scenarios

/-- The store after a commit. -/
def applyCommit (store : ScenarioStore) (now : Instant) (commit : Commit) : ScenarioStore :=
  { store with
    scenarios := setLive store.scenarios commit.scenario commit.newLive
    iterations := commit.transitions.foldl (moveIteration now) store.iterations
    publications := store.publications ++ [commit.publication] }

/-- Commits a publication, or says why not and leaves the records as they are. -/
def commit (store : ScenarioStore) (now : Instant) (commit : Commit) :
    Except StoreError Unit × ScenarioStore :=
  if store.injectedConflicts = 0 then
    match store.checkCommit commit with
    | .ok () => (.ok (), store.applyCommit now commit)
    | .error error => (.error error, store)
  else
    (.error (.conflict commit.scenario),
      { store with injectedConflicts := store.injectedConflicts - 1 })

end ScenarioStore

end RiskScoring
