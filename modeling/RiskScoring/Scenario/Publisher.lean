import RiskScoring.Scenario.Store
import RiskScoring.Scenario.Validation

/-!
# Publishing

A publisher makes an iteration live or takes the live one down. It reads what it needs from the
store, one request at a time, and commits what it has decided; if the commit conflicts with what
others did in the meantime, it starts over, as often as it may.

A run of a publisher is a value of type `Call`: either a result, or a request together with what
follows each answer. So the requests of several publishers, and other operations between them, can
be put into any order.
-/

namespace RiskScoring

/-! ## Errors -/

/-- Why a request to publish or unpublish makes no sense. -/
inductive BadParameter where
  | unknownState (name : String)
  | unknownAction (name : String)
  | notLive (iteration scenario : Uuid)
  | notPublishable (iteration : Uuid) (report : ValidationReport)
deriving DecidableEq

namespace BadParameter

/-- What is wrong, in words. -/
def message : BadParameter → String
  | unknownState name => s!"unknown iteration state '{name}'"
  | unknownAction name => s!"unknown publication action '{name}'"
  | notLive iteration scenario =>
    s!"iteration '{iteration}' is not the live iteration of scenario '{scenario}'"
  | notPublishable iteration report =>
    s!"iteration '{iteration}' cannot be published: " ++ "; ".intercalate report.messages

end BadParameter

/-- Why nothing was published. -/
inductive PublicationError where
  | badParameter (cause : BadParameter)
  | invalidTransition (source target : IterationState)
  /-- Every attempt ran into a conflict. -/
  | exhausted (scenario : Uuid) (attempts : UInt32)
  | store (error : StoreError)
deriving DecidableEq

namespace PublicationError

def name : PublicationError → String
  | badParameter _ => "BadParameter"
  | invalidTransition .. => "InvalidStateTransition"
  | exhausted .. => "PublicationConflict"
  | store error => error.name

def message : PublicationError → String
  | badParameter cause => s!"Bad parameter: {cause.message}"
  | invalidTransition source target => s!"Iteration cannot move from '{source}' to '{target}'"
  | exhausted scenario attempts =>
    s!"Publication of scenario '{scenario}' kept conflicting after {attempts} attempts"
  | store error => error.message

end PublicationError

namespace IterationState

/-- Reads the name of a state. -/
def ofName (text : String) : Except PublicationError IterationState :=
  match ofName? text with
  | some state => .ok state
  | none => .error (.badParameter (.unknownState text))

/-- Checks a move to another state. -/
def checkMove (source target : IterationState) : Except PublicationError Unit :=
  if source.mayBecome target then .ok () else .error (.invalidTransition source target)

end IterationState

namespace PublicationAction

/-- Reads the name of an action. -/
def ofName (text : String) : Except PublicationError PublicationAction :=
  match ofName? text with
  | some action => .ok action
  | none => .error (.badParameter (.unknownAction text))

end PublicationAction

/-- Checks what an iteration has to fulfil before it may go live. -/
def Iteration.checkPublishable (iteration : Iteration) : Except PublicationError Unit :=
  let report := iteration.validateStructure
  if report.isValid then .ok ()
  else .error (.badParameter (.notPublishable iteration.id report))

/-! ## Calls -/

/-- A run of a publisher: its result, or the next request and what follows each answer. -/
inductive Call (α : Type) where
  | done (result : α)
  | getScenario (id : Uuid) (next : Except StoreError Scenario → Call α)
  | getIteration (id : Uuid) (next : Except StoreError Iteration → Call α)
  | listPublications (scenario : Uuid) (next : Except StoreError (List Publication) → Call α)
  /-- Asks for an identifier and the time. -/
  | stamp (next : Stamp → Call α)
  | commit (commit : Commit) (next : Except StoreError Unit → Call α)

namespace Call

/-- Goes on with the result of a call. -/
def bind {α β : Type} : Call α → (α → Call β) → Call β
  | done result, f => f result
  | getScenario id next, f => getScenario id fun answer => bind (next answer) f
  | getIteration id next, f => getIteration id fun answer => bind (next answer) f
  | listPublications id next, f => listPublications id fun answer => bind (next answer) f
  | stamp next, f => stamp fun answer => bind (next answer) f
  | commit change next, f => commit change fun answer => bind (next answer) f

instance : Monad Call where
  pure := done
  bind := bind

/-- What answers the requests of a publisher, in a monad that holds its state. -/
structure Backend (m : Type → Type) where
  getScenario : Uuid → m (Except StoreError Scenario)
  getIteration : Uuid → m (Except StoreError Iteration)
  listPublications : Uuid → m (Except StoreError (List Publication))
  stamp : m Stamp
  commit : Commit → m (Except StoreError Unit)

/-- Runs a call to its end. -/
def run {m : Type → Type} [Monad m] {α : Type} (backend : Backend m) : Call α → m α
  | done result => pure result
  | getScenario id next => do
    let answer ← backend.getScenario id
    run backend (next answer)
  | getIteration id next => do
    let answer ← backend.getIteration id
    run backend (next answer)
  | listPublications id next => do
    let answer ← backend.listPublications id
    run backend (next answer)
  | stamp next => do
    let answer ← backend.stamp
    run backend (next answer)
  | commit change next => do
    let answer ← backend.commit change
    run backend (next answer)

end Call

/-- A call that may fail. -/
abbrev Publishing := ExceptT PublicationError Call

namespace Publishing

/-- Requests a scenario. -/
def getScenario (id : Uuid) : Publishing Scenario :=
  ExceptT.mk (.getScenario id fun answer => .done (answer.mapError .store))

/-- Requests an iteration. -/
def getIteration (id : Uuid) : Publishing Iteration :=
  ExceptT.mk (.getIteration id fun answer => .done (answer.mapError .store))

/-- Requests the rank of the last publication of a scenario. -/
def lastRank (scenario : Uuid) : Publishing UInt32 :=
  ExceptT.mk (.listPublications scenario fun answer =>
    .done ((answer.mapError .store).map fun log => greatest (log.map Publication.rank)))

/-- Requests an identifier and the time. -/
def stamp : Publishing Stamp := ExceptT.mk (.stamp fun answer => .done (.ok answer))

/-- Requests a commit. -/
def commit (change : Commit) : Publishing Unit :=
  ExceptT.mk (.commit change fun answer => .done (answer.mapError .store))

end Publishing

/-! ## The publisher -/

namespace Publisher

/-- The move of the iteration that was live, and the time at which it was read. -/
structure Replacement where
  transitions : List (Uuid × IterationState)
  expected : List (Uuid × Instant)

/-- What becomes of the iteration that is live when another one takes its place. -/
def replaceLive : Option Uuid → Publishing Replacement
  | none => return ⟨[], []⟩
  | some id => do
    let previous ← Publishing.getIteration id
    liftExcept (previous.state.checkMove .superseded)
    return ⟨[(id, .superseded)], [(id, previous.updatedAt)]⟩

/-- The entry that an attempt adds to the log after one of a rank. -/
def entry (scenario : Scenario) (iteration : Uuid) (action : PublicationAction) (rank : UInt32)
    (stamp : Stamp) : Publication where
  id := stamp.id
  organization := scenario.organization
  scenario := scenario.id
  iteration := iteration
  action := action
  rank := rank + 1
  createdAt := stamp.now

/-- The commit that makes an iteration live, from what was read. -/
def publishing (scenario : Scenario) (iteration : Iteration) (replaced : Replacement)
    (rank : UInt32) (stamp : Stamp) : Commit where
  scenario := scenario.id
  expectedLive := scenario.live
  expectedRank := rank
  expectedIterations := replaced.expected ++ [(iteration.id, iteration.updatedAt)]
  newLive := some iteration.id
  transitions := replaced.transitions ++ [(iteration.id, .live)]
  publication := entry scenario iteration.id .publish rank stamp

/-- The commit that takes the live iteration down, from what was read. -/
def unpublishing (scenario : Scenario) (liveId : Uuid) (updatedAt : Instant) (rank : UInt32)
    (stamp : Stamp) : Commit where
  scenario := scenario.id
  expectedLive := some liveId
  expectedRank := rank
  expectedIterations := [(liveId, updatedAt)]
  newLive := none
  transitions := [(liveId, .unpublished)]
  publication := entry scenario liveId .unpublish rank stamp

/-- Requests a commit. The result holds the publication that was added to the log. -/
def submit (change : Commit) : Publishing (List Publication) := do
  Publishing.commit change
  return [change.publication]

/-- One attempt to make an iteration live. Nothing is to be done if it is live already. -/
def tryPublish (id : Uuid) : Publishing (List Publication) := do
  let iteration ← Publishing.getIteration id
  let scenario ← Publishing.getScenario iteration.scenario
  if scenario.live = some iteration.id then return []
  else
    liftExcept iteration.checkPublishable
    liftExcept (iteration.state.checkMove .live)
    let replaced ← replaceLive scenario.live
    let rank ← Publishing.lastRank scenario.id
    let stamp ← Publishing.stamp
    submit (publishing scenario iteration replaced rank stamp)

/-- One attempt to take the live iteration of a scenario down. Nothing is to be done if none is
live. -/
def tryUnpublish (id : Uuid) : Publishing (List Publication) := do
  let scenario ← Publishing.getScenario id
  match scenario.live with
  | none => return []
  | some liveId =>
    let live ← Publishing.getIteration liveId
    liftExcept (live.state.checkMove .unpublished)
    let rank ← Publishing.lastRank scenario.id
    let stamp ← Publishing.stamp
    submit (unpublishing scenario liveId live.updatedAt rank stamp)

/-- Makes attempts until one does not end in a conflict; `left` are still allowed, of `attempts` in
all. -/
def attempt (scenario : Uuid) (attempts : UInt32) (once : Publishing (List Publication)) :
    Nat → Publishing (List Publication)
  | 0 => throw (.exhausted scenario attempts)
  | left + 1 => ExceptT.mk (once.run.bind fun result =>
    match result with
    | .error (.store (.conflict _)) => (attempt scenario attempts once left).run
    | other => .done other)

/-- Makes an attempt, and after conflicts up to `retries` more. The attempts are counted in 32 bits:
with the greatest number of retries the count wraps around to zero, and none is made. -/
def withRetries (retries : UInt32) (scenario : Uuid) (once : Publishing (List Publication)) :
    Publishing (List Publication) :=
  attempt scenario (retries + 1) once (retries + 1).toNat

/-- Makes an iteration live. The result holds the publication that was added to the log, if one
was. -/
def publish (retries : UInt32) (id : Uuid) : Publishing (List Publication) := do
  let iteration ← Publishing.getIteration id
  withRetries retries iteration.scenario (tryPublish id)

/-- Takes the live iteration of a scenario down. -/
def unpublish (retries : UInt32) (scenario : Uuid) : Publishing (List Publication) :=
  withRetries retries scenario (tryUnpublish scenario)

/-- Serves a request. To unpublish names an iteration, which has to be the live one, unless none
is live. -/
def apply (retries : UInt32) (request : PublicationRequest) : Publishing (List Publication) := do
  match ← liftExcept (PublicationAction.ofName request.action) with
  | .publish => publish retries request.iteration
  | .unpublish =>
    let iteration ← Publishing.getIteration request.iteration
    let scenario ← Publishing.getScenario iteration.scenario
    if scenario.live.isSome ∧ scenario.live ≠ some iteration.id then
      throw (.badParameter (.notLive iteration.id scenario.id))
    else unpublish retries scenario.id

end Publisher

/-! ## Publishing without others -/

/-- The store together with the stamps that are still to be given out. -/
structure Serving where
  store : ScenarioStore
  stamps : Nat → Stamp

namespace Serving

/-- Takes the next stamp. -/
def take : StateM Serving Stamp := fun serving =>
  (serving.stamps 0, { serving with stamps := fun n => serving.stamps (n + 1) })

/-- Answers requests from the store. A commit takes its time from a stamp of its own. -/
def backend : Call.Backend (StateM Serving) where
  getScenario id := do return (← get).store.getScenario id
  getIteration id := do return (← get).store.getIteration id
  listPublications id := do return .ok ((← get).store.listPublications id)
  stamp := take
  commit change := do
    let stamp ← take
    modifyGet fun serving =>
      let (result, store) := serving.store.commit stamp.now change
      (result, { serving with store })

end Serving

namespace ScenarioStore

/-- Runs a publisher on the store, with no one else acting on it. -/
def runPublisher {α : Type} (store : ScenarioStore) (stamps : Nat → Stamp)
    (publishing : Publishing α) : Except PublicationError α × ScenarioStore :=
  let (result, serving) := (Call.run Serving.backend publishing.run).run ⟨store, stamps⟩
  (result, serving.store)

end ScenarioStore

end RiskScoring
