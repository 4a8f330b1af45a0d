import RiskScoring.Decision.Engine

/-!
# Batches

A batch scores many objects with one iteration. The objects do not depend on each other: one that
cannot be scored is reported and the others go on. An object is scored again after a failed read, a
limited number of times. Before each object it is asked whether the batch is cancelled.
-/

namespace RiskScoring

/-- An object of a batch that could not be scored, by its place. -/
structure BatchFailure where
  index : Nat
  error : ScoringError

/-- What a batch did. -/
structure BatchReport where
  batch : Uuid
  /-- How many objects were taken up. -/
  processed : Nat
  /-- The decisions, in the order of the objects. -/
  decisions : List Decision
  notTriggered : Nat
  failures : List BatchFailure
  cancelled : Bool

/-- The result for one object; `none` if the batch was cancelled before it. -/
abbrev BatchResult := Option (Except ScoringError Evaluation)

/-- What a batch scores with, and how. -/
structure Batch where
  id : Uuid
  model : DataModel
  scenario : Scenario
  iteration : Iteration
  /-- How often an object is scored again after a failed read. -/
  retries : Nat
  /-- Whether the batch is cancelled; it may depend on what the store has been asked for. -/
  isCancelled : Ingest.Store → Bool

namespace Batch

/-- Scores an object, again after failed reads while `left` allows it. -/
def scoreObject (batch : Batch) (payload : Payload) (stamp : Stamp) :
    Nat → StateM Ingest.Store (Except ScoringError Evaluation)
  | 0 => batch.iteration.score batch.model batch.scenario payload (some batch.id) stamp
  | left + 1 => do
    match ← batch.iteration.score batch.model batch.scenario payload (some batch.id) stamp with
    | .ok evaluation =>
      if evaluation.hasReadFailure then scoreObject batch payload stamp left
      else return .ok evaluation
    | .error error => return .error error

/-- Scores objects in order, each with the stamp of its place. -/
def results (batch : Batch) (stamps : Nat → Stamp) :
    Nat → List Payload → StateM Ingest.Store (List BatchResult)
  | _, [] => pure []
  | index, payload :: rest => do
    let result ←
      if batch.isCancelled (← get) then pure none
      else some <$> batch.scoreObject payload (stamps index) batch.retries
    let others ← results batch stamps (index + 1) rest
    return result :: others

/-- The decisions among results. -/
def decisions (results : List BatchResult) : List Decision :=
  results.filterMap fun
    | some (.ok (.triggered decision)) => some decision
    | _ => none

/-- The number of objects that did not trigger the scenario. -/
def notTriggered (results : List BatchResult) : Nat :=
  results.countP fun
    | some (.ok (.notTriggered _)) => true
    | _ => false

/-- The failures among results, from a place on. -/
def failures : Nat → List BatchResult → List BatchFailure
  | _, [] => []
  | index, some (.error error) :: rest => ⟨index, error⟩ :: failures (index + 1) rest
  | index, _ :: rest => failures (index + 1) rest

/-- The report on results. -/
def report (batch : Batch) (results : List BatchResult) (cancelled : Bool) : BatchReport where
  batch := batch.id
  processed := results.countP Option.isSome
  decisions := decisions results
  notTriggered := notTriggered results
  failures := failures 0 results
  cancelled := cancelled

/-- Runs the batch. -/
def run (batch : Batch) (stamps : Nat → Stamp) (payloads : List Payload) :
    StateM Ingest.Store BatchReport := do
  let results ← batch.results stamps 0 payloads
  return batch.report results (batch.isCancelled (← get))

end Batch

end RiskScoring
