import RiskScoring.Formula.Basic
import RiskScoring.Time.Instant
import RiskScoring.Uuid

/-!
# Scenarios

A scenario belongs to an organization and is triggered by objects of one table. Its content comes in
numbered iterations: a trigger condition, rules that add to a score, and the two thresholds of the
score. An iteration is a draft until it goes live for the first time. The log of publications says
which iteration was live when.
-/

namespace RiskScoring

/-- What a new record needs from outside: an identifier, the time, and identifiers for its parts. -/
structure Stamp where
  id : Uuid
  now : Instant
  parts : Nat → Uuid

/-- A rule set that objects of one table are scored with. -/
structure Scenario where
  id : Uuid
  organization : Uuid
  name : String
  description : String
  /-- The table whose objects trigger the scenario. -/
  triggerTable : String
  /-- The iteration that is live, if one is. -/
  live : Option Uuid
  createdAt : Instant
deriving DecidableEq

/-- Where an iteration stands. -/
inductive IterationState where
  /-- Never live so far; the only state in which it may be edited. -/
  | draft
  | live
  /-- Was live until another iteration took its place. -/
  | superseded
  /-- Was live until it was taken down without replacement. -/
  | unpublished
deriving DecidableEq, Repr

namespace IterationState

def all : List IterationState := [draft, live, superseded, unpublished]

def name : IterationState → String
  | draft => "draft"
  | live => "live"
  | superseded => "superseded"
  | unpublished => "unpublished"

instance : ToString IterationState := ⟨name⟩

def ofName? (text : String) : Option IterationState := all.find? fun state => state.name == text

/-- Whether an iteration in this state may be edited. -/
def isEditable : IterationState → Bool
  | draft => true
  | _ => false

/-- Whether an iteration may move from this state to another: whatever is not live may go live,
also once more, and what is live may be superseded or unpublished. -/
def mayBecome : IterationState → IterationState → Bool
  | draft, live => true
  | superseded, live => true
  | unpublished, live => true
  | live, superseded => true
  | live, unpublished => true
  | _, _ => false

end IterationState

/-- A rule: if its formula holds, its modifier is added to the score. -/
structure Rule where
  id : Uuid
  /-- Rules are scored in this order. -/
  displayOrder : UInt32
  name : String
  description : String
  formula : Expression
  scoreModifier : Int64
  createdAt : Instant

/-- One version of the content of a scenario. -/
structure Iteration where
  id : Uuid
  scenario : Uuid
  version : UInt32
  trigger : Expression
  rules : List Rule
  /-- Scores from here on call for a review. -/
  reviewThreshold : Int64
  /-- Scores from here on lead to a rejection. -/
  rejectThreshold : Int64
  state : IterationState
  createdAt : Instant
  updatedAt : Instant

namespace Iteration

/-- The rules in scoring order; rules of equal display order stay as they are stored. -/
def orderedRules (iteration : Iteration) : List Rule :=
  iteration.rules.mergeSort fun x y => decide (x.displayOrder ≤ y.displayOrder)

end Iteration

/-- What a publication did. -/
inductive PublicationAction where
  | publish
  | unpublish
deriving DecidableEq, Repr

namespace PublicationAction

def all : List PublicationAction := [publish, unpublish]

def name : PublicationAction → String
  | publish => "publish"
  | unpublish => "unpublish"

instance : ToString PublicationAction := ⟨name⟩

def ofName? (text : String) : Option PublicationAction :=
  all.find? fun action => action.name == text

end PublicationAction

/-- An entry in the log of publications. -/
structure Publication where
  id : Uuid
  organization : Uuid
  scenario : Uuid
  iteration : Uuid
  action : PublicationAction
  /-- The place in the log of the scenario, from one on. -/
  rank : UInt32
  createdAt : Instant
deriving DecidableEq

/-- A request to publish or unpublish an iteration; the name of the action is not checked yet. -/
structure PublicationRequest where
  iteration : Uuid
  action : String
deriving DecidableEq, Repr

/-! ## Drafts and edits -/

/-- What a new scenario is made from. -/
structure ScenarioDraft where
  organization : Uuid
  name : String
  description : String
  triggerTable : String
deriving DecidableEq, Repr

/-- What a new rule is made from. -/
structure RuleDraft where
  displayOrder : UInt32
  name : String
  description : String
  formula : Expression
  scoreModifier : Int64

/-- What a new iteration is made from. -/
structure IterationDraft where
  trigger : Expression
  rules : List RuleDraft
  reviewThreshold : Int64
  rejectThreshold : Int64

/-- A change of an iteration: what is absent stays as it is, and rules are replaced as a whole. -/
structure IterationEdit where
  trigger : Option Expression
  rules : Option (List RuleDraft)
  reviewThreshold : Option Int64
  rejectThreshold : Option Int64

namespace RuleDraft

/-- The rule made from a draft. -/
def toRule (draft : RuleDraft) (id : Uuid) (now : Instant) : Rule where
  id := id
  displayOrder := draft.displayOrder
  name := draft.name
  description := draft.description
  formula := draft.formula
  scoreModifier := draft.scoreModifier
  createdAt := now

/-- The rules made from drafts, each with the identifier of its place. -/
def toRules (drafts : List RuleDraft) (ids : Nat → Uuid) (now : Instant) : List Rule :=
  drafts.mapIdx fun index draft => draft.toRule (ids index) now

end RuleDraft

namespace ScenarioDraft

/-- The scenario made from a draft. -/
def toScenario (draft : ScenarioDraft) (stamp : Stamp) : Scenario where
  id := stamp.id
  organization := draft.organization
  name := draft.name
  description := draft.description
  triggerTable := draft.triggerTable
  live := none
  createdAt := stamp.now

end ScenarioDraft

namespace IterationDraft

/-- The iteration made from a draft. -/
def toIteration (draft : IterationDraft) (scenario : Uuid) (version : UInt32) (stamp : Stamp) :
    Iteration where
  id := stamp.id
  scenario := scenario
  version := version
  trigger := draft.trigger
  rules := RuleDraft.toRules draft.rules stamp.parts stamp.now
  reviewThreshold := draft.reviewThreshold
  rejectThreshold := draft.rejectThreshold
  state := .draft
  createdAt := stamp.now
  updatedAt := stamp.now

end IterationDraft

namespace IterationEdit

/-- The iteration after the edit. -/
def applyTo (edit : IterationEdit) (iteration : Iteration) (ids : Nat → Uuid) (now : Instant) :
    Iteration :=
  { iteration with
    trigger := edit.trigger.getD iteration.trigger
    rules := match edit.rules with
      | some drafts => RuleDraft.toRules drafts ids now
      | none => iteration.rules
    reviewThreshold := edit.reviewThreshold.getD iteration.reviewThreshold
    rejectThreshold := edit.rejectThreshold.getD iteration.rejectThreshold
    updatedAt := now }

end IterationEdit

end RiskScoring
