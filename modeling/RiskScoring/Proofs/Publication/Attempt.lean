import RiskScoring.Proofs.Publication.Interference
import RiskScoring.Proofs.Scenario.Swap

/-!
# What an attempt knows when it commits

Between the requests of an attempt the store may change in every way that `ScenarioStore.Evolves`
covers. What the attempt has read holds at its commit in a weaker form: `Grounds`.

* `Goal.attempt`: the one attempt that a goal stands for.
* `Goal.attempt_meets`: every commit of an attempt has its grounds, and an attempt ends with nothing
  to be done only if its goal is `Goal.Settled` at that moment.
* `Grounds.allows`: a commit that has its grounds is one that the store allows.
-/

namespace RiskScoring

/-- How a store may change: its records evolve, and it is consistent afterwards. -/
structure ScenarioStore.Evolves (old new : ScenarioStore) : Prop where
  precedes : old.Precedes new
  consistent : new.Consistent

theorem ScenarioStore.Evolves.trans {x y z : ScenarioStore} (first : x.Evolves y)
    (second : y.Evolves z) : x.Evolves z :=
  ⟨first.precedes.trans second.precedes, second.consistent⟩

/-- What an attempt is made for. -/
inductive Goal where
  | publish (iteration : Uuid)
  | unpublish (scenario : Uuid)

namespace Goal

/-- One attempt at the goal. -/
def attempt : Goal → Publishing (List Publication)
  | publish iteration => Publisher.tryPublish iteration
  | unpublish scenario => Publisher.tryUnpublish scenario

/-- Nothing is to be done: the iteration is the live one of its scenario, or none is live. -/
def Settled (store : ScenarioStore) : Goal → Prop
  | publish id => ∃ iteration scenario, store.iterations.get? id = some iteration ∧
      store.scenarios.get? iteration.scenario = some scenario ∧ scenario.live = some id
  | unpublish id => ∃ scenario, store.scenarios.get? id = some scenario ∧ scenario.live = none

end Goal

/-- The replacement of the iteration that was read as live, whenever it was read. -/
def Publisher.Replacement.Of (replaced : Replacement) : Option Uuid → Prop
  | none => replaced = ⟨[], []⟩
  | some id => ∃ updatedAt, replaced = ⟨[(id, .superseded)], [(id, updatedAt)]⟩

/-- What an attempt knows of the store in which its commit is checked: the iteration and the
scenario that it read are there, as far as records evolve, and what it read was fit to be
committed. -/
inductive Grounds (store : ScenarioStore) : Goal → Commit → Prop
  | publish {iteration stored : Iteration} {scenario : Scenario} {current : Option Uuid}
    {replaced : Publisher.Replacement} (rank : UInt32) (stamp : Stamp)
    (found : store.iterations.get? iteration.id = some stored)
    (precedes : iteration.Precedes stored)
    (hasId : scenario.id = iteration.scenario)
    (owner : store.scenarios.get? iteration.scenario = some { scenario with live := current })
    (changes : scenario.live ≠ some iteration.id)
    (valid : iteration.validateStructure.isValid = true)
    (replaces : replaced.Of scenario.live) :
    Grounds store (.publish iteration.id)
      (Publisher.publishing scenario iteration replaced rank stamp)
  | unpublish {scenario : Scenario} {current : Option Uuid} {liveId : Uuid} (updatedAt : Instant)
    (rank : UInt32) (stamp : Stamp)
    (found : store.scenarios.get? scenario.id = some { scenario with live := current })
    (isLive : scenario.live = some liveId) :
    Grounds store (.unpublish scenario.id)
      (Publisher.unpublishing scenario liveId updatedAt rank stamp)

namespace Grounds

open Publisher

variable {store : ScenarioStore} {goal : Goal} {change : Commit}

/-- The iteration that was validated is still valid if it has not been changed since; the other
iterations that may go live have been live before. -/
theorem stored_valid {iteration stored : Iteration} (consistent : store.Consistent)
    (found : store.iterations.get? iteration.id = some stored)
    (precedes : iteration.Precedes stored)
    (valid : iteration.validateStructure.isValid = true)
    (unchanged : stored.updatedAt = iteration.updatedAt) :
    stored.validateStructure.isValid = true := by
  by_cases isDraft : stored.state = .draft
  · rw [precedes.eq_of_updatedAt isDraft unchanged]
    exact valid
  · exact consistent.published_valid found isDraft

/-- An accepted commit to publish finds the iteration with the time of change that was read. -/
theorem unchanged_of_accepts {iteration stored : Iteration} {scenario : Scenario}
    {replaced : Replacement} {rank : UInt32} {stamp : Stamp}
    (accepts : store.Accepts (publishing scenario iteration replaced rank stamp))
    (found : store.iterations.get? iteration.id = some stored) :
    stored.updatedAt = iteration.updatedAt := by
  have listed : (iteration.id, iteration.updatedAt) ∈
      (publishing scenario iteration replaced rank stamp).expectedIterations :=
    List.mem_append_right _ (List.mem_singleton.mpr rfl)
  obtain ⟨same, foundSame, unchanged⟩ := accepts.iterations _ listed
  rw [found] at foundSame
  cases foundSame
  exact unchanged

theorem publishing_isSwap {scenario : Scenario} {iteration : Iteration} {replaced : Replacement}
    (rank : UInt32) (stamp : Stamp) (changes : scenario.live ≠ some iteration.id)
    (replaces : replaced.Of scenario.live) :
    (publishing scenario iteration replaced rank stamp).IsSwap where
  changes := changes
  transitions := by
    show replaced.transitions ++ [(iteration.id, IterationState.live)] =
      scenario.live.toList.map (·, IterationState.superseded) ++
        [(iteration.id, IterationState.live)]
    cases live : scenario.live with
    | none =>
      rw [live] at replaces
      rw [show replaced = ⟨[], []⟩ from replaces]
      rfl
    | some previous =>
      rw [live] at replaces
      obtain ⟨updatedAt, rfl⟩ := replaces
      rfl

/-- A commit that has its grounds is one that a consistent store allows. -/
theorem allows (grounds : Grounds store goal change) (consistent : store.Consistent) :
    store.Allows change := by
  cases grounds with
  | @publish iteration stored scenario current replaced rank stamp found precedes hasId owner
      changes valid replaces =>
    refine ⟨publishing_isSwap rank stamp changes replaces, ?_⟩
    intro accepts target same isNew foundSame
    cases isNew
    rw [found] at foundSame
    cases foundSame
    exact stored_valid consistent found precedes valid (unchanged_of_accepts accepts found)
  | @unpublish scenario current liveId updatedAt rank stamp found isLive =>
    refine ⟨⟨fun same => ?_, rfl⟩, fun accepts _ _ isNew => ?_⟩
    · cases same
    · cases isNew

end Grounds

/-! ## The commits of an attempt -/

namespace Goal

open Publisher

variable {store : ScenarioStore}

/-- The commits of an attempt: each has its grounds, in a consistent store. -/
def Grounded (goal : Goal) (store : ScenarioStore) (change : Commit) : Prop :=
  store.Consistent ∧ Grounds store goal change

/-- If the attempt ends with nothing to be done, then so it is. -/
def Ends (goal : Goal) (store : ScenarioStore) (result : PublicationResult) : Prop :=
  result = .ok [] → goal.Settled store

theorem ends_error {goal : Goal} (error : PublicationError) : goal.Ends store (.error error) :=
  fun isNothing => nomatch isNothing

/-- The replacement that is read fits the iteration that is taken to be live. -/
theorem replaceLive_meets {rely : ScenarioStore → ScenarioStore → Prop}
    (trans : ∀ ⦃x y z⦄, rely x y → rely y z → rely x z)
    {allowed : ScenarioStore → Commit → Prop} (live : Option Uuid) :
    (replaceLive live).run.Meets rely allowed
      (fun later result => ∀ replaced, result = .ok replaced →
        replaced.Of live ∧ ∀ {last}, rely later last → rely store last) store := by
  cases live with
  | none =>
    intro replaced isResult
    cases isResult
    exact ⟨rfl, id⟩
  | some id =>
    refine Publishing.meets_getIteration ?_ ?_
    · intro later error missing replaced isResult
      cases isResult
    · intro later previous steps found
      refine Publishing.meets_liftExcept ?_ ?_
      · intro error fails replaced isResult
        cases isResult
      · intro _ passes replaced isResult
        cases isResult
        exact ⟨⟨previous.updatedAt, rfl⟩, trans steps⟩

theorem tryPublish_meets (id : Uuid) :
    (tryPublish id).run.Meets ScenarioStore.Evolves (publish id).Grounded (publish id).Ends
      store := by
  refine Publishing.meets_getIteration (fun _ => ends_error _) ?_
  intro first iteration startSteps foundFirst
  have storedFirst := ScenarioStore.getIteration_eq_ok.mp foundFirst
  obtain rfl : iteration.id = id := startSteps.consistent.iteration_id storedFirst
  refine Publishing.meets_getScenario (fun _ => ends_error _) ?_
  intro second scenario firstSteps foundSecond
  have storedSecond := ScenarioStore.getScenario_eq_ok.mp foundSecond
  have hasId : scenario.id = iteration.scenario := firstSteps.consistent.scenario_id storedSecond
  by_cases isLive : scenario.live = some iteration.id
  · -- The iteration is still there, in the same scenario.
    rw [if_pos isLive]
    intro _
    obtain ⟨stored, still, precedes⟩ := firstSteps.precedes.iterations storedFirst
    exact ⟨stored, scenario, still, by rw [precedes.scenario, storedSecond], isLive⟩
  · rw [if_neg isLive]
    refine Publishing.meets_liftExcept (fun _ => ends_error _) ?_
    intro _ publishable
    have valid : iteration.validateStructure.isValid = true := by
      by_cases isValid : iteration.validateStructure.isValid = true
      · exact isValid
      · simp only [Iteration.checkPublishable, if_neg isValid] at publishable
        cases publishable
    refine Publishing.meets_liftExcept (fun _ => ends_error _) ?_
    intro _ _
    refine Publishing.meets_bind (replaceLive_meets (fun _ _ _ => .trans) scenario.live)
      (fun _ => ends_error _) ?_
    intro third replaced isReplaced
    obtain ⟨replaces, secondSteps⟩ := isReplaced replaced rfl
    refine Publishing.meets_lastRank ?_
    intro fourth thirdSteps
    refine Publishing.meets_stamp ?_
    intro fifth given fourthSteps
    refine Publishing.meets_submit ?_ (ends_error _) (fun isNothing => nomatch isNothing)
    intro last fifthSteps
    -- What was read first has evolved up to the commit.
    have fromSecond : second.Evolves last := (secondSteps thirdSteps).trans
      (fourthSteps.trans fifthSteps)
    have fromFirst : first.Evolves last := firstSteps.trans fromSecond
    obtain ⟨stored, found, precedes⟩ := fromFirst.precedes.iterations storedFirst
    obtain ⟨current, owner⟩ := fromSecond.precedes.scenarios storedSecond
    exact ⟨fifthSteps.consistent,
      .publish _ given found precedes hasId owner isLive valid replaces⟩

theorem tryUnpublish_meets (id : Uuid) :
    (tryUnpublish id).run.Meets ScenarioStore.Evolves (unpublish id).Grounded (unpublish id).Ends
      store := by
  refine Publishing.meets_getScenario (fun _ => ends_error _) ?_
  intro first scenario startSteps foundFirst
  have storedFirst := ScenarioStore.getScenario_eq_ok.mp foundFirst
  obtain rfl : scenario.id = id := startSteps.consistent.scenario_id storedFirst
  cases isLive : scenario.live with
  | none =>
    intro _
    exact ⟨scenario, storedFirst, isLive⟩
  | some liveId =>
    refine Publishing.meets_getIteration (fun _ => ends_error _) ?_
    intro second live firstSteps _
    refine Publishing.meets_liftExcept (fun _ => ends_error _) ?_
    intro _ _
    refine Publishing.meets_lastRank ?_
    intro third secondSteps
    refine Publishing.meets_stamp ?_
    intro fourth given thirdSteps
    refine Publishing.meets_submit ?_ (ends_error _) (fun isNothing => nomatch isNothing)
    intro last fourthSteps
    have fromFirst : first.Evolves last :=
      firstSteps.trans (secondSteps.trans (thirdSteps.trans fourthSteps))
    obtain ⟨current, found⟩ := fromFirst.precedes.scenarios storedFirst
    exact ⟨fourthSteps.consistent, .unpublish live.updatedAt _ given found isLive⟩

/-- Whatever others do between its requests, an attempt commits only what it has grounds for, and it
finds nothing to be done only if there is nothing. -/
theorem attempt_meets (goal : Goal) (store : ScenarioStore) :
    goal.attempt.run.Meets ScenarioStore.Evolves goal.Grounded goal.Ends store := by
  cases goal with
  | publish id => exact tryPublish_meets id
  | unpublish id => exact tryUnpublish_meets id

end Goal

/-! ## The end of an attempt -/

namespace Call

variable {α : Type}

/-- The call asks for no commit. -/
def Reads : Call α → Prop
  | done _ => True
  | getScenario _ next => ∀ answer, (next answer).Reads
  | getIteration _ next => ∀ answer, (next answer).Reads
  | listPublications _ next => ∀ answer, (next answer).Reads
  | stamp next => ∀ given, (next given).Reads
  | commit _ _ => False

/-- The call asks for one commit at most, and ends with the answer to it. -/
def Submits : Call PublicationResult → Prop
  | done _ => True
  | getScenario _ next => ∀ answer, (next answer).Submits
  | getIteration _ next => ∀ answer, (next answer).Submits
  | listPublications _ next => ∀ answer, (next answer).Submits
  | stamp next => ∀ given, (next given).Submits
  | commit change next => ∀ answer,
      next answer = .done ((answer.mapError .store).map fun _ => [change.publication])

/-- Requests for something to read have the property if all that can follow them has it. -/
structure ThroughReads (holds : Call α → Prop) : Prop where
  getScenario {id : Uuid} {next : Except StoreError Scenario → Call α} :
    (∀ answer, holds (next answer)) → holds (.getScenario id next)
  getIteration {id : Uuid} {next : Except StoreError Iteration → Call α} :
    (∀ answer, holds (next answer)) → holds (.getIteration id next)
  listPublications {id : Uuid} {next : Except StoreError (List Publication) → Call α} :
    (∀ answer, holds (next answer)) → holds (.listPublications id next)
  stamp {next : Stamp → Call α} : (∀ given, holds (next given)) → holds (.stamp next)

/-- A call that only reads has the property of whatever follows it. -/
theorem Reads.bind {β : Type} {call : Call α} {next : α → Call β} {holds : Call β → Prop}
    (reads : call.Reads) (through : ThroughReads holds) (goesOn : ∀ result, holds (next result)) :
    holds (call.bind next) := by
  induction call with
  | done result => exact goesOn result
  | getScenario id next ih => exact through.getScenario fun answer => ih answer (reads answer)
  | getIteration id next ih => exact through.getIteration fun answer => ih answer (reads answer)
  | listPublications id next ih =>
    exact through.listPublications fun answer => ih answer (reads answer)
  | stamp next ih => exact through.stamp fun given => ih given (reads given)
  | commit change next => exact reads.elim

theorem Submits.answer {call : Call PublicationResult} (submits : call.Submits) (given : Stamp)
    (store : ScenarioStore) : (call.answer given store).1.Submits := by
  cases call with
  | done result => trivial
  | getScenario id next => exact submits _
  | getIteration id next => exact submits _
  | listPublications id next => exact submits _
  | stamp next => exact submits given
  | commit change next =>
    show (next (store.commit given.now change).1).Submits
    rw [submits]
    trivial

end Call

namespace Publishing

variable {α : Type}

/-- The property is one of every failure, and of every request for something to read after which it
holds. -/
structure Carried (holds : Call (Except PublicationError α) → Prop) : Prop
    extends Call.ThroughReads holds where
  fails (error : PublicationError) : holds (.done (.error error))

theorem Carried.bind {β : Type} {publishing : Publishing α} {next : α → Publishing β}
    {holds : Call (Except PublicationError β) → Prop} (carried : Carried holds)
    (reads : publishing.run.Reads) (goesOn : ∀ value, holds (next value).run) :
    holds (publishing >>= next).run := by
  refine reads.bind carried.toThroughReads ?_
  intro result
  cases result with
  | error error => exact carried.fails error
  | ok value => exact goesOn value

theorem reads_carried : Carried (Call.Reads (α := Except PublicationError α)) :=
  ⟨⟨id, id, id, id⟩, fun _ => trivial⟩

theorem submits_carried : Carried Call.Submits :=
  ⟨⟨id, id, id, id⟩, fun _ => trivial⟩

theorem reads_liftExcept (check : Except PublicationError α) :
    (liftExcept check : Publishing α).run.Reads := by
  cases check <;> trivial

theorem submits_submit (change : Commit) : (Publisher.submit change).run.Submits := by
  intro answer
  cases answer <;> rfl

theorem reads_replaceLive (live : Option Uuid) : (Publisher.replaceLive live).run.Reads := by
  cases live with
  | none => trivial
  | some id =>
    refine reads_carried.bind (fun _ => trivial) fun previous => ?_
    exact reads_carried.bind (reads_liftExcept _) fun _ => trivial

end Publishing

namespace Goal

open Publisher

/-- An attempt does nothing in the end, or it submits a commit. -/
theorem attempt_of_carried {holds : Call PublicationResult → Prop}
    (carried : Publishing.Carried holds) (nothing : holds (.done (.ok [])))
    (submits : ∀ change, holds (submit change).run) (goal : Goal) : holds goal.attempt.run := by
  cases goal with
  | publish id =>
    refine carried.bind (fun _ => trivial) fun iteration => ?_
    refine carried.bind (fun _ => trivial) fun scenario => ?_
    by_cases isLive : scenario.live = some iteration.id
    · rw [if_pos isLive]
      exact nothing
    · rw [if_neg isLive]
      refine carried.bind (Publishing.reads_liftExcept _) fun _ => ?_
      refine carried.bind (Publishing.reads_liftExcept _) fun _ => ?_
      refine carried.bind (Publishing.reads_replaceLive _) fun replaced => ?_
      refine carried.bind (fun _ => trivial) fun rank => ?_
      refine carried.bind (fun _ => trivial) fun given => ?_
      exact submits _
  | unpublish id =>
    refine carried.bind (fun _ => trivial) fun scenario => ?_
    cases scenario.live with
    | none => exact nothing
    | some liveId =>
      refine carried.bind (fun _ => trivial) fun live => ?_
      refine carried.bind (Publishing.reads_liftExcept _) fun _ => ?_
      refine carried.bind (fun _ => trivial) fun rank => ?_
      refine carried.bind (fun _ => trivial) fun given => ?_
      exact submits _

/-- An attempt commits once at most, and the answer to its commit is its result. -/
theorem attempt_submits (goal : Goal) : goal.attempt.run.Submits :=
  goal.attempt_of_carried Publishing.submits_carried trivial Publishing.submits_submit

end Goal

end RiskScoring
