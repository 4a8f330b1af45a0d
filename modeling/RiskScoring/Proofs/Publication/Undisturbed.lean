import RiskScoring.Proofs.Publication.AsRead
import RiskScoring.Proofs.Publication.Operations

/-!
# Attempts that no one disturbs

A commit compares the record of its scenario, the last rank, and the times at which iterations were
changed. As long as all of that stays as an attempt has read it, its commit goes through.

* `Goal.Keeps`: what an attempt reads of a scenario stays as it is.
* `Goal.publishRead_keeps`, `Goal.unpublishRead_keeps`: an attempt meets no conflict while it stays
  so, from its first answer on.
* `Goal.first_answer`: the same for the first answer itself.
-/

namespace RiskScoring

/-! ## What an attempt reads -/

/-- What an attempt reads of a scenario stays as it is, and no conflict is injected. -/
structure Goal.Keeps (goal : Goal) (scenario : Uuid) (one other : ScenarioStore) : Prop where
  consistent : other.Consistent
  uninjected : other.injectedConflicts = 0
  record : other.scenarios.get? scenario = one.scenarios.get? scenario
  publications : other.publicationsOf scenario = one.publicationsOf scenario
  named : ∀ ⦃id iteration⦄, goal.target = .iteration id →
    one.iterations.get? id = some iteration → other.iterations.get? id = some iteration
  live : ∀ ⦃id iteration⦄, one.iterations.get? id = some iteration →
    iteration.scenario = scenario → iteration.state = .live →
      other.iterations.get? id = some iteration

namespace Goal.Keeps

variable {goal : Goal} {scenario : Uuid} {one other store : ScenarioStore}

theorem refl (consistent : store.Consistent) (uninjected : store.injectedConflicts = 0) :
    goal.Keeps scenario store store :=
  ⟨consistent, uninjected, rfl, rfl, fun _ _ _ found => found, fun _ _ found _ _ => found⟩

theorem trans {x y z : ScenarioStore} (first : goal.Keeps scenario x y)
    (second : goal.Keeps scenario y z) : goal.Keeps scenario x z where
  consistent := second.consistent
  uninjected := second.uninjected
  record := second.record.trans first.record
  publications := second.publications.trans first.publications
  named _ _ isNamed found := second.named isNamed (first.named isNamed found)
  live _ _ found belongs isLive := second.live (first.live found belongs isLive) belongs isLive

theorem lastRank (keeps : goal.Keeps scenario one other) :
    other.lastRank scenario = one.lastRank scenario := by
  rw [ScenarioStore.lastRank, ScenarioStore.lastRank, keeps.publications]

/-- The live iteration of the scenario stays as it is. -/
theorem exists_live (goal : Goal) (consistent : store.Consistent) {record : Scenario}
    (found : store.scenarios.get? scenario = some record) {id : Uuid}
    (isLive : record.live = some id) :
    ∃ iteration, iteration.scenario = scenario ∧
      ∀ later, goal.Keeps scenario store later → later.iterations.get? id = some iteration := by
  obtain ⟨iteration, stored, belongs, state⟩ := (consistent.live_iff found id).mp isLive
  exact ⟨iteration, belongs, fun later keeps => keeps.live stored belongs state⟩

/-- Stores that hold the same of the scenario. -/
theorem of_sameFor (same : one.SameFor scenario other) (consistent : one.Consistent)
    (consistentOther : other.Consistent) (uninjected : other.injectedConflicts = 0)
    (concerned : goal.target.scenario? one = some scenario) : goal.Keeps scenario one other where
  consistent := consistentOther
  uninjected := uninjected
  record := same.record.symm
  publications := same.publications.symm
  named := by
    intro id iteration isNamed found
    rw [isNamed, Target.scenario?, found, Option.map_some] at concerned
    exact same.found consistent consistentOther found (Option.some.inj concerned)
  live _ _ found belongs _ := same.found consistent consistentOther found belongs

end Goal.Keeps

/-! ## Attempts after their first answer -/

/-- The store has what a replacement in the scenario expects. -/
structure Publisher.Replacement.HoldsIn (replaced : Publisher.Replacement) (scenario : Uuid)
    (store : ScenarioStore) : Prop where
  transitions : ∀ transition ∈ replaced.transitions, ∃ iteration,
    store.iterations.get? transition.1 = some iteration ∧ iteration.scenario = scenario
  expected : ∀ entry ∈ replaced.expected, ∃ iteration,
    store.iterations.get? entry.1 = some iteration ∧ iteration.updatedAt = entry.2

namespace NoConflict

variable {α β : Type} {store : ScenarioStore}

theorem of_error {error : PublicationError} (fails : NoConflict (.error error : Except _ α)) :
    NoConflict (.error error : Except _ β) := by
  intro scenario same
  cases same
  exact fails scenario rfl

theorem missingScenario {id : Uuid} {error : StoreError}
    (missing : store.getScenario id = .error error) :
    NoConflict (.error (.store error) : Except _ α) := by
  have reads : NoConflict ((store.getScenario id).mapError .store) := NoConflict.getScenario id
  rw [missing] at reads
  exact reads.of_error

theorem missingIteration {id : Uuid} {error : StoreError}
    (missing : store.getIteration id = .error error) :
    NoConflict (.error (.store error) : Except _ α) := by
  have reads : NoConflict ((store.getIteration id).mapError .store) := NoConflict.getIteration id
  rw [missing] at reads
  exact reads.of_error

theorem checkMove_error {source target : IterationState} {error : PublicationError}
    (fails : source.checkMove target = .error error) :
    NoConflict (.error error : Except _ α) := by
  have checks := NoConflict.checkMove source target
  rw [fails] at checks
  exact checks.of_error

theorem checkPublishable_error {iteration : Iteration} {error : PublicationError}
    (fails : iteration.checkPublishable = .error error) :
    NoConflict (.error error : Except _ α) := by
  have checks := NoConflict.checkPublishable iteration
  rw [fails] at checks
  exact checks.of_error

end NoConflict

namespace Goal

open Publisher Publishing

variable {goal : Goal} {scenario : Uuid} {store : ScenarioStore}

/-- A commit that every store accepts which keeps what was read. -/
theorem submit_keeps {change : Commit}
    (accepts : ∀ last, goal.Keeps scenario store last → last.Accepts change) :
    (submit change).run.Meets (goal.Keeps scenario) ScenarioStore.Accepts (fun _ => NoConflict)
      store := by
  intro last keeps
  refine ⟨accepts last keeps, fun now => ?_⟩
  rw [ScenarioStore.commit_of_accepts keeps.uninjected (accepts last keeps) now]
  exact NoConflict.ok _

/-- The replacement of the live iteration goes on to hold. -/
theorem replaceLive_keeps (consistent : store.Consistent) (uninjected : store.injectedConflicts = 0)
    {record : Scenario} (found : store.scenarios.get? scenario = some record) :
    (replaceLive record.live).run.Meets (goal.Keeps scenario) ScenarioStore.Accepts
      (fun later result => NoConflict result ∧ ∀ replaced, result = .ok replaced →
        goal.Keeps scenario store later ∧
          ∀ last, goal.Keeps scenario store last → replaced.HoldsIn scenario last) store := by
  cases isLive : record.live with
  | none =>
    refine ⟨.ok _, fun replaced isReplaced => ?_⟩
    cases isReplaced
    exact ⟨.refl consistent uninjected, fun last _ =>
      ⟨List.forall_mem_nil _, List.forall_mem_nil _⟩⟩
  | some id =>
    obtain ⟨stored, belongs, stays⟩ := Keeps.exists_live goal consistent found isLive
    refine meets_getIteration (fun missing => ⟨.missingIteration missing, nofun⟩) ?_
    intro later previous keeps read
    obtain rfl : stored = previous :=
      Option.some.inj ((stays later keeps).symm.trans (ScenarioStore.getIteration_eq_ok.mp read))
    refine meets_liftExcept (fun fails => ⟨.checkMove_error fails, nofun⟩) ?_
    intro _ _
    refine ⟨.ok _, fun replaced isReplaced => ?_⟩
    cases isReplaced
    refine ⟨keeps, fun last keepsLast => ⟨?_, ?_⟩⟩
    · exact List.forall_mem_singleton.mpr ⟨stored, stays last keepsLast, belongs⟩
    · exact List.forall_mem_singleton.mpr ⟨stored, stays last keepsLast, rfl⟩

theorem publishRead_keeps {id : Uuid} {read : Iteration} (consistent : store.Consistent)
    (found : store.iterations.get? id = some read) :
    (publishRead read).run.Meets ((publish id).Keeps read.scenario) ScenarioStore.Accepts
      (fun _ => NoConflict) store := by
  obtain rfl : read.id = id := consistent.iteration_id found
  refine meets_getScenario .missingScenario ?_
  intro first record firstSteps readRecord
  have owner := ScenarioStore.getScenario_eq_ok.mp readRecord
  have hasId : record.id = read.scenario := firstSteps.consistent.scenario_id owner
  split
  · exact .ok _
  · refine meets_liftExcept .checkPublishable_error fun _ => ?_
    refine meets_liftExcept .checkMove_error fun _ => ?_
    refine meets_bind (replaceLive_keeps firstSteps.consistent firstSteps.uninjected owner)
      (fun fails => fails.1.of_error) ?_
    intro second replaced isReplaced
    obtain ⟨secondSteps, holds⟩ := isReplaced.2 replaced rfl
    refine meets_lastRank fun {third} thirdSteps => meets_stamp fun given fourthSteps => ?_
    refine submit_keeps fun last lastSteps => ?_
    -- All that was read is as it was read, up to the commit.
    have fromThird : (publish read.id).Keeps read.scenario third last := fourthSteps.trans lastSteps
    have fromFirst : (publish read.id).Keeps read.scenario first last :=
      secondSteps.trans (thirdSteps.trans fromThird)
    have stillRead : last.iterations.get? read.id = some read :=
      (firstSteps.trans fromFirst).named rfl found
    have stays := holds last fromFirst
    refine ⟨⟨record, ?_, rfl⟩, ?_, ?_, ?_⟩
    · show last.scenarios.get? record.id = some record
      rw [hasId, fromFirst.record, owner]
    · show last.lastRank record.id = greatest _
      rw [ScenarioStore.greatest_listPublications, hasId, fromThird.lastRank]
    · refine List.forall_mem_append.mpr ⟨?_, List.forall_mem_singleton.mpr ⟨read, stillRead, ?_⟩⟩
      · rw [← hasId] at stays
        exact stays.transitions
      · exact hasId.symm
    · exact List.forall_mem_append.mpr
        ⟨stays.expected, List.forall_mem_singleton.mpr ⟨read, stillRead, rfl⟩⟩

/-- What is left of an attempt to unpublish after its first answer. -/
def unpublishRead (record : Scenario) : Publishing (List Publication) :=
  match record.live with
  | none => return []
  | some liveId => do
    let live ← Publishing.getIteration liveId
    liftExcept (live.state.checkMove .unpublished)
    let rank ← Publishing.lastRank record.id
    let stamp ← Publishing.stamp
    submit (unpublishing record liveId live.updatedAt rank stamp)

theorem unpublishRead_keeps {id : Uuid} {record : Scenario} (consistent : store.Consistent)
    (found : store.scenarios.get? id = some record) :
    (unpublishRead record).run.Meets ((unpublish id).Keeps id) ScenarioStore.Accepts
      (fun _ => NoConflict) store := by
  obtain rfl : record.id = id := consistent.scenario_id found
  unfold unpublishRead
  cases isLive : record.live with
  | none => exact NoConflict.ok _
  | some liveId =>
    obtain ⟨stored, belongs, stays⟩ :=
      Keeps.exists_live (.unpublish record.id) consistent found isLive
    refine meets_getIteration .missingIteration ?_
    intro first live firstSteps read
    obtain rfl : stored = live := Option.some.inj
      ((stays first firstSteps).symm.trans (ScenarioStore.getIteration_eq_ok.mp read))
    refine meets_liftExcept .checkMove_error fun _ => ?_
    refine meets_lastRank fun {second} secondSteps => meets_stamp fun given thirdSteps => ?_
    refine submit_keeps fun last lastSteps => ?_
    have fromSecond : (unpublish record.id).Keeps record.id second last :=
      thirdSteps.trans lastSteps
    have fromStart := firstSteps.trans (secondSteps.trans fromSecond)
    have stillLive := stays last fromStart
    refine ⟨⟨record, ?_, isLive⟩, ?_, ?_, ?_⟩
    · exact fromStart.record.trans found
    · show last.lastRank record.id = greatest _
      rw [ScenarioStore.greatest_listPublications, fromSecond.lastRank]
    · exact List.forall_mem_singleton.mpr ⟨stored, stillLive, belongs⟩
    · exact List.forall_mem_singleton.mpr ⟨stored, stillLive, rfl⟩

/-- The first answer to an attempt ends it without a conflict, or else the attempt knows its
scenario, and it meets no conflict as long as what it reads of that stays as it is. -/
theorem first_answer (goal : Goal) (given : Stamp) (consistent : store.Consistent) :
    (∃ result, (goal.attempt.run.answer given store).1 = .done result ∧ NoConflict result) ∨
      ∃ scenario record, goal.target.scenario? store = some scenario ∧
        store.scenarios.get? scenario = some record ∧
        (goal.attempt.run.answer given store).1.Meets (goal.Keeps scenario) ScenarioStore.Accepts
          (fun _ => NoConflict) store := by
  cases goal with
  | publish id =>
    have answered : ((publish id).attempt.run.answer given store).1 =
        (ExceptT.mk (ExceptT.bindCont publishRead
          ((store.getIteration id).mapError .store))).run := rfl
    rw [answered]
    cases reads : store.getIteration id with
    | error error => exact Or.inl ⟨_, rfl, .missingIteration reads⟩
    | ok read =>
      have found := ScenarioStore.getIteration_eq_ok.mp reads
      obtain ⟨record, owner⟩ := consistent.owner found
      refine Or.inr ⟨read.scenario, record, ?_, owner, publishRead_keeps consistent found⟩
      rw [target, Target.scenario?, found, Option.map_some]
  | unpublish id =>
    have answered : ((unpublish id).attempt.run.answer given store).1 =
        (ExceptT.mk (ExceptT.bindCont unpublishRead
          ((store.getScenario id).mapError .store))).run := rfl
    rw [answered]
    cases reads : store.getScenario id with
    | error error => exact Or.inl ⟨_, rfl, .missingScenario reads⟩
    | ok record =>
      have found := ScenarioStore.getScenario_eq_ok.mp reads
      exact Or.inr ⟨id, record, rfl, found, unpublishRead_keeps consistent found⟩

end Goal

end RiskScoring
