import RiskScoring.Proofs.Publication.Linearizability
import RiskScoring.Proofs.Publication.LiveSwap

/-!
# Retries

A publisher that is alone on a store meets no conflicts but those that are injected. Each of them
costs it one attempt. It comes to what it would have come to without them, unless they are more than
the retries it has.

* `Call.Meets.run`: a call that no one interferes with keeps its guarantee.
* `Goal.attempt_unexhausted`: that attempts are exhausted is never the result of one of them.
* `Goal.run_call_cases`: a call fails before its first attempt, or it is its attempts.
* `Goal.run_attempt_injected`: an injected conflict costs one attempt and changes nothing.
* `Goal.run_retried_of_lt`, `Goal.run_retried_of_le`: fewer conflicts than attempts, or no fewer.
* `Goal.run_call_retried`: so a call goes through after the conflicts, or gives up before their end.
* `System.Reachable.retry_law`: the statement for every store of a run.
-/

namespace RiskScoring

/-! ## Calls without interference -/

namespace Call

variable {α : Type}

/-- A call that no one interferes with keeps its guarantee. -/
theorem Meets.run {rely : ScenarioStore → ScenarioStore → Prop}
    {allowed : ScenarioStore → Commit → Prop} {post : ScenarioStore → α → Prop}
    (stay : ∀ store, rely store store) {call : Call α} (serving : Serving)
    (meets : call.Meets rely allowed post serving.store) :
    post ((call.run Serving.backend).run serving).2.store
      ((call.run Serving.backend).run serving).1 := by
  induction call generalizing serving with
  | done result => exact meets
  | getScenario id next ih => exact ih _ serving (meets _ (stay _))
  | getIteration id next ih => exact ih _ serving (meets _ (stay _))
  | listPublications scenario next ih => exact ih _ serving (meets _ (stay _))
  | stamp next ih =>
    exact ih _ ⟨serving.store, fun n => serving.stamps (n + 1)⟩
      (meets _ (stay _) (serving.stamps 0))
  | commit change next ih =>
    exact ih _ ⟨(serving.store.commit (serving.stamps 0).now change).2,
      fun n => serving.stamps (n + 1)⟩ ((meets _ (stay _)).2 (serving.stamps 0).now)

/-- A call takes stamps from the front, and leaves the rest. -/
theorem exists_drawn (call : Call α) (serving : Serving) :
    ∃ drawn, ((call.run Serving.backend).run serving).2.stamps =
      fun n => serving.stamps (n + drawn) := by
  induction call generalizing serving with
  | done result => exact ⟨0, rfl⟩
  | getScenario id next ih => exact ih _ serving
  | getIteration id next ih => exact ih _ serving
  | listPublications scenario next ih => exact ih _ serving
  | stamp next ih =>
    obtain ⟨drawn, rest⟩ := ih (serving.stamps 0)
      ⟨serving.store, fun n => serving.stamps (n + 1)⟩
    exact ⟨drawn + 1, rest⟩
  | commit change next ih =>
    obtain ⟨drawn, rest⟩ := ih (serving.store.commit (serving.stamps 0).now change).1
      ⟨(serving.store.commit (serving.stamps 0).now change).2, fun n => serving.stamps (n + 1)⟩
    exact ⟨drawn + 1, rest⟩

end Call

/-! ## Results of attempts -/

/-- The result is not that attempts are exhausted. -/
def Unexhausted {α : Type} (result : Except PublicationError α) : Prop :=
  ∀ scenario attempts, result ≠ .error (.exhausted scenario attempts)

namespace Unexhausted

variable {α β : Type} {error : PublicationError}

theorem ok (value : α) : Unexhausted (.ok value) := by
  intro scenario attempts same
  cases same

theorem store (error : StoreError) : Unexhausted (.error (.store error) : Except _ α) := by
  intro scenario attempts same
  cases same

theorem of_error (fails : Unexhausted (.error error : Except _ α)) :
    Unexhausted (.error error : Except _ β) := by
  intro scenario attempts same
  cases same
  exact fails scenario attempts rfl

theorem checkMove {source target : IterationState}
    (fails : source.checkMove target = .error error) :
    Unexhausted (.error error : Except _ α) := by
  intro scenario attempts same
  unfold IterationState.checkMove at fails
  split at fails
  · cases fails
  · cases fails
    cases same

theorem checkPublishable {iteration : Iteration}
    (fails : iteration.checkPublishable = .error error) :
    Unexhausted (.error error : Except _ α) := by
  intro scenario attempts same
  simp only [Iteration.checkPublishable] at fails
  split at fails
  · cases fails
  · cases fails
    cases same

end Unexhausted

namespace Goal

open Publisher Publishing

theorem replaceLive_unexhausted (live : Option Uuid) (store : ScenarioStore) :
    (replaceLive live).run.Meets (fun _ _ => True) (fun _ _ => True) (fun _ => Unexhausted)
      store := by
  cases live with
  | none => exact .ok _
  | some id =>
    refine meets_getIteration (fun _ => .store _) fun _ _ => ?_
    exact meets_liftExcept .checkMove fun _ => .ok _

/-- Whatever others do, that attempts are exhausted is not the result of one of them. -/
theorem attempt_unexhausted (goal : Goal) (store : ScenarioStore) :
    goal.attempt.run.Meets (fun _ _ => True) (fun _ _ => True) (fun _ => Unexhausted) store := by
  cases goal with
  | publish id =>
    refine meets_getIteration (fun _ => .store _) fun _ _ => ?_
    refine meets_getScenario (fun _ => .store _) fun _ _ => ?_
    split
    · exact .ok _
    · refine meets_liftExcept .checkPublishable fun _ => meets_liftExcept .checkMove fun _ => ?_
      refine meets_bind (replaceLive_unexhausted _ _) .of_error fun _ => ?_
      refine meets_lastRank fun _ => meets_stamp fun _ _ => ?_
      exact meets_submit (fun _ => trivial) (.store _) (.ok _)
  | unpublish id =>
    refine meets_getScenario (fun _ => .store _) fun {_ scenario} _ _ => ?_
    cases scenario.live with
    | none => exact .ok _
    | some liveId =>
      refine meets_getIteration (fun _ => .store _) fun _ _ => ?_
      refine meets_liftExcept .checkMove fun _ => ?_
      refine meets_lastRank fun _ => meets_stamp fun _ _ => ?_
      exact meets_submit (fun _ => trivial) (.store _) (.ok _)

end Goal

/-! ## Attempts one after another -/

namespace ScenarioStore

variable {store : ScenarioStore} {stamps : Nat → Stamp}

/-- After a conflict the next attempt starts on what the conflict has left. -/
theorem runPublisher_attempt_of_conflict {once : Publishing (List Publication)} {id : Uuid}
    {after : ScenarioStore}
    (conflicts : store.runPublisher stamps once = (.error (.store (.conflict id)), after))
    (scenario : Uuid) (attempts : UInt32) (left : Nat) :
    ∃ drawn, store.runPublisher stamps (Publisher.attempt scenario attempts once (left + 1)) =
      after.runPublisher (fun n => stamps (n + drawn))
        (Publisher.attempt scenario attempts once left) := by
  obtain ⟨drawn, rest⟩ := Call.exists_drawn once.run ⟨store, stamps⟩
  refine ⟨drawn, ?_⟩
  unfold runPublisher at conflicts ⊢
  rw [Publisher.attempt, ExceptT.run_mk, Call.run_bind]
  revert conflicts rest
  rcases (Call.run Serving.backend once.run).run ⟨store, stamps⟩ with ⟨result, serving⟩
  intro conflicts rest
  cases conflicts
  dsimp only at rest ⊢
  rw [← rest]

/-- An injected conflict refuses the commit, and there is one less to come. -/
theorem runPublisher_submit_injected (change : Commit) (conflicts : Nat) :
    (store.injectConflicts (conflicts + 1)).runPublisher stamps (Publisher.submit change) =
      (.error (.store (.conflict change.scenario)), store.injectConflicts conflicts) := by
  have refused : (store.injectConflicts (conflicts + 1)).commit (stamps 0).now change =
      (.error (.conflict change.scenario), store.injectConflicts conflicts) :=
    if_neg (Nat.succ_ne_zero conflicts)
  have answered : (store.injectConflicts (conflicts + 1)).runPublisher stamps
        (Publisher.submit change) =
      ((store.injectConflicts (conflicts + 1)).commit (stamps 0).now change).2.runPublisher
        (fun n => stamps (n + 1)) (ExceptT.mk (ExceptT.bindCont (fun _ => pure [change.publication])
          (((store.injectConflicts (conflicts + 1)).commit (stamps 0).now change).1.mapError
            .store))) := rfl
  rw [answered, refused]
  rfl

end ScenarioStore

namespace Goal

open Publisher ScenarioStore

variable {goal : Goal} {store : ScenarioStore} {commit : Stamp → Commit}

/-- Conflicts to come have no part in what is decided on. -/
theorem plan_injectConflicts (goal : Goal) (store : ScenarioStore) (conflicts : Nat) :
    goal.plan (store.injectConflicts conflicts) = goal.plan store := by
  cases goal <;> rfl

/-- A call fails before its first attempt, or it is its attempts. -/
theorem run_call_cases (goal : Goal) (store : ScenarioStore) (stamps : Nat → Stamp)
    (retries : UInt32) :
    (∃ error, goal.plan store = .error error ∧
      store.runPublisher stamps (goal.call retries) = (.error error, store)) ∨
    ∃ scenario, goal.target.scenario? store = some scenario ∧
      store.runPublisher stamps (goal.call retries) =
        store.runPublisher stamps
          (Publisher.attempt scenario (retries + 1) goal.attempt (retries + 1).toNat) := by
  cases goal with
  | publish id =>
    rw [call, Publisher.publish, runPublisher_read_iteration]
    cases reads : (store.getIteration id).mapError PublicationError.store with
    | error error =>
      refine Or.inl ⟨error, ?_, rfl⟩
      rw [plan, reads]
      rfl
    | ok iteration =>
      refine Or.inr ⟨iteration.scenario, ?_, rfl⟩
      rw [target, Target.scenario?, getIteration_of_mapError reads, Option.map_some]
  | unpublish id => exact Or.inr ⟨id, rfl, rfl⟩

/-- A call that decides on no commit changes nothing, however many conflicts are to come. -/
theorem run_call_of_idle (idle : ∀ commit, goal.plan store ≠ .ok (some commit))
    (stamps : Nat → Stamp) {retries : UInt32} (attempted : retries + 1 ≠ 0) :
    store.runPublisher stamps (goal.call retries) = store.settle stamps (goal.plan store) := by
  rcases goal.run_call_cases store stamps retries with ⟨error, plans, fails⟩ | ⟨scenario, -, runs⟩
  · rw [fails, plans]
    rfl
  · obtain ⟨left, isLeft⟩ := Publisher.exists_attempts attempted
    rw [runs, isLeft]
    refine goal.run_retried ?_ scenario (retries + 1) left
    rcases plans : goal.plan store with error | _ | commit
    · rfl
    · rfl
    · exact absurd plans (idle commit)

/-- A call that decides on a commit is its attempts, however many conflicts are to come. -/
theorem run_call_of_commit (plans : goal.plan store = .ok (some commit)) (stamps : Nat → Stamp)
    (retries : UInt32) :
    ∃ scenario, goal.target.scenario? store = some scenario ∧
      ∀ conflicts, (store.injectConflicts conflicts).runPublisher stamps (goal.call retries) =
        (store.injectConflicts conflicts).runPublisher stamps
          (Publisher.attempt scenario (retries + 1) goal.attempt (retries + 1).toNat) := by
  have attempts (conflicts : Nat) : ∃ scenario, goal.target.scenario? store = some scenario ∧
      (store.injectConflicts conflicts).runPublisher stamps (goal.call retries) =
        (store.injectConflicts conflicts).runPublisher stamps
          (Publisher.attempt scenario (retries + 1) goal.attempt (retries + 1).toNat) := by
    rcases goal.run_call_cases (store.injectConflicts conflicts) stamps retries with
      ⟨error, fails, -⟩ | ⟨scenario, concerned, runs⟩
    · rw [plan_injectConflicts, plans] at fails
      cases fails
    · refine ⟨scenario, ?_, runs⟩
      rw [← concerned]
      cases goal <;> rfl
  obtain ⟨scenario, concerned, -⟩ := attempts 0
  refine ⟨scenario, concerned, fun conflicts => ?_⟩
  obtain ⟨same, concernedSame, runs⟩ := attempts conflicts
  rw [concerned] at concernedSame
  cases concernedSame
  exact runs

/-- An injected conflict costs an attempt, and it changes nothing. -/
theorem run_attempt_injected (plans : goal.plan store = .ok (some commit)) (scenario : Uuid)
    (attempts : UInt32) (left conflicts : Nat) (stamps : Nat → Stamp) :
    ∃ drawn, (store.injectConflicts (conflicts + 1)).runPublisher stamps
        (Publisher.attempt scenario attempts goal.attempt (left + 1)) =
      (store.injectConflicts conflicts).runPublisher (fun n => stamps (n + drawn))
        (Publisher.attempt scenario attempts goal.attempt left) := by
  have conflict : (store.injectConflicts (conflicts + 1)).runPublisher stamps goal.attempt =
      (.error (.store (.conflict (commit (stamps 0)).scenario)),
        store.injectConflicts conflicts) := by
    rw [goal.run_attempt, plan_injectConflicts, plans]
    exact runPublisher_submit_injected (commit (stamps 0)) conflicts
  exact runPublisher_attempt_of_conflict conflict scenario attempts left

/-- With more attempts than conflicts, the first attempt after the conflicts goes through. -/
theorem run_retried_of_lt (consistent : store.Consistent)
    (plans : goal.plan store = .ok (some commit)) (scenario : Uuid) (attempts : UInt32)
    {left conflicts : Nat} (fewer : conflicts < left) (stamps : Nat → Stamp) :
    ∃ drawn, (store.injectConflicts conflicts).runPublisher stamps
        (Publisher.attempt scenario attempts goal.attempt left) =
      (store.injectConflicts 0).settle (fun n => stamps (n + drawn)) (goal.plan store) := by
  induction left generalizing conflicts stamps with
  | zero => exact absurd fewer (Nat.not_lt_zero conflicts)
  | succ left ih =>
    cases conflicts with
    | zero =>
      refine ⟨0, ?_⟩
      rw [← plan_injectConflicts goal store 0]
      exact goal.run_retried (carryOut_plan (consistent.injectConflicts 0) rfl stamps) scenario
        attempts left
    | succ conflicts =>
      obtain ⟨drawn, goesOn⟩ :=
        run_attempt_injected plans scenario attempts left conflicts stamps
      obtain ⟨later, settles⟩ := ih (Nat.lt_of_succ_lt_succ fewer) fun n => stamps (n + drawn)
      refine ⟨later + drawn, ?_⟩
      rw [goesOn, settles]
      simp only [Nat.add_assoc]

/-- With no more attempts than conflicts, all attempts are used up. -/
theorem run_retried_of_le (plans : goal.plan store = .ok (some commit)) (scenario : Uuid)
    (attempts : UInt32) {left conflicts : Nat} (noFewer : left ≤ conflicts) (stamps : Nat → Stamp) :
    (store.injectConflicts conflicts).runPublisher stamps
        (Publisher.attempt scenario attempts goal.attempt left) =
      (.error (.exhausted scenario attempts), store.injectConflicts (conflicts - left)) := by
  induction left generalizing conflicts stamps with
  | zero => rfl
  | succ left ih =>
    cases conflicts with
    | zero => exact absurd noFewer (Nat.not_succ_le_zero left)
    | succ conflicts =>
      obtain ⟨drawn, goesOn⟩ :=
        run_attempt_injected plans scenario attempts left conflicts stamps
      rw [goesOn, ih (Nat.le_of_succ_le_succ noFewer), Nat.succ_sub_succ]

/-- A call that decides on a commit goes through after the conflicts, or gives up before their
end. -/
theorem run_call_retried (consistent : store.Consistent)
    (plans : goal.plan store = .ok (some commit)) (stamps : Nat → Stamp) {retries : UInt32}
    (inBounds : retries.toNat + 1 < UInt32.size) :
    ∃ scenario, goal.target.scenario? store = some scenario ∧ ∀ conflicts,
      (conflicts ≤ retries.toNat →
        ∃ drawn, (store.injectConflicts conflicts).runPublisher stamps (goal.call retries) =
          (store.injectConflicts 0).settle (fun n => stamps (n + drawn)) (goal.plan store)) ∧
      (retries.toNat < conflicts →
        (store.injectConflicts conflicts).runPublisher stamps (goal.call retries) =
          (.error (.exhausted scenario (retries + 1)),
            store.injectConflicts (conflicts - (retries.toNat + 1)))) := by
  obtain ⟨scenario, concerned, isRetried⟩ := run_call_of_commit plans stamps retries
  refine ⟨scenario, concerned, fun conflicts => ⟨fun fewer => ?_, fun more => ?_⟩⟩
  · rw [isRetried, Publisher.toNat_attempts inBounds]
    exact run_retried_of_lt consistent plans scenario (retries + 1) (Nat.lt_succ_of_le fewer) stamps
  · rw [isRetried, Publisher.toNat_attempts inBounds]
    exact run_retried_of_le plans scenario (retries + 1) more stamps

/-- Without conflicts a call comes to what its plan comes to. -/
theorem run_call_uninjected (goal : Goal) (consistent : store.Consistent) (stamps : Nat → Stamp)
    {retries : UInt32} (attempted : retries + 1 ≠ 0) :
    (store.injectConflicts 0).runPublisher stamps (goal.call retries) =
      (store.injectConflicts 0).settle stamps (goal.plan store) := by
  rw [← plan_injectConflicts goal store 0]
  exact goal.run_call_of_attempted (consistent.injectConflicts 0) rfl stamps attempted

/-- Without conflicts no call uses up its attempts. -/
theorem run_call_unexhausted (goal : Goal) (consistent : store.Consistent) (stamps : Nat → Stamp)
    {retries : UInt32} (attempted : retries + 1 ≠ 0) :
    Unexhausted ((store.injectConflicts 0).runPublisher stamps (goal.call retries)).1 := by
  have once : (store.injectConflicts 0).runPublisher stamps goal.attempt =
      (store.injectConflicts 0).runPublisher stamps (goal.call retries) := by
    rw [goal.run_attempt, Goal.carryOut_plan (consistent.injectConflicts 0) rfl,
      plan_injectConflicts, goal.run_call_uninjected consistent stamps attempted]
  rw [← once]
  exact (goal.attempt_unexhausted _).run (fun _ => trivial) ⟨store.injectConflicts 0, stamps⟩

end Goal

/-! ## What comes of a plan -/

namespace ScenarioStore

variable (store : ScenarioStore) (stamps : Nat → Stamp)
  (plan : Except PublicationError (Option (Stamp → Commit)))

/-- Only a commit changes the store. -/
theorem settle_store_iff :
    (store.settle stamps plan).2 = store ↔ ∀ commit, plan ≠ .ok (some commit) := by
  rcases plan with error | _ | commit
  · simp [settle]
  · simp [settle]
  · constructor
    · intro same
      have longer := congrArg (fun store => store.publications.length) same
      simp [settle, applyCommit] at longer
    · exact fun idle => absurd rfl (idle commit)

/-- Without a commit there is a result and nothing else. -/
theorem settle_of_idle {plan : Except PublicationError (Option (Stamp → Commit))}
    (idle : ∀ commit, plan ≠ .ok (some commit)) (other : ScenarioStore) :
    store.settle stamps plan = ((other.settle stamps plan).1, store) := by
  rcases plan with error | _ | commit
  · rfl
  · rfl
  · exact absurd rfl (idle commit)

/-- What is decided on comes to no conflict, unless it is one. -/
theorem settle_noConflict {plan : Except PublicationError (Option (Stamp → Commit))}
    (unopposed : NoConflict plan) : NoConflict (store.settle stamps plan).1 := by
  rcases plan with error | _ | commit
  · intro scenario same
    cases same
    exact unopposed scenario rfl
  · exact .ok _
  · exact .ok _

/-- Without a commit nothing is published. -/
theorem settle_result_iff :
    ((store.settle stamps plan).1 = .ok [] ∨ ∃ error, (store.settle stamps plan).1 = .error error) ↔
      ∀ commit, plan ≠ .ok (some commit) := by
  rcases plan with error | _ | commit <;> simp [settle]

theorem injectedConflicts_settle :
    (store.settle stamps plan).2.injectedConflicts = store.injectedConflicts := by
  rcases plan with error | _ | commit <;> rfl

end ScenarioStore

open ScenarioStore in
/-- Stamps have no part in what a plan comes to, but for identifiers and times. -/
theorem Goal.settle_unstamped (goal : Goal) {store : ScenarioStore} (consistent : store.Consistent)
    (uninjected : store.injectedConflicts = 0) (stamps others : Nat → Stamp) :
    (store.settle stamps (goal.plan store)).1.map (List.map Publication.unstamped) =
        (store.settle others (goal.plan store)).1.map (List.map Publication.unstamped) ∧
      (store.settle stamps (goal.plan store)).2.unstamped =
        (store.settle others (goal.plan store)).2.unstamped := by
  have settles (stamps : Nat → Stamp) :
      store.settle stamps (goal.plan store) = store.runPublisher stamps goal.attempt := by
    rw [goal.run_attempt, carryOut_plan consistent uninjected]
  rcases plans : goal.plan store with error | _ | commit
  · exact ⟨rfl, rfl⟩
  · exact ⟨rfl, rfl⟩
  · -- Both are the same commit with stamps of their own.
    have proposes := goal.proposes_of_plan consistent plans
    have runs := (proposes.grounds (stamps 0)).run consistent uninjected
      (proposes.accepts (stamps 0))
    rw [← plans, settles, settles, runs, runs]
    refine ⟨rfl, ?_⟩
    rw [applyCommit_unstamped store _ _ (stamps 0).now,
      applyCommit_unstamped store _ _ (stamps 0).now]

namespace System

open ScenarioStore

variable {system : System}

/-- For every store of a run, with no one else acting on it, for any number of conflicts that are
injected, and for every number of retries whose attempts can be counted. Without any conflicts, a
call neither conflicts nor uses up its attempts. If it changes the store then, it comes to the same
with as many conflicts as it has retries or fewer: it is the call without conflicts with stamps that
come later, and no conflicts are left. With more conflicts it gives up after its attempts, each of
which took one of them, and nothing else has changed. If it changes nothing without conflicts, as
there is nothing to be done or it fails, then it does so however many there are, and takes none of
them. -/
theorem Reachable.retry_law (reachable : system.Reachable) (goal : Goal) {retries : UInt32}
    (inBounds : retries.toNat + 1 < UInt32.size) (stamps : Nat → Stamp) :
    let store (conflicts : Nat) := system.store.injectConflicts conflicts
    let run (stamps : Nat → Stamp) (conflicts : Nat) :=
      (store conflicts).runPublisher stamps (goal.call retries)
    let quiet := run stamps 0
    Unexhausted quiet.1 ∧ NoConflict quiet.1 ∧
    (quiet.2 = store 0 ↔ quiet.1 = .ok [] ∨ ∃ error, quiet.1 = .error error) ∧
    (quiet.2 ≠ store 0 →
      ∃ scenario, goal.target.scenario? system.store = some scenario ∧
        ∀ conflicts,
          (conflicts ≤ retries.toNat →
            (∃ drawn, run stamps conflicts = run (fun n => stamps (n + drawn)) 0) ∧
            (run stamps conflicts).1.map (List.map Publication.unstamped) =
              quiet.1.map (List.map Publication.unstamped) ∧
            (run stamps conflicts).2.unstamped = quiet.2.unstamped ∧
            (run stamps conflicts).2.injectedConflicts = 0) ∧
          (retries.toNat < conflicts →
            run stamps conflicts =
              (.error (.exhausted scenario (retries + 1)),
                store (conflicts - (retries.toNat + 1))))) ∧
    (quiet.2 = store 0 → ∀ conflicts, run stamps conflicts = (quiet.1, store conflicts)) := by
  intro store run quiet
  have consistent := reachable.sound.consistent
  have attempted := Publisher.attempts_ne_zero inBounds
  have uninjected : (store 0).Consistent := consistent.injectConflicts 0
  have planned (conflicts : Nat) : goal.plan (store conflicts) = goal.plan system.store :=
    goal.plan_injectConflicts system.store conflicts
  have ran (stamps : Nat → Stamp) :
      run stamps 0 = (store 0).settle stamps (goal.plan system.store) :=
    goal.run_call_uninjected consistent stamps attempted
  have settles : quiet = (store 0).settle stamps (goal.plan system.store) := ran stamps
  refine ⟨goal.run_call_unexhausted consistent stamps attempted, ?_, ?_, ?_, ?_⟩
  · rw [settles]
    exact settle_noConflict _ _ (goal.plan_noConflict system.store)
  · rw [settles, settle_store_iff, settle_result_iff]
  · intro changes
    rw [settles, Ne, settle_store_iff] at changes
    obtain ⟨commit, plans⟩ : ∃ commit, goal.plan system.store = .ok (some commit) := by
      by_contra none
      exact changes fun commit plans => none ⟨commit, plans⟩
    obtain ⟨scenario, concerned, retried⟩ :=
      Goal.run_call_retried consistent plans stamps inBounds
    refine ⟨scenario, concerned, fun conflicts => ⟨fun fewer => ?_, (retried conflicts).2⟩⟩
    obtain ⟨drawn, goesThrough⟩ := (retried conflicts).1 fewer
    have later : run stamps conflicts = run (fun n => stamps (n + drawn)) 0 :=
      goesThrough.trans (ran _).symm
    have same := goal.settle_unstamped uninjected rfl (fun n => stamps (n + drawn)) stamps
    rw [planned, ← ran, ← ran] at same
    rw [later]
    refine ⟨⟨drawn, rfl⟩, same.1, same.2, ?_⟩
    rw [ran, injectedConflicts_settle]
    rfl
  · intro unchanged conflicts
    rw [settles, settle_store_iff] at unchanged
    have idle : ∀ commit, goal.plan (store conflicts) ≠ .ok (some commit) := by
      rw [planned]
      exact unchanged
    rw [settles]
    show (store conflicts).runPublisher stamps (goal.call retries) = _
    rw [Goal.run_call_of_idle idle stamps attempted, planned]
    exact settle_of_idle _ _ unchanged (store 0)

/-- A call publishes a draft. One conflict costs it its only retry, and with three it gives up when
one of them is left. An iteration that is not there is not found, and all three are left. -/
theorem retry_law_first_publication :
    let store (conflicts : Nat) := (start.run firstPublication).store.injectConflicts conflicts
    let run (id : Uuid) (conflicts : Nat) := (store conflicts).runPublisher
      (fun n => .numbered (30 + n)) (Publisher.publish 1 id)
    (start.run firstPublication).Reachable ∧
    (run ⟨2⟩ 0).2 ≠ store 0 ∧ (run ⟨2⟩ 0).1.isOk = true ∧
    (run ⟨2⟩ 1).1.map (List.map Publication.unstamped) =
      (run ⟨2⟩ 0).1.map (List.map Publication.unstamped) ∧
    (run ⟨2⟩ 1).2.unstamped = (run ⟨2⟩ 0).2.unstamped ∧ (run ⟨2⟩ 1).2.injectedConflicts = 0 ∧
    run ⟨2⟩ 3 = (.error (.exhausted ⟨1⟩ 2), store 1) ∧
    run ⟨9⟩ 3 = (.error (.store (.notFound (.iteration ⟨9⟩))), store 3) := by
  intro store run
  have succeeds : (run ⟨2⟩ 0).1.isOk = true := by with_unfolding_all rfl
  have changes : (run ⟨2⟩ 0).2 ≠ store 0 := by
    have published : (run ⟨2⟩ 0).2.publications.length = 1 := by with_unfolding_all rfl
    have unpublished : (store 0).publications.length = 0 := by with_unfolding_all rfl
    intro same
    rw [same, unpublished] at published
    cases published
  have owner : (Goal.publish ⟨2⟩).target.scenario? (start.run firstPublication).store =
      some ⟨1⟩ := by with_unfolding_all rfl
  have missing : run ⟨9⟩ 0 = (.error (.store (.notFound (.iteration ⟨9⟩))), store 0) := by
    with_unfolding_all rfl
  obtain ⟨-, -, -, retried, -⟩ := reachable_firstPublication.retry_law (.publish ⟨2⟩)
    (by decide : (1 : UInt32).toNat + 1 < UInt32.size) fun n => .numbered (30 + n)
  obtain ⟨-, -, -, -, idle⟩ := reachable_firstPublication.retry_law (.publish ⟨9⟩)
    (by decide : (1 : UInt32).toNat + 1 < UInt32.size) fun n => .numbered (30 + n)
  obtain ⟨scenario, concerned, runs⟩ := retried changes
  obtain rfl : ⟨1⟩ = scenario := Option.some.inj (owner.symm.trans concerned)
  obtain ⟨-, sameResult, sameStore, noneLeft⟩ := (runs 1).1 (Nat.le_refl 1)
  have stillMissing : run ⟨9⟩ 3 = ((run ⟨9⟩ 0).1, store 3) := idle (congrArg Prod.snd missing) 3
  rw [missing] at stillMissing
  exact ⟨reachable_firstPublication, changes, succeeds, sameResult, sameStore, noneLeft,
    (runs 3).2 (by decide), stillMissing⟩

end System

end RiskScoring
