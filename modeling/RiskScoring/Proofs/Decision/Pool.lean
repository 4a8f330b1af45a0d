import RiskScoring.Proofs.Decision.Retries
import RiskScoring.Proofs.Evaluation.Shared

/-!
# A batch on a pool of workers

Workers take the objects of a batch in some order, find the store as the others have left it, and
put each result at the place of its object. `Batch.runPool` is the batch with all of this left open;
`Batch.run` is the case of one worker that takes the objects as they come. Agreement is carried from
the calls of an accessor through the loops of the engine up to the report.

* `Iteration.scoreIn`, `Iteration.scoreShared`: scoring through sessions of any kind, and through
  those on a shared store.
* `Batch.takeAll`, `Batch.collect`, `Batch.runWith`: taking objects, and the report on what was
  taken.
* `Pool`, `Batch.runPool`: a batch on a pool.
* `Batch.run_eq_runPool`: one worker that takes the objects as they come.
* `Batch.Worker`, `Batch.reportShared`: workers that share in a batch, and the report on it.
-/

namespace RiskScoring

open Ingest

variable {σ τ υ ρ : Type}

namespace Iteration

/-! ## One object -/

variable {alike : σ → τ → Prop} {accessor : Accessor σ} {other : Accessor τ}

theorem runRules_agrees (agrees : accessor.Agrees alike other) (rules : List Rule) :
    Agree alike Eq (runRules accessor rules) (runRules other rules) := by
  induction rules with
  | nil => exact Agree.pure rfl
  | cons rule rest ih =>
    have execution : Agree alike Eq (runRule accessor rule) (runRule other rule) :=
      Agree.bind_eq (Expression.evaluateBool_agrees agrees rule.formula) fun _ => Agree.pure rfl
    refine Agree.bind_eq execution fun execution => ?_
    exact Agree.bind_eq ih fun executions => Agree.pure rfl

/-- Through accessors that agree, an object is scored the same, with what is generated as far as
that is to be the same. -/
theorem scoreWith_agrees (agrees : accessor.Agrees alike other) (iteration : Iteration)
    (scenario : Scenario) (payload : Payload) {batch otherBatch : Option Uuid}
    {stamp otherStamp : Stamp} (same : Evaluation → Evaluation → Prop)
    (stops : ∀ reason, same (.notTriggered reason) (.notTriggered reason))
    (decides : ∀ executions,
      same (.triggered (iteration.decide scenario payload batch stamp executions))
        (.triggered (iteration.decide scenario payload otherBatch otherStamp executions))) :
    Agree alike same (iteration.scoreWith scenario payload batch stamp accessor)
      (iteration.scoreWith scenario payload otherBatch otherStamp other) := by
  refine Agree.bind_eq (Expression.evaluateBool_agrees agrees iteration.trigger) fun result => ?_
  cases result with
  | error error => exact Agree.pure (stops _)
  | ok triggers =>
    cases triggers with
    | false => exact Agree.pure (stops _)
    | true =>
      refine Agree.bind_eq (runRules_agrees agrees iteration.orderedRules) fun executions => ?_
      exact Agree.pure (decides executions)

/-- Scores an object through an accessor whose states are entered and left. -/
def scoreIn (iteration : Iteration) (enter : υ → σ) (leave : σ → υ) (accessor : Accessor σ)
    (scenario : Scenario) (payload : Payload) (batch : Option Uuid) (stamp : Stamp) :
    StateM υ (Except ScoringError Evaluation) := fun state =>
  if payload.table = scenario.triggerTable then
    let (evaluation, after) :=
      (iteration.scoreWith scenario payload batch stamp accessor).run (enter state)
    (.ok evaluation, leave after)
  else (.error (.wrongTable scenario.id scenario.triggerTable payload.table), state)

theorem score_eq_scoreIn (iteration : Iteration) (model : DataModel) (scenario : Scenario)
    (payload : Payload) (batch : Option Uuid) (stamp : Stamp) :
    iteration.score model scenario payload batch stamp =
      iteration.scoreIn Session.start Session.release
        (Scope.mk scenario.organization model payload).accessor scenario payload batch stamp := rfl

/-- Scores an object while others act on the store, and writes the calls down. -/
def scoreShared (others : Others) (iteration : Iteration) (model : DataModel) (scenario : Scenario)
    (payload : Payload) (batch : Option Uuid) (stamp : Stamp) :
    StateM (Store × List Ingest.Call) (Except ScoringError Evaluation) :=
  iteration.scoreIn (fun (store, calls) => (.start store, calls))
    (fun (session, calls) => (session.release, calls))
    ((Scope.mk scenario.organization model payload).accessor.shared others) scenario payload batch
    stamp

/-- Results of scoring that differ in nothing but what was generated. -/
def SameResult : Except ScoringError Evaluation → Except ScoringError Evaluation → Prop :=
  fun one other => one.map Evaluation.unstamped = other.map Evaluation.unstamped

variable {enter : υ → σ} {leave : σ → υ} {enterOther : ρ → τ} {leaveOther : τ → ρ}
  {near : υ → ρ → Prop}

/-- Scoring agrees if the accessors do, and what is alike outside of a session is so inside. -/
theorem scoreIn_agrees (agrees : accessor.Agrees alike other)
    (enters : ∀ state otherState, near state otherState →
      alike (enter state) (enterOther otherState))
    (leaves : ∀ state otherState, alike state otherState →
      near (leave state) (leaveOther otherState))
    (iteration : Iteration) (scenario : Scenario) (payload : Payload)
    {batch otherBatch : Option Uuid} {stamp otherStamp : Stamp}
    {same : Except ScoringError Evaluation → Except ScoringError Evaluation → Prop}
    (refuses : ∀ error, same (.error error) (.error error))
    (stops : ∀ reason, same (.ok (.notTriggered reason)) (.ok (.notTriggered reason)))
    (decides : ∀ executions,
      same (.ok (.triggered (iteration.decide scenario payload batch stamp executions)))
        (.ok (.triggered (iteration.decide scenario payload otherBatch otherStamp executions)))) :
    Agree near same (iteration.scoreIn enter leave accessor scenario payload batch stamp)
      (iteration.scoreIn enterOther leaveOther other scenario payload otherBatch otherStamp) := by
  intro state otherState isNear
  change same (iteration.scoreIn enter leave accessor scenario payload batch stamp state).1
      (iteration.scoreIn enterOther leaveOther other scenario payload otherBatch otherStamp
        otherState).1 ∧
    near (iteration.scoreIn enter leave accessor scenario payload batch stamp state).2
      (iteration.scoreIn enterOther leaveOther other scenario payload otherBatch otherStamp
        otherState).2
  unfold scoreIn
  split
  · obtain ⟨isSame, isAlike⟩ := scoreWith_agrees agrees iteration scenario payload
      (fun one other => same (.ok one) (.ok other)) stops decides _ _ (enters _ _ isNear)
    exact ⟨isSame, leaves _ _ isAlike⟩
  · exact ⟨refuses _, isNear⟩

/-- Without others an object is scored as it is on a store that is not shared. -/
theorem scoreShared_idle_agrees (iteration : Iteration) (model : DataModel) (scenario : Scenario)
    (payload : Payload) (batch : Option Uuid) (stamp : Stamp) :
    Agree (fun (shared : Store × List Ingest.Call) store => shared.1 = store) Eq
      (iteration.scoreShared .idle model scenario payload batch stamp)
      (iteration.score model scenario payload batch stamp) := by
  rw [score_eq_scoreIn]
  refine scoreIn_agrees (Accessor.shared_idle_agrees _) ?_ ?_ iteration scenario payload
    (fun _ => rfl) (fun _ => rfl) fun _ => rfl
  · rintro ⟨store, calls⟩ _ rfl
    rfl
  · rintro ⟨session, calls⟩ _ rfl
    rfl

end Iteration

namespace Batch

/-! ## Attempts -/

variable {near : υ → ρ → Prop}
  {same : Except ScoringError Evaluation → Except ScoringError Evaluation → Prop}

/-- Attempts that agree, and agree on whether a read failed, agree when they are repeated. -/
theorem retrying_agrees {attempt : StateM υ (Except ScoringError Evaluation)}
    {other : StateM ρ (Except ScoringError Evaluation)} (agrees : Agree near same attempt other)
    (shows : ∀ one other, same one other → showsReadFailure one = showsReadFailure other)
    (left : Nat) : Agree near same (retrying attempt left) (retrying other left) := by
  induction left with
  | zero => exact agrees
  | succ left ih =>
    intro state otherState isNear
    obtain ⟨isSame, afterNear⟩ := agrees state otherState isNear
    rw [retrying_succ, retrying_succ, shows _ _ isSame]
    split
    · exact ih _ _ afterNear
    · exact ⟨isSame, afterNear⟩

/-! ## The objects of a batch -/

/-- Takes up objects with their places, one after the other. Before each it is asked whether to
stop, by the number of objects whose turn it was before. -/
def takeAll (stops : Nat → σ → Bool)
    (scoring : Payload → Nat → StateM σ (Except ScoringError Evaluation)) :
    Nat → List (Payload × Nat) → StateM σ (List (Nat × BatchResult))
  | _, [] => pure []
  | turn, (payload, place) :: rest => do
    let result ← if stops turn (← get) then pure none else some <$> scoring payload place
    let others ← takeAll stops scoring (turn + 1) rest
    return (place, result) :: others

/-- The results in the order of their places. -/
def collect (count : Nat) (taken : List (Nat × BatchResult)) : List BatchResult :=
  (List.range count).map fun place => (taken.lookup place).join

/-- Takes up the objects of a batch and reports. -/
def runWith (batch : Batch) (stops : Nat → σ → Bool)
    (scoring : Payload → Nat → StateM σ (Except ScoringError Evaluation)) (count : Nat)
    (order : List (Payload × Nat)) : StateM σ BatchReport := do
  let taken ← takeAll stops scoring 0 order
  return batch.report (collect count taken) (stops order.length (← get))

/-- One object is taken up, and then the others. -/
theorem takeAll_cons (stops : Nat → σ → Bool)
    (scoring : Payload → Nat → StateM σ (Except ScoringError Evaluation)) (turn : Nat)
    (payload : Payload) (place : Nat) (rest : List (Payload × Nat)) (state : σ) :
    (takeAll stops scoring turn ((payload, place) :: rest)).run state =
      let (result, middle) := if stops turn state = true then (none, state)
        else (some ((scoring payload place).run state).1, ((scoring payload place).run state).2)
      let (others, after) := (takeAll stops scoring (turn + 1) rest).run middle
      ((place, result) :: others, after) := by
  have unfolds : (takeAll stops scoring turn ((payload, place) :: rest)).run state =
      (if stops turn state = true then
        List.cons (place, none) <$> takeAll stops scoring (turn + 1) rest
      else do
        let result ← scoring payload place
        List.cons (place, some result) <$> takeAll stops scoring (turn + 1) rest :
          StateM σ (List (Nat × BatchResult))).run state := by
    rw [takeAll]
    rfl
  rw [unfolds]
  split <;> rfl

theorem runWith_run (batch : Batch) (stops : Nat → σ → Bool)
    (scoring : Payload → Nat → StateM σ (Except ScoringError Evaluation)) (count : Nat)
    (order : List (Payload × Nat)) (state : σ) :
    (batch.runWith stops scoring count order).run state =
      (batch.report (collect count ((takeAll stops scoring 0 order).run state).1)
          (stops order.length ((takeAll stops scoring 0 order).run state).2),
        ((takeAll stops scoring 0 order).run state).2) := rfl

/-- What was taken up is found at its place, if it is what belongs there. -/
theorem lookup_of_belongs {results : List BatchResult} {taken : List (Nat × BatchResult)}
    (belongs : ∀ entry ∈ taken, results[entry.1]? = some entry.2) {place : Nat}
    (occurs : place ∈ taken.map Prod.fst) : taken.lookup place = results[place]? := by
  induction taken with
  | nil => cases occurs
  | cons entry rest ih =>
    obtain ⟨first, result⟩ := entry
    obtain ⟨here, later⟩ := List.forall_mem_cons.mp belongs
    rw [List.lookup_cons]
    cases isFirst : place == first with
    | true =>
      obtain rfl := eq_of_beq isFirst
      exact here.symm
    | false =>
      rcases List.mem_cons.mp occurs with rfl | occursLater
      · exact absurd isFirst (by simp)
      · exact ih later occursLater

/-- If what belongs to every place was taken up, in any order, that is what is collected. -/
theorem collect_of_belongs {results : List BatchResult} {taken : List (Nat × BatchResult)}
    (belongs : ∀ entry ∈ taken, results[entry.1]? = some entry.2)
    (complete : ∀ place < results.length, place ∈ taken.map Prod.fst) :
    collect results.length taken = results := by
  refine List.ext_getElem? fun place => ?_
  rw [collect, List.getElem?_map]
  by_cases inside : place < results.length
  · rw [List.getElem?_range inside, Option.map_some,
      lookup_of_belongs belongs (complete place inside), List.getElem?_eq_getElem inside]
    rfl
  · rw [List.getElem?_eq_none (by rw [List.length_range]; exact Nat.le_of_not_lt inside),
      List.getElem?_eq_none (Nat.le_of_not_lt inside)]
    rfl

theorem collect_zipIdx (results : List BatchResult) :
    collect results.length (results.zipIdx.map Prod.swap) = results := by
  refine collect_of_belongs ?_ fun place inside => ?_
  · intro entry listed
    obtain ⟨⟨result, place⟩, isPlace, rfl⟩ := List.mem_map.mp listed
    exact List.mem_zipIdx_iff_getElem?.mp isPlace
  · rw [List.map_map]
    refine List.mem_map.mpr ⟨(results[place], place), ?_, rfl⟩
    exact List.mem_zipIdx_iff_getElem?.mpr (List.getElem?_eq_getElem inside)

/-! ## Agreement of batches -/

/-- What is compared of an object that was taken up. -/
def compared (keep : Except ScoringError Evaluation → Except ScoringError Evaluation)
    (taken : Nat × BatchResult) : Nat × BatchResult :=
  (taken.1, taken.2.map keep)

theorem collect_compared
    (keep : Except ScoringError Evaluation → Except ScoringError Evaluation) (count : Nat)
    (taken : List (Nat × BatchResult)) :
    collect count (taken.map (compared keep)) = (collect count taken).map (Option.map keep) := by
  unfold collect
  rw [List.map_map]
  refine List.map_congr_left fun place _ => ?_
  induction taken with
  | nil => rfl
  | cons entry rest ih =>
    obtain ⟨first, result⟩ := entry
    rw [Function.comp_apply] at ih ⊢
    rw [List.map_cons, compared, List.lookup_cons, List.lookup_cons]
    cases place == first with
    | true => rfl
    | false => exact ih

section Agreement

variable {stops : Nat → σ → Bool} {stopsOther : Nat → τ → Bool}
  {scoring : Payload → Nat → StateM σ (Except ScoringError Evaluation)}
  {scoringOther : Payload → Nat → StateM τ (Except ScoringError Evaluation)}
  {alike : σ → τ → Prop}

theorem takeAll_agrees (keep : Except ScoringError Evaluation → Except ScoringError Evaluation)
    (asks : ∀ turn state other, alike state other → stops turn state = stopsOther turn other)
    (agrees : ∀ payload place, Agree alike (fun one other => keep one = keep other)
      (scoring payload place) (scoringOther payload place))
    (turn : Nat) (order : List (Payload × Nat)) :
    Agree alike (fun one other => one.map (compared keep) = other.map (compared keep))
      (takeAll stops scoring turn order) (takeAll stopsOther scoringOther turn order) := by
  induction order generalizing turn with
  | nil => exact Agree.pure rfl
  | cons object rest ih =>
    obtain ⟨payload, place⟩ := object
    intro state other isAlike
    rw [takeAll_cons, takeAll_cons, ← asks turn state other isAlike]
    cases stops turn state with
    | true =>
      obtain ⟨isSame, afterAlike⟩ := ih (turn + 1) state other isAlike
      exact ⟨congrArg (List.cons (place, none)) isSame, afterAlike⟩
    | false =>
      obtain ⟨scored, middleAlike⟩ := agrees payload place state other isAlike
      obtain ⟨isSame, afterAlike⟩ := ih (turn + 1) _ _ middleAlike
      have first : (place, some (keep ((scoring payload place).run state).1)) =
          (place, some (keep ((scoringOther payload place).run other).1)) :=
        congrArg (fun result => (place, some result)) scored
      exact ⟨List.cons_eq_cons.mpr ⟨first, isSame⟩, afterAlike⟩

variable (batch : Batch) (count : Nat) (order : List (Payload × Nat))

/-- Batches whose objects are scored equally report equally. -/
theorem runWith_agrees
    (asks : ∀ turn state other, alike state other → stops turn state = stopsOther turn other)
    (agrees : ∀ payload place,
      Agree alike Eq (scoring payload place) (scoringOther payload place)) :
    Agree alike Eq (batch.runWith stops scoring count order)
      (batch.runWith stopsOther scoringOther count order) := by
  intro state other isAlike
  obtain ⟨isSame, afterAlike⟩ :=
    takeAll_agrees (fun result => result) asks agrees 0 order state other isAlike
  have unchanged : compared (fun result => result) = fun taken => taken := by
    funext ⟨place, result⟩
    cases result <;> rfl
  rw [unchanged, List.map_id', List.map_id'] at isSame
  refine ⟨?_, afterAlike⟩
  rw [runWith_run, runWith_run]
  exact congrArg₂ batch.report (congrArg (collect count) isSame)
    (asks order.length _ _ afterAlike)

/-- Batches whose objects are scored equally but for what is generated report equally but for what
is generated. -/
theorem runWith_agrees_unstamped (id : Uuid)
    (asks : ∀ turn state other, alike state other → stops turn state = stopsOther turn other)
    (agrees : ∀ payload place,
      Agree alike Iteration.SameResult (scoring payload place) (scoringOther payload place)) :
    Agree alike (fun report other => report.unstamped = other.unstamped)
      (batch.runWith stops scoring count order)
      (({ batch with id } : Batch).runWith stopsOther scoringOther count order) := by
  intro state other isAlike
  obtain ⟨isSame, afterAlike⟩ :=
    takeAll_agrees (Except.map Evaluation.unstamped) asks agrees 0 order state other isAlike
  refine ⟨?_, afterAlike⟩
  rw [runWith_run, runWith_run]
  dsimp only
  rw [report_unstamped, report_unstamped, unstamped, ← collect_compared, ← collect_compared, isSame,
    asks order.length _ _ afterAlike]

end Agreement

end Batch

/-! ## Pools -/

/-- What a batch is left to: what the other workers do to the store before a call, and whether the
batch is found cancelled, by the number of objects whose turn it was before. -/
structure Pool where
  others : Others
  isCancelled : Nat → Store → Bool

namespace Batch

/-- Scores an object while others act on the store, and writes the calls down. -/
def scorePooled (batch : Batch) (others : Others) (stamps : Nat → Stamp) (payload : Payload)
    (place : Nat) : StateM (Store × List Ingest.Call) (Except ScoringError Evaluation) :=
  retrying (batch.iteration.scoreShared others batch.model batch.scenario payload (some batch.id)
    (stamps place)) batch.retries

/-- Runs the batch on a pool: objects with their places are taken up in the given order. -/
def runPool (batch : Batch) (pool : Pool) (stamps : Nat → Stamp) (count : Nat)
    (order : List (Payload × Nat)) : StateM (Store × List Ingest.Call) BatchReport :=
  batch.runWith (fun turn state => pool.isCancelled turn state.1)
    (batch.scorePooled pool.others stamps) count order

/-- The pool of one worker. -/
def alone (batch : Batch) : Pool := ⟨.idle, fun _ => batch.isCancelled⟩

/-- Without others an object is scored as it is alone. -/
theorem scorePooled_idle_agrees (batch : Batch) (stamps : Nat → Stamp) (payload : Payload)
    (place : Nat) : Agree (fun shared store => shared.1 = store) Eq
      (batch.scorePooled .idle stamps payload place)
      (batch.scoreObject payload (stamps place) batch.retries) := by
  rw [scoreObject_eq_retrying]
  exact retrying_agrees (batch.iteration.scoreShared_idle_agrees batch.model batch.scenario payload
    (some batch.id) (stamps place)) (fun _ _ isSame => congrArg showsReadFailure isSame)
    batch.retries

theorem zipIdx_results (batch : Batch) (stamps : Nat → Stamp) (payloads : List Payload)
    (turn start : Nat) (store : Store) :
    (takeAll (fun _ => batch.isCancelled)
        (fun payload place => batch.scoreObject payload (stamps place) batch.retries) turn
        (payloads.zipIdx start)).run store =
      ((((batch.results stamps start payloads).run store).1.zipIdx start).map Prod.swap,
        ((batch.results stamps start payloads).run store).2) := by
  induction payloads generalizing turn start store with
  | nil => rfl
  | cons payload rest ih =>
    rw [List.zipIdx_cons, takeAll_cons, results_cons, resultOf_run]
    cases batch.isCancelled store with
    | true =>
      simp only [↓reduceIte]
      rw [ih]
      rfl
    | false =>
      simp only [Bool.false_eq_true, ↓reduceIte]
      rw [ih]
      rfl

theorem length_results (batch : Batch) (stamps : Nat → Stamp) (payloads : List Payload)
    (start : Nat) (store : Store) :
    ((batch.results stamps start payloads).run store).1.length = payloads.length := by
  induction payloads generalizing start store with
  | nil => rfl
  | cons payload rest ih =>
    rw [results_cons]
    exact congrArg Nat.succ (ih (start + 1) _)

/-- A batch is run by one worker that takes the objects as they come. -/
theorem run_eq_runWith (batch : Batch) (stamps : Nat → Stamp) (payloads : List Payload)
    (store : Store) : (batch.run stamps payloads).run store =
      (batch.runWith (fun _ => batch.isCancelled)
        (fun payload place => batch.scoreObject payload (stamps place) batch.retries)
        payloads.length payloads.zipIdx).run store := by
  rw [runWith_run, zipIdx_results, ← batch.length_results stamps payloads 0 store, collect_zipIdx]
  rfl

/-- On a pool of one worker objects are scored as they are alone. -/
theorem runPool_idle_agrees (batch : Batch) (isCancelled : Nat → Store → Bool)
    (stamps : Nat → Stamp) (count : Nat) (order : List (Payload × Nat)) :
    Agree (fun (shared : Store × List Ingest.Call) store => shared.1 = store) Eq
      (batch.runPool ⟨.idle, isCancelled⟩ stamps count order)
      (batch.runWith isCancelled
        (fun payload place => batch.scoreObject payload (stamps place) batch.retries) count
        order) := by
  refine runWith_agrees batch count order ?_ (batch.scorePooled_idle_agrees stamps)
  rintro turn ⟨state, _⟩ _ rfl
  rfl

/-- A batch is run on the pool of one worker that takes the objects as they come. -/
theorem run_eq_runPool (batch : Batch) (stamps : Nat → Stamp) (payloads : List Payload)
    (store : Store) (calls : List Ingest.Call) :
    let pooled := (batch.runPool batch.alone stamps payloads.length payloads.zipIdx).run
      (store, calls)
    (batch.run stamps payloads).run store = (pooled.1, pooled.2.1) := by
  intro pooled
  obtain ⟨sameReport, sameStore⟩ := batch.runPool_idle_agrees (fun _ => batch.isCancelled) stamps
    payloads.length payloads.zipIdx (store, calls) store rfl
  rw [run_eq_runWith]
  exact Prod.ext sameReport.symm sameStore.symm

/-! ## Workers -/

/-- A worker with its share of a batch: the pool that it is one of, the objects that it takes up,
and the store as it finds it. -/
structure Worker where
  pool : Pool
  order : List (Payload × Nat)
  store : Store

/-- What the worker takes up. -/
def Worker.takes (worker : Worker) (batch : Batch) (stamps : Nat → Stamp) :
    List (Nat × BatchResult) :=
  ((takeAll (fun turn (state : Store × List Ingest.Call) => worker.pool.isCancelled turn state.1)
    (batch.scorePooled worker.pool.others stamps) 0 worker.order).run (worker.store, [])).1

/-- The report on a batch that is shared among workers. -/
def reportShared (batch : Batch) (workers : List Worker) (stamps : Nat → Stamp) (count : Nat)
    (cancelled : Bool) : BatchReport :=
  batch.report (collect count (workers.flatMap fun worker => worker.takes batch stamps)) cancelled

/-- A batch is run by a worker that takes the objects as they come. -/
theorem run_eq_reportShared (batch : Batch) (stamps : Nat → Stamp) (payloads : List Payload)
    (store : Store) : ∃ after, ((batch.run stamps payloads).run store).1 =
      batch.reportShared [⟨batch.alone, payloads.zipIdx, store⟩] stamps payloads.length
        (batch.isCancelled after) := by
  have isPooled := congrArg Prod.fst (batch.run_eq_runPool stamps payloads store [])
  simp only [reportShared, List.flatMap_singleton]
  exact ⟨_, isPooled⟩

end Batch

end RiskScoring
