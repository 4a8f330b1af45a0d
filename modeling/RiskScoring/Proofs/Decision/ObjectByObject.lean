import RiskScoring.Proofs.Decision.Pool

/-!
# A batch is the scoring of its objects

Without failures an object of a batch is scored as it is on its own, whoever takes it, whatever its
turn and whatever the other workers do meanwhile. So the report of a batch is made up of the results
of its objects, each at its place; and a batch that is cancelled is the batch of the objects before.

* `BatchReport.append`, `Batch.report_append`: reports of parts.
* `Batch.report_total`: every object that was taken up is reported once.
* `Batch.runPool_of_calm`: the report of a batch on a pool.
* `Batch.runWith_of_cancelled`: the report of a batch that is cancelled at some turn.
* `Batch.object_by_object`: what a batch comes to.
-/

namespace RiskScoring

open Ingest

/-- The reports of two parts of a batch as one. The places of the second part come after the objects
of the first. -/
def BatchReport.append (first : BatchReport) (count : Nat) (second : BatchReport) :
    BatchReport where
  batch := first.batch
  processed := first.processed + second.processed
  decisions := first.decisions ++ second.decisions
  notTriggered := first.notTriggered + second.notTriggered
  failures := first.failures ++
    second.failures.map fun failure => { failure with index := failure.index + count }
  cancelled := first.cancelled || second.cancelled

/-- The report, marked as one of a batch that was cancelled. -/
def BatchReport.asCancelled (report : BatchReport) : BatchReport :=
  { report with cancelled := true }

theorem BatchReport.unstamped_append (first second : BatchReport) (count : Nat) :
    (first.append count second).unstamped = first.unstamped.append count second.unstamped := by
  simp [BatchReport.append, BatchReport.unstamped]

namespace Batch

/-! ## Reports -/

theorem failures_append (front back : List BatchResult) (index : Nat) :
    failures index (front ++ back) =
      failures index front ++ failures (index + front.length) back := by
  induction front generalizing index with
  | nil => rfl
  | cons result rest ih =>
    have later : failures (index + 1) (rest ++ back) = failures (index + 1) rest ++
        failures (index + (result :: rest).length) back := by
      rw [ih (index + 1), List.length_cons, Nat.add_right_comm, Nat.add_assoc]
    rcases result with _ | error | evaluation
    · exact later
    · exact congrArg (List.cons _) later
    · exact later

theorem failures_shift (results : List BatchResult) (index count : Nat) :
    failures (index + count) results = (failures index results).map fun failure =>
      { failure with index := failure.index + count } := by
  induction results generalizing index with
  | nil => rfl
  | cons result rest ih =>
    have later := ih (index + 1)
    rw [Nat.add_right_comm] at later
    rcases result with _ | error | evaluation
    · exact later
    · exact congrArg (List.cons _) later
    · exact later

/-- The report on results in two parts. -/
theorem report_append (batch : Batch) (front back : List BatchResult) (one other : Bool) :
    batch.report (front ++ back) (one || other) =
      (batch.report front one).append front.length (batch.report back other) := by
  have shifted := failures_shift back 0 front.length
  unfold report BatchReport.append decisions notTriggered
  dsimp only
  rw [failures_append, shifted, List.filterMap_append, List.countP_append, List.countP_append]

/-- Every object that was taken up is reported once: as a decision, as not triggered, or as a
failure. -/
theorem report_total (batch : Batch) (results : List BatchResult) (cancelled : Bool) :
    (batch.report results cancelled).decisions.length +
        (batch.report results cancelled).notTriggered +
        (batch.report results cancelled).failures.length =
      (batch.report results cancelled).processed := by
  suffices total : ∀ index, (decisions results).length + notTriggered results +
      (failures index results).length = results.countP Option.isSome from total 0
  induction results with
  | nil => exact fun index => rfl
  | cons result rest ih =>
    intro index
    have later := ih (index + 1)
    unfold decisions notTriggered at later ⊢
    rcases result with _ | error | evaluation
    · simpa [failures] using later
    · simp [failures]
      omega
    · cases evaluation with
      | notTriggered reason =>
        simp [failures]
        omega
      | triggered decision =>
        simp [failures]
        omega

/-! ## Batches without failures -/

variable {batch : Batch} {rows : List StoredRow} {others : Others} {origin store : Store}
  {payload : Payload} {stamps : Nat → Stamp} {payloads : List Payload}

/-- What scoring an object on its own gives, when it is done by itself. -/
def own (batch : Batch) (stamp : Stamp) (store : Store) (payload : Payload) :
    Except ScoringError Evaluation :=
  ((batch.iteration.score batch.model batch.scenario payload none stamp).run store).1

/-- An object of a batch is scored as it is on its own, but for what is generated. -/
theorem own_sameResult (batch : Batch) (calm : store.Calm rows) (stamp other : Stamp)
    (payload : Payload) :
    Iteration.SameResult (batch.own stamp store payload)
      (batch.calmResult payload other store) := by
  have alike : Agree Eq Iteration.SameResult
      (batch.iteration.score batch.model batch.scenario payload none stamp)
      (batch.attempt payload other) := by
    rw [attempt, Iteration.score_eq_scoreIn, Iteration.score_eq_scoreIn]
    refine Iteration.scoreIn_agrees (.refl _) ?_ ?_ batch.iteration batch.scenario payload
      (fun _ => rfl) (fun _ => rfl) fun _ => rfl
    · rintro state _ rfl
      rfl
    · rintro state _ rfl
      rfl
  have ready : store.Ready store.rows := ⟨rfl, calm.ready.opens⟩
  obtain ⟨after, gives, -, -⟩ := batch.scoreObject_of_enough payload other calm.ready.opens ready
    (Nat.le_of_eq calm.failingReads)
  have isSame := (alike store store rfl).1
  change (batch.attempt payload other).run store = _ at gives
  rw [gives] at isSame
  exact isSame

/-- On a pool whose workers bring no failures, an object is scored as without failures. -/
theorem scorePooled_of_calm (calm : others.Calm origin.rows) (opens : origin.failingOpenings = 0)
    (stamps : Nat → Stamp) (payload : Payload) (place : Nat) {state : Store × List Ingest.Call}
    (isCalm : state.1.Calm origin.rows) :
    ∃ after, (batch.scorePooled others stamps payload place).run state =
      (batch.calmResult payload (stamps place) origin, after) ∧ after.1.Calm origin.rows := by
  have agrees : Agree (fun shared alone => shared.1.Calm origin.rows ∧ alone.Calm origin.rows) Eq
      (batch.scorePooled others stamps payload place)
      (batch.scoreObject payload (stamps place) batch.retries) := by
    rw [scoreObject_eq_retrying]
    refine retrying_agrees ?_ (fun _ _ isSame => congrArg showsReadFailure isSame) batch.retries
    rw [attempt, Iteration.score_eq_scoreIn]
    refine Iteration.scoreIn_agrees (Scope.shared_agrees _ calm) ?_ ?_ batch.iteration
      batch.scenario payload (fun _ => rfl) (fun _ => rfl) fun _ => rfl
    · rintro shared alone ⟨sharedCalm, aloneCalm⟩
      exact ⟨sharedCalm.start, aloneCalm.start⟩
    · rintro shared alone ⟨sharedCalm, aloneCalm⟩
      exact ⟨sharedCalm.release, aloneCalm.release⟩
  obtain ⟨isSame, afterCalm, -⟩ := agrees state state.1 ⟨isCalm, isCalm⟩
  have enough : state.1.failingReads ≤ batch.retries := by
    rw [isCalm.failingReads]
    exact Nat.zero_le _
  obtain ⟨after, gives, -, -⟩ :=
    batch.scoreObject_of_enough payload (stamps place) opens isCalm.ready enough
  rw [gives] at isSame
  exact ⟨_, Prod.ext isSame rfl, afterCalm⟩

/-- Objects that are taken in any order are scored as without failures. -/
theorem takeAll_of_calm (batch : Batch) (calm : others.Calm origin.rows)
    (opens : origin.failingOpenings = 0) {stops : Nat → Store × List Ingest.Call → Bool}
    (never : ∀ turn state, stops turn state = false) (stamps : Nat → Stamp)
    (order : List (Payload × Nat)) (turn : Nat) {state : Store × List Ingest.Call}
    (isCalm : state.1.Calm origin.rows) :
    ((takeAll stops (batch.scorePooled others stamps) turn order).run state).1 =
      order.map fun object =>
        (object.2, some (batch.calmResult object.1 (stamps object.2) origin)) := by
  induction order generalizing turn state with
  | nil => rfl
  | cons object rest ih =>
    obtain ⟨payload, place⟩ := object
    obtain ⟨after, gives, afterCalm⟩ :=
      batch.scorePooled_of_calm calm opens stamps payload place isCalm
    rw [takeAll_cons, never, if_neg Bool.false_ne_true, gives, List.map_cons]
    exact congrArg (List.cons _) (ih (turn + 1) afterCalm)

theorem getElem?_calmResults (batch : Batch) (stamps : Nat → Stamp) (store : Store)
    (payloads : List Payload) (start index : Nat) :
    (batch.calmResults stamps store start payloads)[index]? = payloads[index]?.map fun payload =>
      some (batch.calmResult payload (stamps (start + index)) store) := by
  induction payloads generalizing start index with
  | nil => rfl
  | cons payload rest ih =>
    cases index with
    | zero => rfl
    | succ index =>
      rw [calmResults, List.getElem?_cons_succ, List.getElem?_cons_succ, ih, Nat.add_right_comm,
        Nat.add_assoc]

theorem length_calmResults (batch : Batch) (stamps : Nat → Stamp) (store : Store)
    (payloads : List Payload) (start : Nat) :
    (batch.calmResults stamps store start payloads).length = payloads.length := by
  induction payloads generalizing start with
  | nil => rfl
  | cons payload rest ih => exact congrArg Nat.succ (ih (start + 1))

/-- The results of objects in any order, each at its place. -/
theorem collect_calmResults (batch : Batch) (stamps : Nat → Stamp) (store : Store)
    {order : List (Payload × Nat)} (permuted : order.Perm payloads.zipIdx) :
    collect payloads.length (order.map fun object =>
      (object.2, some (batch.calmResult object.1 (stamps object.2) store))) =
        batch.calmResults stamps store 0 payloads := by
  rw [← batch.length_calmResults stamps store payloads 0]
  refine collect_of_belongs ?_ fun place inside => ?_
  · intro entry listed
    obtain ⟨⟨payload, place⟩, isObject, rfl⟩ := List.mem_map.mp listed
    have found := List.mem_zipIdx_iff_getElem?.mp (permuted.mem_iff.mp isObject)
    rw [getElem?_calmResults, found, Option.map_some, Nat.zero_add]
  · rw [length_calmResults] at inside
    rw [List.map_map]
    refine List.mem_map.mpr ⟨(payloads[place], place), permuted.mem_iff.mpr ?_, rfl⟩
    exact List.mem_zipIdx_iff_getElem?.mpr (List.getElem?_eq_getElem inside)

end Batch

/-- The workers of the pool keep the rows and bring no failures, and the batch is not cancelled. -/
structure Pool.Undisturbed (pool : Pool) (rows : List StoredRow) : Prop where
  others : pool.others.Calm rows
  goesOn : ∀ turn store, pool.isCancelled turn store = false

namespace Batch

variable {batch : Batch} {rows : List StoredRow} {origin : Store} {payload : Payload}
  {payloads : List Payload} {report : BatchReport}

/-- The reports that a batch can come to on the rows, if there are no failures and the batch is not
cancelled. It may be shared among any workers, who take up the objects in any order, each of them
once, and may act on the store at the same time. -/
inductive Reports (batch : Batch) (rows : List StoredRow) (payloads : List Payload) :
    BatchReport → Prop
  | share {workers : List Worker}
    (undisturbed : ∀ worker ∈ workers, worker.pool.Undisturbed rows ∧ worker.store.Calm rows)
    (permuted : (workers.flatMap Worker.order).Perm payloads.zipIdx) (stamps : Nat → Stamp) :
    Reports batch rows payloads (batch.reportShared workers stamps payloads.length false)

/-- A batch that is not cancelled, without failures. -/
theorem Reports.of_run (batch : Batch) {store : Store} (calm : store.Calm rows)
    (goesOn : ∀ store, batch.isCancelled store = false) (stamps : Nat → Stamp)
    (payloads : List Payload) :
    Reports batch rows payloads ((batch.run stamps payloads).run store).1 := by
  obtain ⟨after, reports⟩ := batch.run_eq_reportShared stamps payloads store
  rw [reports, goesOn]
  refine .share (fun worker isWorker => ?_) ?_ stamps
  · rw [List.mem_singleton.mp isWorker]
    exact ⟨⟨.idle rows, fun _ => goesOn⟩, calm⟩
  · rw [List.flatMap_singleton]

/-- However the objects are shared among workers, in whatever order they take them up and whatever
they do between, a batch reports what its objects give without failures, each at its place. -/
theorem Reports.exists_calm (reports : Reports batch rows payloads report)
    (calm : origin.Calm rows) :
    ∃ stamps, report = batch.report (batch.calmResults stamps origin 0 payloads) false := by
  obtain rfl := calm.rows
  cases reports with
  | @share workers undisturbed permuted stamps =>
    have taken : ∀ worker ∈ workers, worker.takes batch stamps = worker.order.map fun object =>
        (object.2, some (batch.calmResult object.1 (stamps object.2) origin)) := by
      intro worker isWorker
      obtain ⟨isUndisturbed, isCalm⟩ := undisturbed worker isWorker
      exact takeAll_of_calm batch isUndisturbed.others calm.ready.opens
        (fun turn state => isUndisturbed.goesOn turn state.1) stamps worker.order 0 isCalm
    refine ⟨stamps, ?_⟩
    rw [reportShared, List.flatMap_def, List.map_congr_left taken, ← List.flatMap_def,
      ← List.map_flatMap, collect_calmResults batch stamps origin permuted]

/-! ## The results of the objects -/

/-- The decision that an object was given, if there is one. -/
def decided : Except ScoringError Evaluation → Option Decision
  | .ok evaluation => evaluation.decision?
  | .error _ => none

/-- The object was scored, and it did not trigger the scenario. -/
def isNotTriggered : Except ScoringError Evaluation → Bool
  | .ok (.notTriggered _) => true
  | _ => false

/-- What objects give on their own. -/
def ownResults (batch : Batch) (stamp : Stamp) (store : Store) (payloads : List Payload) :
    List BatchResult :=
  payloads.map fun payload => some (batch.own stamp store payload)

theorem ownResults_unstamped (batch : Batch) (calm : origin.Calm rows) (stamp : Stamp)
    (stamps : Nat → Stamp) (payloads : List Payload) (start : Nat) :
    (batch.calmResults stamps origin start payloads).map unstamped =
      (batch.ownResults stamp origin payloads).map unstamped := by
  induction payloads generalizing start with
  | nil => rfl
  | cons payload rest ih =>
    have isSame := batch.own_sameResult calm stamp (stamps start) payload
    exact List.cons_eq_cons.mpr ⟨congrArg some isSame.symm, ih (start + 1)⟩

/-- The report is the report on what the objects give on their own. -/
theorem Reports.unstamped_own (reports : Reports batch rows payloads report)
    (calm : origin.Calm rows) (stamp : Stamp) :
    report.unstamped = (batch.report (batch.ownResults stamp origin payloads) false).unstamped := by
  obtain ⟨stamps, rfl⟩ := reports.exists_calm calm
  rw [report_unstamped, report_unstamped, ownResults_unstamped batch calm stamp]

theorem decisions_ownResults (batch : Batch) (stamp : Stamp) (store : Store)
    (payloads : List Payload) : decisions (batch.ownResults stamp store payloads) =
      payloads.filterMap fun payload => decided (batch.own stamp store payload) := by
  unfold decisions ownResults
  rw [List.filterMap_map]
  refine congrArg (List.filterMap · payloads) (funext fun payload => ?_)
  rw [Function.comp_apply]
  rcases batch.own stamp store payload with error | _ | decision <;> rfl

theorem notTriggered_ownResults (batch : Batch) (stamp : Stamp) (store : Store)
    (payloads : List Payload) : notTriggered (batch.ownResults stamp store payloads) =
      payloads.countP fun payload => isNotTriggered (batch.own stamp store payload) := by
  unfold notTriggered ownResults
  rw [List.countP_map]
  refine congrArg (List.countP · payloads) (funext fun payload => ?_)
  rw [Function.comp_apply]
  rcases batch.own stamp store payload with error | _ | decision <;> rfl

/-- The failures of the objects of another table, by their places. -/
def strays (batch : Batch) (start : Nat) (payloads : List Payload) : List BatchFailure :=
  ((payloads.zipIdx start).filter fun object =>
    object.1.table != batch.scenario.triggerTable).map fun object =>
      ⟨object.2, .wrongTable batch.scenario.id batch.scenario.triggerTable object.1.table⟩

theorem failures_ownResults (batch : Batch) (stamp : Stamp) (store : Store)
    (payloads : List Payload) (start : Nat) :
    failures start (batch.ownResults stamp store payloads) = batch.strays start payloads := by
  induction payloads generalizing start with
  | nil => rfl
  | cons payload rest ih =>
    have later : failures (start + 1) (batch.ownResults stamp store rest) =
        batch.strays (start + 1) rest := ih (start + 1)
    rw [strays, List.zipIdx_cons, List.filter_cons]
    by_cases sameTable : payload.table = batch.scenario.triggerTable
    · have scores : ∃ evaluation, batch.own stamp store payload = .ok evaluation :=
        ⟨_, congrArg Prod.fst (if_pos sameTable)⟩
      obtain ⟨evaluation, scores⟩ := scores
      rw [if_neg (by simp [sameTable]), ownResults, List.map_cons, scores]
      exact later
    · have refuses : batch.own stamp store payload =
          .error (.wrongTable batch.scenario.id batch.scenario.triggerTable payload.table) :=
        congrArg Prod.fst (if_neg sameTable)
      rw [if_pos (by simp [sameTable]), ownResults, List.map_cons, refuses]
      exact congrArg (List.cons _) later

theorem strays_increasing (batch : Batch) (start : Nat) (payloads : List Payload) :
    (batch.strays start payloads).Pairwise fun one other => one.index < other.index := by
  have places : (payloads.zipIdx start).Pairwise fun one other => one.2 < other.2 := by
    have increasing : ((payloads.zipIdx start).map Prod.snd).Pairwise (· < ·) := by
      rw [List.zipIdx_map_snd]
      exact List.pairwise_lt_range'
    exact List.pairwise_map.mp increasing
  exact List.pairwise_map.mpr (places.sublist List.filter_sublist)

/-- A decision without failures carries the identifier of the batch. -/
theorem batch_of_calmResult {stamp : Stamp} {store : Store} {decision : Decision}
    (decides : batch.calmResult payload stamp store = .ok (.triggered decision)) :
    decision.batch = some batch.id := by
  unfold calmResult Iteration.calmEvaluation at decides
  split at decides
  · split at decides
    · cases decides
      rfl
    · cases decides
    · cases decides
  · cases decides

theorem batch_of_decision (batch : Batch) (stamps : Nat → Stamp) (store : Store)
    (payloads : List Payload) :
    ∀ decision ∈ decisions (batch.calmResults stamps store 0 payloads),
      decision.batch = some batch.id := by
  intro decision listed
  obtain ⟨result, isResult, decides⟩ := List.mem_filterMap.mp listed
  obtain ⟨index, found⟩ := List.mem_iff_getElem?.mp isResult
  rw [getElem?_calmResults] at found
  obtain ⟨payload, -, rfl⟩ := Option.map_eq_some_iff.mp found
  split at decides
  · rename_i isDecision
    cases decides
    exact batch_of_calmResult (Option.some.inj isDecision)
  · cases decides

/-! ## Batches that are cancelled -/

section Cancelled

variable {σ : Type} {stops others : Nat → σ → Bool}
  {scoring : Payload → Nat → StateM σ (Except ScoringError Evaluation)} {state : σ}

theorem takeAll_append (stops : Nat → σ → Bool)
    (scoring : Payload → Nat → StateM σ (Except ScoringError Evaluation)) (turn : Nat)
    (front back : List (Payload × Nat)) (state : σ) :
    (takeAll stops scoring turn (front ++ back)).run state =
      let (first, middle) := (takeAll stops scoring turn front).run state
      let (second, after) := (takeAll stops scoring (turn + front.length) back).run middle
      (first ++ second, after) := by
  induction front generalizing turn state with
  | nil => rfl
  | cons object rest ih =>
    obtain ⟨payload, place⟩ := object
    rw [List.cons_append, takeAll_cons, takeAll_cons]
    generalize (if stops turn state = true then (none, state)
      else (some ((scoring payload place).run state).1,
        ((scoring payload place).run state).2)) = first
    obtain ⟨result, middle⟩ := first
    dsimp only
    rw [ih, List.length_cons, Nat.add_right_comm, Nat.add_assoc]
    rfl

/-- It matters only what is answered at the turns of the objects. -/
theorem takeAll_congr {turn : Nat} {order : List (Payload × Nat)}
    (asks : ∀ later, turn ≤ later → later < turn + order.length → ∀ state,
      stops later state = others later state) (state : σ) :
    (takeAll stops scoring turn order).run state =
      (takeAll others scoring turn order).run state := by
  induction order generalizing turn state with
  | nil => rfl
  | cons object rest ih =>
    obtain ⟨payload, place⟩ := object
    have later : ∀ state, (takeAll stops scoring (turn + 1) rest).run state =
        (takeAll others scoring (turn + 1) rest).run state := by
      refine fun state => ih (fun later reached inside => ?_) state
      exact asks later (by omega) (by rw [List.length_cons]; omega)
    rw [takeAll_cons, takeAll_cons, asks turn (Nat.le_refl turn) (by simp) state]
    simp only [later]

/-- From a turn on at which the batch is cancelled nothing happens. -/
theorem takeAll_of_stopped {turn : Nat} (stopped : ∀ later, turn ≤ later → stops later state = true)
    (order : List (Payload × Nat)) :
    (takeAll stops scoring turn order).run state =
      (order.map fun object => (object.2, none), state) := by
  induction order generalizing turn with
  | nil => rfl
  | cons object rest ih =>
    obtain ⟨payload, place⟩ := object
    have later : (takeAll stops scoring (turn + 1) rest).run state =
        (rest.map fun object => (object.2, none), state) :=
      ih fun later reached => stopped later (Nat.le_of_succ_le reached)
    rw [takeAll_cons, stopped turn (Nat.le_refl turn), if_pos rfl]
    dsimp only
    rw [later]
    rfl

/-- If the batch is found cancelled once all objects of a first part had their turn, these are taken
up as if it went on, and nothing happens with the others. -/
theorem takeAll_of_cancelled {front back : List (Payload × Nat)}
    (goesOn : ∀ turn < front.length, ∀ state, stops turn state = others turn state)
    (stopped : ∀ turn, front.length ≤ turn → ∀ state, stops turn state = true) :
    (takeAll stops scoring 0 (front ++ back)).run state =
      let (first, middle) := (takeAll others scoring 0 front).run state
      (first ++ back.map fun object => (object.2, none), middle) := by
  have first : (takeAll stops scoring 0 front).run state =
      (takeAll others scoring 0 front).run state := by
    refine takeAll_congr (fun turn _ reached state => goesOn turn ?_ state) state
    rwa [Nat.zero_add] at reached
  have second (middle : σ) : (takeAll stops scoring (0 + front.length) back).run middle =
      (back.map fun object => (object.2, none), middle) := by
    rw [Nat.zero_add]
    exact takeAll_of_stopped (fun turn reached => stopped turn reached middle) back
  simp only [takeAll_append, first, second]

end Cancelled

/-- Objects that were not taken up leave no mark on the report. -/
theorem report_append_none (batch : Batch) (results : List BatchResult) (count : Nat) :
    batch.report (results ++ List.replicate count none) true =
      (batch.report results false).asCancelled := by
  have blank : ∀ index, failures index (List.replicate count none) = [] := by
    induction count with
    | zero => exact fun index => rfl
    | succ count ih => exact fun index => ih (index + 1)
  unfold BatchReport.asCancelled report decisions notTriggered
  dsimp only
  rw [failures_append, blank]
  simp [List.filterMap_append, List.countP_append, List.countP_replicate]

/-- The results of the objects that were taken up, and nothing for those that were not. -/
theorem collect_append_none (results : List BatchResult) (rest : List Payload) :
    collect (results.length + rest.length) (results.zipIdx.map Prod.swap ++
      (rest.zipIdx results.length).map fun object => (object.2, none)) =
        results ++ List.replicate rest.length none := by
  have all : (results ++ List.replicate rest.length (none : BatchResult)).length =
      results.length + rest.length := by
    rw [List.length_append, List.length_replicate]
  rw [← all]
  refine collect_of_belongs ?_ fun place inside => ?_
  · intro entry listed
    rcases List.mem_append.mp listed with taken | untaken
    · obtain ⟨⟨result, place⟩, isPlace, rfl⟩ := List.mem_map.mp taken
      have found := List.mem_zipIdx_iff_getElem?.mp isPlace
      exact (List.getElem?_append_left (List.getElem?_eq_some_iff.mp found).1).trans found
    · obtain ⟨⟨payload, place⟩, isPlace, rfl⟩ := List.mem_map.mp untaken
      obtain ⟨reached, found⟩ := List.mk_mem_zipIdx_iff_le_and_getElem?_sub.mp isPlace
      rw [List.getElem?_append_right reached]
      exact List.getElem?_replicate_of_lt (List.getElem?_eq_some_iff.mp found).1
  · rw [all] at inside
    have places : (results.zipIdx.map Prod.swap ++
        (rest.zipIdx results.length).map fun object => (object.2, (none : BatchResult))).map
          Prod.fst = List.range (results.length + rest.length) := by
      have front : (results.zipIdx.map Prod.swap).map Prod.fst = List.range' 0 results.length :=
        (List.map_map ..).trans (List.zipIdx_map_snd 0 results)
      have back : ((rest.zipIdx results.length).map fun object =>
          (object.2, (none : BatchResult))).map Prod.fst =
            List.range' results.length rest.length :=
        (List.map_map ..).trans (List.zipIdx_map_snd results.length rest)
      rw [List.map_append, front, back, List.range_eq_range', ← List.range'_append_1, Nat.zero_add]
    rw [places]
    exact List.mem_range.mpr inside

/-- One worker and a batch that is cancelled while an object is being scored: the report is that on
the objects up to this one, marked as cancelled. -/
theorem runPool_of_cancelled (batch : Batch) {isCancelled : Nat → Store → Bool} {last : Nat}
    (before : ∀ turn ≤ last, ∀ store, isCancelled turn store = false)
    (afterwards : ∀ turn, last < turn → ∀ store, isCancelled turn store = true)
    (stamps : Nat → Stamp) (inside : last < payloads.length) (store : Store)
    (calls : List Ingest.Call) :
    ((batch.runPool ⟨.idle, isCancelled⟩ stamps payloads.length payloads.zipIdx).run
        (store, calls)).1 =
      ((({ batch with isCancelled := fun _ => false } : Batch).run stamps
          (payloads.take (last + 1))).run store).1.asCancelled := by
  let going : Batch := { batch with isCancelled := fun _ => false }
  have sameScoring : (fun (payload : Payload) (place : Nat) =>
      batch.scoreObject payload (stamps place) batch.retries) =
        fun payload place => going.scoreObject payload (stamps place) going.retries := by
    funext payload place
    rw [scoreObject_eq_retrying, scoreObject_eq_retrying]
    rfl
  obtain ⟨front, back, isFront, rfl⟩ : ∃ front back,
      front.length = last + 1 ∧ front ++ back = payloads :=
    ⟨payloads.take (last + 1), payloads.drop (last + 1),
      List.length_take_of_le inside, List.take_append_drop (last + 1) payloads⟩
  let results := ((going.results stamps 0 front).run store).1
  have taken : results.length = front.length := going.length_results ..
  have parts : (front ++ back).zipIdx = front.zipIdx ++ back.zipIdx results.length := by
    rw [List.zipIdx_append, Nat.zero_add, taken]
  have count : (front ++ back).length = results.length + back.length := by
    rw [List.length_append, taken]
  have goesOn (turn : Nat) (reached : turn < front.zipIdx.length) (store : Store) :
      isCancelled turn store = going.isCancelled store := by
    rw [List.length_zipIdx, isFront] at reached
    exact before turn (Nat.le_of_lt_succ reached) store
  have stopped (turn : Nat) (reached : front.zipIdx.length ≤ turn) (store : Store) :
      isCancelled turn store = true := by
    rw [List.length_zipIdx, isFront] at reached
    exact afterwards turn reached store
  have runs : (takeAll isCancelled
      (fun payload place => going.scoreObject payload (stamps place) going.retries) 0
      (front.zipIdx ++ back.zipIdx results.length)).run store =
        (results.zipIdx.map Prod.swap ++
            (back.zipIdx results.length).map fun object => (object.2, none),
          ((going.results stamps 0 front).run store).2) := by
    rw [takeAll_of_cancelled goesOn stopped, zipIdx_results]
  obtain ⟨sameReport, -⟩ := batch.runPool_idle_agrees isCancelled stamps (front ++ back).length
    (front ++ back).zipIdx (store, calls) store rfl
  rw [sameReport, runWith_run, sameScoring, parts, runs, count]
  dsimp only
  rw [collect_append_none, stopped _ (by rw [List.length_append]; exact Nat.le_add_right ..),
    List.take_left' isFront]
  exact report_append_none batch results back.length

theorem collect_none (count : Nat) (order : List (Payload × Nat)) :
    collect count (order.map fun object => (object.2, none)) = List.replicate count none := by
  have blank (place : Nat) :
      ((order.map fun object => (object.2, (none : BatchResult))).lookup place).join = none := by
    induction order with
    | nil => rfl
    | cons object rest ih =>
      rw [List.map_cons, List.lookup_cons]
      cases place == object.2 with
      | true => rfl
      | false => exact ih
  rw [collect, List.map_congr_left fun place _ => blank place, List.map_const', List.length_range]

/-- In a batch that is cancelled beforehand nothing happens. -/
theorem runPool_of_stopped (batch : Batch) {pool : Pool} {store : Store}
    (stopped : ∀ turn, pool.isCancelled turn store = true) (stamps : Nat → Stamp) (count : Nat)
    (order : List (Payload × Nat)) (calls : List Ingest.Call) :
    (batch.runPool pool stamps count order).run (store, calls) =
      (⟨batch.id, 0, [], 0, [], true⟩, (store, calls)) := by
  let stops : Nat → Store × List Ingest.Call → Bool :=
    fun turn state => pool.isCancelled turn state.1
  have isStopped (turn : Nat) (_ : 0 ≤ turn) : stops turn (store, calls) = true := stopped turn
  have taken : (takeAll stops (batch.scorePooled pool.others stamps) 0 order).run (store, calls) =
      (order.map fun object => (object.2, none), (store, calls)) :=
    takeAll_of_stopped isStopped order
  rw [runPool, runWith_run, taken]
  dsimp only
  rw [collect_none, stopped]
  exact congrArg (·, (store, calls)) (report_append_none batch [] count)

end Batch

/-! ## What a batch comes to -/

/-- A store of rows without failures. -/
def Ingest.Store.holding (rows : List StoredRow) : Store := { Store.empty with rows }

/-- A stamp that is not compared. -/
def Stamp.blank : Stamp := ⟨⟨0⟩, ⟨0, 0⟩, fun _ => ⟨0⟩⟩

namespace Batch

variable {batch : Batch} {rows : List StoredRow} {origin : Store} {payloads : List Payload}
  {report : BatchReport}

namespace Reports

variable {stamp : Stamp} {front back : List Payload} {whole first second : BatchReport}

theorem processed_eq (reports : Reports batch rows payloads report) :
    report.processed = payloads.length := by
  have calm : (Store.holding rows).Calm rows := ⟨rfl, rfl⟩
  have isOwn := congrArg BatchReport.processed (reports.unstamped_own calm .blank)
  have all : (batch.ownResults .blank (.holding rows) payloads).countP
      Option.isSome = payloads.length := by
    rw [ownResults, List.countP_map]
    exact congrFun List.countP_true payloads
  exact isOwn.trans all

theorem total (reports : Reports batch rows payloads report) :
    report.decisions.length + report.notTriggered + report.failures.length = payloads.length := by
  have calm : (Store.holding rows).Calm rows := ⟨rfl, rfl⟩
  rw [← reports.processed_eq]
  obtain ⟨stamps, rfl⟩ := reports.exists_calm calm
  exact batch.report_total _ _

theorem decisions_eq (reports : Reports batch rows payloads report) (stamp : Stamp)
    (calm : origin.Calm rows) : report.decisions.map Decision.unstamped =
      (payloads.filterMap fun payload => decided (batch.own stamp origin payload)).map
        Decision.unstamped := by
  rw [← decisions_ownResults]
  exact congrArg BatchReport.decisions (reports.unstamped_own calm stamp)

theorem notTriggered_eq (reports : Reports batch rows payloads report) (stamp : Stamp)
    (calm : origin.Calm rows) : report.notTriggered =
      payloads.countP fun payload => isNotTriggered (batch.own stamp origin payload) := by
  rw [← notTriggered_ownResults]
  exact congrArg BatchReport.notTriggered (reports.unstamped_own calm stamp)

theorem batch_eq (reports : Reports batch rows payloads report) :
    ∀ decision ∈ report.decisions, decision.batch = some report.batch := by
  have calm : (Store.holding rows).Calm rows := ⟨rfl, rfl⟩
  obtain ⟨stamps, rfl⟩ := reports.exists_calm calm
  exact batch_of_decision batch stamps _ payloads

theorem failures_eq (reports : Reports batch rows payloads report) :
    report.failures = batch.strays 0 payloads := by
  have calm : (Store.holding rows).Calm rows := ⟨rfl, rfl⟩
  rw [← failures_ownResults batch .blank (.holding rows)]
  exact congrArg BatchReport.failures (reports.unstamped_own calm _)

theorem not_cancelled (reports : Reports batch rows payloads report) :
    report.cancelled = false := by
  have calm : (Store.holding rows).Calm rows := ⟨rfl, rfl⟩
  exact congrArg BatchReport.cancelled (reports.unstamped_own calm .blank)

/-- The report on two lists of objects. -/
theorem append_eq (isWhole : Reports batch rows (front ++ back) whole)
    (isFirst : Reports batch rows front first) (isSecond : Reports batch rows back second) :
    whole.unstamped = (first.append front.length second).unstamped := by
  have calm : (Store.holding rows).Calm rows := ⟨rfl, rfl⟩
  let ownResults (payloads : List Payload) :=
    batch.ownResults .blank (.holding rows) payloads
  have parts : ownResults (front ++ back) = ownResults front ++ ownResults back := List.map_append
  have length : (ownResults front).length = front.length := List.length_map _
  calc whole.unstamped
    _ = (batch.report (ownResults front ++ ownResults back) (false || false)).unstamped := by
      rw [← parts]
      exact isWhole.unstamped_own calm _
    _ = ((batch.report (ownResults front) false).append front.length
          (batch.report (ownResults back) false)).unstamped := by
      rw [report_append, length]
    _ = (first.append front.length second).unstamped := by
      rw [BatchReport.unstamped_append, BatchReport.unstamped_append,
        isFirst.unstamped_own calm .blank, isSecond.unstamped_own calm .blank]

end Reports

/-- A batch is the scoring of its objects one by one. Without failures, however workers share the
objects among them, in whatever order they take them up and whatever they do to the store meanwhile,
every object is processed and reported once. The decisions are those that the objects are given on
their own, in the order of the objects, and they carry the identifier of the batch; the failures are
the objects of another table, by their places; and the report on two lists of objects is made up of
the reports on each. One worker that finds the batch cancelled after an object, with failures or
without, reports on the objects up to that one, and a batch that is cancelled beforehand does
nothing. -/
theorem object_by_object (batch : Batch) (rows : List StoredRow) :
    (∀ (stamps : Nat → Stamp) (payloads : List Payload) (store : Store), store.Calm rows →
      (∀ store, batch.isCancelled store = false) →
        Reports batch rows payloads ((batch.run stamps payloads).run store).1) ∧
    (∀ (payloads : List Payload) (report : BatchReport), Reports batch rows payloads report →
      report.processed = payloads.length ∧
      report.decisions.length + report.notTriggered + report.failures.length = payloads.length ∧
      (∀ (stamp : Stamp) (store : Store), store.Calm rows →
        report.decisions.map Decision.unstamped =
          (payloads.filterMap fun payload => decided (batch.own stamp store payload)).map
            Decision.unstamped ∧
        report.notTriggered =
          payloads.countP fun payload => isNotTriggered (batch.own stamp store payload)) ∧
      (∀ decision ∈ report.decisions, decision.batch = some report.batch) ∧
      report.failures = batch.strays 0 payloads ∧
      report.failures.Pairwise (fun one other => one.index < other.index) ∧
      report.cancelled = false) ∧
    (∀ (front back : List Payload) (whole first second : BatchReport),
      Reports batch rows (front ++ back) whole → Reports batch rows front first →
        Reports batch rows back second →
          whole.unstamped = (first.append front.length second).unstamped) ∧
    (∀ (isCancelled : Nat → Store → Bool) (last : Nat) (payloads : List Payload),
      last < payloads.length → (∀ turn ≤ last, ∀ store, isCancelled turn store = false) →
      (∀ turn, last < turn → ∀ store, isCancelled turn store = true) →
      ∀ (stamps : Nat → Stamp) (store : Store) (calls : List Ingest.Call),
        ((batch.runPool ⟨.idle, isCancelled⟩ stamps payloads.length payloads.zipIdx).run
            (store, calls)).1 =
          ((({ batch with isCancelled := fun _ => false } : Batch).run stamps
              (payloads.take (last + 1))).run store).1.asCancelled) ∧
    ∀ (pool : Pool) (store : Store), (∀ turn, pool.isCancelled turn store = true) →
      ∀ (stamps : Nat → Stamp) (count : Nat) (order : List (Payload × Nat))
        (calls : List Ingest.Call),
        (batch.runPool pool stamps count order).run (store, calls) =
          (⟨batch.id, 0, [], 0, [], true⟩, (store, calls)) := by
  refine ⟨?_, ?_, ?_, ?_, ?_⟩
  · intro stamps payloads store calm goesOn
    exact .of_run batch calm goesOn stamps payloads
  · intro payloads report reports
    refine ⟨reports.processed_eq, reports.total, fun stamp store calm => ?_, reports.batch_eq,
      reports.failures_eq, ?_, reports.not_cancelled⟩
    · exact ⟨reports.decisions_eq stamp calm, reports.notTriggered_eq stamp calm⟩
    · rw [reports.failures_eq]
      exact batch.strays_increasing 0 payloads
  · intro front back whole first second isWhole isFirst isSecond
    exact isWhole.append_eq isFirst isSecond
  · intro isCancelled last payloads inside before afterwards stamps store calls
    exact batch.runPool_of_cancelled before afterwards stamps inside store calls
  · intro pool store stopped stamps count order calls
    exact batch.runPool_of_stopped stopped stamps count order calls

end Batch

namespace Shop

/-- The customer is stored, and no failure is to come. -/
def stocked : Store := Store.empty.insertRow ⟨3⟩ "customers" customer.fields

/-- Another worker, which reads whether the customer of the order is verified. -/
def reader : Others := fun _ store =>
  ((Scope.mk ⟨3⟩ model order).read ["customer"] "verified" (.start store)).2.release

/-- Such a worker keeps the rows and brings no failures. -/
theorem reader_calm (rows : List StoredRow) : reader.Calm rows := fun _ _ calm =>
  (Scope.calm_of_read ⟨⟨3⟩, model, order⟩ ["customer"] "verified" calm.start).release

/-- Two workers, the first of which has the customer to score, beside others that read. -/
def sharing : List Batch.Worker :=
  [⟨⟨reader, fun _ _ => false⟩, [(customer, 1)], stocked⟩,
    ⟨⟨.idle, fun _ _ => false⟩, [(order, 0)], stocked⟩]

/-- An order and a customer are scored as orders: by two workers; in two batches; in a batch that is
cancelled after the order; and in one that is cancelled beforehand. -/
theorem object_by_object_order :
    let payloads : List Payload := [order, customer]
    let stamps : Nat → Stamp := fun _ => stamp
    let report := batch.reportShared sharing stamps payloads.length false
    (report.processed = 2 ∧ report.failures = batch.strays 0 payloads ∧
      report.decisions.length = 1) ∧
    report.unstamped = ((((batch.run stamps [order]).run stocked).1).append 1
      ((batch.run stamps [customer]).run stocked).1).unstamped ∧
    ((batch.runPool ⟨.idle, fun turn _ => decide (0 < turn)⟩ stamps payloads.length
        payloads.zipIdx).run (session.store, [])).1 =
      ((({ batch with isCancelled := fun _ => false } : Batch).run stamps
          (payloads.take (0 + 1))).run session.store).1.asCancelled ∧
    ((batch.runPool ⟨reader, fun _ _ => true⟩ stamps payloads.length payloads.zipIdx).run
      (stocked, [])).1.processed = 0 := by
  intro payloads stamps report
  have calm : stocked.Calm stocked.rows := ⟨rfl, rfl⟩
  obtain ⟨ofRun, contents, parts, cancelled, stopped⟩ := batch.object_by_object stocked.rows
  have undisturbed : ∀ worker ∈ sharing,
      worker.pool.Undisturbed stocked.rows ∧ worker.store.Calm stocked.rows := by
    refine List.forall_mem_cons.mpr ⟨?_, List.forall_mem_singleton.mpr ?_⟩
    · exact ⟨⟨reader_calm _, fun _ _ => rfl⟩, calm⟩
    · exact ⟨⟨.idle _, fun _ _ => rfl⟩, calm⟩
  have permuted : (sharing.flatMap Batch.Worker.order).Perm payloads.zipIdx :=
    List.Perm.swap _ _ _
  have reports : Batch.Reports batch stocked.rows payloads report :=
    .share undisturbed permuted stamps
  obtain ⟨processed, -, owns, -, failures, -, -⟩ := contents payloads report reports
  have decisions := congrArg List.length (owns stamp stocked calm).1
  rw [List.length_map, List.length_map] at decisions
  have isFirst := ofRun stamps [order] stocked calm fun _ => rfl
  have isSecond := ofRun stamps [customer] stocked calm fun _ => rfl
  refine ⟨⟨processed, failures, decisions.trans rfl⟩,
    parts [order] [customer] report _ _ reports isFirst isSecond, ?_, ?_⟩
  · exact cancelled (fun turn _ => decide (0 < turn)) 0 payloads (Nat.zero_lt_succ 1)
      (fun turn atOrder _ => decide_eq_false (Nat.not_lt.mpr atOrder))
      (fun turn afterOrder _ => decide_eq_true afterOrder) stamps session.store []
  · rw [stopped ⟨reader, fun _ _ => true⟩ stocked (fun _ => rfl)]

end Shop

end RiskScoring
