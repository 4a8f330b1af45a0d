import RiskScoring.Decision.Batch
import RiskScoring.Proofs.Decision.ReadFailures

/-!
# Scoring again after failed reads

An attempt that shows a failed read took a failure, and one that takes none gives what is given
without failures. So a batch that may repeat each object as often as there are failures to come
reports the same as without them.

* `Batch.attempt_cases`: an attempt gives what it gives without failures, or it took some.
* `Batch.scoreObject_of_enough`, `Batch.results_of_enough`: enough attempts absorb all failures.
* `Batch.report_unstamped`, `Batch.calmResults_unstamped`: what is generated has no part in that.
* `Batch.retrying`, `Batch.logged`: attempts, made and written down.
* `Batch.Tries`, `Batch.retrying_logged`: which attempts are made.
* `Batch.retries_absorb`: what the attempts of a batch come to.
-/

namespace RiskScoring

open Ingest

namespace Expression

variable {scope : Scope} {origin store : Store} {formula : Expression}

/-- What a formula gives alone depends on the rows only. -/
theorem alone_of_ready (opens : origin.failingOpenings = 0) (ready : store.Ready origin.rows) :
    formula.alone scope store = formula.alone scope origin := by
  obtain ⟨count, -, counted⟩ := formula.alone_counted scope opens
  have given := counted (.start (store.failReads 0)) ⟨ready.rows, ready.opens⟩
  have none : (Session.start (store.failReads 0)).store.failingReads = 0 := rfl
  rw [if_pos (Or.inr none)] at given
  rw [alone, given]

end Expression

/-- A decision without the identifiers and the time that were generated for it. -/
def Decision.unstamped (decision : Decision) : Decision :=
  { decision with id := ⟨0⟩, createdAt := ⟨0, 0⟩, batch := none }

/-- An evaluation without what was generated for it. -/
def Evaluation.unstamped : Evaluation → Evaluation
  | .notTriggered reason => .notTriggered reason
  | .triggered decision => .triggered decision.unstamped

/-- A report without what was generated for it. -/
def BatchReport.unstamped (report : BatchReport) : BatchReport :=
  { report with batch := ⟨0⟩, decisions := report.decisions.map Decision.unstamped }

namespace Batch

variable {batch : Batch} {payload : Payload} {stamp : Stamp} {origin store after : Store}
  {result : Except ScoringError Evaluation}

/-- The result of one attempt shows a failed read. -/
def showsReadFailure : Except ScoringError Evaluation → Bool
  | .ok evaluation => evaluation.hasReadFailure
  | .error _ => false

/-- One attempt to score an object. -/
def attempt (batch : Batch) (payload : Payload) (stamp : Stamp) :
    StateM Store (Except ScoringError Evaluation) :=
  batch.iteration.score batch.model batch.scenario payload (some batch.id) stamp

/-- What an attempt gives without failures. -/
def calmResult (batch : Batch) (payload : Payload) (stamp : Stamp) (store : Store) :
    Except ScoringError Evaluation :=
  if payload.table = batch.scenario.triggerTable then
    .ok (batch.iteration.calmEvaluation batch.scenario (some batch.id) stamp
      ⟨batch.scenario.organization, batch.model, payload⟩ store)
  else .error (.wrongTable batch.scenario.id batch.scenario.triggerTable payload.table)

theorem calmResult_of_ready (opens : origin.failingOpenings = 0) (ready : store.Ready origin.rows) :
    batch.calmResult payload stamp store = batch.calmResult payload stamp origin := by
  have sameAlone (formula : Expression) (scope : Scope) :
      formula.alone scope store = formula.alone scope origin :=
    Expression.alone_of_ready opens ready
  unfold calmResult Iteration.calmEvaluation Rule.execute
  simp only [sameAlone]

/-! ## One attempt -/

/-- An attempt shows a failed read exactly if it took a failure. If it took none, it gives what is
given without failures. -/
theorem attempt_cases (opens : origin.failingOpenings = 0) (ready : store.Ready origin.rows)
    (runs : (batch.attempt payload stamp).run store = (result, after)) :
    after.Ready origin.rows ∧ after.failingReads ≤ store.failingReads ∧
      (showsReadFailure result = true ↔ after.failingReads < store.failingReads) ∧
      (after.failingReads = store.failingReads →
        result = batch.calmResult payload stamp origin) := by
  by_cases sameTable : payload.table = batch.scenario.triggerTable
  · obtain ⟨evaluation, _, scores, afterReady, scored⟩ :=
      batch.iteration.score_scored batch.model (some batch.id) stamp sameTable ready.opens
    cases runs.symm.trans scores
    rw [ready.rows] at afterReady
    refine ⟨afterReady, scored.left_le, scored.hasReadFailure_iff ready.opens, fun same => ?_⟩
    rw [← calmResult_of_ready opens ready, calmResult, if_pos sameTable, scored.calm_of_left same]
  · have refuses : (batch.attempt payload stamp).run store =
        (.error (.wrongTable batch.scenario.id batch.scenario.triggerTable payload.table), store) :=
      if_neg sameTable
    cases runs.symm.trans refuses
    refine ⟨ready, Nat.le_refl _, ?_, fun _ => ?_⟩
    · exact ⟨fun shows => (nomatch shows), fun less => absurd less (Nat.lt_irrefl _)⟩
    · rw [calmResult, if_neg sameTable]

/-! ## One object -/

/-- Makes an attempt, and again after a failed read while `left` allows it. -/
def retrying {σ : Type} (attempt : StateM σ (Except ScoringError Evaluation)) :
    Nat → StateM σ (Except ScoringError Evaluation)
  | 0 => attempt
  | left + 1 => do
    match ← attempt with
    | .ok evaluation =>
      if evaluation.hasReadFailure then retrying attempt left else return .ok evaluation
    | .error error => return .error error

/-- An object is scored by attempts. -/
theorem scoreObject_eq_retrying (batch : Batch) (payload : Payload) (stamp : Stamp) (left : Nat) :
    batch.scoreObject payload stamp left = retrying (batch.attempt payload stamp) left := by
  induction left with
  | zero => rfl
  | succ left ih =>
    rw [scoreObject, retrying, ih]
    rfl

/-- One more attempt is made after a failed read only. -/
theorem retrying_succ {σ : Type} (attempt : StateM σ (Except ScoringError Evaluation)) (left : Nat)
    (state : σ) : (retrying attempt (left + 1)).run state =
      if showsReadFailure (attempt.run state).1 = true then
        (retrying attempt left).run (attempt.run state).2
      else attempt.run state := by
  rw [retrying, StateT.run_bind]
  rcases attempt.run state with ⟨result, after⟩
  cases result with
  | error error => rfl
  | ok evaluation =>
    show (if evaluation.hasReadFailure = true then retrying attempt left
      else pure (.ok evaluation)).run after = _
    unfold showsReadFailure
    split <;> rfl

/-- As many attempts as there are failures to come absorb these. -/
theorem scoreObject_of_enough (batch : Batch) (payload : Payload) (stamp : Stamp)
    (opens : origin.failingOpenings = 0) {left : Nat} (ready : store.Ready origin.rows)
    (enough : store.failingReads ≤ left) :
    ∃ after, (batch.scoreObject payload stamp left).run store =
        (batch.calmResult payload stamp origin, after) ∧
      after.Ready origin.rows ∧ after.failingReads ≤ store.failingReads := by
  rw [scoreObject_eq_retrying]
  induction left generalizing store with
  | zero =>
    rcases attempts : (batch.attempt payload stamp).run store with ⟨result, after⟩
    obtain ⟨afterReady, fewer, -, calm⟩ := attempt_cases opens ready attempts
    exact ⟨after, by rw [retrying, attempts, calm (by omega)], afterReady, fewer⟩
  | succ left ih =>
    rcases attempts : (batch.attempt payload stamp).run store with ⟨result, middle⟩
    obtain ⟨middleReady, fewer, shows, calm⟩ := attempt_cases opens ready attempts
    rw [retrying_succ, attempts]
    by_cases took : middle.failingReads < store.failingReads
    · obtain ⟨after, gives, afterReady, stillFewer⟩ := ih middleReady (by omega)
      exact ⟨after, by rw [if_pos (shows.mpr took), gives], afterReady, by omega⟩
    · have isCalm := calm (by omega)
      refine ⟨middle, ?_, middleReady, fewer⟩
      rw [if_neg fun shown => took (shows.mp shown), isCalm]

/-! ## A batch with enough attempts -/

/-- What is reported for an object: nothing if the batch is cancelled before it. -/
def resultOf (batch : Batch) (payload : Payload) (stamp : Stamp) : StateM Store BatchResult := do
  if batch.isCancelled (← get) then pure none
  else some <$> batch.scoreObject payload stamp batch.retries

theorem resultOf_run (payload : Payload) (stamp : Stamp) (store : Store) :
    (batch.resultOf payload stamp).run store =
      if batch.isCancelled store = true then (none, store)
      else (some ((batch.scoreObject payload stamp batch.retries).run store).1,
        ((batch.scoreObject payload stamp batch.retries).run store).2) := by
  show (if batch.isCancelled store = true then pure none
    else some <$> batch.scoreObject payload stamp batch.retries : StateM Store BatchResult).run
      store = _
  split <;> rfl

theorem results_cons (stamps : Nat → Stamp) (index : Nat) (payload : Payload)
    (rest : List Payload) (store : Store) :
    (batch.results stamps index (payload :: rest)).run store =
      let (result, middle) := (batch.resultOf payload (stamps index)).run store
      let (others, after) := (batch.results stamps (index + 1) rest).run middle
      (result :: others, after) := by
  have unfolds : (batch.results stamps index (payload :: rest)).run store =
      (if batch.isCancelled store = true then
        List.cons none <$> batch.results stamps (index + 1) rest
      else do
        let result ← batch.scoreObject payload (stamps index) batch.retries
        List.cons (some result) <$> batch.results stamps (index + 1) rest :
          StateM Store (List BatchResult)).run store := by
    rw [results]
    rfl
  rw [unfolds, resultOf_run]
  split <;> rfl

/-- What objects give without failures. -/
def calmResults (batch : Batch) (stamps : Nat → Stamp) (store : Store) :
    Nat → List Payload → List BatchResult
  | _, [] => []
  | index, payload :: rest =>
    some (batch.calmResult payload (stamps index) store) ::
      calmResults batch stamps store (index + 1) rest

theorem results_of_enough (batch : Batch) (opens : origin.failingOpenings = 0)
    (uncancelled : ∀ store, batch.isCancelled store = false) (stamps : Nat → Stamp)
    (payloads : List Payload) (index : Nat) (ready : store.Ready origin.rows)
    (enough : store.failingReads ≤ batch.retries) :
    ((batch.results stamps index payloads).run store).1 =
      batch.calmResults stamps origin index payloads := by
  induction payloads generalizing index store with
  | nil => rfl
  | cons payload rest ih =>
    obtain ⟨middle, scores, middleReady, fewer⟩ :=
      batch.scoreObject_of_enough payload (stamps index) opens ready enough
    have first : (batch.resultOf payload (stamps index)).run store =
        (some (batch.calmResult payload (stamps index) origin), middle) := by
      rw [resultOf_run, uncancelled, if_neg Bool.false_ne_true, scores]
    have later := ih (index + 1) middleReady (Nat.le_trans fewer enough)
    rw [results_cons, first, calmResults, ← later]
    rfl

/-! ## What is generated -/

/-- A result without what was generated for it. -/
def unstamped : BatchResult → BatchResult := Option.map (Except.map Evaluation.unstamped)

theorem decisions_unstamped (results : List BatchResult) :
    decisions (results.map unstamped) = (decisions results).map Decision.unstamped := by
  unfold decisions
  rw [List.filterMap_map, List.map_filterMap]
  refine congrArg (List.filterMap · results) (funext fun result => ?_)
  rcases result with _ | _ | evaluation
  · rfl
  · rfl
  · cases evaluation <;> rfl

theorem notTriggered_unstamped (results : List BatchResult) :
    notTriggered (results.map unstamped) = notTriggered results := by
  unfold notTriggered
  rw [List.countP_map]
  refine congrArg (List.countP · results) (funext fun result => ?_)
  rcases result with _ | _ | evaluation
  · rfl
  · rfl
  · cases evaluation <;> rfl

theorem failures_unstamped (results : List BatchResult) (index : Nat) :
    failures index (results.map unstamped) = failures index results := by
  induction results generalizing index with
  | nil => rfl
  | cons result rest ih =>
    rcases result with _ | error | evaluation
    · exact ih (index + 1)
    · exact congrArg (List.cons _) (ih (index + 1))
    · exact ih (index + 1)

/-- A report without what was generated is the report on results without that. -/
theorem report_unstamped (batch : Batch) (results : List BatchResult) (cancelled : Bool) :
    (batch.report results cancelled).unstamped =
      ({ batch with id := ⟨0⟩ } : Batch).report (results.map unstamped) cancelled := by
  have processed : (results.map unstamped).countP Option.isSome = results.countP Option.isSome := by
    rw [List.countP_map]
    exact congrArg (List.countP · results) (funext fun result => Option.isSome_map)
  unfold report BatchReport.unstamped
  rw [decisions_unstamped, notTriggered_unstamped, failures_unstamped, processed]

/-- Without failures an object gives the same but for what is generated. -/
theorem calmResults_unstamped (batch : Batch) (id : Uuid) (stamps others : Nat → Stamp)
    (store : Store) (payloads : List Payload) (index : Nat) :
    (batch.calmResults stamps store index payloads).map unstamped =
      (({ batch with id } : Batch).calmResults others store index payloads).map unstamped := by
  induction payloads generalizing index with
  | nil => rfl
  | cons payload rest ih =>
    have same : unstamped (some (batch.calmResult payload (stamps index) store)) =
        unstamped (some (({ batch with id } : Batch).calmResult payload (others index) store)) := by
      unfold calmResult
      split
      · show some (Except.ok (Evaluation.unstamped _)) = some (Except.ok (Evaluation.unstamped _))
        unfold Iteration.calmEvaluation
        dsimp only
        split <;> rfl
      · rfl
    rw [calmResults, calmResults, List.map_cons, List.map_cons, same, ih]

/-! ## The attempts that are made -/

/-- An attempt that was made: the store before it, its result, and the store that it left. -/
structure Made where
  before : Store
  result : Except ScoringError Evaluation
  after : Store

/-- Makes an attempt and writes it down. -/
def logged (attempt : StateM Store (Except ScoringError Evaluation)) :
    StateM (Store × List Made) (Except ScoringError Evaluation) := fun (store, log) =>
  let (result, after) := attempt.run store
  (result, (after, log ++ [⟨store, result, after⟩]))

/-- Attempts one after the other. All but the last show a failed read, and the last one does not
unless no more are allowed. -/
inductive Tries (attempt : StateM Store (Except ScoringError Evaluation)) :
    Nat → Store → List Made → Except ScoringError Evaluation → Store → Prop
  | last {left : Nat} {store after : Store} {result : Except ScoringError Evaluation}
    (runs : attempt.run store = (result, after))
    (stops : left = 0 ∨ showsReadFailure result = false) :
    Tries attempt left store [⟨store, result, after⟩] result after
  | again {left : Nat} {store middle after : Store} {first result : Except ScoringError Evaluation}
    {log : List Made} (runs : attempt.run store = (first, middle))
    (fails : showsReadFailure first = true) (later : Tries attempt left middle log result after) :
    Tries attempt (left + 1) store (⟨store, first, middle⟩ :: log) result after

/-- The attempts that are written down are those that are made, and writing them down changes
nothing. -/
theorem retrying_logged (attempt : StateM Store (Except ScoringError Evaluation)) (left : Nat)
    (store : Store) (log : List Made) : ∃ result after made,
      (retrying (logged attempt) left).run (store, log) = (result, (after, log ++ made)) ∧
      (retrying attempt left).run store = (result, after) ∧
      Tries attempt left store made result after := by
  induction left generalizing store log with
  | zero => exact ⟨_, _, _, rfl, rfl, .last rfl (Or.inl rfl)⟩
  | succ left ih =>
    rcases attempts : attempt.run store with ⟨first, middle⟩
    have writes : (logged attempt).run (store, log) =
        (first, (middle, log ++ [Made.mk store first middle])) := by
      show (let (result, after) := attempt.run store
        (result, (after, log ++ [Made.mk store result after]))) = _
      rw [attempts]
    rw [retrying_succ, retrying_succ, attempts, writes]
    by_cases fails : showsReadFailure first = true
    · obtain ⟨result, after, made, runs, gives, tries⟩ :=
        ih middle (log ++ [Made.mk store first middle])
      refine ⟨result, after, ⟨store, first, middle⟩ :: made, ?_, ?_, .again attempts fails tries⟩
      · rw [if_pos fails, runs, List.append_assoc, List.singleton_append]
      · rw [if_pos fails, gives]
    · refine ⟨first, middle, [⟨store, first, middle⟩], ?_, ?_,
        .last attempts (Or.inr (eq_false_of_ne_true fails))⟩
      · rw [if_neg fails]
      · rw [if_neg fails]

namespace Tries

variable {attempt : StateM Store (Except ScoringError Evaluation)} {left : Nat} {log : List Made}

theorem length_le (tries : Tries attempt left store log result after) : log.length ≤ left + 1 := by
  induction tries with
  | last => exact Nat.le_add_left 1 _
  | again _ _ _ ih => exact Nat.succ_le_succ ih

/-- If the last attempt shows a failed read, all attempts were made, and all of them show one. -/
theorem exhausted (tries : Tries attempt left store log result after)
    (shows : showsReadFailure result = true) :
    log.length = left + 1 ∧ ∀ made ∈ log, showsReadFailure made.result = true := by
  induction tries with
  | last _ stops =>
    rcases stops with rfl | silent
    · refine ⟨rfl, fun made listed => ?_⟩
      rw [List.mem_singleton.mp listed]
      exact shows
    · rw [shows] at silent
      cases silent
  | again _ fails _ ih =>
    obtain ⟨length, all⟩ := ih shows
    exact ⟨congrArg Nat.succ length, List.forall_mem_cons.mpr ⟨fails, all⟩⟩

theorem ne_nil (tries : Tries attempt left store log result after) : log ≠ [] := by
  cases tries <;> exact List.cons_ne_nil _ _

/-- Attempts leave the rows as they are. -/
theorem ready (opens : origin.failingOpenings = 0) (ready : store.Ready origin.rows)
    (tries : Tries (batch.attempt payload stamp) left store log result after) :
    after.Ready origin.rows := by
  induction tries with
  | last runs => exact (attempt_cases opens ready runs).1
  | again runs _ _ ih => exact ih (attempt_cases opens ready runs).1

/-- All attempts but the last took a failure. -/
theorem took (opens : origin.failingOpenings = 0) (ready : store.Ready origin.rows)
    (tries : Tries (batch.attempt payload stamp) left store log result after) :
    ∀ made ∈ log.dropLast, made.after.failingReads < made.before.failingReads := by
  induction tries with
  | last => exact fun made listed => nomatch listed
  | again runs fails later ih =>
    obtain ⟨middleReady, -, shows, -⟩ := attempt_cases opens ready runs
    rw [List.dropLast_cons_of_ne_nil later.ne_nil]
    exact List.forall_mem_cons.mpr ⟨shows.mp fails, ih middleReady⟩

end Tries

/-! ## A batch -/

theorem ready_resultOf (opens : origin.failingOpenings = 0) (ready : store.Ready origin.rows) :
    ((batch.resultOf payload stamp).run store).2.Ready origin.rows := by
  rw [resultOf_run]
  split
  · exact ready
  · rw [scoreObject_eq_retrying]
    obtain ⟨result, after, log, -, gives, tries⟩ :=
      retrying_logged (batch.attempt payload stamp) batch.retries store []
    rw [gives]
    exact tries.ready opens ready

theorem ready_results (opens : origin.failingOpenings = 0) (stamps : Nat → Stamp)
    (payloads : List Payload) (index : Nat) (ready : store.Ready origin.rows) :
    ((batch.results stamps index payloads).run store).2.Ready origin.rows := by
  induction payloads generalizing index store with
  | nil => exact ready
  | cons payload rest ih =>
    rw [results_cons]
    exact ih (index + 1) (ready_resultOf opens ready)

/-- An object is scored from the store that the objects before it left. -/
theorem getElem?_results (stamps : Nat → Stamp) (payloads : List Payload) (start index : Nat)
    (store : Store) : ((batch.results stamps start payloads).run store).1[index]? =
      payloads[index]?.map fun payload =>
        ((batch.resultOf payload (stamps (start + index))).run
          ((batch.results stamps start (payloads.take index)).run store).2).1 := by
  induction payloads generalizing start index store with
  | nil => rfl
  | cons payload rest ih =>
    rw [results_cons]
    cases index with
    | zero => rfl
    | succ index =>
      rw [List.take_succ_cons, results_cons, List.getElem?_cons_succ]
      show ((batch.results stamps (start + 1) rest).run _).1[index]? = _
      rw [ih, Nat.add_right_comm start 1 index]
      rfl

theorem run_report (stamps : Nat → Stamp) (payloads : List Payload) (store : Store) :
    ((batch.run stamps payloads).run store).1 =
      batch.report ((batch.results stamps 0 payloads).run store).1
        (batch.isCancelled ((batch.results stamps 0 payloads).run store).2) := rfl

/-- Repeated attempts absorb failed reads. If no more failures are to come than an object may be
repeated, the batch reports what it reports without failures, but for identifiers and times if
others are generated. However many there are, each object is scored from the store at its turn by a
limited number of attempts; all of them but the last took a failure, and if a failed read is
reported, every attempt showed one. -/
theorem retries_absorb (batch : Batch) (stamps : Nat → Stamp) (payloads : List Payload)
    {store : Store} (opens : store.failingOpenings = 0) :
    ((∀ state, batch.isCancelled state = false) → store.failingReads ≤ batch.retries →
      ((batch.run stamps payloads).run store).1 =
        ((batch.run stamps payloads).run (store.failReads 0)).1 ∧
      ∀ (id : Uuid) (others : Nat → Stamp), ((batch.run stamps payloads).run store).1.unstamped =
        ((({ batch with id } : Batch).run others payloads).run (store.failReads 0)).1.unstamped) ∧
    ∀ (index : Nat) (payload : Payload), payloads[index]? = some payload →
      let turn := ((batch.results stamps 0 (payloads.take index)).run store).2
      let reported := ((batch.results stamps 0 payloads).run store).1[index]?
      if batch.isCancelled turn = true then reported = some none
      else ∃ (result : Except ScoringError Evaluation) (after : Store) (log : List Made),
        reported = some (some result) ∧
        (batch.scoreObject payload (stamps index) batch.retries).run turn = (result, after) ∧
        (retrying (logged (batch.attempt payload (stamps index))) batch.retries).run (turn, []) =
          (result, (after, log)) ∧
        log.length ≤ batch.retries + 1 ∧
        (∀ made ∈ log.dropLast, made.after.failingReads < made.before.failingReads) ∧
        (showsReadFailure result = true → log.length = batch.retries + 1 ∧
          ∀ made ∈ log, showsReadFailure made.result = true) := by
  have ready : store.Ready store.rows := ⟨rfl, opens⟩
  refine ⟨fun uncancelled enough => ?_, fun index payload isPayload => ?_⟩
  · have calmReady : (store.failReads 0).Ready store.rows := ⟨rfl, opens⟩
    have fails := batch.results_of_enough opens uncancelled stamps payloads 0 ready enough
    refine ⟨?_, fun id others => ?_⟩
    · have calm :=
        batch.results_of_enough opens uncancelled stamps payloads 0 calmReady (Nat.zero_le _)
      rw [run_report, run_report, fails, calm, uncancelled, uncancelled]
    · let other : Batch := { batch with id }
      have calm : ((other.results others 0 payloads).run (store.failReads 0)).1 =
          other.calmResults others store 0 payloads :=
        other.results_of_enough opens uncancelled others payloads 0 calmReady (Nat.zero_le _)
      rw [run_report, run_report, fails, calm, report_unstamped, report_unstamped,
        calmResults_unstamped batch id stamps others, uncancelled, uncancelled]
  · intro turn reported
    have turnReady : turn.Ready store.rows :=
      ready_results opens stamps (payloads.take index) 0 ready
    have isReported : reported = some ((batch.resultOf payload (stamps index)).run turn).1 := by
      show ((batch.results stamps 0 payloads).run store).1[index]? = _
      rw [getElem?_results, isPayload, Option.map_some, Nat.zero_add]
    rw [resultOf_run] at isReported
    split
    · rename_i cancelled
      rw [isReported, if_pos cancelled]
    · rename_i going
      rw [if_neg going] at isReported
      obtain ⟨result, after, log, writes, gives, tries⟩ :=
        retrying_logged (batch.attempt payload (stamps index)) batch.retries turn []
      rw [← scoreObject_eq_retrying] at gives
      rw [gives] at isReported
      exact ⟨result, after, log, isReported, gives, writes, tries.length_le,
        tries.took opens turnReady, tries.exhausted⟩

end Batch

namespace Shop

/-- A batch that scores an order once more after a failed read. -/
def batch : Batch := ⟨⟨41⟩, model, scenario, iteration, 1, fun _ => false⟩

/-- One failed read is not to be seen in the report, and five are too many for one order. -/
theorem retries_absorb_order :
    let stamps : Nat → Stamp := fun _ => stamp
    ((batch.run stamps [order, order]).run session.store).1 =
      ((batch.run stamps [order, order]).run (session.store.failReads 0)).1 ∧
    ∃ (result : Except ScoringError Evaluation) (after : Store) (log : List Batch.Made),
      (Batch.retrying (Batch.logged (batch.attempt order (stamps 0))) 1).run
        (session.store.failReads 5, []) = (result, (after, log)) ∧
      log.length = 2 ∧ ∀ made ∈ log, Batch.showsReadFailure made.result = true := by
  intro stamps
  have opens : session.store.failingOpenings = 0 := rfl
  have stillOpens : (session.store.failReads 5).failingOpenings = 0 := rfl
  obtain ⟨absorbs, -⟩ := batch.retries_absorb stamps [order, order] opens
  obtain ⟨-, tries⟩ := batch.retries_absorb stamps [order] stillOpens
  obtain ⟨result, after, log, -, gives, runs, -, -, exhausted⟩ := tries 0 order rfl
  have shows : Batch.showsReadFailure ((batch.scoreObject order (stamps 0) batch.retries).run
      (session.store.failReads 5)).1 = true := rfl
  change (batch.scoreObject order (stamps 0) batch.retries).run (session.store.failReads 5) = _
    at gives
  rw [gives] at shows
  exact ⟨(absorbs (fun _ => rfl) (Nat.le_refl 1)).1, result, after, log, runs, exhausted shows⟩

end Shop

end RiskScoring
