import RiskScoring.Proofs.Evaluation.Parametric
import RiskScoring.Proofs.Evaluation.Scoped

/-!
# Evaluation while nothing changes

Reads count themselves and open transactions, but as long as no failure is to come they leave the
rows as they are, and the same read has the same answer every time. So a formula has one result,
whatever was evaluated before it.

* `Reading.Gives`, `Reading.Steady`: a reading has one result on a set of states.
* `Expression.trace_steady`: evaluation is steady if every fetch is.
* `Ingest.Session.Calm`, `Ingest.Scope.answer`: the sessions without failures to come, and what a
  read finds in them.
* `Ingest.Scope.fetch_gives`: a fetch in such a session.
-/

namespace RiskScoring

variable {σ α β : Type}

namespace Reading

/-- From every state of a set the reading has the result, and it ends in the set. -/
def Gives (calm : σ → Prop) (reading : Reading σ α) (result : Except EvaluationError α) : Prop :=
  ∀ state, calm state → ∃ after, calm after ∧ reading.runFrom state = (result, after)

/-- The reading has the same result from every state of a set. -/
def Steady (calm : σ → Prop) (reading : Reading σ α) : Prop :=
  ∃ result, reading.Gives calm result

variable {calm : σ → Prop} {reading : Reading σ α} {next : α → Reading σ β}

theorem Gives.pure (value : α) : Gives calm (Pure.pure value : Reading σ α) (.ok value) :=
  fun state isCalm => ⟨state, isCalm, rfl⟩

theorem Gives.throw (error : EvaluationError) :
    Gives calm (MonadExcept.throw error : Reading σ α) (.error error) :=
  fun state isCalm => ⟨state, isCalm, rfl⟩

theorem Gives.check (check : Except EvaluationError α) :
    Gives calm (liftExcept check : Reading σ α) check :=
  fun state isCalm => ⟨state, isCalm, runFrom_liftExcept check state⟩

theorem Gives.bind_ok {value : α} {result : Except EvaluationError β}
    (first : reading.Gives calm (.ok value)) (second : (next value).Gives calm result) :
    Gives calm (reading >>= next) result := by
  intro state isCalm
  obtain ⟨middle, middleCalm, reads⟩ := first state isCalm
  rw [runFrom_bind_ok reads]
  exact second middle middleCalm

theorem Gives.bind_error {error : EvaluationError} (first : reading.Gives calm (.error error)) :
    Gives calm (reading >>= next) (.error error) := by
  intro state isCalm
  obtain ⟨middle, middleCalm, fails⟩ := first state isCalm
  exact ⟨middle, middleCalm, runFrom_bind_error fails next⟩

/-- A set that has a state allows for one result only. -/
theorem Gives.unique {state : σ} {one other : Except EvaluationError α} (isCalm : calm state)
    (first : reading.Gives calm one) (second : reading.Gives calm other) : one = other := by
  obtain ⟨after, -, ends⟩ := first state isCalm
  obtain ⟨later, -, alsoEnds⟩ := second state isCalm
  exact (Prod.mk.inj (ends.symm.trans alsoEnds)).1

/-- One run shows the result of all. -/
theorem Steady.gives {state after : σ} {result : Except EvaluationError α}
    (steady : reading.Steady calm) (isCalm : calm state)
    (runs : reading.runFrom state = (result, after)) : reading.Gives calm result := by
  obtain ⟨always, gives⟩ := steady
  obtain ⟨last, -, ends⟩ := gives state isCalm
  obtain rfl : always = result := (Prod.mk.inj (ends.symm.trans runs)).1
  exact gives

theorem Steady.bind (first : reading.Steady calm) (goesOn : ∀ value, (next value).Steady calm) :
    Steady calm (reading >>= next) := by
  obtain ⟨result, gives⟩ := first
  cases result with
  | error error => exact ⟨_, gives.bind_error⟩
  | ok value =>
    obtain ⟨last, givesLast⟩ := goesOn value
    exact ⟨last, gives.bind_ok givesLast⟩

/-- A run that succeeds, taken apart: its steady first part succeeds from every state of the set. -/
theorem Steady.of_bind_ok {state after : σ} {last : β} (first : reading.Steady calm)
    (isCalm : calm state)
    (runs : Reading.runFrom (reading >>= next) state = (.ok last, after)) :
    ∃ value middle, reading.Gives calm (.ok value) ∧ calm middle ∧
      (next value).runFrom middle = (.ok last, after) := by
  obtain ⟨result, gives⟩ := first
  obtain ⟨middle, middleCalm, ends⟩ := gives state isCalm
  cases result with
  | error error =>
    rw [runFrom_bind_error ends] at runs
    cases runs
  | ok value =>
    rw [runFrom_bind_ok ends] at runs
    exact ⟨value, middle, gives, middleCalm, runs⟩

/-- A run that succeeds after a check: the check has passed. -/
theorem of_check_bind_ok {state after : σ} {check : Except EvaluationError α} {last : β}
    (runs : Reading.runFrom (liftExcept check >>= next) state = (.ok last, after)) :
    ∃ value, check = .ok value ∧ (next value).runFrom state = (.ok last, after) := by
  cases check with
  | error error => cases runs
  | ok value => exact ⟨value, rfl, runs⟩

end Reading

/-! ## Formulas -/

namespace Expression

open Reading

variable {calm : σ → Prop} {accessor : Accessor σ}

/-- To be steady is kept by checks and by going on. -/
theorem steady_parametric :
    Parametric (fun {_} (reading : Reading σ _) (_ : Reading σ _) => reading.Steady calm) where
  check check := ⟨_, .check check⟩
  bind first goesOn := first.bind goesOn

/-- Evaluation is steady if every fetch is. -/
theorem traceSlot_steady (fetches : ∀ read, (accessor.fetch read).Steady calm) (label : String)
    (slot : Option Expression) : (traceSlot accessor label slot).Steady calm :=
  traceSlot_related accessor accessor steady_parametric fetches label slot

theorem traceOperands_steady (fetches : ∀ read, (accessor.fetch read).Steady calm)
    (op : Connective) (outcome : Bool) (operands : List (Option Expression)) :
    (traceOperands accessor op outcome operands).Steady calm :=
  traceOperands_related accessor accessor steady_parametric fetches op outcome operands

theorem trace_steady (fetches : ∀ read, (accessor.fetch read).Steady calm)
    (formula : Expression) : (formula.trace accessor).Steady calm :=
  trace_related accessor accessor steady_parametric fetches formula

end Expression

/-! ## Sessions without failures to come -/

namespace Ingest

/-- The session has the rows, and no failure is to come. -/
structure Session.Calm (rows : List StoredRow) (session : Session) : Prop where
  rows : session.store.rows = rows
  failures : session.store.failures = 0

variable {rows : List StoredRow} {session : Session}

theorem Session.Calm.after {later : Session} (calm : session.Calm rows)
    (quiet : session.Quiet later) : later.Calm rows :=
  ⟨quiet.rows.trans calm.rows, quiet.failures.trans calm.failures⟩

theorem Session.acquire_of_calm (calm : session.Calm rows) :
    ∃ next, session.acquire = (.ok (), next) ∧ next.Calm rows := by
  rcases session.acquire_cases with ⟨next, acquired, quiet⟩ | ⟨error, next, -, spends⟩
  · exact ⟨next, acquired, calm.after quiet⟩
  · have spent := spends.failures
    rw [calm.failures] at spent
    cases spent

namespace Scope

/-- What a read finds in the payload or in the rows, if the data model allows for it. -/
def answer (scope : Scope) (rows : List StoredRow) :
    FieldRead → Except EvaluationError (Option Value)
  | .payload _ name => .ok (scope.payload.get? name)
  | .stored type path name => do
    scope.check path name type
    (lookup rows scope.organization scope.model scope.payload path name).mapError
      fun error => .readFailed (.model error)

theorem read_of_calm (scope : Scope) (calm : session.Calm rows) (path : List String)
    (name : String) :
    ∃ after, scope.read path name session =
      ((lookup rows scope.organization scope.model scope.payload path name).mapError
        fun error => .readFailed (.model error), after) ∧ after.Calm rows := by
  obtain ⟨next, acquired, nextCalm⟩ := Session.acquire_of_calm calm
  have noFailure : next.store.failingReads = 0 := Nat.eq_zero_of_add_eq_zero_right nextCalm.failures
  unfold read
  rw [acquired, ← nextCalm.rows]
  simp only [Store.readField, if_pos noFailure]
  cases lookup next.store.rows scope.organization scope.model scope.payload path name with
  | error error => exact ⟨_, rfl, rfl, nextCalm.failures⟩
  | ok value? => exact ⟨_, rfl, rfl, nextCalm.failures⟩

/-- A fetch without failures to come: the answer is checked against the declared type. -/
theorem fetch_gives (scope : Scope) (rows : List StoredRow) (read : FieldRead) :
    (scope.accessor.fetch read).Gives (Session.Calm rows) (scope.answer rows read >>= read.trace) :=
    by
  cases read with
  | payload type name =>
    intro session calm
    exact ⟨session, calm, scope.accessor.fetch_payload type name session⟩
  | stored type path name =>
    rw [Accessor.fetch_stored, answer]
    have checks : (scope.accessor.checkStored path name type).Gives (Session.Calm rows)
        (scope.check path name type) := .check _
    have reads : (scope.accessor.storedField path name).Gives (Session.Calm rows)
        ((lookup rows scope.organization scope.model scope.payload path name).mapError
          fun error => .readFailed (.model error)) := by
      intro session calm
      obtain ⟨after, ends, afterCalm⟩ := scope.read_of_calm calm path name
      exact ⟨after, afterCalm, ends⟩
    cases checked : scope.check path name type with
    | error error =>
      rw [checked] at checks
      exact checks.bind_error
    | ok allowed =>
      rw [checked] at checks
      refine checks.bind_ok ?_
      cases found : lookup rows scope.organization scope.model scope.payload path name with
      | error error =>
        rw [found] at reads
        exact reads.bind_error
      | ok value? =>
        rw [found] at reads
        exact reads.bind_ok (.check _)

theorem fetch_steady (scope : Scope) (rows : List StoredRow) (read : FieldRead) :
    (scope.accessor.fetch read).Steady (Session.Calm rows) :=
  ⟨_, scope.fetch_gives rows read⟩

end Scope

end Ingest

end RiskScoring
