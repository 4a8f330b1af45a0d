import RiskScoring.Proofs.Evaluation.Reading

/-!
# Fetching a field

* `Trace.HasType`: the trace left a value of a type behind.
* `Accessor.Refuses`: the accessor answers a read with an error of its own.
* `Accessor.fetch_cases`, `Accessor.fetch_error`: a fetch gives a value of the declared type, or it
  finds the field absent or of another type, or the accessor refuses.
* `Accessor.fetch_sound`: a fetch is a sound reading.
-/

namespace RiskScoring

variable {σ : Type} {accessor : Accessor σ}

/-- The trace left a value of the type behind. -/
def Trace.HasType (type : ValueType) (trace : Trace) : Prop :=
  ∃ value, trace.outcome? = some value ∧ value.type = type

/-- The accessor answers the read of a stored field with an error of its own: it refuses the read,
or the read fails. -/
inductive Accessor.Refuses (accessor : Accessor σ) :
    FieldRead → σ → EvaluationError → σ → Prop
  | check {type : FieldType} {path : List String} {name : String} {state next : σ}
    {error : EvaluationError}
    (fails : (accessor.checkStored path name type).runFrom state = (.error error, next)) :
    Refuses accessor (.stored type path name) state error next
  | field {type : FieldType} {path : List String} {name : String} {state checked next : σ}
    {error : EvaluationError}
    (checks : (accessor.checkStored path name type).runFrom state = (.ok (), checked))
    (fails : (accessor.storedField path name).runFrom checked = (.error error, next)) :
    Refuses accessor (.stored type path name) state error next

namespace FieldRead

/-- An answer that passes: there is a value of the declared type, and the leaf shows it. -/
theorem trace_eq_ok {read : FieldRead} {value? : Option Value} {trace : Trace}
    (passes : read.trace value? = .ok trace) :
    ∃ value, value? = some value ∧ value.type = read.type.valueType ∧
      trace = .leaf read.text value := by
  cases value? with
  | none => cases passes
  | some value =>
    by_cases fits : value.type = read.type.valueType
    · simp only [FieldRead.trace, check, if_pos fits] at passes
      cases passes
      exact ⟨value, rfl, fits, rfl⟩
    · simp only [FieldRead.trace, check, if_neg fits] at passes
      cases passes

theorem trace_hasType {read : FieldRead} {value? : Option Value} {trace : Trace}
    (passes : read.trace value? = .ok trace) : trace.HasType read.type.valueType := by
  obtain ⟨value, -, fits, rfl⟩ := trace_eq_ok passes
  exact ⟨value, rfl, fits⟩

/-- What may be wrong with the answer to a read. -/
theorem trace_error {read : FieldRead} {value? : Option Value} {error : EvaluationError}
    (fails : read.trace value? = .error error) :
    value? = none ∧ error = .fieldMissing read.source ∨
      ∃ found, value? = some found ∧ found.type ≠ read.type.valueType ∧
        error = .typeMismatch read.operator.name read.type.valueType found := by
  cases value? with
  | none =>
    cases fails
    exact Or.inl ⟨rfl, rfl⟩
  | some value =>
    by_cases fits : value.type = read.type.valueType
    · simp only [FieldRead.trace, check, if_pos fits] at fails
      cases fails
    · simp only [FieldRead.trace, check, if_neg fits] at fails
      cases fails
      exact Or.inr ⟨value, rfl, fits, rfl⟩

end FieldRead

namespace Accessor

theorem fetch_payload (accessor : Accessor σ) (type : FieldType) (name : String) (state : σ) :
    (accessor.fetch (.payload type name)).runFrom state =
      ((FieldRead.payload type name).trace ((accessor.payloadField name).run state).1,
        ((accessor.payloadField name).run state).2) := by
  have split : accessor.fetch (.payload type name) =
      (liftM (accessor.payloadField name) : Reading σ (Option Value)) >>= fun value? =>
        liftExcept ((FieldRead.payload type name).trace value?) := rfl
  rw [split, Reading.runFrom_bind]
  exact Reading.runFrom_liftExcept _ _

theorem fetch_stored (accessor : Accessor σ) (type : FieldType) (path : List String)
    (name : String) :
    accessor.fetch (.stored type path name) =
      accessor.checkStored path name type >>= fun _ =>
        accessor.storedField path name >>= fun value? =>
          liftExcept ((FieldRead.stored type path name).trace value?) := rfl

theorem fetch_of_answer {type : FieldType} {path : List String} {name : String}
    {state checked next : σ} {value? : Option Value}
    (checks : (accessor.checkStored path name type).runFrom state = (.ok (), checked))
    (answers : (accessor.storedField path name).runFrom checked = (.ok value?, next)) :
    (accessor.fetch (.stored type path name)).runFrom state =
      ((FieldRead.stored type path name).trace value?, next) := by
  rw [fetch_stored, Reading.runFrom_bind_ok checks, Reading.runFrom_bind_ok answers,
    Reading.runFrom_liftExcept]

theorem fetch_of_refuses {read : FieldRead} {state next : σ} {error : EvaluationError}
    (refuses : accessor.Refuses read state error next) :
    (accessor.fetch read).runFrom state = (.error error, next) := by
  cases refuses with
  | check fails => rw [fetch_stored, Reading.runFrom_bind_error fails]
  | field checks fails =>
    rw [fetch_stored, Reading.runFrom_bind_ok checks, Reading.runFrom_bind_error fails]

/-- A fetch gets its answer from the accessor, or the error of the accessor. -/
theorem fetch_cases (accessor : Accessor σ) (read : FieldRead) (state : σ) :
    (∃ value? next, (accessor.fetch read).runFrom state = (read.trace value?, next)) ∨
      ∃ error next, (accessor.fetch read).runFrom state = (.error error, next) ∧
        accessor.Refuses read state error next := by
  cases read with
  | payload type name => exact Or.inl ⟨_, _, accessor.fetch_payload type name state⟩
  | stored type path name =>
    rcases checked : (accessor.checkStored path name type).runFrom state with ⟨verdict, middle⟩
    cases verdict with
    | error error =>
      have refuses : accessor.Refuses (.stored type path name) state error middle := .check checked
      exact Or.inr ⟨error, middle, fetch_of_refuses refuses, refuses⟩
    | ok done =>
      rcases answered : (accessor.storedField path name).runFrom middle with ⟨answer, next⟩
      cases answer with
      | error error =>
        have refuses : accessor.Refuses (.stored type path name) state error next :=
          .field checked answered
        exact Or.inr ⟨error, next, fetch_of_refuses refuses, refuses⟩
      | ok value? => exact Or.inl ⟨value?, next, fetch_of_answer checked answered⟩

/-- How a fetch may fail: the field is absent, it is of another type, or the accessor says so. -/
theorem fetch_error {read : FieldRead} {state next : σ} {error : EvaluationError}
    (fails : (accessor.fetch read).runFrom state = (.error error, next)) :
    error = .fieldMissing read.source ∨
      (∃ found, error = .typeMismatch read.operator.name read.type.valueType found) ∨
      accessor.Refuses read state error next := by
  rcases accessor.fetch_cases read state with
    ⟨value?, last, answered⟩ | ⟨own, last, answered, refuses⟩
  · rw [answered] at fails
    rcases FieldRead.trace_error (Prod.mk.inj fails).1 with ⟨-, missing⟩ | ⟨found, -, -, mismatch⟩
    · exact Or.inl missing
    · exact Or.inr (Or.inl ⟨found, mismatch⟩)
  · rw [answered] at fails
    cases fails
    exact Or.inr (Or.inr refuses)

theorem fetch_ok {read : FieldRead} {state next : σ} {trace : Trace}
    (fetches : (accessor.fetch read).runFrom state = (.ok trace, next)) :
    trace.HasType read.type.valueType := by
  rcases accessor.fetch_cases read state with ⟨value?, last, answered⟩ | ⟨own, last, answered, -⟩
  · rw [answered] at fetches
    exact FieldRead.trace_hasType (Prod.mk.inj fetches).1
  · rw [answered] at fetches
    cases fetches

theorem fetch_sound {reads : List FieldRead} {read : FieldRead} (occurs : read ∈ reads) :
    (accessor.fetch read).Sound accessor reads (Trace.HasType read.type.valueType) := by
  intro state
  cases ended : (accessor.fetch read).runFrom state with
  | mk result next =>
    cases result with
    | error error => exact .failed (.stay state) occurs ended
    | ok trace => exact .value (.step occurs ended (.stay next)) (fetch_ok ended)

end Accessor

end RiskScoring
