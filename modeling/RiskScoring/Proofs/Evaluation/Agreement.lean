import RiskScoring.Proofs.Evaluation.Fetch
import RiskScoring.Proofs.Evaluation.Parametric

/-!
# Computations that agree

Two computations agree if from states that are alike they have results that are the same, and leave
states that are alike. What is alike and what is the same are parameters, so an invariant, a
comparison of two runs, and the comparison of a run with one that is watched are all agreements. An
accessor is used in seven ways; if two accessors agree in their three calls, they agree in every
sequence of uses.

* `Agree`, `Agree.bind`: agreement, and how it goes on.
* `Accessor.Agrees`: two accessors whose calls agree.
* `Expression.evaluateBool_agrees`: formulas agree through such accessors.
* `Use`, `Accessor.useAll`, `Accessor.Agrees.useAll`: sequences of uses.
-/

namespace RiskScoring

variable {σ τ α β γ δ : Type}

/-- From states that are alike, the computations have results that are the same and leave states
that are alike. -/
def Agree (alike : σ → τ → Prop) (same : α → β → Prop) (one : StateM σ α) (other : StateM τ β) :
    Prop :=
  ∀ state otherState, alike state otherState →
    same (one.run state).1 (other.run otherState).1 ∧
      alike (one.run state).2 (other.run otherState).2

namespace Agree

variable {alike : σ → τ → Prop} {same : α → β → Prop} {last : γ → δ → Prop} {one : StateM σ α}
  {other : StateM τ β} {next : α → StateM σ γ} {nextOther : β → StateM τ δ}

theorem pure {value : α} {otherValue : β} (isSame : same value otherValue) :
    Agree alike same (Pure.pure value) (Pure.pure otherValue) :=
  fun _ _ isAlike => ⟨isSame, isAlike⟩

theorem bind (first : Agree alike same one other)
    (goesOn : ∀ value otherValue, same value otherValue →
      Agree alike last (next value) (nextOther otherValue)) :
    Agree alike last (one >>= next) (other >>= nextOther) := by
  intro state otherState isAlike
  obtain ⟨isSame, middleAlike⟩ := first state otherState isAlike
  exact goesOn _ _ isSame _ _ middleAlike

theorem map {f : α → γ} {g : β → δ} (first : Agree alike same one other)
    (maps : ∀ value otherValue, same value otherValue → last (f value) (g otherValue)) :
    Agree alike last (f <$> one) (g <$> other) := by
  intro state otherState isAlike
  obtain ⟨isSame, afterAlike⟩ := first state otherState isAlike
  exact ⟨maps _ _ isSame, afterAlike⟩

/-- Computations with equal results, so that what follows may be the same. -/
theorem bind_eq {other : StateM τ α} {nextOther : α → StateM τ δ} (first : Agree alike Eq one other)
    (goesOn : ∀ value, Agree alike last (next value) (nextOther value)) :
    Agree alike last (one >>= next) (other >>= nextOther) := by
  refine first.bind ?_
  rintro value _ rfl
  exact goesOn value

end Agree

/-! ## Accessors -/

/-- The calls of two accessors agree. -/
structure Accessor.Agrees (alike : σ → τ → Prop) (accessor : Accessor σ) (other : Accessor τ) :
    Prop where
  payloadField : ∀ name, Agree alike Eq (accessor.payloadField name) (other.payloadField name)
  checkStored : ∀ path name type,
    Agree alike Eq (accessor.checkStored path name type).run (other.checkStored path name type).run
  storedField : ∀ path name,
    Agree alike Eq (accessor.storedField path name).run (other.storedField path name).run

/-- An accessor agrees with itself. -/
theorem Accessor.Agrees.refl (accessor : Accessor σ) : accessor.Agrees Eq accessor where
  payloadField name := by
    rintro state _ rfl
    exact ⟨rfl, rfl⟩
  checkStored path name type := by
    rintro state _ rfl
    exact ⟨rfl, rfl⟩
  storedField path name := by
    rintro state _ rfl
    exact ⟨rfl, rfl⟩

namespace Reading

/-- Agreement is kept by checks and by going on. -/
theorem agree_parametric (alike : σ → τ → Prop) :
    Parametric (fun {_} (reading : Reading σ _) (other : Reading τ _) =>
      Agree alike Eq reading.run other.run) where
  check check := by
    cases check with
    | error error => exact Agree.pure (rfl : Except.error error = .error error)
    | ok value => exact Agree.pure (rfl : Except.ok value = .ok value)
  bind := by
    intro _ _ reading other next nextOther first goesOn
    rw [ExceptT.run_bind, ExceptT.run_bind]
    refine Agree.bind_eq first fun result => ?_
    cases result with
    | error error => exact Agree.pure rfl
    | ok value => exact goesOn value

end Reading

namespace Accessor.Agrees

variable {alike : σ → τ → Prop} {accessor : Accessor σ} {other : Accessor τ}

theorem fetch (agrees : accessor.Agrees alike other) (read : FieldRead) :
    Agree alike Eq (accessor.fetch read).run (other.fetch read).run := by
  have parametric := Reading.agree_parametric alike
  cases read with
  | payload type name =>
    have first : Agree alike Eq (liftM (accessor.payloadField name) : Reading σ _).run
        (liftM (other.payloadField name) : Reading τ _).run :=
      (agrees.payloadField name).map fun _ _ isSame => congrArg Except.ok isSame
    exact parametric.bind first fun value => parametric.check _
  | stored type path name =>
    rw [fetch_stored, fetch_stored]
    refine parametric.bind (agrees.checkStored path name type) fun _ => ?_
    exact parametric.bind (agrees.storedField path name) fun value? => parametric.check _

end Accessor.Agrees

namespace Expression

variable {alike : σ → τ → Prop} {accessor : Accessor σ} {other : Accessor τ}

theorem trace_agrees (agrees : accessor.Agrees alike other) (formula : Expression) :
    Agree alike Eq (formula.trace accessor).run (formula.trace other).run :=
  trace_related accessor other (Reading.agree_parametric alike) agrees.fetch formula

theorem evaluate_agrees (agrees : accessor.Agrees alike other) (formula : Expression) :
    Agree alike Eq (formula.evaluate accessor).run (formula.evaluate other).run :=
  evaluate_related accessor other (Reading.agree_parametric alike) agrees.fetch formula

theorem evaluateBool_agrees (agrees : accessor.Agrees alike other) (formula : Expression) :
    Agree alike Eq (formula.evaluateBool accessor).run (formula.evaluateBool other).run :=
  evaluateBool_related accessor other (Reading.agree_parametric alike) agrees.fetch formula

theorem explain_agrees (agrees : accessor.Agrees alike other) (formula : Expression) :
    Agree alike Eq (formula.explain accessor).run (formula.explain other).run :=
  (Reading.agree_parametric alike).bind (trace_agrees agrees formula) fun trace =>
    (Reading.agree_parametric alike).pure trace.explanation

end Expression

/-! ## Sequences of uses -/

/-- What an accessor can be used for: its own calls, and the evaluation of a formula. -/
inductive Use where
  | payloadField (name : String)
  | checkStored (path : List String) (name : String) (type : FieldType)
  | storedField (path : List String) (name : String)
  | trace (formula : Expression)
  | evaluate (formula : Expression)
  | evaluateBool (formula : Expression)
  | explain (formula : Expression)

/-- What a use comes to. -/
inductive Use.Result where
  | payloadField (value? : Option Value)
  | checkStored (result : Except EvaluationError Unit)
  | storedField (result : Except EvaluationError (Option Value))
  | trace (result : Except EvaluationError Trace)
  | evaluate (result : Except EvaluationError Value)
  | evaluateBool (result : Except EvaluationError Bool)
  | explain (result : Except EvaluationError String)

namespace Accessor

/-- Uses an accessor once. -/
def use (accessor : Accessor σ) : Use → StateM σ Use.Result
  | .payloadField name => .payloadField <$> accessor.payloadField name
  | .checkStored path name type => .checkStored <$> (accessor.checkStored path name type).run
  | .storedField path name => .storedField <$> (accessor.storedField path name).run
  | .trace formula => .trace <$> (formula.trace accessor).run
  | .evaluate formula => .evaluate <$> (formula.evaluate accessor).run
  | .evaluateBool formula => .evaluateBool <$> (formula.evaluateBool accessor).run
  | .explain formula => .explain <$> (formula.explain accessor).run

/-- Uses an accessor many times. -/
def useAll (accessor : Accessor σ) : List Use → StateM σ (List Use.Result)
  | [] => pure []
  | use :: rest => do
    let outcome ← accessor.use use
    let outcomes ← accessor.useAll rest
    return outcome :: outcomes

namespace Agrees

variable {alike : σ → τ → Prop} {accessor : Accessor σ} {other : Accessor τ}

theorem use (agrees : accessor.Agrees alike other) (use : Use) :
    Agree alike Eq (accessor.use use) (other.use use) := by
  cases use with
  | payloadField name => exact (agrees.payloadField name).map fun _ _ => congrArg _
  | checkStored path name type =>
    exact (agrees.checkStored path name type).map fun _ _ => congrArg _
  | storedField path name => exact (agrees.storedField path name).map fun _ _ => congrArg _
  | trace formula => exact (Expression.trace_agrees agrees formula).map fun _ _ => congrArg _
  | evaluate formula => exact (Expression.evaluate_agrees agrees formula).map fun _ _ => congrArg _
  | evaluateBool formula =>
    exact (Expression.evaluateBool_agrees agrees formula).map fun _ _ => congrArg _
  | explain formula => exact (Expression.explain_agrees agrees formula).map fun _ _ => congrArg _

theorem useAll (agrees : accessor.Agrees alike other) (uses : List Use) :
    Agree alike Eq (accessor.useAll uses) (other.useAll uses) := by
  induction uses with
  | nil => exact Agree.pure rfl
  | cons use rest ih =>
    refine Agree.bind_eq (agrees.use use) fun outcome => ?_
    exact Agree.bind_eq ih fun outcomes => Agree.pure rfl

end Agrees

end Accessor

end RiskScoring
