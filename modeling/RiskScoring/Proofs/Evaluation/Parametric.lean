import RiskScoring.Proofs.Evaluation.Reading

/-!
# Evaluation is parametric in its accessor

Evaluation sees the state of its accessor through fetches only. So whatever relates the fetches
through two accessors, and is kept by checks and by going on after a reading, relates the
evaluations of every formula through them.

* `Reading.Parametric`: a relation of readings that checks and sequencing keep.
* `Expression.traceNode_related`: the induction over formulas, valid or not.
* `Expression.trace_related`, `Expression.evaluateBool_related`: whole evaluations.
-/

namespace RiskScoring

variable {σ τ : Type}

/-- A relation between readings through two accessors that checks and sequencing keep. -/
structure Reading.Parametric
    (related : ∀ {α : Type}, Reading σ α → Reading τ α → Prop) : Prop where
  check : ∀ {α : Type} (check : Except EvaluationError α),
    related (liftExcept check) (liftExcept check)
  bind : ∀ {α β : Type} {reading : Reading σ α} {other : Reading τ α} {next : α → Reading σ β}
    {nextOther : α → Reading τ β}, related reading other →
      (∀ value, related (next value) (nextOther value)) →
      related (reading >>= next) (other >>= nextOther)

namespace Reading.Parametric

variable {related : ∀ {α : Type}, Reading σ α → Reading τ α → Prop} {α : Type}

theorem pure (parametric : Parametric related) (value : α) :
    related (Pure.pure value : Reading σ α) (Pure.pure value) :=
  parametric.check (.ok value)

theorem throw (parametric : Parametric related) (error : EvaluationError) :
    related (MonadExcept.throw error : Reading σ α) (MonadExcept.throw error) :=
  parametric.check (.error error)

end Reading.Parametric

namespace Expression

variable {related : ∀ {α : Type}, Reading σ α → Reading τ α → Prop} (accessor : Accessor σ)
  (other : Accessor τ)

mutual

/-- Related fetches make for related evaluations. -/
theorem traceNode_related (parametric : Reading.Parametric related)
    (fetches : ∀ read, related (accessor.fetch read) (other.fetch read)) (formula : Expression) :
    related (traceNode accessor formula) (traceNode other formula) := by
  cases formula with
  | bool value => rw [traceNode, traceNode]; exact parametric.pure _
  | string value => rw [traceNode, traceNode]; exact parametric.pure _
  | float value => rw [traceNode, traceNode]; exact parametric.pure _
  | stringList items => rw [traceNode, traceNode]; exact parametric.pure _
  | payload type name => rw [traceNode, traceNode]; exact fetches _
  | stored type path name => rw [traceNode, traceNode]; exact fetches _
  | not operand =>
    rw [traceNode, traceNode]
    refine parametric.bind (traceSlot_related parametric fetches _ operand) fun child => ?_
    exact parametric.bind (parametric.check _) fun value => parametric.pure _
  | binary op left right =>
    rw [traceNode, traceNode]
    refine parametric.bind (traceSlot_related parametric fetches _ left) fun leftTrace => ?_
    refine parametric.bind (traceSlot_related parametric fetches _ right) fun rightTrace => ?_
    exact parametric.bind (parametric.check _) fun outcome => parametric.pure _
  | variadic op operands =>
    rw [traceNode, traceNode]
    split
    · exact parametric.throw _
    · refine parametric.bind (traceOperands_related parametric fetches op _ operands) ?_
      exact fun ending => parametric.pure _

theorem traceSlot_related (parametric : Reading.Parametric related)
    (fetches : ∀ read, related (accessor.fetch read) (other.fetch read)) (label : String)
    (slot : Option Expression) :
    related (traceSlot accessor label slot) (traceSlot other label slot) := by
  cases slot with
  | none => rw [traceSlot, traceSlot]; exact parametric.throw _
  | some operand => rw [traceSlot, traceSlot]; exact traceNode_related parametric fetches operand

theorem traceOperands_related (parametric : Reading.Parametric related)
    (fetches : ∀ read, related (accessor.fetch read) (other.fetch read)) (op : Connective)
    (outcome : Bool) (operands : List (Option Expression)) :
    related (traceOperands accessor op outcome operands)
      (traceOperands other op outcome operands) := by
  cases operands with
  | nil => rw [traceOperands, traceOperands]; exact parametric.pure _
  | cons slot rest =>
    rw [traceOperands, traceOperands]
    split
    · refine parametric.bind (traceOperands_related parametric fetches op _ rest) ?_
      exact fun ending => parametric.pure _
    · refine parametric.bind (traceSlot_related parametric fetches _ slot) fun trace => ?_
      refine parametric.bind (parametric.check _) fun value => ?_
      refine parametric.bind (traceOperands_related parametric fetches op value rest) ?_
      exact fun ending => parametric.pure _

end

theorem trace_related (parametric : Reading.Parametric related)
    (fetches : ∀ read, related (accessor.fetch read) (other.fetch read)) (formula : Expression) :
    related (formula.trace accessor) (formula.trace other) := by
  unfold trace
  split
  · exact parametric.throw _
  · exact traceNode_related accessor other parametric fetches formula

theorem evaluate_related (parametric : Reading.Parametric related)
    (fetches : ∀ read, related (accessor.fetch read) (other.fetch read)) (formula : Expression) :
    related (formula.evaluate accessor) (formula.evaluate other) := by
  have trace := trace_related accessor other parametric fetches formula
  refine parametric.bind trace fun trace => ?_
  cases trace.outcome? with
  | none => exact parametric.throw _
  | some value => exact parametric.pure _

theorem evaluateBool_related (parametric : Reading.Parametric related)
    (fetches : ∀ read, related (accessor.fetch read) (other.fetch read)) (formula : Expression) :
    related (formula.evaluateBool accessor) (formula.evaluateBool other) := by
  have value := evaluate_related accessor other parametric fetches formula
  refine parametric.bind value fun value => ?_
  cases value with
  | bool value => exact parametric.pure _
  | _ => exact parametric.throw _

end Expression

end RiskScoring
