import RiskScoring.Proofs.Evaluation.Fetch
import RiskScoring.Proofs.Formula.Validity

/-!
# Type soundness

A valid formula evaluates to a value of its static type, whatever the accessor answers, unless a
read fails or a divisor is zero. The checks that evaluation makes at every node find nothing: above
the reads there is no error but the division by zero.

* `BinaryOp.apply_of_hasType`: operands of the right types give a value.
* `Expression.traceNode_sound`: the induction over formulas.
* `Expression.type_soundness`: the statement.
-/

namespace RiskScoring

/-! ## Values of operands -/

namespace Trace

variable {trace : Trace}

/-- An operand that left a value of a type behind is seen to have done so. -/
theorem HasType.outcomeAs {α : Type} {view : Value → Option α} {wrap : α → Value}
    {type : ValueType} (hasType : trace.HasType type) (sees : Value.Sees view wrap type)
    (label : String) : ∃ seen, trace.outcomeAs view type label = .ok seen := by
  obtain ⟨value, outcome, isType⟩ := hasType
  obtain ⟨seen, views⟩ := sees.exists_seen value isType
  exact ⟨seen, by rw [Trace.outcomeAs, outcome, Option.bind_some, views]⟩

theorem HasType.boolOutcome (hasType : trace.HasType .bool) (label : String) :
    ∃ value, trace.boolOutcome label = .ok value :=
  hasType.outcomeAs Value.sees_bool label

theorem HasType.floatOutcome (hasType : trace.HasType .float) (label : String) :
    ∃ value, trace.floatOutcome label = .ok value :=
  hasType.outcomeAs Value.sees_float label

theorem HasType.stringOutcome (hasType : trace.HasType .string) (label : String) :
    ∃ value, trace.stringOutcome label = .ok value :=
  hasType.outcomeAs Value.sees_string label

theorem HasType.stringsOutcome (hasType : trace.HasType .stringList) (label : String) :
    ∃ items, trace.stringsOutcome label = .ok items :=
  hasType.outcomeAs Value.sees_stringList label

end Trace

namespace BinaryOp

variable {op : BinaryOp} {left right : Trace}

theorem equality_of_hasType (leftType : left.HasType (op.operandType 0))
    (rightType : right.HasType (op.operandType 0)) :
    ∃ value : Value, (op.equality left right).map .bool = .ok value ∧ value.type = .bool := by
  obtain ⟨x, leftOutcome, xType⟩ := leftType
  obtain ⟨y, rightOutcome, yType⟩ := rightType
  refine ⟨.bool (x.equals y), ?_, rfl⟩
  simp only [equality, leftOutcome, rightOutcome, if_pos xType, if_pos yType]
  rfl

theorem onFloats_of_hasType {α : Type} (f : Float → Float → α) (leftType : left.HasType .float)
    (rightType : right.HasType .float) : ∃ value, op.onFloats f left right = .ok value := by
  obtain ⟨x, leftOutcome⟩ := leftType.floatOutcome op.symbol
  obtain ⟨y, rightOutcome⟩ := rightType.floatOutcome op.symbol
  refine ⟨f x y, ?_⟩
  simp only [onFloats, leftOutcome, rightOutcome]
  rfl

theorem comparison_of_hasType (f : Float → Float → Bool) (leftType : left.HasType .float)
    (rightType : right.HasType .float) :
    ∃ value : Value, (op.onFloats f left right).map .bool = .ok value ∧ value.type = .bool := by
  obtain ⟨value, computed⟩ := onFloats_of_hasType f leftType rightType
  exact ⟨.bool value, by rw [computed]; rfl, rfl⟩

theorem arithmetic_of_hasType (f : Float → Float → Float) (leftType : left.HasType .float)
    (rightType : right.HasType .float) :
    ∃ value : Value, (op.onFloats f left right).map .float = .ok value ∧ value.type = .float := by
  obtain ⟨value, computed⟩ := onFloats_of_hasType f leftType rightType
  exact ⟨.float value, by rw [computed]; rfl, rfl⟩

/-- Operands of the right types give a value of the type of the operator, if no divisor is zero. -/
theorem apply_of_hasType (leftType : left.HasType (op.operandType 0))
    (rightType : right.HasType (op.operandType 1)) :
    (∃ value, op.apply left right = .ok value ∧ value.type = op.returns) ∨
      op.apply left right = .error (.divisionByZero divide.name) := by
  cases op with
  | equalBool => exact Or.inl (equality_of_hasType leftType rightType)
  | equalString => exact Or.inl (equality_of_hasType leftType rightType)
  | equalFloat => exact Or.inl (equality_of_hasType leftType rightType)
  | greater => exact Or.inl (comparison_of_hasType _ leftType rightType)
  | greaterOrEqual => exact Or.inl (comparison_of_hasType _ leftType rightType)
  | less => exact Or.inl (comparison_of_hasType _ leftType rightType)
  | lessOrEqual => exact Or.inl (comparison_of_hasType _ leftType rightType)
  | add => exact Or.inl (arithmetic_of_hasType _ leftType rightType)
  | subtract => exact Or.inl (arithmetic_of_hasType _ leftType rightType)
  | multiply => exact Or.inl (arithmetic_of_hasType _ leftType rightType)
  | isInList =>
    obtain ⟨needle, leftOutcome⟩ := Trace.HasType.stringOutcome leftType isInList.symbol
    obtain ⟨items, rightOutcome⟩ := Trace.HasType.stringsOutcome rightType isInList.symbol
    refine Or.inl ⟨.bool (items.contains needle), ?_, rfl⟩
    simp only [apply, leftOutcome, rightOutcome]
    rfl
  | divide =>
    obtain ⟨x, leftOutcome⟩ := Trace.HasType.floatOutcome leftType divide.symbol
    obtain ⟨y, rightOutcome⟩ := Trace.HasType.floatOutcome rightType divide.symbol
    simp only [apply, leftOutcome, rightOutcome, bind, Except.bind]
    by_cases isZero : (y == 0) = true
    · rw [if_pos isZero]
      exact Or.inr rfl
    · rw [if_neg isZero]
      exact Or.inl ⟨.float (x / y), rfl, rfl⟩

end BinaryOp

/-! ## Formulas -/

namespace Expression

open Reading

variable {σ : Type}

mutual

/-- A valid node gives a value of its static type. -/
theorem traceNode_sound (accessor : Accessor σ) (formula : Expression)
    (valid : formula.validate = .ok ()) :
    (traceNode accessor formula).Sound accessor formula.reads
      (Trace.HasType formula.returnType) := by
  cases formula with
  | bool value => rw [traceNode]; exact .pure ⟨.bool value, rfl, rfl⟩
  | string value => rw [traceNode]; exact .pure ⟨.string value, rfl, rfl⟩
  | float value => rw [traceNode]; exact .pure ⟨.float value, rfl, rfl⟩
  | stringList items => rw [traceNode]; exact .pure ⟨.stringList items, rfl, rfl⟩
  | payload type name =>
    rw [traceNode, reads]
    exact Accessor.fetch_sound (List.mem_singleton.mpr rfl)
  | stored type path name =>
    rw [traceNode, reads]
    exact Accessor.fetch_sound (List.mem_singleton.mpr rfl)
  | not operand =>
    rw [traceNode, reads]
    have child := traceSlot_sound accessor .not 0 Operator.not.name operand (validate_not.mp valid)
    refine .bind child fun trace hasType => ?_
    obtain ⟨value, outcome⟩ := Trace.HasType.boolOutcome hasType Operator.not.name
    exact .bind_ok outcome (.pure ⟨.bool !value, rfl, rfl⟩)
  | binary op left right =>
    rw [traceNode, reads]
    obtain ⟨leftValid, rightValid⟩ := validate_binary.mp valid
    have leftSound := traceSlot_sound accessor (.binary op) 0 op.slotLabel left leftValid
    have rightSound := traceSlot_sound accessor (.binary op) 1 op.slotLabel right rightValid
    refine .bind (leftSound.mono (List.subset_append_left _ _)) fun leftTrace leftType => ?_
    refine .bind (rightSound.mono (List.subset_append_right _ _)) fun rightTrace rightType => ?_
    refine .bind (.liftExcept (BinaryOp.apply_of_hasType leftType rightType)) fun value type => ?_
    exact .pure ⟨value, rfl, type⟩
  | variadic op operands =>
    rw [traceNode, reads]
    obtain ⟨nonempty, slotsValid⟩ := validate_variadic.mp valid
    rw [if_neg (by simpa using nonempty)]
    have slots := traceOperands_sound accessor op 0 (!op.settledBy) operands slotsValid
    refine .bind slots fun ending _ => ?_
    exact .pure ⟨.bool ending.2, rfl, rfl⟩

/-- A valid slot gives a value of the type that its place asks for. -/
theorem traceSlot_sound (accessor : Accessor σ) (parent : Operator) (index : Nat) (label : String)
    (slot : Option Expression) (valid : validateSlot parent index slot = .ok ()) :
    (traceSlot accessor label slot).Sound accessor (readsSlot slot)
      (Trace.HasType (parent.operandType index)) := by
  cases slot with
  | none =>
    obtain ⟨operand, isOperand, -⟩ := validateSlot_eq_ok.mp valid
    cases isOperand
  | some operand =>
    obtain ⟨same, isOperand, fits, operandValid⟩ := validateSlot_eq_ok.mp valid
    cases isOperand
    rw [traceSlot, readsSlot, ← fits]
    exact traceNode_sound accessor operand operandValid

/-- The valid operands of a connective give truth values, as far as they are evaluated. -/
theorem traceOperands_sound (accessor : Accessor σ) (op : Connective) (index : Nat) (outcome : Bool)
    (operands : List (Option Expression))
    (valid : validateSlots (.variadic op) index operands = .ok ()) :
    (traceOperands accessor op outcome operands).Sound accessor (readsSlots operands)
      (fun _ => True) := by
  cases operands with
  | nil => rw [traceOperands]; exact .pure trivial
  | cons slot rest =>
    rw [traceOperands, readsSlots]
    obtain ⟨slotValid, restValid⟩ := validateSlots_cons.mp valid
    split
    · have restSound := traceOperands_sound accessor op (index + 1) outcome rest restValid
      refine .bind (restSound.mono (List.subset_append_right _ _)) fun ending _ => ?_
      exact .pure trivial
    · have slotSound := traceSlot_sound accessor (.variadic op) index op.name slot slotValid
      refine .bind (slotSound.mono (List.subset_append_left _ _)) fun trace hasType => ?_
      obtain ⟨value, truth⟩ := Trace.HasType.boolOutcome hasType op.name
      refine .bind_ok truth ?_
      have restSound := traceOperands_sound accessor op (index + 1) value rest restValid
      refine .bind (restSound.mono (List.subset_append_right _ _)) fun ending _ => ?_
      exact .pure trivial

end

variable {formula : Expression} {accessor : Accessor σ}

theorem trace_of_valid (valid : formula.validate = .ok ()) :
    formula.trace accessor = traceNode accessor formula := by
  rw [trace, valid]

/-- An invalid formula is an error before the accessor is asked for anything. -/
theorem trace_of_invalid {malformation : Malformation}
    (invalid : formula.validate = .error malformation) :
    formula.trace accessor = throw (.malformed malformation) := by
  rw [trace, invalid]

theorem evaluate_of_invalid {malformation : Malformation}
    (invalid : formula.validate = .error malformation) :
    formula.evaluate accessor = throw (.malformed malformation) := by
  rw [evaluate, trace_of_invalid invalid]
  rfl

theorem trace_sound (valid : formula.validate = .ok ()) :
    (formula.trace accessor).Sound accessor formula.reads (Trace.HasType formula.returnType) := by
  rw [trace_of_valid valid]
  exact traceNode_sound accessor formula valid

/-- The value of a formula is what its trace left behind. -/
theorem evaluate_of_trace {state after : σ} {trace : Trace} {value : Value}
    (traces : (formula.trace accessor).runFrom state = (.ok trace, after))
    (outcome : trace.outcome? = some value) :
    (formula.evaluate accessor).runFrom state = (.ok value, after) := by
  rw [evaluate, runFrom_bind_ok traces]
  simp only [outcome]
  rfl

theorem evaluate_of_error {state after : σ} {error : EvaluationError}
    (fails : (formula.trace accessor).runFrom state = (.error error, after)) :
    (formula.evaluate accessor).runFrom state = (.error error, after) := by
  rw [evaluate, runFrom_bind_error fails]

theorem evaluate_sound (valid : formula.validate = .ok ()) :
    (formula.evaluate accessor).Sound accessor formula.reads
      (fun value => value.type = formula.returnType) := by
  refine .bind (trace_sound valid) fun trace hasType => ?_
  obtain ⟨value, outcome, type⟩ := hasType
  simp only [outcome]
  exact .pure type

/-- A valid formula of type bool gives a truth value. -/
theorem evaluateBool_sound (valid : formula.validate = .ok ())
    (isBool : formula.returnType = .bool) :
    (formula.evaluateBool accessor).Sound accessor formula.reads (fun _ => True) := by
  refine .bind (evaluate_sound valid) fun value type => ?_
  rw [isBool] at type
  cases value with
  | bool value => exact .pure trivial
  | _ => cases type

/-- For every formula and every accessor: an invalid formula is an error before the accessor is
asked for anything. A valid formula gives a value of its static type, or a divisor was zero, or the
fetch of one of its reads failed: the field was absent or of another type than the read declares,
or the accessor answered with an error. -/
theorem type_soundness (formula : Expression) (accessor : Accessor σ) :
    (∀ malformation, formula.validate = .error malformation →
      formula.trace accessor = throw (.malformed malformation) ∧
        formula.evaluate accessor = throw (.malformed malformation)) ∧
    (formula.validate = .ok () → ∀ state result after,
      (formula.trace accessor).runFrom state = (result, after) →
      (∃ trace value, result = .ok trace ∧ trace.outcome? = some value ∧
        value.type = formula.returnType ∧
        (formula.evaluate accessor).runFrom state = (.ok value, after)) ∨
      ∃ error, result = .error error ∧
        (formula.evaluate accessor).runFrom state = (.error error, after) ∧
        (error = .divisionByZero BinaryOp.divide.name ∨
          ∃ read ∈ formula.reads, error = .fieldMissing read.source ∨
            (∃ found, error = .typeMismatch read.operator.name read.type.valueType found) ∨
            ∃ before, accessor.Trail formula.reads state before ∧
              accessor.Refuses read before error after)) := by
  refine ⟨fun malformation invalid => ⟨trace_of_invalid invalid, evaluate_of_invalid invalid⟩, ?_⟩
  intro valid state result after traces
  have sound : (formula.trace accessor).Sound accessor formula.reads
      (Trace.HasType formula.returnType) := trace_sound valid
  have ends := sound state
  rw [traces] at ends
  cases ends with
  | @value trace _ trail isGood =>
    obtain ⟨value, outcome, type⟩ := isGood
    exact Or.inl ⟨trace, value, rfl, outcome, type, evaluate_of_trace traces outcome⟩
  | @failed read error before _ trail occurs fails =>
    refine Or.inr ⟨error, rfl, evaluate_of_error traces, Or.inr ⟨read, occurs, ?_⟩⟩
    rcases Accessor.fetch_error fails with missing | mismatch | refuses
    · exact Or.inl missing
    · exact Or.inr (Or.inl mismatch)
    · exact Or.inr (Or.inr ⟨before, trail, refuses⟩)
  | divided trail =>
    exact Or.inr ⟨_, rfl, evaluate_of_error traces, Or.inl rfl⟩

/-- The flag is not set, and the currency is one of two. -/
def unflagged : Expression :=
  variadic .and [some (not (some (payload .bool "flagged"))),
    some (binary .isInList (some (payload .string "currency")) (some (stringList ["EUR", "USD"])))]

/-- A formula with operators above its reads, with an accessor that counts its calls, and a formula
with an empty slot. -/
theorem type_soundness_counted :
    let counting : Accessor Nat :=
      ⟨fun name calls =>
        (if name = "flagged" then some (.bool false) else some (.string "EUR"), calls + 1),
        fun _ _ _ => pure (), fun _ _ => pure none⟩
    (∃ trace value, (unflagged.trace counting).runFrom 0 = (.ok trace, 2) ∧
      trace.outcome? = some value ∧ value.type = .bool ∧
      (unflagged.evaluate counting).runFrom 0 = (.ok value, 2)) ∧
    (not none).trace counting = throw (.malformed ⟨.not, .emptySlot 0⟩) := by
  intro counting
  have completes : ∃ trace, (unflagged.trace counting).runFrom 0 = (.ok trace, 2) :=
    ⟨_, by with_unfolding_all rfl⟩
  obtain ⟨trace, traces⟩ := completes
  have sound := type_soundness unflagged counting
  constructor
  · rcases sound.2 rfl 0 _ 2 traces with
      ⟨same, value, result, outcome, type, evaluates⟩ | ⟨error, result, -⟩
    · cases result
      exact ⟨trace, value, traces, outcome, type, evaluates⟩
    · cases result
  · exact ((type_soundness (not none) counting).1 _ rfl).1

end Expression

end RiskScoring
