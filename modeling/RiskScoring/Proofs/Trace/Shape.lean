import RiskScoring.Proofs.Evaluation.Fetch
import RiskScoring.Proofs.Formula.Parts

/-!
# The form of traces

Evaluation leaves traces of one form behind: inner nodes of the operators, each of them evaluated
with at least one operand, above leaves that show the leaves of the formula.

* `Trace.Shaped`: that form.
* `Reading.Returns`: what holds of the values of a reading.
* `Expression.trace_shaped`: the traces of a formula are of that form.
-/

namespace RiskScoring

/-- The form of a trace that evaluation leaves behind, with texts of leaves that are allowed. -/
inductive Trace.Shaped (allowed : String → Prop) : Trace → Prop
  | leaf {source : String} {value : Value} (isAllowed : allowed source) :
    Shaped allowed (.leaf source value)
  | unary {child : Trace} {outcome : Value} (operand : Shaped allowed child) :
    Shaped allowed (.unary Operator.not.name child outcome)
  | binary (op : BinaryOp) {left right : Trace} {outcome : Value} (first : Shaped allowed left)
    (second : Shaped allowed right) : Shaped allowed (.binary op.symbol left right outcome)
  | variadic (op : Connective) {operands : List Trace} {outcome : Value}
    (visits : ∃ operand ∈ operands, operand ≠ .skipped)
    (each : ∀ operand ∈ operands, operand ≠ .skipped → Shaped allowed operand) :
    Shaped allowed (.variadic op.name operands outcome)

theorem Trace.Shaped.ne_skipped {allowed : String → Prop} {trace : Trace}
    (shaped : trace.Shaped allowed) : trace ≠ .skipped := by
  rintro rfl
  cases shaped

variable {σ α β : Type}

namespace Reading

/-- If the reading has a value, the value is good. -/
def Returns (good : α → Prop) (reading : Reading σ α) : Prop :=
  ∀ state value after, reading.runFrom state = (.ok value, after) → good value

variable {good : α → Prop} {last : β → Prop} {reading : Reading σ α} {next : α → Reading σ β}

theorem Returns.pure {value : α} (isGood : good value) :
    Returns good (Pure.pure value : Reading σ α) := by
  rintro state _ after ⟨⟩
  exact isGood

theorem Returns.throw (error : EvaluationError) :
    Returns good (MonadExcept.throw error : Reading σ α) := by
  rintro state value after ⟨⟩

theorem Returns.bind (first : reading.Returns good)
    (goesOn : ∀ value, good value → (next value).Returns last) :
    Returns last (reading >>= next) := by
  intro state value after runs
  rw [runFrom_bind] at runs
  rcases ended : reading.runFrom state with ⟨result, middle⟩
  rw [ended] at runs
  cases result with
  | error error => cases runs
  | ok found => exact goesOn found (first state found middle ended) middle value after runs

/-- A reading after a check. -/
theorem Returns.bind_check {check : Except EvaluationError α}
    (goesOn : ∀ value, (next value).Returns last) :
    Returns last ((liftExcept check : Reading σ α) >>= next) := by
  have first : Returns (fun _ => True) (liftExcept check : Reading σ α) := fun _ _ _ _ => trivial
  exact first.bind fun value _ => goesOn value

end Reading

/-- A fetch returns a leaf with the text of the read. -/
theorem Accessor.fetch_returns (accessor : Accessor σ) (read : FieldRead) {allowed : String → Prop}
    (isAllowed : allowed read.text) : (accessor.fetch read).Returns (Trace.Shaped allowed) := by
  intro state trace after runs
  rcases accessor.fetch_cases read state with ⟨value?, next, answers⟩ | ⟨error, next, fails, -⟩
  · rw [answers] at runs
    obtain ⟨value, -, -, rfl⟩ := FieldRead.trace_eq_ok (Prod.mk.inj runs).1
    exact .leaf isAllowed
  · rw [fails] at runs
    cases runs

namespace Expression

open Reading

/-- The text of a leaf in traces. -/
def source? : Expression → Option String
  | bool value => some (Value.bool value).text
  | string value => some (Value.string value).text
  | float value => some (Value.float value).text
  | stringList items => some (Value.stringList items).text
  | payload type name => some (FieldRead.payload type name).text
  | stored type path name => some (FieldRead.stored type path name).text
  | _ => none

/-- The text is that of a leaf of the formula. -/
def HasSource (formula : Expression) (source : String) : Prop :=
  ∃ part, formula.Contains part ∧ part.source? = some source

theorem hasSource_iff {formula : Expression} {source : String} :
    formula.HasSource source ↔ formula.source? = some source ∨
      ∃ operand, some operand ∈ formula.operands ∧ operand.HasSource source := by
  constructor
  · rintro ⟨part, inside, isSource⟩
    rcases contains_iff.mp inside with rfl | ⟨operand, listed, inside⟩
    · exact Or.inl isSource
    · exact Or.inr ⟨operand, listed, part, inside, isSource⟩
  · rintro (isSource | ⟨operand, listed, part, inside, isSource⟩)
    · exact ⟨formula, .self formula, isSource⟩
    · exact ⟨part, .operand listed inside, isSource⟩

@[simp] theorem hasSource_bool {value : Bool} {source : String} :
    (bool value).HasSource source ↔ (Value.bool value).text = source := by
  rw [hasSource_iff]
  simp [source?, operands]

@[simp] theorem hasSource_binary {op : BinaryOp} {left right : Expression} {source : String} :
    (binary op (some left) (some right)).HasSource source ↔
      left.HasSource source ∨ right.HasSource source := by
  rw [hasSource_iff]
  simp [source?, operands, or_and_right, exists_or]

@[simp] theorem hasSource_variadic {op : Connective} {slots : List (Option Expression)}
    {source : String} : (variadic op slots).HasSource source ↔
      ∃ operand, some operand ∈ slots ∧ operand.HasSource source := by
  rw [hasSource_iff]
  simp [source?, operands]

variable {accessor : Accessor σ} {allowed : String → Prop}

theorem traceSlot_shaped (label : String) {slot : Option Expression}
    (shaped : ∀ operand, slot = some operand →
      (traceNode accessor operand).Returns (Trace.Shaped allowed)) :
    (traceSlot accessor label slot).Returns (Trace.Shaped allowed) := by
  cases slot with
  | none => rw [traceSlot]; exact .throw _
  | some operand => rw [traceSlot]; exact shaped operand rfl

/-- The operands of a connective that are evaluated have shaped traces. If the result is not settled
before, the first one is evaluated. -/
theorem traceOperands_shaped {op : Connective} {outcome : Bool} {slots : List (Option Expression)}
    (shaped : ∀ operand, some operand ∈ slots →
      (traceNode accessor operand).Returns (Trace.Shaped allowed)) :
    (traceOperands accessor op outcome slots).Returns fun ending =>
      (∀ trace ∈ ending.1, trace ≠ .skipped → trace.Shaped allowed) ∧
        (outcome ≠ op.settledBy → slots ≠ [] → ∃ trace ∈ ending.1, trace ≠ .skipped) := by
  induction slots generalizing outcome with
  | nil =>
    rw [traceOperands]
    exact .pure ⟨List.forall_mem_nil _, fun _ nonempty => absurd rfl nonempty⟩
  | cons slot rest ih =>
    have others : ∀ operand, some operand ∈ rest →
        (traceNode accessor operand).Returns (Trace.Shaped allowed) :=
      fun operand listed => shaped operand (List.mem_cons_of_mem _ listed)
    rw [traceOperands]
    split
    · rename_i settled
      refine .bind (ih others) fun ending ends => .pure ⟨?_, fun isOpen => absurd settled isOpen⟩
      exact List.forall_mem_cons.mpr ⟨fun notSkipped => absurd rfl notSkipped, ends.1⟩
    · have first : (traceSlot accessor op.name slot).Returns (Trace.Shaped allowed) :=
        traceSlot_shaped _ fun operand isOperand => shaped operand (isOperand ▸ List.mem_cons_self)
      refine .bind first fun trace isShaped => .bind_check fun value => ?_
      refine .bind (ih others) fun ending ends => .pure ⟨?_, fun _ _ => ?_⟩
      · exact List.forall_mem_cons.mpr ⟨fun _ => isShaped, ends.1⟩
      · exact ⟨trace, List.mem_cons_self, isShaped.ne_skipped⟩

/-- A node leaves a shaped trace behind. -/
theorem traceNode_shaped (formula : Expression)
    (leaves : ∀ source, formula.HasSource source → allowed source) :
    (traceNode accessor formula).Returns (Trace.Shaped allowed) := by
  induction formula using operand_induction with
  | node formula ih =>
    have shaped : ∀ operand, some operand ∈ formula.operands →
        (traceNode accessor operand).Returns (Trace.Shaped allowed) := fun operand listed =>
      ih operand listed fun source has =>
        leaves source (hasSource_iff.mpr (Or.inr ⟨operand, listed, has⟩))
    have own : ∀ source, formula.source? = some source → allowed source := fun source isSource =>
      leaves source (hasSource_iff.mpr (Or.inl isSource))
    cases formula with
    | bool value => rw [traceNode]; exact .pure (.leaf (own _ rfl))
    | string value => rw [traceNode]; exact .pure (.leaf (own _ rfl))
    | float value => rw [traceNode]; exact .pure (.leaf (own _ rfl))
    | stringList items => rw [traceNode]; exact .pure (.leaf (own _ rfl))
    | payload type name => rw [traceNode]; exact accessor.fetch_returns _ (own _ rfl)
    | stored type path name => rw [traceNode]; exact accessor.fetch_returns _ (own _ rfl)
    | not slot =>
      rw [traceNode]
      refine .bind (traceSlot_shaped _ fun operand isOperand => shaped operand ?_) ?_
      · exact List.mem_singleton.mpr isOperand.symm
      · exact fun trace isShaped => .bind_check fun value => .pure (.unary isShaped)
    | binary op left right =>
      rw [traceNode]
      refine .bind (traceSlot_shaped _ fun operand isOperand => shaped operand ?_) ?_
      · exact List.mem_cons.mpr (Or.inl isOperand.symm)
      intro leftTrace leftShaped
      refine .bind (traceSlot_shaped _ fun operand isOperand => shaped operand ?_) ?_
      · exact List.mem_cons_of_mem _ (List.mem_singleton.mpr isOperand.symm)
      intro rightTrace rightShaped
      exact .bind_check fun outcome => .pure (.binary op leftShaped rightShaped)
    | variadic op slots =>
      rw [traceNode]
      split
      · exact .throw _
      · rename_i nonempty
        refine .bind (traceOperands_shaped shaped) fun ending ends => .pure (.variadic op ?_ ends.1)
        exact ends.2 (by simp) (by simpa using nonempty)

/-- The traces of a formula have the form of traces, and their leaves show leaves of the formula. -/
theorem trace_shaped (formula : Expression) (accessor : Accessor σ)
    (leaves : ∀ source, formula.HasSource source → allowed source) :
    (formula.trace accessor).Returns (Trace.Shaped allowed) := by
  rw [trace]
  split
  · exact .throw _
  · exact traceNode_shaped formula leaves

end Expression

end RiskScoring
