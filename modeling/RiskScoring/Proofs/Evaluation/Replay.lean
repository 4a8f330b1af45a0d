import RiskScoring.Evaluation.Semantics

/-!
# Replaying a node of a trace

A node of a trace is computed again from what its operands left behind, without the formula and
without any read. `Operator.recompute` is defined on values alone, and evaluation agrees with it.

* `BinaryOp.compute`, `Connective.combine`, `Operator.recompute`: the values of the operators.
* `BinaryOp.recompute_of_apply`: what a binary operator computed can be computed again.
* `Connective.Visits`: how a connective visits its operands.
* `Connective.Visits.recompute`, `Connective.Visits.shortCircuits`: what the visited operands say
  about the result, and which ones were skipped.
-/

namespace RiskScoring

namespace BinaryOp

/-- The value of an operator on two values, if they are of the kinds it works on and no divisor is
zero. -/
def compute : BinaryOp → Value → Value → Option Value
  | equalBool, .bool x, .bool y => some (.bool (x == y))
  | equalString, .string x, .string y => some (.bool (x == y))
  | equalFloat, .float x, .float y => some (.bool (x == y))
  | greater, .float x, .float y => some (.bool (decide (y < x)))
  | greaterOrEqual, .float x, .float y => some (.bool (decide (y ≤ x)))
  | less, .float x, .float y => some (.bool (decide (x < y)))
  | lessOrEqual, .float x, .float y => some (.bool (decide (x ≤ y)))
  | isInList, .string needle, .stringList items => some (.bool (items.contains needle))
  | add, .float x, .float y => some (.float (x + y))
  | subtract, .float x, .float y => some (.float (x - y))
  | multiply, .float x, .float y => some (.float (x * y))
  | divide, .float x, .float y => if y == 0 then none else some (.float (x / y))
  | _, _, _ => none

end BinaryOp

/-- The value of a connective on the truth values of the operands that were evaluated. -/
def Connective.combine : Connective → List Bool → Bool
  | and, truths => truths.all id
  | or, truths => truths.any id

/-- The truth values among the outcomes of operands, if there is no value of another kind. -/
def Value.truths : List (Option Value) → Option (List Bool)
  | [] => some []
  | none :: rest => truths rest
  | some (bool value) :: rest => (truths rest).map (value :: ·)
  | some _ :: _ => none

/-- The value of an operator from the outcomes of its operands. -/
def Operator.recompute : Operator → List (Option Value) → Option Value
  | not, [some (.bool value)] => some (.bool !value)
  | binary op, [some x, some y] => op.compute x y
  | variadic op, outcomes => (Value.truths outcomes).map fun truths => .bool (op.combine truths)
  | _, _ => none

/-! ## Binary operators -/

namespace Trace

/-- The traces of the operands in order. -/
def children : Trace → List Trace
  | variadic _ operands _ => operands
  | binary _ left right _ => [left, right]
  | unary _ child _ => [child]
  | leaf _ _ => []
  | skipped => []

variable {trace : Trace} {label : String}

/-- A node that left a value behind was not skipped. -/
theorem ne_skipped {value : Value} (outcome : trace.outcome? = some value) : trace ≠ .skipped := by
  rintro rfl
  cases outcome

/-- An operand that is seen to have left something behind left the value for it behind. -/
theorem outcome_of_outcomeAs {α : Type} {view : Value → Option α} {wrap : α → Value}
    {type : ValueType} {seen : α} (sees : Value.Sees view wrap type)
    (passes : trace.outcomeAs view type label = .ok seen) : trace.outcome? = some (wrap seen) := by
  unfold outcomeAs at passes
  split at passes
  · rename_i found isSeen
    cases passes
    obtain ⟨value, outcome, views⟩ := Option.bind_eq_some_iff.mp isSeen
    rw [outcome, sees.eq_wrap value views]
  · cases passes

end Trace

namespace BinaryOp

variable {op : BinaryOp} {left right : Trace}

theorem outcomes_of_onFloats {α : Type} {f : Float → Float → α} {result : α}
    (computes : op.onFloats f left right = .ok result) :
    ∃ x y, left.outcome? = some (.float x) ∧ right.outcome? = some (.float y) ∧
      f x y = result := by
  unfold onFloats at computes
  cases leftOutcome : left.floatOutcome op.symbol with
  | error error => rw [leftOutcome] at computes; cases computes
  | ok x =>
    cases rightOutcome : right.floatOutcome op.symbol with
    | error error => rw [leftOutcome, rightOutcome] at computes; cases computes
    | ok y =>
      rw [leftOutcome, rightOutcome] at computes
      cases computes
      exact ⟨x, y, Trace.outcome_of_outcomeAs Value.sees_float leftOutcome,
        Trace.outcome_of_outcomeAs Value.sees_float rightOutcome, rfl⟩

theorem outcomes_of_equality {same : Bool} (computes : op.equality left right = .ok same) :
    ∃ x y, left.outcome? = some x ∧ right.outcome? = some y ∧ x.type = op.operandType 0 ∧
      y.type = op.operandType 0 ∧ x.equals y = same := by
  unfold equality at computes
  cases leftOutcome : left.outcome? with
  | none => simp only [leftOutcome] at computes; cases computes
  | some x =>
    cases rightOutcome : right.outcome? with
    | none =>
      simp only [leftOutcome, rightOutcome] at computes
      split at computes
      · cases computes
      · cases computes
    | some y =>
      simp only [leftOutcome, rightOutcome] at computes
      by_cases xFits : x.type = op.operandType 0
      · by_cases yFits : y.type = op.operandType 0
        · rw [if_pos xFits, if_pos yFits] at computes
          cases computes
          exact ⟨x, y, rfl, rfl, xFits, yFits, rfl⟩
        · rw [if_pos xFits, if_neg yFits] at computes
          cases computes
      · rw [if_neg xFits] at computes
        cases computes

/-- The outcome can be computed again from the outcomes of the two operands. -/
def Replays (op : BinaryOp) (left right : Trace) (outcome : Value) : Prop :=
  ∃ x y, left.outcome? = some x ∧ right.outcome? = some y ∧ op.compute x y = some outcome

theorem replays_of_onFloats {α : Type} {f : Float → Float → α} {wrap : α → Value}
    {outcome : Value} (values : ∀ x y, op.compute (.float x) (.float y) = some (wrap (f x y)))
    (computes : (op.onFloats f left right).map wrap = .ok outcome) :
    op.Replays left right outcome := by
  cases result : op.onFloats f left right with
  | error error => rw [result] at computes; cases computes
  | ok value =>
    rw [result] at computes
    cases computes
    obtain ⟨x, y, leftOutcome, rightOutcome, rfl⟩ := outcomes_of_onFloats result
    exact ⟨.float x, .float y, leftOutcome, rightOutcome, values x y⟩

theorem replays_of_equality {outcome : Value}
    (values : ∀ x y : Value, x.type = op.operandType 0 → y.type = op.operandType 0 →
      op.compute x y = some (.bool (x.equals y)))
    (computes : (op.equality left right).map .bool = .ok outcome) :
    op.Replays left right outcome := by
  cases result : op.equality left right with
  | error error => rw [result] at computes; cases computes
  | ok same =>
    rw [result] at computes
    cases computes
    obtain ⟨x, y, leftOutcome, rightOutcome, xFits, yFits, rfl⟩ := outcomes_of_equality result
    exact ⟨x, y, leftOutcome, rightOutcome, values x y xFits yFits⟩

/-- What a binary operator computed can be computed again. -/
theorem recompute_of_apply {outcome : Value} (computes : op.apply left right = .ok outcome) :
    op.Replays left right outcome := by
  cases op with
  | equalBool =>
    refine replays_of_equality (fun x y xFits yFits => ?_) computes
    cases x <;> cases xFits
    cases y <;> cases yFits
    rfl
  | equalString =>
    refine replays_of_equality (fun x y xFits yFits => ?_) computes
    cases x <;> cases xFits
    cases y <;> cases yFits
    rfl
  | equalFloat =>
    refine replays_of_equality (fun x y xFits yFits => ?_) computes
    cases x <;> cases xFits
    cases y <;> cases yFits
    rfl
  | greater => exact replays_of_onFloats (fun _ _ => rfl) computes
  | greaterOrEqual => exact replays_of_onFloats (fun _ _ => rfl) computes
  | less => exact replays_of_onFloats (fun _ _ => rfl) computes
  | lessOrEqual => exact replays_of_onFloats (fun _ _ => rfl) computes
  | add => exact replays_of_onFloats (fun _ _ => rfl) computes
  | subtract => exact replays_of_onFloats (fun _ _ => rfl) computes
  | multiply => exact replays_of_onFloats (fun _ _ => rfl) computes
  | isInList =>
    unfold apply at computes
    cases leftOutcome : left.stringOutcome isInList.symbol with
    | error error => rw [leftOutcome] at computes; cases computes
    | ok needle =>
      cases rightOutcome : right.stringsOutcome isInList.symbol with
      | error error => rw [leftOutcome, rightOutcome] at computes; cases computes
      | ok items =>
        rw [leftOutcome, rightOutcome] at computes
        cases computes
        exact ⟨.string needle, .stringList items,
          Trace.outcome_of_outcomeAs Value.sees_string leftOutcome,
          Trace.outcome_of_outcomeAs Value.sees_stringList rightOutcome, rfl⟩
  | divide =>
    unfold apply at computes
    cases leftOutcome : left.floatOutcome divide.symbol with
    | error error => rw [leftOutcome] at computes; cases computes
    | ok x =>
      cases rightOutcome : right.floatOutcome divide.symbol with
      | error error => rw [leftOutcome, rightOutcome] at computes; cases computes
      | ok y =>
        rw [leftOutcome, rightOutcome] at computes
        refine ⟨.float x, .float y, Trace.outcome_of_outcomeAs Value.sees_float leftOutcome,
          Trace.outcome_of_outcomeAs Value.sees_float rightOutcome, ?_⟩
        by_cases isZero : (y == 0) = true
        · simp only [bind, Except.bind, if_pos isZero] at computes
          cases computes
        · simp only [bind, Except.bind, if_neg isZero] at computes
          cases computes
          exact if_neg isZero

end BinaryOp

/-! ## Connectives -/

namespace Connective

/-- How a connective visits operands: from left to right, until one settles the result or none is
left. The ones that remain are skipped, and the result is what the last visited one left behind. -/
inductive Visits (op : Connective) : List Trace → Bool → Prop
  | settled {last : Trace} {count : Nat} (outcome : last.outcome? = some (.bool op.settledBy)) :
    Visits op (last :: List.replicate count .skipped) op.settledBy
  | ended {last : Trace} (outcome : last.outcome? = some (.bool !op.settledBy)) :
    Visits op [last] !op.settledBy
  | goesOn {first : Trace} {rest : List Trace} {result : Bool}
    (outcome : first.outcome? = some (.bool !op.settledBy)) (visits : Visits op rest result) :
    Visits op (first :: rest) result

/-- An operand before the place settled the result. -/
def SettledBefore (op : Connective) (children : List Trace) (index : Nat) : Prop :=
  ∃ earlier settling, earlier < index ∧ children[earlier]? = some settling ∧
    settling.outcome? = some (.bool op.settledBy)

/-- The operands of a connective that were evaluated stand first. All of them but the last left the
result open, and an operand was skipped if and only if one before it had settled the result. -/
structure ShortCircuits (op : Connective) (children : List Trace) : Prop where
  evaluated : ∃ front last count value,
    children = front ++ last :: List.replicate count .skipped ∧
      (∀ child ∈ front, child.outcome? = some (.bool !op.settledBy)) ∧
      last.outcome? = some (.bool value)
  skipped_iff : ∀ (index : Nat) (child : Trace), children[index]? = some child →
    (child = .skipped ↔ op.SettledBefore children index)

variable {op : Connective} {children : List Trace} {result : Bool}

theorem not_settledBefore_zero : ¬ op.SettledBefore children 0 := by
  rintro ⟨earlier, -, before, -⟩
  exact absurd before (Nat.not_lt_zero earlier)

/-- An operand that leaves the result open settles it for no operand behind it. -/
theorem settledBefore_cons {first : Trace} {rest : List Trace} {index : Nat}
    (outcome : first.outcome? = some (.bool !op.settledBy)) :
    op.SettledBefore (first :: rest) (index + 1) ↔ op.SettledBefore rest index := by
  constructor
  · rintro ⟨earlier, settling, before, isSettling, settles⟩
    cases earlier with
    | zero =>
      cases isSettling
      rw [outcome] at settles
      cases op <;> cases settles
    | succ earlier =>
      exact ⟨earlier, settling, Nat.lt_of_succ_lt_succ before, isSettling, settles⟩
  · rintro ⟨earlier, settling, before, isSettling, settles⟩
    exact ⟨earlier + 1, settling, Nat.succ_lt_succ before, isSettling, settles⟩

theorem truths_of_skipped (count : Nat) :
    Value.truths ((List.replicate count Trace.skipped).map Trace.outcome?) = some [] := by
  induction count with
  | zero => rfl
  | succ count ih => exact ih

theorem truths_of_bool {first : Trace} {rest : List Trace} {value : Bool} {truths : List Bool}
    (outcome : first.outcome? = some (.bool value))
    (others : Value.truths (rest.map Trace.outcome?) = some truths) :
    Value.truths ((first :: rest).map Trace.outcome?) = some (value :: truths) := by
  rw [List.map_cons, outcome, Value.truths, others]
  rfl

theorem combine_settledBy (op : Connective) : op.combine [op.settledBy] = op.settledBy := by
  cases op <;> rfl

theorem combine_not_settledBy (op : Connective) :
    op.combine [!op.settledBy] = !op.settledBy := by
  cases op <;> rfl

/-- An operand that does not settle the result makes no difference. -/
theorem combine_cons (op : Connective) (truths : List Bool) :
    op.combine ((!op.settledBy) :: truths) = op.combine truths := by
  cases op <;> rfl

namespace Visits

/-- The result is the value of the connective on the operands that were evaluated. -/
theorem recompute (visits : op.Visits children result) :
    (Operator.variadic op).recompute (children.map Trace.outcome?) = some (.bool result) := by
  have replays : ∃ truths, Value.truths (children.map Trace.outcome?) = some truths ∧
      op.combine truths = result := by
    induction visits with
    | settled outcome =>
      exact ⟨_, truths_of_bool outcome (truths_of_skipped _), combine_settledBy op⟩
    | ended outcome => exact ⟨_, truths_of_bool outcome rfl, combine_not_settledBy op⟩
    | goesOn outcome _ ih =>
      obtain ⟨truths, isTruths, combines⟩ := ih
      exact ⟨_, truths_of_bool outcome isTruths, (combine_cons op truths).trans combines⟩
  obtain ⟨truths, isTruths, combines⟩ := replays
  rw [Operator.recompute, isTruths, Option.map_some, combines]

/-- The last operand that was evaluated left the result behind, and the ones before it left it
open. -/
theorem evaluated (visits : op.Visits children result) :
    ∃ front last count, children = front ++ last :: List.replicate count .skipped ∧
      (∀ child ∈ front, child.outcome? = some (.bool !op.settledBy)) ∧
      last.outcome? = some (.bool result) := by
  induction visits with
  | @settled last count outcome => exact ⟨[], last, count, rfl, List.forall_mem_nil _, outcome⟩
  | @ended last outcome => exact ⟨[], last, 0, rfl, List.forall_mem_nil _, outcome⟩
  | @goesOn first rest result outcome _ ih =>
    obtain ⟨front, last, count, rfl, leftOpen, lastOutcome⟩ := ih
    refine ⟨first :: front, last, count, rfl, ?_, lastOutcome⟩
    intro child listed
    rcases List.mem_cons.mp listed with rfl | behind
    · exact outcome
    · exact leftOpen child behind

/-- An operand is skipped if and only if an operand before it settled the result. -/
theorem skipped_iff (visits : op.Visits children result) {index : Nat} {child : Trace}
    (placed : children[index]? = some child) :
    child = .skipped ↔ op.SettledBefore children index := by
  have atHead {first : Trace} {rest : List Trace} {value : Value}
      (outcome : first.outcome? = some value) :
      first = .skipped ↔ op.SettledBefore (first :: rest) 0 :=
    iff_of_false (Trace.ne_skipped outcome) not_settledBefore_zero
  induction visits generalizing index with
  | @settled last count outcome =>
    cases index with
    | zero =>
      cases placed
      exact atHead outcome
    | succ index =>
      have isSkipped : child = .skipped :=
        List.eq_of_mem_replicate (List.mem_of_getElem? placed)
      exact iff_of_true isSkipped ⟨0, last, Nat.succ_pos index, rfl, outcome⟩
  | ended outcome =>
    cases index with
    | zero =>
      cases placed
      exact atHead outcome
    | succ index => cases placed
  | goesOn outcome _ ih =>
    cases index with
    | zero =>
      cases placed
      exact atHead outcome
    | succ index =>
      rw [settledBefore_cons outcome]
      exact ih placed

theorem shortCircuits (visits : op.Visits children result) : op.ShortCircuits children := by
  obtain ⟨front, last, count, split, leftOpen, outcome⟩ := visits.evaluated
  exact ⟨⟨front, last, count, result, split, leftOpen, outcome⟩,
    fun _ _ placed => visits.skipped_iff placed⟩

end Visits

end Connective

end RiskScoring
