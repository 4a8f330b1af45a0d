import Mathlib.Data.List.Forall2
import RiskScoring.Proofs.Evaluation.Replay
import RiskScoring.Proofs.Evaluation.Steady

/-!
# Faithful traces

The trace of a formula on ingested rows mirrors the formula. Every node stands for the node of the
formula at the same place, it can be computed again from its operands, and every operand that was
evaluated has the trace that it has when it is evaluated alone.

* `Trace.Mirrors`: the form of a node.
* `Ingest.Scope.TraceOf`: the trace of a formula that is evaluated alone.
* `Ingest.Scope.Faithful`: what a node of a trace is good for.
* `Trace.Records`: the nodes of a trace, with the parts of the formula that they stand for.
* `Ingest.Scope.faithful_of_traceOf`: one node.
* `Expression.trace_faithful`: the whole trace.
-/

namespace RiskScoring

/-- The node of a trace has the form of the node of a formula: the same operator, or the text of
the leaf and its value. A field read shows the value that was found. -/
inductive Trace.Mirrors (answer : FieldRead → Except EvaluationError (Option Value)) :
    Expression → Trace → Prop
  | bool (value : Bool) :
    Mirrors answer (.bool value) (.leaf (Value.bool value).text (.bool value))
  | string (value : String) :
    Mirrors answer (.string value) (.leaf (Value.string value).text (.string value))
  | float (value : Float) :
    Mirrors answer (.float value) (.leaf (Value.float value).text (.float value))
  | stringList (items : List String) :
    Mirrors answer (.stringList items) (.leaf (Value.stringList items).text (.stringList items))
  | payload {type : FieldType} {name : String} {value : Value}
    (found : answer (.payload type name) = .ok (some value))
    (typed : value.type = type.valueType) :
    Mirrors answer (.payload type name) (.leaf ("$" ++ name) value)
  | stored {type : FieldType} {path : List String} {name : String} {value : Value}
    (found : answer (.stored type path name) = .ok (some value))
    (typed : value.type = type.valueType) :
    Mirrors answer (.stored type path name)
      (.leaf ("$" ++ FieldRead.qualifiedName path name) value)
  | not {operand : Option Expression} {child : Trace} {outcome : Value} :
    Mirrors answer (.not operand) (.unary "NOT" child outcome)
  | binary {op : BinaryOp} {left right : Option Expression} {leftTrace rightTrace : Trace}
    {outcome : Value} :
    Mirrors answer (.binary op left right) (.binary op.symbol leftTrace rightTrace outcome)
  | variadic {op : Connective} {operands : List (Option Expression)} {traces : List Trace}
    {outcome : Value} :
    Mirrors answer (.variadic op operands) (.variadic op.name traces outcome)

/-- The nodes of the trace of a formula, as far as they were evaluated, each with the part of the
formula at the same place. -/
inductive Trace.Records (formula : Expression) (trace : Trace) : Expression → Trace → Prop
  | root : Records formula trace formula trace
  | operand {part operand : Expression} {piece child : Trace} {index : Nat}
    (above : Records formula trace part piece)
    (slot : part.operands[index]? = some (some operand))
    (placed : piece.children[index]? = some child) (evaluated : child ≠ .skipped) :
    Records formula trace operand child

namespace Ingest.Scope

/-- The trace of a formula that is evaluated alone: from every session that has the rows, as long
as no failure is to come. -/
def TraceOf (scope : Scope) (rows : List StoredRow) (formula : Expression) (trace : Trace) : Prop :=
  (formula.trace scope.accessor).Gives (Session.Calm rows) (.ok trace)

/-- An operand was skipped, or it has the trace of the formula in its slot. -/
def Recorded (scope : Scope) (rows : List StoredRow) (slot : Option Expression) (child : Trace) :
    Prop :=
  child = .skipped ∨ ∃ operand, slot = some operand ∧ scope.TraceOf rows operand child

/-- A node of a trace is a faithful record of a part of a formula. -/
structure Faithful (scope : Scope) (rows : List StoredRow) (part : Expression) (piece : Trace) :
    Prop where
  /-- It has the form of that part. -/
  mirrors : piece.Mirrors (scope.answer rows) part
  /-- It has one operand for each slot. -/
  slots : List.Forall₂ (scope.Recorded rows) part.operands piece.children
  /-- Its value can be computed again. -/
  replays : part.operands ≠ [] →
    piece.outcome? = part.operator.recompute (piece.children.map Trace.outcome?)
  /-- A connective skips the operands behind the one that settles it. -/
  shortCircuits : ∀ op operands, part = .variadic op operands → op.ShortCircuits piece.children
  /-- No other node skips an operand. -/
  noSkip : (∀ op operands, part ≠ .variadic op operands) →
    ∀ child ∈ piece.children, child ≠ .skipped

variable {scope : Scope} {rows : List StoredRow} {session : Session}

open Expression Reading

theorem traceOf_iff (calm : session.Calm rows) {formula : Expression} {trace : Trace} :
    scope.TraceOf rows formula trace ↔ formula.validate = .ok () ∧
      (traceNode scope.accessor formula).Gives (Session.Calm rows) (.ok trace) := by
  unfold TraceOf
  cases validated : formula.validate with
  | error malformation =>
    rw [trace_of_invalid validated]
    constructor
    · intro gives
      cases gives.unique calm (.throw _)
    · rintro ⟨valid, -⟩
      cases valid
  | ok checked =>
    rw [trace_of_valid validated]
    exact ⟨fun gives => ⟨rfl, gives⟩, And.right⟩

/-! ## Operands -/

/-- The operand in a valid slot is evaluated as it is alone. -/
theorem traceOf_of_slot (calm : session.Calm rows) {parent : Operator} {index : Nat}
    {label : String} {slot : Option Expression} {child : Trace}
    (valid : validateSlot parent index slot = .ok ())
    (gives : (traceSlot scope.accessor label slot).Gives (Session.Calm rows) (.ok child)) :
    ∃ operand, slot = some operand ∧ scope.TraceOf rows operand child := by
  obtain ⟨operand, rfl, -, operandValid⟩ := validateSlot_eq_ok.mp valid
  rw [traceSlot] at gives
  exact ⟨operand, rfl, (traceOf_iff calm).mpr ⟨operandValid, gives⟩⟩

/-- Once the result is settled, the operands that remain are skipped. -/
theorem traceOperands_of_settled (scope : Scope) (rows : List StoredRow) (op : Connective)
    (operands : List (Option Expression)) :
    (traceOperands scope.accessor op op.settledBy operands).Gives (Session.Calm rows)
      (.ok (List.replicate operands.length .skipped, op.settledBy)) := by
  induction operands with
  | nil => rw [traceOperands]; exact .pure _
  | cons slot rest ih =>
    rw [traceOperands, if_pos rfl]
    exact ih.bind_ok (.pure _)

theorem recorded_of_skipped (scope : Scope) (rows : List StoredRow)
    (operands : List (Option Expression)) :
    List.Forall₂ (scope.Recorded rows) operands (List.replicate operands.length .skipped) := by
  induction operands with
  | nil => exact .nil
  | cons slot rest ih => exact .cons (Or.inl rfl) ih

/-- The operands of a connective are visited in order, and each one is evaluated as it is alone. -/
theorem visits_of_operands (calm : session.Calm rows) {op : Connective} {index : Nat}
    {operands : List (Option Expression)} {children : List Trace} {result : Bool}
    (nonempty : operands ≠ []) (valid : validateSlots (.variadic op) index operands = .ok ())
    (gives : (traceOperands scope.accessor op (!op.settledBy) operands).Gives (Session.Calm rows)
      (.ok (children, result))) :
    op.Visits children result ∧ List.Forall₂ (scope.Recorded rows) operands children := by
  induction operands generalizing index children result with
  | nil => exact absurd rfl nonempty
  | cons slot rest ih =>
    obtain ⟨slotValid, restValid⟩ := validateSlots_cons.mp valid
    obtain ⟨after, -, runs⟩ := gives session calm
    have isOpen : (!op.settledBy) ≠ op.settledBy := by simp
    rw [traceOperands, if_neg isOpen] at runs
    obtain ⟨child, middle, childGives, middleCalm, runs⟩ :=
      (traceSlot_steady (scope.fetch_steady rows) op.name slot).of_bind_ok calm runs
    obtain ⟨value, truth, runs⟩ := of_check_bind_ok runs
    obtain ⟨⟨others, last⟩, later, othersGive, -, runs⟩ :=
      (traceOperands_steady (scope.fetch_steady rows) op value rest).of_bind_ok middleCalm runs
    cases runs
    have outcome : child.outcome? = some (.bool value) :=
      Trace.outcome_of_outcomeAs Value.sees_bool truth
    have recorded : scope.Recorded rows slot child :=
      Or.inr (traceOf_of_slot calm slotValid childGives)
    by_cases settles : value = op.settledBy
    · subst settles
      cases (scope.traceOperands_of_settled rows op rest).unique calm othersGive
      exact ⟨.settled outcome, .cons recorded (scope.recorded_of_skipped rows rest)⟩
    · obtain rfl : value = !op.settledBy := Bool.eq_not_of_ne settles
      cases rest with
      | nil =>
        rw [traceOperands] at othersGive
        cases (Gives.pure _).unique calm othersGive
        exact ⟨.ended outcome, .cons recorded .nil⟩
      | cons next behind =>
        obtain ⟨visits, othersRecorded⟩ := ih (List.cons_ne_nil next behind) restValid othersGive
        exact ⟨.goesOn outcome visits, .cons recorded othersRecorded⟩

/-! ## Nodes -/

theorem faithful_of_leaf {part : Expression} {source : String} {value : Value}
    (mirrors : (Trace.leaf source value).Mirrors (scope.answer rows) part)
    (noOperand : part.operands = []) : scope.Faithful rows part (.leaf source value) where
  mirrors := mirrors
  slots := by
    rw [noOperand]
    exact .nil
  replays hasOperand := absurd noOperand hasOperand
  shortCircuits := by
    rintro op operands rfl
    cases mirrors
  noSkip _ := List.forall_mem_nil _

/-- A field read that succeeded found a value of its type. -/
theorem found_of_fetch (calm : session.Calm rows) {read : FieldRead} {piece : Trace}
    (gives : (scope.accessor.fetch read).Gives (Session.Calm rows) (.ok piece)) :
    ∃ value, scope.answer rows read = .ok (some value) ∧ value.type = read.type.valueType ∧
      piece = .leaf read.text value := by
  have answers : (scope.answer rows read >>= read.trace) = .ok piece :=
    (scope.fetch_gives rows read).unique calm gives
  cases answered : scope.answer rows read with
  | error error =>
    rw [answered] at answers
    cases answers
  | ok value? =>
    rw [answered] at answers
    obtain ⟨value, rfl, typed, shows⟩ := FieldRead.trace_eq_ok answers
    exact ⟨value, rfl, typed, shows⟩

/-- A node of a trace is faithful. -/
theorem faithful_of_traceOf (calm : session.Calm rows) {part : Expression} {piece : Trace}
    (traceOf : scope.TraceOf rows part piece) : scope.Faithful rows part piece := by
  obtain ⟨valid, gives⟩ := (traceOf_iff calm).mp traceOf
  cases part with
  | bool value =>
    rw [traceNode] at gives
    cases (Gives.pure _).unique calm gives
    exact faithful_of_leaf (.bool value) rfl
  | string value =>
    rw [traceNode] at gives
    cases (Gives.pure _).unique calm gives
    exact faithful_of_leaf (.string value) rfl
  | float value =>
    rw [traceNode] at gives
    cases (Gives.pure _).unique calm gives
    exact faithful_of_leaf (.float value) rfl
  | stringList items =>
    rw [traceNode] at gives
    cases (Gives.pure _).unique calm gives
    exact faithful_of_leaf (.stringList items) rfl
  | payload type name =>
    rw [traceNode] at gives
    obtain ⟨value, found, typed, rfl⟩ := found_of_fetch calm gives
    exact faithful_of_leaf (.payload found typed) rfl
  | stored type path name =>
    rw [traceNode] at gives
    obtain ⟨value, found, typed, rfl⟩ := found_of_fetch calm gives
    exact faithful_of_leaf (.stored found typed) rfl
  | not operand =>
    obtain ⟨after, -, runs⟩ := gives session calm
    rw [traceNode] at runs
    obtain ⟨child, middle, childGives, -, runs⟩ :=
      (traceSlot_steady (scope.fetch_steady rows) _ operand).of_bind_ok calm runs
    obtain ⟨value, truth, runs⟩ := of_check_bind_ok runs
    cases runs
    have recorded : scope.Recorded rows operand child :=
      Or.inr (traceOf_of_slot calm (validate_not.mp valid) childGives)
    have outcome : child.outcome? = some (.bool value) :=
      Trace.outcome_of_outcomeAs Value.sees_bool truth
    exact {
      mirrors := .not
      slots := .cons recorded .nil
      replays := fun _ => by simp only [Trace.children, List.map_cons, outcome]; rfl
      shortCircuits := fun _ _ isVariadic => nomatch isVariadic
      noSkip := fun _ => List.forall_mem_singleton.mpr (Trace.ne_skipped outcome) }
  | binary op left right =>
    obtain ⟨leftValid, rightValid⟩ := validate_binary.mp valid
    obtain ⟨after, -, runs⟩ := gives session calm
    rw [traceNode] at runs
    obtain ⟨leftTrace, middle, leftGives, middleCalm, runs⟩ :=
      (traceSlot_steady (scope.fetch_steady rows) _ left).of_bind_ok calm runs
    obtain ⟨rightTrace, last, rightGives, -, runs⟩ :=
      (traceSlot_steady (scope.fetch_steady rows) _ right).of_bind_ok middleCalm runs
    obtain ⟨outcome, computes, runs⟩ := of_check_bind_ok runs
    cases runs
    have leftRecorded : scope.Recorded rows left leftTrace :=
      Or.inr (traceOf_of_slot calm leftValid leftGives)
    have rightRecorded : scope.Recorded rows right rightTrace :=
      Or.inr (traceOf_of_slot calm rightValid rightGives)
    obtain ⟨x, y, leftOutcome, rightOutcome, recomputes⟩ := BinaryOp.recompute_of_apply computes
    exact {
      mirrors := .binary
      slots := .cons leftRecorded (.cons rightRecorded .nil)
      replays := fun _ => by
        simp only [Trace.children, List.map_cons, leftOutcome, rightOutcome]
        exact recomputes.symm
      shortCircuits := fun _ _ isVariadic => nomatch isVariadic
      noSkip := fun _ => List.forall_mem_cons.mpr
        ⟨Trace.ne_skipped leftOutcome,
          List.forall_mem_singleton.mpr (Trace.ne_skipped rightOutcome)⟩ }
  | variadic op operands =>
    obtain ⟨nonempty, slotsValid⟩ := validate_variadic.mp valid
    obtain ⟨after, -, runs⟩ := gives session calm
    rw [traceNode, if_neg (by simpa using nonempty)] at runs
    obtain ⟨⟨children, result⟩, middle, operandsGive, -, runs⟩ :=
      (traceOperands_steady (scope.fetch_steady rows) op _ operands).of_bind_ok calm runs
    cases runs
    obtain ⟨visits, recorded⟩ := visits_of_operands calm nonempty slotsValid operandsGive
    exact {
      mirrors := .variadic
      slots := recorded
      replays := fun _ => visits.recompute.symm
      shortCircuits := by
        rintro _ _ ⟨⟩
        exact visits.shortCircuits
      noSkip := fun notVariadic => absurd rfl (notVariadic op operands) }

/-- Every node that was evaluated has the trace that its part of the formula has alone. -/
theorem traceOf_of_records (calm : session.Calm rows) {formula part : Expression}
    {trace piece : Trace} (traceOf : scope.TraceOf rows formula trace)
    (records : trace.Records formula part piece) : scope.TraceOf rows part piece := by
  induction records with
  | root => exact traceOf
  | @operand part operand piece child index _ slot placed evaluated ih =>
    have recorded : scope.Recorded rows (some operand) child := by
      have slots := (faithful_of_traceOf calm ih).slots
      obtain ⟨inside, isOperand⟩ := List.getElem?_eq_some_iff.mp slot
      obtain ⟨alsoInside, isChild⟩ := List.getElem?_eq_some_iff.mp placed
      have atIndex := slots.get inside alsoInside
      rwa [List.get_eq_getElem, List.get_eq_getElem, isOperand, isChild] at atIndex
    rcases recorded with isSkipped | ⟨same, isSame, sameTrace⟩
    · exact absurd isSkipped evaluated
    · cases isSame
      exact sameTrace

end Ingest.Scope

namespace Expression

/-- If a formula has a trace on a payload and rows that no failure is to come to, then every node
that was evaluated has the form of the part of the formula at its place. It has one operand for
each slot in order, which was skipped or is the trace of the formula in that slot alone, and its
value can be computed again from what the operands left behind. The operands of a connective that
were evaluated stand first, all but the last of them left the result open, and an operand was
skipped if and only if one before it had settled the result. No other operand was skipped. -/
theorem trace_faithful {scope : Ingest.Scope} {session after : Ingest.Session}
    {formula : Expression} {trace : Trace} (noFailure : session.store.failures = 0)
    (traces : (formula.trace scope.accessor).runFrom session = (.ok trace, after)) :
    ∀ part piece, trace.Records formula part piece →
      scope.Faithful session.store.rows part piece := by
  intro part piece records
  have calm : session.Calm session.store.rows := ⟨rfl, noFailure⟩
  have traceOf : scope.TraceOf session.store.rows formula trace :=
    (trace_steady (scope.fetch_steady _) formula).gives calm traces
  exact Ingest.Scope.faithful_of_traceOf calm (Ingest.Scope.traceOf_of_records calm traceOf records)

end Expression

namespace Shop

/-- The address is known, and the customer is not verified. -/
def doubts : Expression :=
  .variadic .and [some (.payload .bool "known"),
    some (.not (some (.stored .bool ["customer"] "verified"))), some (.payload .bool "known")]

/-- The address is not known, or there are doubts, which are looked at once more behind a literal
that is true. -/
def suspicion : Expression :=
  .variadic .or [some (.not (some (.payload .bool "known"))), some doubts, some (.bool true),
    some doubts]

/-- The trace of the doubts about the order. -/
def doubtsTrace : Trace :=
  .variadic "AND" [.leaf "$known" (.bool true),
    .unary "NOT" (.leaf "$customer.verified" (.bool true)) (.bool false), .skipped] (.bool false)

/-- The trace of the suspicion of the order. -/
def suspicionTrace : Trace :=
  .variadic "OR" [.unary "NOT" (.leaf "$known" (.bool true)) (.bool false), doubtsTrace,
    .leaf "true" (.bool true), .skipped] (.bool true)

/-- The doubts are settled by their second operand, and the suspicion by its third one. -/
theorem trace_faithful_doubts :
    let calm : Ingest.Session := .start (session.store.failReads 0)
    let scope : Ingest.Scope := ⟨⟨3⟩, model, order⟩
    calm.store.failures = 0 ∧
    (∃ after, (suspicion.trace scope.accessor).runFrom calm = (.ok suspicionTrace, after)) ∧
    scope.Faithful calm.store.rows suspicion suspicionTrace ∧
    scope.Faithful calm.store.rows doubts doubtsTrace := by
  intro calm scope
  have traces : ∃ after, (suspicion.trace scope.accessor).runFrom calm =
      (.ok suspicionTrace, after) := ⟨_, rfl⟩
  obtain ⟨after, runs⟩ := traces
  have slot : suspicion.operands[1]? = some (some doubts) := rfl
  have placed : suspicionTrace.children[1]? = some doubtsTrace := rfl
  have inside : suspicionTrace.Records suspicion doubts doubtsTrace :=
    .operand .root slot placed (fun isSkipped => nomatch isSkipped)
  exact ⟨rfl, ⟨after, runs⟩, Expression.trace_faithful rfl runs _ _ .root,
    Expression.trace_faithful rfl runs _ _ inside⟩

end Shop

end RiskScoring
