import Mathlib.Data.List.Perm.Basic
import RiskScoring.Proofs.Evaluation.Lazy

/-!
# The laws of the connectives

A connective reads its operands from left to right and stops at the one that settles it. It makes
no difference how readings of truth values that are put together in this way are bracketed, and
negation exchanges the two ways to do so. Therefore the Boolean laws that keep the order of the
operands hold for whole evaluations: for the value or the error, for the state that is left, and for
what was read.

* `Connective.andThen`, `Connective.inOrder`: readings of truth values, put together.
* `Connective.andThen_assoc`, `Connective.dual_andThen`: the laws of putting them together.
* `Expression.IsCondition.evaluateBool_variadic`: a connective puts its operands together in order.
* `Expression.Interchangeable`: two formulas that no accessor can tell apart.
* `Expression.lazy_boolean_laws`: the laws for formulas.
-/

namespace RiskScoring

variable {σ : Type}

/-! ## Readings of truth values -/

namespace Connective

/-- The connective that negation turns a connective into. -/
def dual : Connective → Connective
  | and => or
  | or => and

@[simp] theorem settledBy_dual (op : Connective) : op.dual.settledBy = !op.settledBy := by
  cases op <;> rfl

/-- Goes on to the second reading unless the first one settles the result. -/
def andThen (op : Connective) (first second : Reading σ Bool) : Reading σ Bool := do
  let value ← first
  if value = op.settledBy then return value else second

/-- Readings one after the other, up to one that settles the result. -/
def inOrder (op : Connective) (readings : List (Reading σ Bool)) : Reading σ Bool :=
  readings.foldr op.andThen (pure !op.settledBy)

variable {op : Connective} {first second third : Reading σ Bool}

@[simp] theorem open_andThen : op.andThen (pure !op.settledBy) second = second := by
  rw [andThen, pure_bind, if_neg (by simp)]

theorem andThen_assoc :
    op.andThen (op.andThen first second) third = op.andThen first (op.andThen second third) := by
  unfold andThen
  rw [bind_assoc]
  refine bind_congr fun value => ?_
  split
  · rename_i settles
    rw [pure_bind, if_pos settles]
  · rfl

/-- Negation takes the one connective to the other. -/
theorem dual_andThen :
    (!·) <$> op.andThen first second = op.dual.andThen ((!·) <$> first) ((!·) <$> second) := by
  unfold andThen
  rw [map_bind, bind_map_left]
  refine bind_congr fun value => ?_
  by_cases settles : value = op.settledBy
  · rw [if_pos settles, if_pos (by simp [settles]), map_pure]
  · rw [if_neg settles, if_neg (by simpa using settles)]

@[simp] theorem inOrder_nil : op.inOrder ([] : List (Reading σ Bool)) = pure !op.settledBy := rfl

@[simp] theorem inOrder_cons (reading : Reading σ Bool) (rest : List (Reading σ Bool)) :
    op.inOrder (reading :: rest) = op.andThen reading (op.inOrder rest) := rfl

theorem inOrder_append (front back : List (Reading σ Bool)) :
    op.inOrder (front ++ back) = op.andThen (op.inOrder front) (op.inOrder back) := by
  induction front with
  | nil => simp
  | cons reading rest ih => rw [List.cons_append, inOrder_cons, ih, inOrder_cons, andThen_assoc]

/-- A row of readings counts as one. -/
theorem inOrder_splice (front readings back : List (Reading σ Bool)) :
    op.inOrder (front ++ op.inOrder readings :: back) =
      op.inOrder (front ++ (readings ++ back)) := by
  rw [inOrder_append, inOrder_cons, inOrder_append, inOrder_append]

theorem dual_inOrder (readings : List (Reading σ Bool)) :
    (!·) <$> op.inOrder readings = op.dual.inOrder (readings.map ((!·) <$> ·)) := by
  induction readings with
  | nil => simp
  | cons reading rest ih => rw [inOrder_cons, dual_andThen, ih, List.map_cons, inOrder_cons]

/-- If every reading has a value whenever it starts from a set of states, the values are
combined. -/
theorem inOrder_gives (op : Connective) {calm : σ → Prop} {readings : List (Reading σ Bool)}
    {values : List Bool}
    (gives : List.Forall₂ (fun reading value => Reading.Gives calm reading (.ok value))
      readings values) :
    (op.inOrder readings).Gives calm (.ok (op.combine values)) := by
  induction gives with
  | nil =>
    have empty : op.combine [] = !op.settledBy := by cases op <;> rfl
    rw [empty]
    exact .pure _
  | @cons reading value rest values first _ ih =>
    refine first.bind_ok ?_
    split
    · rename_i settles
      have settled : op.combine (value :: values) = value := by
        subst settles
        cases op <;> rfl
      rw [settled]
      exact .pure _
    · rename_i isOpen
      rw [Bool.eq_not_of_ne isOpen, combine_cons]
      exact ih

/-- The order of the operands makes no difference for the value. -/
theorem combine_perm {values others : List Bool} (perm : values.Perm others) :
    op.combine values = op.combine others := by
  cases op with
  | and => exact perm.all_eq
  | or => exact perm.any_eq

end Connective

/-! ## Conditions -/

namespace Expression

open Reading

/-- A valid formula that is true or false. -/
structure IsCondition (formula : Expression) : Prop where
  valid : formula.validate = .ok ()
  isBool : formula.returnType = .bool

/-- No accessor can tell the formulas apart, be it the one of a payload, a data model and a store:
from the same state they have the same value or the same error, and they leave the same state
behind. In particular, an accessor that writes down what it is asked for has the same to write. -/
structure Interchangeable (formula other : Expression) : Prop where
  evaluate : ∀ {σ : Type} (accessor : Accessor σ),
    formula.evaluate accessor = other.evaluate accessor
  evaluateBool : ∀ {σ : Type} (accessor : Accessor σ),
    formula.evaluateBool accessor = other.evaluateBool accessor

namespace IsCondition

variable {formula other : Expression} {operands : List Expression} {op : Connective}

theorem not (condition : formula.IsCondition) : (Expression.not (some formula)).IsCondition :=
  ⟨validate_not.mpr (validateSlot_eq_ok.mpr ⟨formula, rfl, condition.isBool, condition.valid⟩), rfl⟩

theorem validateSlots (op : Connective) (index : Nat)
    (conditions : ∀ operand ∈ operands, operand.IsCondition) :
    Expression.validateSlots (.variadic op) index (operands.map some) = .ok () := by
  refine validateSlots_eq_ok.mpr ⟨fun place slot placed => ?_, fun operand listed => ?_⟩
  · obtain ⟨operand, listed, rfl⟩ := List.mem_map.mp (List.mem_of_getElem? placed)
    exact ⟨operand, rfl, (conditions operand listed).isBool⟩
  · obtain ⟨_, listed, ⟨⟩⟩ := List.mem_map.mp listed
    exact (conditions operand listed).valid

theorem variadic (op : Connective) (nonempty : operands ≠ [])
    (conditions : ∀ operand ∈ operands, operand.IsCondition) :
    (Expression.variadic op (operands.map some)).IsCondition :=
  ⟨validate_variadic.mpr ⟨by simpa using nonempty, validateSlots op 0 conditions⟩, rfl⟩

/-- A condition evaluates to the truth value that it gives. -/
theorem evaluate_eq (condition : formula.IsCondition) (accessor : Accessor σ) :
    formula.evaluate accessor = Value.bool <$> formula.evaluateBool accessor := by
  rw [evaluateBool, map_bind]
  refine (bind_pure _).symm.trans ((evaluate_sound condition.valid).bind_congr ?_)
  intro value type
  rw [condition.isBool] at type
  cases value with
  | bool value => rfl
  | _ => cases type

/-- The operand of a node that asks for a truth value gives it what it gives alone. -/
theorem boolOutcome_of_slot (condition : formula.IsCondition) (accessor : Accessor σ)
    (label : String) :
    (traceSlot accessor label (some formula) >>= fun trace =>
      liftExcept (trace.boolOutcome label)) = formula.evaluateBool accessor := by
  rw [traceSlot, evaluateBool, evaluate, trace_of_valid condition.valid, bind_assoc]
  refine (traceNode_sound accessor formula condition.valid).bind_congr fun trace hasType => ?_
  rw [condition.isBool] at hasType
  obtain ⟨value, truth⟩ := hasType.boolOutcome label
  rw [truth, Trace.outcome_of_outcomeAs Value.sees_bool truth]
  rfl

theorem interchangeable (condition : formula.IsCondition) (alsoCondition : other.IsCondition)
    (same : ∀ {σ : Type} (accessor : Accessor σ),
      formula.evaluateBool accessor = other.evaluateBool accessor) :
    formula.Interchangeable other where
  evaluate accessor := by
    rw [condition.evaluate_eq, alsoCondition.evaluate_eq, same]
  evaluateBool := same

theorem evaluateBool_not (condition : formula.IsCondition) (accessor : Accessor σ) :
    (Expression.not (some formula)).evaluateBool accessor =
      (!·) <$> formula.evaluateBool accessor := by
  rw [evaluateBool, evaluate, trace_of_valid condition.not.valid, traceNode,
    ← condition.boolOutcome_of_slot accessor Operator.not.name]
  simp only [bind_assoc, map_bind, pure_bind]
  rfl

/-- The operands of a connective are read in order. -/
theorem traceOperands_eq (op : Connective) (accessor : Accessor σ)
    (conditions : ∀ operand ∈ operands, operand.IsCondition) :
    Prod.snd <$> traceOperands accessor op (!op.settledBy) (operands.map some) =
      op.inOrder (operands.map (·.evaluateBool accessor)) := by
  induction operands with
  | nil =>
    rw [List.map_nil, traceOperands]
    rfl
  | cons operand rest ih =>
    obtain ⟨condition, others⟩ := List.forall_mem_cons.mp conditions
    rw [List.map_cons, traceOperands, if_neg (by simp), List.map_cons, Connective.inOrder_cons,
      Connective.andThen, ← condition.boolOutcome_of_slot accessor op.name]
    simp only [bind_assoc, map_bind, map_pure]
    refine bind_congr fun trace => bind_congr fun value => ?_
    have kept := map_eq_pure_bind Prod.snd (traceOperands accessor op value (rest.map some))
    refine kept.symm.trans ?_
    split
    · -- The operands that remain are skipped: nothing is read for them.
      rename_i settles
      subst settles
      rw [traceOperands_settled]
      rfl
    · rename_i isOpen
      rw [Bool.eq_not_of_ne isOpen]
      exact ih others

/-- A connective puts the readings of its operands together in order. -/
theorem evaluateBool_variadic (op : Connective) (nonempty : operands ≠ [])
    (conditions : ∀ operand ∈ operands, operand.IsCondition) (accessor : Accessor σ) :
    (Expression.variadic op (operands.map some)).evaluateBool accessor =
      op.inOrder (operands.map (·.evaluateBool accessor)) := by
  rw [evaluateBool, evaluate, trace_of_valid (variadic op nonempty conditions).valid, traceNode,
    if_neg (by simpa using nonempty), ← traceOperands_eq op accessor conditions]
  simp only [bind_assoc, pure_bind, map_eq_pure_bind]
  rfl

end IsCondition

variable {operands : List Expression}

/-- Negation turns a connective of conditions into the dual one of the negated conditions. -/
theorem interchangeable_dual (op : Connective) (nonempty : operands ≠ [])
    (conditions : ∀ operand ∈ operands, operand.IsCondition) :
    (not (some (variadic op (operands.map some)))).Interchangeable
      (variadic op.dual (operands.map fun operand => some (not (some operand)))) := by
  have connected := IsCondition.variadic op nonempty conditions
  have negated : ∀ operand ∈ operands.map fun operand => not (some operand),
      operand.IsCondition := by
    intro operand listed
    obtain ⟨inner, innerListed, rfl⟩ := List.mem_map.mp listed
    exact (conditions inner innerListed).not
  have alsoNonempty : (operands.map fun operand => not (some operand)) ≠ [] := by
    simpa using nonempty
  have slots : (operands.map fun operand => some (not (some operand))) =
      (operands.map fun operand => not (some operand)).map some := by
    rw [List.map_map]
    rfl
  rw [slots]
  refine connected.not.interchangeable (.variadic op.dual alsoNonempty negated) fun accessor => ?_
  rw [connected.evaluateBool_not, IsCondition.evaluateBool_variadic op nonempty conditions,
    IsCondition.evaluateBool_variadic op.dual alsoNonempty negated, Connective.dual_inOrder,
    List.map_map, List.map_map]
  refine congrArg _ (List.map_congr_left fun operand listed => ?_)
  exact ((conditions operand listed).evaluateBool_not accessor).symm

/-- A connective among the operands of the same connective makes way for its own operands. -/
theorem interchangeable_splice (op : Connective) {front inner back : List Expression}
    (nonempty : inner ≠ [])
    (conditions : ∀ operand ∈ front ++ (inner ++ back), operand.IsCondition) :
    (variadic op ((front ++ variadic op (inner.map some) :: back).map some)).Interchangeable
      (variadic op ((front ++ (inner ++ back)).map some)) := by
  obtain ⟨frontConditions, others⟩ := List.forall_mem_append.mp conditions
  obtain ⟨innerConditions, backConditions⟩ := List.forall_mem_append.mp others
  have nested : ∀ operand ∈ front ++ variadic op (inner.map some) :: back, operand.IsCondition :=
    List.forall_mem_append.mpr ⟨frontConditions,
      List.forall_mem_cons.mpr ⟨.variadic op nonempty innerConditions, backConditions⟩⟩
  have flatNonempty : front ++ (inner ++ back) ≠ [] := by simp [nonempty]
  refine (IsCondition.variadic op (by simp) nested).interchangeable
    (.variadic op flatNonempty conditions) fun accessor => ?_
  rw [IsCondition.evaluateBool_variadic op (by simp) nested,
    IsCondition.evaluateBool_variadic op flatNonempty conditions, List.map_append, List.map_cons,
    IsCondition.evaluateBool_variadic op nonempty innerConditions, Connective.inOrder_splice,
    List.map_append, List.map_append]

/-- Without failures, operands that all have a value alone have their combined value, in whatever
order they stand. -/
theorem evaluate_of_values (op : Connective) {scope : Ingest.Scope} {session : Ingest.Session}
    {others : List Expression} {values : List Bool} (noFailure : session.store.failures = 0)
    (nonempty : operands ≠ []) (conditions : ∀ operand ∈ operands, operand.IsCondition)
    (alone : List.Forall₂ (fun operand value => ∃ after,
      (operand.evaluate scope.accessor).runFrom session = (.ok (.bool value), after))
      operands values) (reordered : others.Perm operands) :
    ∃ after, ((variadic op (others.map some)).evaluate scope.accessor).runFrom session =
      (.ok (.bool (op.combine values)), after) := by
  let calm := Ingest.Session.Calm session.store.rows
  have isCalm : calm session := ⟨rfl, noFailure⟩
  obtain ⟨otherValues, alsoAlone, permuted⟩ := List.perm_comp_forall₂ reordered alone
  have alsoNonempty : others ≠ [] := fun empty => nonempty (by simpa [empty] using reordered)
  have alsoConditions : ∀ operand ∈ others, operand.IsCondition :=
    fun operand listed => conditions operand (reordered.mem_iff.mp listed)
  have gives : List.Forall₂ (fun reading value => Reading.Gives calm reading (.ok value))
      (others.map (·.evaluateBool scope.accessor)) otherValues := by
    rw [List.forall₂_map_left_iff]
    refine alsoAlone.imp fun operand value ⟨after, ends⟩ => ?_
    have steady : (operand.evaluateBool scope.accessor).Steady calm :=
      evaluateBool_related scope.accessor scope.accessor steady_parametric (scope.fetch_steady _)
        operand
    have truth : (operand.evaluateBool scope.accessor).runFrom session = (.ok value, after) := by
      rw [evaluateBool, runFrom_bind_ok ends]
      rfl
    exact steady.gives isCalm truth
  obtain ⟨after, -, ends⟩ := Connective.inOrder_gives op gives session isCalm
  refine ⟨after, ?_⟩
  rw [(IsCondition.variadic op alsoNonempty alsoConditions).evaluate_eq,
    IsCondition.evaluateBool_variadic op alsoNonempty alsoConditions, map_eq_pure_bind,
    runFrom_bind_ok ends, ← Connective.combine_perm permuted]
  rfl

/-- The laws of the connectives for conditions. The negation of a connective and the dual connective
of the negated operands cannot be told apart by any accessor, from any state: they have the same
value or the same error, and they ask for the same in the same order. Neither can a connective with
an operand of the same connective, at any place, and the one that has the operands of that operand
instead. And without failures to come, operands that each have a truth value alone have, in whatever
order they stand, the conjunction or the disjunction of all their values. -/
theorem lazy_boolean_laws (op : Connective) :
    (∀ operands : List Expression, operands ≠ [] →
      (∀ operand ∈ operands, operand.IsCondition) →
      (not (some (variadic op (operands.map some)))).Interchangeable
        (variadic op.dual (operands.map fun operand => some (not (some operand))))) ∧
    (∀ front inner back : List Expression, inner ≠ [] →
      (∀ operand ∈ front ++ (inner ++ back), operand.IsCondition) →
      (variadic op ((front ++ variadic op (inner.map some) :: back).map some)).Interchangeable
        (variadic op ((front ++ (inner ++ back)).map some))) ∧
    ∀ (scope : Ingest.Scope) (session : Ingest.Session) (operands others : List Expression)
      (values : List Bool), session.store.failures = 0 → operands ≠ [] →
      (∀ operand ∈ operands, operand.IsCondition) →
      List.Forall₂ (fun operand value => ∃ after,
        (operand.evaluate scope.accessor).runFrom session = (.ok (.bool value), after))
        operands values →
      others.Perm operands →
      ∃ after, ((variadic op (others.map some)).evaluate scope.accessor).runFrom session =
        (.ok (.bool (op.combine values)), after) :=
  ⟨fun _ => interchangeable_dual op, fun _ _ _ => interchangeable_splice op,
    fun _ _ _ _ _ => evaluate_of_values op⟩

end Expression

namespace Shop

/-- The customer of the order is verified. -/
def verified : Expression := .stored .bool ["customer"] "verified"

/-- The read of the customer is to fail: then the negated conjunction and the disjunction of the
negations fail alike, and after the same calls. Without that failure the operands have their values
in either order. -/
theorem lazy_boolean_laws_verified :
    let scope : Ingest.Scope := ⟨⟨3⟩, model, order⟩
    let calm : Ingest.Session := .start (session.store.failReads 0)
    let known : Expression := .payload .bool "known"
    let negated : Expression := .not (some (.variadic .and [some known, some verified]))
    let spread : Expression :=
      .variadic .or [some (.not (some known)), some (.not (some verified))]
    (∃ after, ((negated.evaluate scope.accessor.logged).runFrom (session, []) =
        (.error (.readFailed .readFailed), after,
          [.payload "known", .check ["customer"] "verified" .bool,
            .stored ["customer"] "verified"]) ∧
      (spread.evaluate scope.accessor.logged).runFrom (session, []) =
        (negated.evaluate scope.accessor.logged).runFrom (session, []))) ∧
    (Expression.variadic .or [some known, some spread]).Interchangeable
      (.variadic .or [some known, some (.not (some known)), some (.not (some verified))]) ∧
    ∃ after, ((Expression.variadic .and [some verified, some known]).evaluate
      scope.accessor).runFrom calm = (.ok (.bool true), after) := by
  intro scope calm known negated spread
  have isKnown : known.IsCondition := ⟨rfl, rfl⟩
  have isVerified : verified.IsCondition := ⟨rfl, rfl⟩
  have both : ∀ operand ∈ [known, verified], operand.IsCondition := by
    simp [isKnown, isVerified]
  have spliced : ∀ operand ∈ [known] ++ ([.not (some known), .not (some verified)] ++ []),
      Expression.IsCondition operand := by
    simp [isKnown, isKnown.not, isVerified.not]
  refine ⟨⟨_, rfl, ?_⟩, ?_, ?_⟩
  · have law : negated.Interchangeable spread :=
      (Expression.lazy_boolean_laws .and).1 [known, verified] (by simp) both
    rw [law.evaluate]
  · exact (Expression.lazy_boolean_laws .or).2.1 [known]
      [.not (some known), .not (some verified)] [] (by simp) spliced
  · exact (Expression.lazy_boolean_laws .and).2.2 scope calm [known, verified] [verified, known]
      [true, true] rfl (by simp) both (.cons ⟨_, rfl⟩ (.cons ⟨_, rfl⟩ .nil)) (.swap _ _ _)

end Shop

end RiskScoring
