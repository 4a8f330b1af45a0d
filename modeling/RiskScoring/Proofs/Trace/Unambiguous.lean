import RiskScoring.Proofs.Trace.Grouping
import RiskScoring.Proofs.Trace.Shape

/-!
# Explanations are unambiguous

An explanation tells how the trace groups its operators and operands: parentheses are missing only
where the grouping makes no difference or the levels of the operators decide it.

* `Trace.grouping`: a trace without outcomes and skipped operands, its connectives spliced.
* `Trace.IsPlain`: the texts of leaves that stand for themselves.
* `Trace.Shaped.grouping_normal`, `Trace.Shaped.explainUnder_eq`: the explanation of a trace is the
  line of its grouping, which is normal.
* `Trace.explanation_eq_iff`: the statement.
-/

namespace RiskScoring

namespace Grouping

/-- The operands that a tree has as an operand of a connective: its own if it is of the same
connective. -/
def inlined (op : String) : Grouping → List Grouping
  | variadic inner operands => if inner = op then operands else [variadic inner operands]
  | other => [other]

/-- Operands joined by a connective. A single one stands for itself. -/
def join (op : String) : List Grouping → Grouping
  | [single] => single
  | operands => variadic op (operands.flatMap (inlined op))

end Grouping

namespace Trace

mutual

/-- How a trace groups its operators and operands, whatever they left behind. -/
def grouping : Trace → Grouping
  | variadic op operands _ => .join op (groupings operands)
  | binary op left right _ => .binary op (grouping left) (grouping right)
  | unary op child _ => .unary op (grouping child)
  | leaf source _ => .leaf source
  -- Only operands of connectives are skipped, and there they are left out.
  | skipped => .leaf ""

/-- The groupings of the operands that were evaluated. -/
def groupings : List Trace → List Grouping
  | [] => []
  | operand :: rest =>
    if operand.isSkipped then groupings rest else grouping operand :: groupings rest

end

/-- A text that is shown as it is, and is not taken for an operator. -/
structure IsPlain (source : String) : Prop extends Grouping.IsLeafWord source where
  noRead : source.toList.head? ≠ some '$'

/-! ## Operands that were evaluated -/

/-- The operands that were evaluated. -/
def evaluated (operands : List Trace) : List Trace :=
  operands.filter fun operand => !operand.isSkipped

theorem isSkipped_iff {trace : Trace} : trace.isSkipped = true ↔ trace = .skipped := by
  cases trace <;> simp [isSkipped]

theorem mem_evaluated {operands : List Trace} {operand : Trace} :
    operand ∈ evaluated operands ↔ operand ∈ operands ∧ operand ≠ .skipped := by
  rw [evaluated, List.mem_filter, Bool.not_eq_true', ← Bool.not_eq_true, isSkipped_iff]

theorem groupings_eq (operands : List Trace) :
    groupings operands = (evaluated operands).map grouping := by
  induction operands with
  | nil => rfl
  | cons operand rest ih =>
    rw [groupings, evaluated, List.filter_cons, ih]
    cases operand.isSkipped <;> rfl

theorem groupings_ne_nil {operands : List Trace}
    (visits : ∃ operand ∈ operands, operand ≠ .skipped) : groupings operands ≠ [] := by
  obtain ⟨operand, listed, notSkipped⟩ := visits
  have isEvaluated : operand ∈ evaluated operands := mem_evaluated.mpr ⟨listed, notSkipped⟩
  rw [groupings_eq]
  exact List.ne_nil_of_mem (List.mem_map_of_mem isEvaluated)

theorem forall_mem_groupings {operands : List Trace} {good : Grouping → Prop}
    (each : ∀ operand ∈ operands, operand ≠ .skipped → good operand.grouping) :
    ∀ part ∈ groupings operands, good part := by
  intro part listed
  rw [groupings_eq] at listed
  obtain ⟨operand, isEvaluated, rfl⟩ := List.mem_map.mp listed
  obtain ⟨isOperand, notSkipped⟩ := mem_evaluated.mp isEvaluated
  exact each operand isOperand notSkipped

theorem explainOperands_eq (parent : Nat) (operands : List Trace) :
    explainOperands parent operands = (evaluated operands).map (explainUnder parent) := by
  induction operands with
  | nil => rfl
  | cons operand rest ih =>
    rw [explainOperands, evaluated, List.filter_cons, ih]
    cases operand.isSkipped <;> rfl

theorem visited_eq (operands : List Trace) : visited operands = (evaluated operands).length :=
  List.countP_eq_length_filter

end Trace

/-! ## Splicing -/

namespace Grouping

open Trace (operatorPrecedence)

namespace Normal

variable {grouping : Grouping} {op : Connective}

theorem inlined_ne_nil (normal : grouping.Normal) (op : String) : grouping.inlined op ≠ [] := by
  cases normal with
  | @variadic inner operands several each spliced =>
    rw [inlined]
    split
    · exact List.ne_nil_of_length_pos (by omega)
    · exact List.cons_ne_nil _ _
  | _ => exact List.cons_ne_nil _ _

/-- The operands that a normal tree has under a connective are normal, and not of that
connective. -/
theorem of_mem_inlined (normal : grouping.Normal) {part : Grouping}
    (listed : part ∈ grouping.inlined op.name) :
    part.Normal ∧ ∀ inner, part ≠ .variadic op.name inner := by
  cases normal with
  | @variadic inner operands several each spliced =>
    rw [inlined] at listed
    split at listed
    · rename_i same
      exact ⟨each part listed, same ▸ spliced part listed⟩
    · rename_i different
      obtain rfl := List.mem_singleton.mp listed
      refine ⟨.variadic inner several each spliced, fun _ isSame => different ?_⟩
      injection isSame
  | leaf isLeaf =>
    obtain rfl := List.mem_singleton.mp listed
    exact ⟨.leaf isLeaf, fun _ isVariadic => nomatch isVariadic⟩
  | unary operand =>
    obtain rfl := List.mem_singleton.mp listed
    exact ⟨.unary operand, fun _ isVariadic => nomatch isVariadic⟩
  | binary symbol first second =>
    obtain rfl := List.mem_singleton.mp listed
    exact ⟨.binary symbol first second, fun _ isVariadic => nomatch isVariadic⟩

/-- Normal operands are joined to a normal tree. -/
theorem join {operands : List Grouping} (op : Connective) (nonempty : operands ≠ [])
    (each : ∀ operand ∈ operands, operand.Normal) : (Grouping.join op.name operands).Normal := by
  have parts : ∀ part ∈ operands.flatMap (inlined op.name),
      part.Normal ∧ ∀ inner, part ≠ .variadic op.name inner := by
    intro part listed
    obtain ⟨operand, isOperand, inside⟩ := List.mem_flatMap.mp listed
    exact (each operand isOperand).of_mem_inlined inside
  rcases operands with _ | ⟨first, _ | ⟨second, rest⟩⟩
  · exact absurd rfl nonempty
  · exact each first List.mem_cons_self
  · refine .variadic op ?_ (fun part listed => (parts part listed).1)
      (fun part listed => (parts part listed).2)
    have one := List.length_pos_iff.mpr ((each first (by simp)).inlined_ne_nil op.name)
    have another := List.length_pos_iff.mpr ((each second (by simp)).inlined_ne_nil op.name)
    rw [List.flatMap_cons, List.flatMap_cons, List.length_append, List.length_append]
    omega

/-- An operand of the same connective is written as its own operands are. -/
theorem pieces_inlined (normal : grouping.Normal) (op : Connective) :
    [.word op.name].intercalate
        ((grouping.inlined op.name).map (piecesUnder (operatorPrecedence op.name))) =
      grouping.piecesUnder (operatorPrecedence op.name) := by
  have bounds := precedence_name op
  cases normal with
  | @variadic inner operands several each spliced =>
    rw [inlined]
    split
    · rename_i same
      rw [piecesUnder_eq _ (by omega), pieces_variadic, level, same, enclose, if_neg (by simp)]
    · exact List.intercalate_singleton
  | _ => exact List.intercalate_singleton

end Normal

theorem intercalate_append {α : Type} {separator : List α} {front back : List (List α)}
    (nonempty : front ≠ []) (alsoNonempty : back ≠ []) :
    separator.intercalate (front ++ back) =
      separator.intercalate front ++ separator ++ separator.intercalate back := by
  induction front with
  | nil => exact absurd rfl nonempty
  | cons row rest ih =>
    by_cases isLast : rest = []
    · rw [isLast, List.intercalate_singleton, List.singleton_append,
        List.intercalate_cons_of_ne_nil alsoNonempty]
    · rw [List.cons_append, List.intercalate_cons_of_ne_nil (by simp [isLast]), ih isLast,
        List.intercalate_cons_of_ne_nil isLast]
      simp only [List.append_assoc]

/-- Splicing does not change what is written. -/
theorem intercalate_inlined (op : Connective) {operands : List Grouping}
    (each : ∀ operand ∈ operands, operand.Normal) :
    [.word op.name].intercalate
        ((operands.flatMap (inlined op.name)).map (piecesUnder (operatorPrecedence op.name))) =
      [.word op.name].intercalate
        (operands.map (piecesUnder (operatorPrecedence op.name))) := by
  induction operands with
  | nil => rfl
  | cons operand rest ih =>
    obtain ⟨normal, others⟩ := List.forall_mem_cons.mp each
    by_cases isLast : rest = []
    · rw [isLast, List.flatMap_singleton, normal.pieces_inlined op, List.map_singleton,
        List.intercalate_singleton]
    · obtain ⟨next, behind, rfl⟩ := List.exists_cons_of_ne_nil isLast
      have begins : (operand.inlined op.name).map
          (piecesUnder (operatorPrecedence op.name)) ≠ [] := by
        simpa using normal.inlined_ne_nil op.name
      have goesOn : ((next :: behind).flatMap (inlined op.name)).map
          (piecesUnder (operatorPrecedence op.name)) ≠ [] := by
        have nonempty := (others next List.mem_cons_self).inlined_ne_nil op.name
        simp [List.flatMap_cons, nonempty]
      rw [List.flatMap_cons, List.map_append, intercalate_append begins goesOn, ih others,
        normal.pieces_inlined op, List.map_cons (a := operand),
        List.intercalate_cons_of_ne_nil (by simp)]

theorem line_enclose (needed : Bool) (pieces : List Piece) :
    Piece.line (enclose needed pieces) = Trace.parenthesize needed (Piece.line pieces) := by
  cases needed with
  | false => rfl
  | true => exact Piece.line_group pieces

/-- The line of joined operands is made of the lines of the operands. -/
theorem line_join (op : Connective) {operands : List Grouping} (nonempty : operands ≠ [])
    (each : ∀ operand ∈ operands, operand.Normal) (parent : Nat) :
    Piece.line ((join op.name operands).piecesUnder parent) =
      if operands.length = 1 then
        "".intercalate (operands.map fun operand => Piece.line (operand.piecesUnder parent))
      else
        Trace.parenthesize (decide (operatorPrecedence op.name < parent))
          ((" " ++ op.name ++ " ").intercalate (operands.map fun operand =>
            Piece.line (operand.piecesUnder (operatorPrecedence op.name)))) := by
  have bounds := precedence_name op
  rcases operands with _ | ⟨first, _ | ⟨second, rest⟩⟩
  · exact absurd rfl nonempty
  · -- A single operand takes the place of the connective, below the operator above it.
    rw [if_pos List.length_singleton, List.map_singleton, String.intercalate_singleton, join]
  · have rows : ∀ row ∈ (first :: second :: rest).map
        (piecesUnder (operatorPrecedence op.name)), row ≠ [] :=
      List.forall_mem_map.mpr fun part listed => (each part listed).piecesUnder_ne_nil (by omega)
    have joined : join op.name (first :: second :: rest) =
        .variadic op.name ((first :: second :: rest).flatMap (inlined op.name)) := rfl
    rw [if_neg (by simp), joined, piecesUnder, piecesOfEach_eq, intercalate_inlined op each,
      line_enclose, ← Piece.line_intercalate op.name rows, List.map_map]
    rfl

end Grouping

/-! ## Traces -/

namespace Trace

open Grouping

namespace Shaped

variable {trace : Trace}

/-- The grouping of a trace is normal. -/
theorem grouping_normal (shaped : trace.Shaped IsPlain) : trace.grouping.Normal := by
  induction shaped with
  | leaf isPlain => exact .leaf isPlain.toIsLeafWord
  | unary _ ih => exact .unary ih
  | binary op _ _ firstNormal secondNormal => exact .binary op firstNormal secondNormal
  | variadic op visits _ ih =>
    rw [grouping]
    exact .join op (groupings_ne_nil visits) (forall_mem_groupings ih)

/-- The text of a trace is the line of its grouping. -/
theorem explainUnder_eq (shaped : trace.Shaped IsPlain) (parent : Nat) :
    trace.explainUnder parent = Piece.line (trace.grouping.piecesUnder parent) := by
  induction shaped generalizing parent with
  | leaf isPlain =>
    rw [explainUnder, leafText, if_neg isPlain.noRead, grouping, piecesUnder, Piece.line_singleton]
    rfl
  | @unary child outcome operand ih =>
    have goesOn : child.grouping.piecesUnder 8 ≠ [] :=
      operand.grouping_normal.piecesUnder_ne_nil (by omega)
    rw [grouping, piecesUnder, line_enclose, Piece.line_cons goesOn, explainUnder, ← ih 8]
    rfl
  | @binary op left right outcome first second firstText secondText =>
    have bounds := precedence_symbol op
    have begins : left.grouping.piecesUnder (operatorPrecedence op.symbol) ≠ [] :=
      first.grouping_normal.piecesUnder_ne_nil (by omega)
    have goesOn : right.grouping.piecesUnder (operatorPrecedence op.symbol + 1) ≠ [] :=
      second.grouping_normal.piecesUnder_ne_nil (by omega)
    rw [grouping, piecesUnder, line_enclose, Piece.line_append begins (List.cons_ne_nil _ _),
      Piece.line_cons goesOn, explainUnder, ← firstText, ← secondText]
    simp only [String.append_assoc]
    rfl
  | @variadic op operands outcome visits each ih =>
    have normal : ∀ part ∈ groupings operands, part.Normal :=
      forall_mem_groupings fun operand listed notSkipped =>
        (each operand listed notSkipped).grouping_normal
    have texts : ∀ parent, explainOperands parent operands =
        (groupings operands).map fun part => Piece.line (part.piecesUnder parent) := by
      intro parent
      rw [explainOperands_eq, groupings_eq, List.map_map]
      refine List.map_congr_left fun operand isEvaluated => ?_
      obtain ⟨listed, notSkipped⟩ := mem_evaluated.mp isEvaluated
      exact ih operand listed notSkipped parent
    have count : visited operands = (groupings operands).length := by
      rw [visited_eq, groupings_eq, List.length_map]
    rw [explainUnder, count, texts, texts, grouping, line_join op (groupings_ne_nil visits) normal]
    rfl

end Shaped

/-- Two traces of the form that evaluation leaves behind, whose leaves are words of their own, have
the same explanation if and only if they group the same operators and operands in the same way. The
outcomes and the operands that were skipped make no difference, a connective with one evaluated
operand stands for that operand, and one inside of the same connective stands for its operands.
Everything else is told by the explanation. -/
theorem explanation_eq_iff {one other : Trace} (shaped : one.Shaped IsPlain)
    (alsoShaped : other.Shaped IsPlain) :
    one.explanation = other.explanation ↔ one.grouping = other.grouping := by
  rw [explanation, explanation, shaped.explainUnder_eq, alsoShaped.explainUnder_eq]
  constructor
  · intro sameLine
    have samePieces := congrArg Piece.read sameLine
    rw [Piece.read_line (shaped.grouping_normal.readable 0),
      Piece.read_line (alsoShaped.grouping_normal.readable 0)] at samePieces
    exact shaped.grouping_normal.pieces_inj alsoShaped.grouping_normal samePieces
  · intro sameGrouping
    rw [sameGrouping]

end Trace

/-- Literals that are true or false are words of their own. -/
theorem Trace.isPlain_bool (value : Bool) : IsPlain (Value.bool value).text := by
  cases value <;> exact ⟨⟨⟨by decide, by decide⟩, by decide⟩, by decide⟩

namespace Shop

/-- Two truth values are the same. -/
def same (left right : Expression) : Expression := .binary .equalBool (some left) (some right)

/-- A conjunction in a conjunction. -/
def nestedConjunction : Expression :=
  .variadic .and [some (.bool true),
    some (.variadic .and [some (same (.bool true) (.bool true)), some (.bool true)])]

/-- A conjunction with a disjunction that its first operand settles. -/
def flatConjunction : Expression :=
  .variadic .and [some (.variadic .or [some (.bool true), some (.bool false)]),
    some (same (.bool true) (.bool true)), some (.bool true)]

/-- The traces of the two conjunctions have one explanation. Those of comparisons that are grouped
to the left and to the right have not. -/
theorem explanation_eq_iff_conjunctions :
    let idle : Accessor Unit := ⟨fun _ => pure none, fun _ _ _ => pure (), fun _ _ => pure none⟩
    let leftmost := same (same (.bool true) (.bool false)) (.bool false)
    let rightmost := same (.bool true) (same (.bool false) (.bool false))
    (∃ one other, (nestedConjunction.trace idle).runFrom () = (.ok one, ()) ∧
      (flatConjunction.trace idle).runFrom () = (.ok other, ()) ∧
      one.explanation = "true AND true == true AND true" ∧
      one.explanation = other.explanation) ∧
    ∃ one other, (leftmost.trace idle).runFrom () = (.ok one, ()) ∧
      (rightmost.trace idle).runFrom () = (.ok other, ()) ∧
      one.explanation ≠ other.explanation := by
  intro idle leftmost rightmost
  have plain : ∀ formula ∈ [nestedConjunction, flatConjunction, leftmost, rightmost],
      ∀ source, formula.HasSource source → Trace.IsPlain source := by
    simp [nestedConjunction, flatConjunction, leftmost, rightmost, same, or_imp, forall_and,
      Trace.isPlain_bool]
  have shaped : ∀ formula ∈ [nestedConjunction, flatConjunction, leftmost, rightmost],
      ∀ trace after, (formula.trace idle).runFrom () = (.ok trace, after) →
        trace.Shaped Trace.IsPlain := fun formula listed trace after runs =>
    formula.trace_shaped idle (plain formula listed) () trace after runs
  refine ⟨⟨_, _, rfl, rfl, by decide, ?_⟩, ⟨_, _, rfl, rfl, ?_⟩⟩
  · exact (Trace.explanation_eq_iff (shaped nestedConjunction (by simp) _ _ rfl)
      (shaped flatConjunction (by simp) _ _ rfl)).mpr rfl
  · have differs := Trace.explanation_eq_iff (shaped leftmost (by simp) _ _ rfl)
      (shaped rightmost (by simp) _ _ rfl)
    intro sameText
    cases differs.mp sameText

end Shop

end RiskScoring
