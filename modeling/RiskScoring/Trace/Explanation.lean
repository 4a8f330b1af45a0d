import RiskScoring.Trace.Basic

/-!
# Explanations

A trace in one line. Field reads show the value that was read, operands that were not evaluated are
left out, and parentheses stand only where the order of the operators needs them. A connective with
a single evaluated operand is shown as that operand.
-/

namespace RiskScoring

namespace Trace

/-- Puts a text into parentheses if asked to. -/
def parenthesize (needed : Bool) (text : String) : String :=
  if needed then "(" ++ text ++ ")" else text

/-- The text of a leaf. -/
def leafText (source : String) (value : Value) : String :=
  if source.toList.head? = some '$' then s!"{source} (was {value})" else source

/-- How many operands were evaluated. -/
def visited (operands : List Trace) : Nat := operands.countP fun operand => !operand.isSkipped

mutual

/-- The text of a node below an operator that binds as tightly as `parent`. -/
def explainUnder (parent : Nat) : Trace → String
  | variadic op operands outcome =>
    let own := precedence (variadic op operands outcome)
    if visited operands = 1 then "".intercalate (explainOperands parent operands)
    else
      parenthesize (decide (own < parent))
        ((" " ++ op ++ " ").intercalate (explainOperands own operands))
  | binary op left right outcome =>
    let own := precedence (binary op left right outcome)
    parenthesize (decide (own < parent))
      (explainUnder own left ++ " " ++ op ++ " " ++ explainUnder (own + 1) right)
  | unary op child outcome =>
    let own := precedence (unary op child outcome)
    parenthesize (decide (own < parent)) (op ++ " " ++ explainUnder own child)
  | leaf source value => leafText source value
  | skipped => ""

/-- The texts of the operands that were evaluated. -/
def explainOperands (parent : Nat) : List Trace → List String
  | [] => []
  | operand :: rest =>
    if operand.isSkipped then explainOperands parent rest
    else explainUnder parent operand :: explainOperands parent rest

end

/-- The trace in one line. -/
def explanation (trace : Trace) : String := trace.explainUnder 0

end Trace

end RiskScoring
