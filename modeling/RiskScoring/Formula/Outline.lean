import RiskScoring.Formula.Basic

/-!
# Formulas as outlines

`Expression.outline` draws a formula as a tree, one node a line, with branches to the operands.
-/

namespace RiskScoring

namespace Expression

/-- The line of a node. -/
def label : Expression → String
  | string value => s!"{Operator.string} {Value.string value}"
  | float value => s!"{Operator.float} {Value.float value}"
  | stringList items => s!"{Operator.stringList} {Value.stringList items}"
  | payload type name => s!"{Operator.payload type} {FieldRead.payload type name}"
  | stored type path name => s!"{Operator.stored type} {FieldRead.stored type path name}"
  | formula => formula.operator.name

mutual

/-- The node and what hangs below it; every line but the first starts with `margin`. -/
def outlineFrom (margin : String) : Expression → String
  | not operand => label (not operand) ++ "\n" ++ outlineSlot margin true operand
  | binary op left right =>
    label (binary op left right) ++ "\n" ++ outlineSlot margin false left ++
      outlineSlot margin true right
  | variadic op operands =>
    label (variadic op operands) ++ "\n" ++ outlineSlots margin operands
  | formula => label formula ++ "\n"

/-- A slot with the branch that leads to it. -/
def outlineSlot (margin : String) (isLast : Bool) : Option Expression → String
  | none => margin ++ (if isLast then "└── " else "├── ") ++ "<null>\n"
  | some operand =>
    margin ++ (if isLast then "└── " else "├── ") ++
      outlineFrom (margin ++ (if isLast then "    " else "│   ")) operand

/-- A row of slots. -/
def outlineSlots (margin : String) : List (Option Expression) → String
  | [] => ""
  | slot :: rest => outlineSlot margin rest.isEmpty slot ++ outlineSlots margin rest

end

/-- The formula as a tree, one node a line. -/
def outline (formula : Expression) : String := outlineFrom "" formula

end Expression

end RiskScoring
