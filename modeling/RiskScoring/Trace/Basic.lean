import RiskScoring.Value

/-!
# Traces

A trace records how a formula was evaluated: the value at every node, and which operands were not
evaluated because the result was already settled.
-/

namespace RiskScoring

/-- A record of an evaluation. -/
inductive Trace where
  | variadic (op : String) (operands : List Trace) (outcome : Value)
  | binary (op : String) (left right : Trace) (outcome : Value)
  | unary (op : String) (child : Trace) (outcome : Value)
  | leaf (source : String) (value : Value)
  /-- An operand that was not evaluated. -/
  | skipped

namespace Trace

/-- The value of the node, unless it was skipped. -/
def outcome? : Trace → Option Value
  | variadic _ _ outcome => some outcome
  | binary _ _ _ outcome => some outcome
  | unary _ _ outcome => some outcome
  | leaf _ value => some value
  | skipped => none

/-- Whether the node was skipped. -/
def isSkipped : Trace → Bool
  | skipped => true
  | _ => false

/-- How tightly an operator binds. -/
def operatorPrecedence (op : String) : Nat :=
  if op = "OR" then 1
  else if op = "AND" then 2
  else if op = "==" ∨ op = "IN" then 4
  else if op = ">" ∨ op = ">=" ∨ op = "<" ∨ op = "<=" then 5
  else if op = "+" ∨ op = "-" then 6
  else if op = "*" ∨ op = "/" then 7
  else 0

/-- How tightly the node binds. -/
def precedence : Trace → Nat
  | variadic op _ _ => operatorPrecedence op
  | binary op _ _ _ => operatorPrecedence op
  | unary _ _ _ => 8
  | leaf _ _ => 9
  | skipped => 9

end Trace

end RiskScoring
