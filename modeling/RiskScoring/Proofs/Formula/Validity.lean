import RiskScoring.Formula.Typing

/-!
# What validation says about a formula

One lemma for each kind of node: a valid node has valid operands of the types that it asks for.
-/

namespace RiskScoring

namespace Expression

theorem validate_not {operand : Option Expression} :
    (not operand).validate = .ok () ↔ validateSlot .not 0 operand = .ok () := by
  rw [validate]

theorem validate_binary {op : BinaryOp} {left right : Option Expression} :
    (binary op left right).validate = .ok () ↔
      validateSlot (.binary op) 0 left = .ok () ∧ validateSlot (.binary op) 1 right = .ok () := by
  rw [validate]
  cases validateSlot (.binary op) 0 left with
  | error malformation => simp [bind, Except.bind]
  | ok checked => simp [bind, Except.bind]

theorem validate_variadic {op : Connective} {operands : List (Option Expression)} :
    (variadic op operands).validate = .ok () ↔
      operands ≠ [] ∧ validateSlots (.variadic op) 0 operands = .ok () := by
  rw [validate]
  cases operands with
  | nil => simp
  | cons slot rest => simp

theorem validateSlots_cons {parent : Operator} {index : Nat} {slot : Option Expression}
    {rest : List (Option Expression)} :
    validateSlots parent index (slot :: rest) = .ok () ↔
      validateSlot parent index slot = .ok () ∧
        validateSlots parent (index + 1) rest = .ok () := by
  rw [validateSlots]
  cases validateSlot parent index slot with
  | error malformation => simp [bind, Except.bind]
  | ok checked => simp [bind, Except.bind]

/-- A valid slot holds a valid formula of the type that its place asks for. -/
theorem validateSlot_eq_ok {parent : Operator} {index : Nat} {slot : Option Expression} :
    validateSlot parent index slot = .ok () ↔
      ∃ operand, slot = some operand ∧ operand.returnType = parent.operandType index ∧
        operand.validate = .ok () := by
  cases slot with
  | none => simp [validateSlot]
  | some operand =>
    rw [validateSlot]
    by_cases fits : operand.returnType = parent.operandType index
    · simp [fits]
    · simp [fits]

end Expression

end RiskScoring
