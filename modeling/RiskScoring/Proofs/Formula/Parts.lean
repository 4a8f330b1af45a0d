import RiskScoring.Proofs.Formula.Validity

/-!
# The parts of a formula

* `Expression.Contains`: a formula is a part of another one, at any depth.
* `Expression.operand_induction`: what holds of a formula if it holds of its operands holds of all.
* `Expression.mem_reads`: the field reads of a formula are those of its leaves.
* `Expression.NodeSound`, `Expression.validate_iff`: a formula is valid if every node in it is in
  order by itself.
-/

namespace RiskScoring

/-- The name of the field that is read. -/
def FieldRead.fieldName : FieldRead → String
  | payload _ name => name
  | stored _ _ name => name

namespace Expression

/-- A formula is in another one: it is that one, or it is in one of its operands. -/
inductive Contains : Expression → Expression → Prop
  | self (formula : Expression) : Contains formula formula
  | operand {formula operand part : Expression} (listed : some operand ∈ formula.operands)
    (inside : Contains operand part) : Contains formula part

/-- Only a formula itself is in it and in none of its operands. -/
theorem contains_iff {formula part : Expression} :
    formula.Contains part ↔
      part = formula ∨ ∃ operand, some operand ∈ formula.operands ∧ operand.Contains part := by
  constructor
  · rintro (_ | ⟨listed, inside⟩)
    · exact Or.inl rfl
    · exact Or.inr ⟨_, listed, inside⟩
  · rintro (rfl | ⟨operand, listed, inside⟩)
    · exact .self part
    · exact .operand listed inside

theorem sizeOf_operand_lt {formula operand : Expression}
    (listed : some operand ∈ formula.operands) : sizeOf operand < sizeOf formula := by
  have smaller := List.sizeOf_lt_of_mem listed
  rw [Option.some.sizeOf_spec] at smaller
  cases formula with
  | not slot =>
    simp only [operands, List.cons.sizeOf_spec, List.nil.sizeOf_spec, not.sizeOf_spec] at smaller ⊢
    obtain rfl := List.mem_singleton.mp listed
    rw [Option.some.sizeOf_spec]
    omega
  | binary op left right =>
    simp only [operands, List.mem_cons, List.not_mem_nil, or_false] at listed
    rw [binary.sizeOf_spec]
    rcases listed with rfl | rfl <;> rw [Option.some.sizeOf_spec] <;> omega
  | variadic op slots =>
    rw [operands] at smaller
    rw [variadic.sizeOf_spec]
    omega
  | _ => cases listed

/-- What holds of every formula whose operands it holds of holds of all formulas. -/
theorem operand_induction {motive : Expression → Prop}
    (node : ∀ formula, (∀ operand, some operand ∈ formula.operands → motive operand) →
      motive formula) (formula : Expression) : motive formula :=
  node formula fun operand listed =>
    have := sizeOf_operand_lt listed
    operand_induction node operand
termination_by sizeOf formula

/-! ## Reads -/

/-- The field read of a leaf. -/
def read? : Expression → Option FieldRead
  | payload type name => some (.payload type name)
  | stored type path name => some (.stored type path name)
  | _ => none

/-- The reads of an inner node are those of its operands. -/
theorem reads_of_operands {formula : Expression} (inner : formula.operands ≠ []) :
    formula.reads = readsSlots formula.operands := by
  cases formula with
  | not operand => simp [reads, operands, readsSlots]
  | binary op left right => simp [reads, operands, readsSlots]
  | variadic op slots => rfl
  | _ => exact absurd rfl inner

theorem mem_readsSlots {read : FieldRead} {slots : List (Option Expression)} :
    read ∈ readsSlots slots ↔ ∃ operand, some operand ∈ slots ∧ read ∈ operand.reads := by
  induction slots with
  | nil => simp [readsSlots]
  | cons slot rest ih =>
    rw [readsSlots, List.mem_append, ih]
    cases slot with
    | none => simp [readsSlot]
    | some operand =>
      simp only [readsSlot, List.mem_cons, Option.some.injEq, or_and_right, exists_or,
        exists_eq_left]

theorem reads_of_leaf {formula : Expression} (leaf : formula.operands = []) :
    formula.reads = formula.read?.toList := by
  cases formula with
  | not operand => cases leaf
  | binary op left right => cases leaf
  | variadic op slots =>
    obtain rfl : slots = [] := leaf
    rfl
  | _ => rfl

/-- A read of a node is its own, or that of an operand. -/
theorem mem_reads_node {formula : Expression} {read : FieldRead} :
    read ∈ formula.reads ↔ formula.read? = some read ∨
      ∃ operand, some operand ∈ formula.operands ∧ read ∈ operand.reads := by
  by_cases leaf : formula.operands = []
  · rw [reads_of_leaf leaf, leaf, Option.mem_toList]
    simp
  · have noRead : formula.read? = none := by
      cases formula with
      | payload type name => exact absurd rfl leaf
      | stored type path name => exact absurd rfl leaf
      | _ => rfl
    rw [reads_of_operands leaf, mem_readsSlots, noRead]
    simp

/-- The field reads of a formula are those of its leaves. -/
theorem mem_reads {read : FieldRead} (formula : Expression) :
    read ∈ formula.reads ↔ ∃ part, formula.Contains part ∧ part.read? = some read := by
  induction formula using operand_induction with
  | node formula ih =>
    rw [mem_reads_node]
    constructor
    · rintro (own | ⟨operand, listed, isRead⟩)
      · exact ⟨formula, .self formula, own⟩
      · obtain ⟨part, inside, reads⟩ := (ih operand listed).mp isRead
        exact ⟨part, .operand listed inside, reads⟩
    · rintro ⟨part, inside, reads⟩
      rcases contains_iff.mp inside with rfl | ⟨operand, listed, inside⟩
      · exact Or.inl reads
      · exact Or.inr ⟨operand, listed, (ih operand listed).mpr ⟨part, inside, reads⟩⟩

/-! ## Validity -/

/-- A node by itself is in order: every slot holds an operand of the type that its place asks for, a
connective has an operand, and a read names a field. -/
structure NodeSound (formula : Expression) : Prop where
  slots : ∀ index slot, formula.operands[index]? = some slot →
    ∃ operand, slot = some operand ∧ operand.returnType = formula.operator.operandType index
  nonempty : ∀ op, formula ≠ .variadic op []
  named : ∀ read, formula.read? = some read → read.fieldName ≠ ""

/-- A row of slots is valid if each holds a valid operand of the type that its place asks for. -/
theorem validateSlots_eq_ok {parent : Operator} {first : Nat} {slots : List (Option Expression)} :
    validateSlots parent first slots = .ok () ↔
      (∀ index slot, slots[index]? = some slot →
        ∃ operand, slot = some operand ∧
          operand.returnType = parent.operandType (first + index)) ∧
      ∀ operand, some operand ∈ slots → operand.validate = .ok () := by
  induction slots generalizing first with
  | nil => simp [validateSlots]
  | cons slot rest ih =>
    rw [validateSlots_cons, validateSlot_eq_ok, ih]
    constructor
    · rintro ⟨⟨operand, rfl, fits, valid⟩, restFits, restValid⟩
      refine ⟨fun index slot placed => ?_, fun other listed => ?_⟩
      · cases index with
        | zero =>
          cases placed
          exact ⟨operand, rfl, fits⟩
        | succ index =>
          rw [← Nat.add_assoc, Nat.add_right_comm]
          exact restFits index slot placed
      · rcases List.mem_cons.mp listed with same | later
        · cases same
          exact valid
        · exact restValid other later
    · rintro ⟨fits, valid⟩
      obtain ⟨operand, rfl, operandFits⟩ := fits 0 slot rfl
      refine ⟨⟨operand, rfl, operandFits, valid operand List.mem_cons_self⟩, ?_, ?_⟩
      · intro index slot placed
        rw [Nat.add_right_comm, Nat.add_assoc]
        exact fits (index + 1) slot placed
      · exact fun other listed => valid other (List.mem_cons_of_mem _ listed)

theorem validate_eq_ok {formula : Expression} :
    formula.validate = .ok () ↔ validateSlots formula.operator 0 formula.operands = .ok () ∧
      (∀ op, formula ≠ .variadic op []) ∧
      ∀ read, formula.read? = some read → read.fieldName ≠ "" := by
  cases formula with
  | payload type name => simp [validate, operands, validateSlots, read?, FieldRead.fieldName]
  | stored type path name => simp [validate, operands, validateSlots, read?, FieldRead.fieldName]
  | not operand =>
    rw [validate_not, operands, validateSlots_cons]
    simp [validateSlots, operator, read?]
  | binary op left right =>
    rw [validate_binary, operands, validateSlots_cons, validateSlots_cons]
    simp [validateSlots, operator, read?]
  | variadic op operands =>
    rw [validate_variadic, and_comm]
    simp [Expression.operands, operator, read?]
  | _ => simp [validate, operands, validateSlots, read?]

/-- A formula is valid if its root is in order and its operands are valid. -/
theorem validate_node {formula : Expression} :
    formula.validate = .ok () ↔
      formula.NodeSound ∧
        ∀ operand, some operand ∈ formula.operands → operand.validate = .ok () := by
  rw [validate_eq_ok, validateSlots_eq_ok]
  simp only [Nat.zero_add]
  constructor
  · rintro ⟨⟨fits, valid⟩, nonempty, named⟩
    exact ⟨⟨fits, nonempty, named⟩, valid⟩
  · rintro ⟨⟨fits, nonempty, named⟩, valid⟩
    exact ⟨⟨fits, valid⟩, nonempty, named⟩

/-- A formula is valid if every node in it is in order. -/
theorem validate_iff (formula : Expression) :
    formula.validate = .ok () ↔ ∀ part, formula.Contains part → part.NodeSound := by
  induction formula using operand_induction with
  | node formula ih =>
    rw [validate_node]
    constructor
    · rintro ⟨sound, valid⟩ part inside
      rcases contains_iff.mp inside with rfl | ⟨operand, listed, inside⟩
      · exact sound
      · exact (ih operand listed).mp (valid operand listed) part inside
    · intro sound
      refine ⟨sound formula (.self formula), fun operand listed => ?_⟩
      exact (ih operand listed).mpr fun part inside => sound part (.operand listed inside)

end Expression

end RiskScoring
