import RiskScoring.Formula.Basic
import RiskScoring.Proofs.Trace.Pieces

/-!
# Groupings

A grouping is an operator tree without values. Written with parentheses only where the levels of
the operators ask for them, it can be recovered: an operator of the lowest level in a line is the
root, or one of its places if it joins more than two operands.

* `Grouping`, `Grouping.pieces`: a tree and the line that it is written in.
* `Grouping.Normal`: the trees of the known operators whose connectives are spliced.
* `Grouping.Normal.level_le_rank`: no word of a line binds less tightly than the root.
* `Grouping.Normal.pieces_inj`: a line of a normal tree has one tree.
-/

namespace RiskScoring

/-- An operator tree. -/
inductive Grouping where
  | leaf (source : String)
  | unary (op : String) (child : Grouping)
  | binary (op : String) (left right : Grouping)
  | variadic (op : String) (operands : List Grouping)

namespace Grouping

open Trace (operatorPrecedence)

/-- How tightly the root binds. -/
def level : Grouping → Nat
  | leaf _ => 9
  | unary _ _ => 8
  | binary op _ _ => operatorPrecedence op
  | variadic op _ => operatorPrecedence op

/-- Puts a line into parentheses if asked to. -/
def enclose (needed : Bool) (pieces : List Piece) : List Piece :=
  if needed then [.group pieces] else pieces

mutual

/-- The line of a tree below an operator that binds as tightly as `parent`. -/
def piecesUnder (parent : Nat) : Grouping → List Piece
  | leaf source => [.word source]
  | unary op child => enclose (decide (8 < parent)) (.word op :: piecesUnder 8 child)
  | binary op left right =>
    let own := operatorPrecedence op
    enclose (decide (own < parent))
      (piecesUnder own left ++ .word op :: piecesUnder (own + 1) right)
  | variadic op operands =>
    let own := operatorPrecedence op
    enclose (decide (own < parent)) ([.word op].intercalate (piecesOfEach own operands))

def piecesOfEach (parent : Nat) : List Grouping → List (List Piece)
  | [] => []
  | operand :: rest => piecesUnder parent operand :: piecesOfEach parent rest

end

/-- The line of a tree by itself. -/
def pieces (grouping : Grouping) : List Piece := grouping.piecesUnder 0

/-- The words that stand for operators. -/
def operatorSymbols : List String :=
  Operator.not.name :: [Connective.and, Connective.or].map Connective.name ++
    BinaryOp.all.map BinaryOp.symbol

/-- A word that is not taken for an operator. -/
structure IsLeafWord (text : String) : Prop where
  isWord : IsWord text
  noOperator : text ∉ operatorSymbols

/-- A tree of the known operators. A connective joins several operands, and none of them is of the
same connective. -/
inductive Normal : Grouping → Prop
  | leaf {source : String} (isLeaf : IsLeafWord source) : Normal (.leaf source)
  | unary {child : Grouping} (operand : Normal child) : Normal (.unary Operator.not.name child)
  | binary (op : BinaryOp) {left right : Grouping} (first : Normal left) (second : Normal right) :
    Normal (.binary op.symbol left right)
  | variadic (op : Connective) {operands : List Grouping} (several : 2 ≤ operands.length)
    (each : ∀ operand ∈ operands, Normal operand)
    (spliced : ∀ operand ∈ operands, ∀ inner, operand ≠ .variadic op.name inner) :
    Normal (.variadic op.name operands)

/-! ## Levels -/

/-- How tightly a word binds as an operator, or more tightly than all operators. -/
def rank (text : String) : Nat :=
  if text = Operator.not.name then 8
  else if operatorPrecedence text = 0 then 9 else operatorPrecedence text

theorem precedence_symbol (op : BinaryOp) :
    4 ≤ operatorPrecedence op.symbol ∧ operatorPrecedence op.symbol ≤ 7 := by
  cases op <;> decide

theorem precedence_name (op : Connective) :
    1 ≤ operatorPrecedence op.name ∧ operatorPrecedence op.name ≤ 2 := by
  cases op <;> decide

theorem rank_not : rank Operator.not.name = 8 := if_pos rfl

theorem rank_symbol (op : BinaryOp) : rank op.symbol = operatorPrecedence op.symbol := by
  cases op <;> decide

theorem rank_name (op : Connective) : rank op.name = operatorPrecedence op.name := by
  cases op <;> decide

theorem name_eq_of_precedence {op other : Connective}
    (same : operatorPrecedence op.name = operatorPrecedence other.name) : op.name = other.name := by
  cases op <;> cases other <;> first | rfl | exact absurd same (by decide)

theorem rank_leafWord {text : String} (isLeaf : IsLeafWord text) : rank text = 9 := by
  have noOperator := isLeaf.noOperator
  simp only [operatorSymbols, BinaryOp.all, List.map_cons, List.map_nil, List.cons_append,
    List.nil_append, List.mem_cons, List.not_mem_nil, or_false, not_or, Connective.name,
    BinaryOp.symbol] at noOperator
  simp [rank, operatorPrecedence, noOperator]

/-! ## Lines -/

theorem piecesOfEach_eq (parent : Nat) (operands : List Grouping) :
    piecesOfEach parent operands = operands.map (piecesUnder parent) := by
  induction operands with
  | nil => rfl
  | cons operand rest ih => rw [piecesOfEach, ih, List.map_cons]

theorem pieces_unary (op : String) (child : Grouping) :
    (unary op child).pieces = .word op :: piecesUnder 8 child := by
  rw [pieces, piecesUnder]
  rfl

theorem pieces_binary (op : String) (left right : Grouping) :
    (binary op left right).pieces = piecesUnder (operatorPrecedence op) left ++
      .word op :: piecesUnder (operatorPrecedence op + 1) right := by
  rw [pieces, piecesUnder]
  rfl

theorem pieces_variadic (op : String) (operands : List Grouping) :
    (variadic op operands).pieces =
      [.word op].intercalate (operands.map (piecesUnder (operatorPrecedence op))) := by
  rw [pieces, piecesUnder, piecesOfEach_eq]
  rfl

/-- Below an operator the line of a tree is enclosed if the tree binds less tightly. -/
theorem piecesUnder_eq (grouping : Grouping) {parent : Nat} (bounded : parent ≤ 9) :
    grouping.piecesUnder parent = enclose (decide (grouping.level < parent)) grouping.pieces := by
  cases grouping with
  | leaf source =>
    have isOpen : ¬ 9 < parent := by omega
    simp [pieces, piecesUnder, enclose, level, isOpen]
  | unary op child => rw [pieces_unary, piecesUnder]; rfl
  | binary op left right => rw [pieces_binary, piecesUnder]; rfl
  | variadic op operands => rw [pieces_variadic, piecesUnder, piecesOfEach_eq]; rfl

/-- The words of a line below an operator are those of the line by itself, unless it is enclosed. -/
theorem mem_piecesUnder {grouping : Grouping} {parent : Nat} (bounded : parent ≤ 9)
    {text : String} : .word text ∈ grouping.piecesUnder parent ↔
      parent ≤ grouping.level ∧ .word text ∈ grouping.pieces := by
  rw [piecesUnder_eq grouping bounded]
  by_cases isLower : grouping.level < parent
  · simp [enclose, isLower, Nat.not_le_of_lt isLower]
  · simp [enclose, isLower, Nat.le_of_not_lt isLower]

theorem readable_enclose (needed : Bool) {pieces : List Piece}
    (each : ∀ piece ∈ pieces, piece.Readable) :
    ∀ piece ∈ enclose needed pieces, piece.Readable := by
  cases needed with
  | false => exact each
  | true => exact List.forall_mem_singleton.mpr (.group each)

theorem isWord_not : IsWord Operator.not.name := ⟨by decide, by decide⟩

theorem isWord_symbol (op : BinaryOp) : IsWord op.symbol := by
  cases op <;> exact ⟨by decide, by decide⟩

theorem isWord_name (op : Connective) : IsWord op.name := by
  cases op <;> exact ⟨by decide, by decide⟩

theorem mem_intercalate {α : Type} {separator item : α} {rows : List (List α)}
    (listed : item ∈ [separator].intercalate rows) :
    item = separator ∨ ∃ row ∈ rows, item ∈ row := by
  induction rows with
  | nil => cases listed
  | cons row rest ih =>
    by_cases isLast : rest = []
    · subst isLast
      rw [List.intercalate_singleton] at listed
      exact Or.inr ⟨row, List.mem_cons_self, listed⟩
    · rw [List.intercalate_cons_of_ne_nil isLast, List.mem_append, List.mem_append,
        List.mem_singleton] at listed
      rcases listed with (inRow | isSeparator) | inRest
      · exact Or.inr ⟨row, List.mem_cons_self, inRow⟩
      · exact Or.inl isSeparator
      · rcases ih inRest with isSeparator | ⟨other, isRow, inRow⟩
        · exact Or.inl isSeparator
        · exact Or.inr ⟨other, List.mem_cons_of_mem _ isRow, inRow⟩

/-- A row is cut in one way at the last place of an item. -/
theorem append_cons_inj_of_last {α : Type} {front back front' back' : List α} {item item' : α}
    (same : front ++ item :: back = front' ++ item' :: back') (noLater : item' ∉ back)
    (alsoNoLater : item ∉ back') : front = front' ∧ item = item' ∧ back = back' := by
  rcases List.append_eq_append_iff.mp same with ⟨between, rfl, ends⟩ | ⟨between, rfl, ends⟩
  · cases between with
    | nil =>
      obtain ⟨rfl, rfl⟩ := List.cons.inj ends
      exact ⟨(List.append_nil front).symm, rfl, rfl⟩
    | cons first rest =>
      obtain ⟨rfl, rfl⟩ := List.cons.inj ends
      exact absurd (List.mem_append_right rest List.mem_cons_self) noLater
  · cases between with
    | nil =>
      obtain ⟨rfl, rfl⟩ := List.cons.inj ends
      exact ⟨List.append_nil front', rfl, rfl⟩
    | cons first rest =>
      obtain ⟨rfl, rfl⟩ := List.cons.inj ends
      exact absurd (List.mem_append_right rest List.mem_cons_self) alsoNoLater

/-- Rows that are put together around a separator that does not occur in them are found again. -/
theorem intercalate_inj {α : Type} {separator : α} {rows others : List (List α)}
    (nonempty : rows ≠ []) (alsoNonempty : others ≠ []) (absent : ∀ row ∈ rows, separator ∉ row)
    (alsoAbsent : ∀ row ∈ others, separator ∉ row)
    (same : [separator].intercalate rows = [separator].intercalate others) : rows = others := by
  classical
  rw [← List.splitOn_intercalate separator absent nonempty, same,
    List.splitOn_intercalate separator alsoAbsent alsoNonempty]

theorem eq_of_map_eq {α β : Type} {f : α → β} {items others : List α}
    (same : items.map f = others.map f)
    (injective : ∀ item ∈ items, ∀ other ∈ others, f item = f other → item = other) :
    items = others := by
  induction items generalizing others with
  | nil => exact (List.map_eq_nil_iff.mp same.symm).symm
  | cons item rest ih =>
    cases others with
    | nil => cases same
    | cons other behind =>
      rw [List.map_cons, List.map_cons] at same
      obtain ⟨sameItem, sameRest⟩ := List.cons.inj same
      rw [injective item List.mem_cons_self other List.mem_cons_self sameItem,
        ih sameRest fun item listed other alsoListed =>
          injective item (List.mem_cons_of_mem _ listed) other (List.mem_cons_of_mem _ alsoListed)]

namespace Normal

variable {grouping other : Grouping}

/-- No word of a line binds less tightly than the root. -/
theorem level_le_rank (normal : grouping.Normal) {text : String}
    (occurs : .word text ∈ grouping.pieces) : grouping.level ≤ rank text := by
  induction normal with
  | leaf isLeaf =>
    obtain rfl : text = _ := by simpa [pieces, piecesUnder] using occurs
    rw [rank_leafWord isLeaf]
    exact Nat.le_refl 9
  | @unary child _ ih =>
    rw [pieces_unary, List.mem_cons] at occurs
    rcases occurs with isRoot | inside
    · cases isRoot
      exact Nat.le_of_eq rank_not.symm
    · obtain ⟨above, inside⟩ := (mem_piecesUnder (by omega)).mp inside
      exact Nat.le_trans above (ih inside)
  | binary op _ _ firstBinds secondBinds =>
    have bounds := precedence_symbol op
    rw [pieces_binary, List.mem_append, List.mem_cons] at occurs
    rcases occurs with inLeft | isRoot | inRight
    · obtain ⟨above, inside⟩ := (mem_piecesUnder (by omega)).mp inLeft
      exact Nat.le_trans above (firstBinds inside)
    · cases isRoot
      exact Nat.le_of_eq (rank_symbol op).symm
    · obtain ⟨above, inside⟩ := (mem_piecesUnder (by omega)).mp inRight
      exact Nat.le_trans (Nat.le_of_succ_le above) (secondBinds inside)
  | variadic op _ _ _ binds =>
    have bounds := precedence_name op
    rw [pieces_variadic] at occurs
    rcases mem_intercalate occurs with isRoot | ⟨row, isRow, inside⟩
    · cases isRoot
      exact Nat.le_of_eq (rank_name op).symm
    · obtain ⟨operand, listed, rfl⟩ := List.mem_map.mp isRow
      obtain ⟨above, inside⟩ := (mem_piecesUnder (by omega)).mp inside
      exact Nat.le_trans above (binds operand listed inside)

/-- A word of the line binds as tightly as the root. -/
theorem exists_rank_eq_level (normal : grouping.Normal) :
    ∃ text, .word text ∈ grouping.pieces ∧ rank text = grouping.level := by
  cases normal with
  | @leaf source isLeaf => exact ⟨source, List.mem_singleton.mpr rfl, rank_leafWord isLeaf⟩
  | unary operand =>
    refine ⟨Operator.not.name, ?_, rank_not⟩
    rw [pieces_unary]
    exact List.mem_cons_self
  | binary op first second =>
    refine ⟨op.symbol, ?_, rank_symbol op⟩
    rw [pieces_binary]
    exact List.mem_append_right _ List.mem_cons_self
  | @variadic op operands several each spliced =>
    refine ⟨op.name, ?_, rank_name op⟩
    obtain ⟨first, second, rest, rfl⟩ :
        ∃ first second rest, operands = first :: second :: rest := by
      rcases operands with _ | ⟨first, _ | ⟨second, rest⟩⟩
      · exact absurd several (by simp)
      · exact absurd several (by simp)
      · exact ⟨first, second, rest, rfl⟩
    rw [pieces_variadic, List.map_cons, List.map_cons, List.intercalate_cons_cons]
    simp

theorem pieces_ne_nil (normal : grouping.Normal) : grouping.pieces ≠ [] := by
  intro isEmpty
  obtain ⟨text, occurs, -⟩ := normal.exists_rank_eq_level
  rw [isEmpty] at occurs
  cases occurs

theorem piecesUnder_ne_nil (normal : grouping.Normal) {parent : Nat} (bounded : parent ≤ 9) :
    grouping.piecesUnder parent ≠ [] := by
  rw [piecesUnder_eq grouping bounded, enclose]
  split
  · exact List.cons_ne_nil _ _
  · exact normal.pieces_ne_nil

/-- Trees with one line bind equally. -/
theorem level_eq (normal : grouping.Normal) (alsoNormal : other.Normal)
    (same : grouping.pieces = other.pieces) : grouping.level = other.level := by
  obtain ⟨text, occurs, binds⟩ := normal.exists_rank_eq_level
  obtain ⟨otherText, alsoOccurs, alsoBinds⟩ := alsoNormal.exists_rank_eq_level
  rw [same] at occurs
  rw [← same] at alsoOccurs
  apply Nat.le_antisymm
  · exact alsoBinds ▸ normal.level_le_rank alsoOccurs
  · exact binds ▸ alsoNormal.level_le_rank occurs

/-- A line is not a single group. -/
theorem pieces_ne_group (normal : grouping.Normal) (inner : List Piece) :
    grouping.pieces ≠ [.group inner] := by
  intro isGroup
  obtain ⟨text, occurs, -⟩ := normal.exists_rank_eq_level
  rw [isGroup] at occurs
  cases List.mem_singleton.mp occurs

/-- Whether parentheses were put tells nothing new. -/
theorem pieces_of_piecesUnder (normal : grouping.Normal) (alsoNormal : other.Normal) {parent : Nat}
    (bounded : parent ≤ 9) (same : grouping.piecesUnder parent = other.piecesUnder parent) :
    grouping.pieces = other.pieces := by
  rw [piecesUnder_eq grouping bounded, piecesUnder_eq other bounded] at same
  unfold enclose at same
  split at same
  · split at same
    · injection same with isGroup
      injection isGroup
    · exact absurd same.symm (alsoNormal.pieces_ne_group _)
  · split at same
    · exact absurd same (normal.pieces_ne_group _)
    · exact same

/-- No word below an operator binds less tightly than it. -/
theorem parent_le_rank (normal : grouping.Normal) {parent : Nat} (bounded : parent ≤ 9)
    {text : String} (occurs : .word text ∈ grouping.piecesUnder parent) : parent ≤ rank text := by
  obtain ⟨above, inside⟩ := (mem_piecesUnder bounded).mp occurs
  exact Nat.le_trans above (normal.level_le_rank inside)

/-- To the right of the root of a binary tree everything binds more tightly, so the root is the last
word of its level in the line. -/
theorem pieces_binary_inj {op otherOp : BinaryOp} {left right otherLeft otherRight : Grouping}
    (first : left.Normal) (second : right.Normal) (otherFirst : otherLeft.Normal)
    (otherSecond : otherRight.Normal)
    (samePrecedence : operatorPrecedence op.symbol = operatorPrecedence otherOp.symbol)
    (same : (Grouping.binary op.symbol left right).pieces =
      (Grouping.binary otherOp.symbol otherLeft otherRight).pieces) :
    left.pieces = otherLeft.pieces ∧ op.symbol = otherOp.symbol ∧
      right.pieces = otherRight.pieces := by
  have bounds := precedence_symbol op
  rw [pieces_binary, pieces_binary, ← samePrecedence] at same
  have noLater : .word otherOp.symbol ∉ right.piecesUnder (operatorPrecedence op.symbol + 1) := by
    intro occurs
    have binds := second.parent_le_rank (by omega) occurs
    rw [rank_symbol, ← samePrecedence] at binds
    omega
  have alsoNoLater :
      .word op.symbol ∉ otherRight.piecesUnder (operatorPrecedence op.symbol + 1) := by
    intro occurs
    have binds := otherSecond.parent_le_rank (by omega) occurs
    rw [rank_symbol] at binds
    omega
  obtain ⟨sameLeft, sameRoot, sameRight⟩ := append_cons_inj_of_last same noLater alsoNoLater
  injection sameRoot with sameSymbol
  exact ⟨first.pieces_of_piecesUnder otherFirst (by omega) sameLeft, sameSymbol,
    second.pieces_of_piecesUnder otherSecond (by omega) sameRight⟩

/-- The connective above does not occur among the words of an operand. -/
theorem name_not_mem (normal : grouping.Normal) {op : Connective}
    (spliced : ∀ inner, grouping ≠ .variadic op.name inner) :
    .word op.name ∉ grouping.piecesUnder (operatorPrecedence op.name) := by
  intro occurs
  have bounds := precedence_name op
  obtain ⟨above, inside⟩ := (mem_piecesUnder (by omega)).mp occurs
  have below := normal.level_le_rank inside
  rw [rank_name] at below
  have sameLevel : grouping.level = operatorPrecedence op.name := Nat.le_antisymm below above
  cases normal
  case variadic other operands _ _ _ =>
    have sameName : other.name = op.name := name_eq_of_precedence sameLevel
    exact spliced operands (congrArg (Grouping.variadic · operands) sameName)
  all_goals grind [level, precedence_symbol]

/-- No operand of a connective shows it, so the line falls apart at its places. -/
theorem rows_of_operands {op : Connective} {operands : List Grouping}
    (several : 2 ≤ operands.length) (each : ∀ operand ∈ operands, operand.Normal)
    (spliced : ∀ operand ∈ operands, ∀ inner, operand ≠ .variadic op.name inner) :
    operands.map (piecesUnder (operatorPrecedence op.name)) ≠ [] ∧
      ∀ row ∈ operands.map (piecesUnder (operatorPrecedence op.name)), .word op.name ∉ row := by
  constructor
  · exact List.ne_nil_of_length_pos (by rw [List.length_map]; omega)
  · exact List.forall_mem_map.mpr fun operand listed =>
      (each operand listed).name_not_mem (spliced operand listed)

/-- A line of a normal tree has one tree. -/
theorem pieces_inj (normal : grouping.Normal) (alsoNormal : other.Normal)
    (same : grouping.pieces = other.pieces) : grouping = other := by
  induction normal generalizing other with
  | leaf isLeaf =>
    have sameLevel := level_eq (.leaf isLeaf) alsoNormal same
    cases alsoNormal
    case leaf alsoLeaf => simpa [pieces, piecesUnder] using same
    all_goals grind [level, precedence_symbol, precedence_name]
  | @unary child operand ih =>
    have sameLevel := level_eq (.unary operand) alsoNormal same
    cases alsoNormal
    case unary otherChild otherOperand =>
      rw [pieces_unary, pieces_unary] at same
      have sameLine := operand.pieces_of_piecesUnder otherOperand (by omega) (List.cons.inj same).2
      rw [ih otherOperand sameLine]
    all_goals grind [level, precedence_symbol, precedence_name]
  | @binary op left right first second firstInj secondInj =>
    have sameLevel := level_eq (.binary op first second) alsoNormal same
    cases alsoNormal
    case binary otherOp otherLeft otherRight otherFirst otherSecond =>
      obtain ⟨sameLeft, sameSymbol, sameRight⟩ :=
        pieces_binary_inj first second otherFirst otherSecond sameLevel same
      rw [firstInj otherFirst sameLeft, sameSymbol, secondInj otherSecond sameRight]
    all_goals grind [level, precedence_symbol, precedence_name]
  | @variadic op operands several each spliced ih =>
    have sameLevel := level_eq (.variadic op several each spliced) alsoNormal same
    cases alsoNormal
    case variadic otherOp otherOperands otherSeveral otherEach otherSpliced =>
      have bounds := precedence_name op
      have sameName : op.name = otherOp.name := name_eq_of_precedence sameLevel
      obtain ⟨nonempty, absent⟩ := rows_of_operands several each spliced
      obtain ⟨alsoNonempty, alsoAbsent⟩ := rows_of_operands otherSeveral otherEach otherSpliced
      rw [← sameName] at same alsoNonempty alsoAbsent
      rw [pieces_variadic, pieces_variadic] at same
      have sameRows := intercalate_inj nonempty alsoNonempty absent alsoAbsent same
      have sameOperands : operands = otherOperands := by
        refine eq_of_map_eq sameRows fun operand listed otherOperand otherListed sameRow => ?_
        have otherNormal := otherEach otherOperand otherListed
        exact ih operand listed otherNormal
          ((each operand listed).pieces_of_piecesUnder otherNormal (by omega) sameRow)
      rw [sameName, sameOperands]
    all_goals grind [level, precedence_symbol, precedence_name]

/-- The pieces of a line are read back. -/
theorem readable (normal : grouping.Normal) (parent : Nat) :
    ∀ piece ∈ grouping.piecesUnder parent, piece.Readable := by
  induction normal generalizing parent with
  | leaf isLeaf =>
    rw [piecesUnder]
    exact List.forall_mem_singleton.mpr (.word isLeaf.isWord)
  | unary _ ih =>
    rw [piecesUnder]
    exact readable_enclose _ (List.forall_mem_cons.mpr ⟨.word isWord_not, ih 8⟩)
  | binary op _ _ firstReads secondReads =>
    rw [piecesUnder]
    refine readable_enclose _ (List.forall_mem_append.mpr ⟨firstReads _, ?_⟩)
    exact List.forall_mem_cons.mpr ⟨.word (isWord_symbol op), secondReads _⟩
  | variadic op _ _ _ reads =>
    rw [piecesUnder, piecesOfEach_eq]
    refine readable_enclose _ fun piece occurs => ?_
    rcases mem_intercalate occurs with rfl | ⟨row, isRow, inside⟩
    · exact .word (isWord_name op)
    · obtain ⟨operand, listed, rfl⟩ := List.mem_map.mp isRow
      exact reads operand listed _ piece inside

end Normal

end Grouping

end RiskScoring
