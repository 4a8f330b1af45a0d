import RiskScoring.Proofs.Formula.Records

/-!
# The text of a formula

A formula that is written as JSON text and read again is the same formula, as long as its literal
doubles are finite and its JSON is not nested too deep.

* `Expression.forall_numbers`: the numbers in the text are literal doubles of the formula.
* `Expression.decode_toText`: the records that the text of a formula is read as.
* `Expression.ofText_toText`: the formula that the text of a formula is read as.
-/

namespace RiskScoring

namespace Json

theorem numbers_ofStrings (items : List String) : (ofStrings items).numbers = [] := by
  induction items with
  | nil => rfl
  | cons item items ih => exact ih

end Json

namespace Expression

variable {P : JsonNumber → Prop}

/-- The numbers in the text of a node are in its static data or in its operands. -/
theorem forall_numbers_recordWith {formula : Expression}
    {children : Option (List (Option OperatorRecord))}
    (own : ∀ number ∈ Json.numbersMembers formula.staticData, P number)
    (inner : ∀ slots ∈ children,
      ∀ number ∈ Json.numbersItems (OperatorRecord.toJsonSlots slots), P number) :
    ∀ number ∈ (formula.recordWith children).toJson.numbers, P number := by
  rw [recordWith, OperatorRecord.toJson, Json.numbers, Json.numbersMembers,
    Json.numbersMembers_append]
  simp only [Json.numbers, List.nil_append, List.forall_mem_append]
  constructor
  · split
    · exact List.forall_mem_nil P
    · intro number listed
      simp only [OperatorRecord.staticMember, Json.numbersMembers, Json.numbers,
        List.append_nil] at listed
      exact own number listed
  · cases children with
    | none => exact List.forall_mem_nil P
    | some slots =>
      intro number listed
      simp only [OperatorRecord.childrenMember, Json.numbersMembers, Json.numbers,
        List.append_nil] at listed
      exact inner slots rfl number listed

mutual

/-- The numbers in the text of a formula are its finite literal doubles. -/
theorem forall_numbers : ∀ formula : Expression,
    (∀ value ∈ formula.floats, ∀ finite : value.isFinite = true, P (.float value finite)) →
      ∀ number ∈ formula.toJson.numbers, P number
  | .bool _, _ | .string _, _ | .payload .., _ =>
    forall_numbers_recordWith (List.forall_mem_nil P) (by simp)
  | .float value, holds => by
    refine forall_numbers_recordWith ?_ (by simp)
    rw [staticData, Json.ofFloat]
    split
    · rename_i finite
      rintro _ (_ | ⟨_, ⟨⟩⟩)
      exact holds value List.mem_cons_self finite
    · exact List.forall_mem_nil P
  | .stringList items, _ => by
    refine forall_numbers_recordWith ?_ (by simp)
    simp [staticData, Json.numbersMembers, Json.numbers_ofStrings]
  | .stored type path name, _ => by
    refine forall_numbers_recordWith ?_ (by simp)
    simp [staticData, Json.numbersMembers, Json.numbers, Json.numbers_ofStrings]
  | .not operand, holds => by
    refine forall_numbers_recordWith (List.forall_mem_nil P) ?_
    rintro _ ⟨⟩
    have inner := forall_numbersSlot operand holds
    exact List.forall_mem_append.mpr ⟨inner, List.forall_mem_nil P⟩
  | .binary _ left right, holds => by
    refine forall_numbers_recordWith (List.forall_mem_nil P) ?_
    rintro _ ⟨⟩
    obtain ⟨inLeft, inRight⟩ := List.forall_mem_append.mp holds
    refine List.forall_mem_append.mpr ⟨forall_numbersSlot left inLeft, ?_⟩
    have inner := forall_numbersSlot right inRight
    exact List.forall_mem_append.mpr ⟨inner, List.forall_mem_nil P⟩
  | .variadic _ operands, holds => by
    refine forall_numbers_recordWith (List.forall_mem_nil P) ?_
    rintro _ ⟨⟩
    exact forall_numbersSlots operands holds

theorem forall_numbersSlot : ∀ slot : Option Expression,
    (∀ value ∈ floatsSlot slot, ∀ finite : value.isFinite = true, P (.float value finite)) →
      ∀ number ∈ (OperatorRecord.toJsonSlot (toSlot slot)).numbers, P number
  | none, _ => List.forall_mem_nil P
  | some operand, holds => forall_numbers operand holds

theorem forall_numbersSlots : ∀ slots : List (Option Expression),
    (∀ value ∈ floatsSlots slots, ∀ finite : value.isFinite = true, P (.float value finite)) →
      ∀ number ∈ Json.numbersItems (OperatorRecord.toJsonSlots (toSlots slots)), P number
  | [], _ => List.forall_mem_nil P
  | slot :: rest, holds => by
    obtain ⟨first, others⟩ := List.forall_mem_append.mp holds
    exact List.forall_mem_append.mpr
      ⟨forall_numbersSlot slot first, forall_numbersSlots rest others⟩

end

/-- The text of a formula is read as the records of the formula, if it is not nested too deep. -/
theorem decode_toText {formula : Expression}
    (readsBack : ∀ value ∈ formula.floats, ∀ finite : value.isFinite = true,
      (JsonNumber.float value finite).ReadsBack) :
    Decoder.text OperatorRecord.decoder formula.toText =
      if formula.toJson.depth ≤ 127 then .ok formula.toRecord else .error .malformed := by
  rw [Decoder.text, toText, Document.read_compact _ (formula.forall_numbers readsBack),
    Decoder.document, toJson, formula.toRecord_reads]
  simp only [Source.allows_some]
  exact Except.bind_ite_ok rfl

/-- The text of a formula is read as the formula itself: every string, every list and every slot is
the same, and every literal double has the same bits. It is refused as JSON if it nests more than
127 arrays and objects, and as a record if a literal double is not finite. It is never read as
another formula. Of the text of numbers it is only assumed that the literal doubles of the formula,
where they are finite, are read back. -/
theorem ofText_toText (formula : Expression)
    (readsBack : ∀ value ∈ formula.floats, ∀ finite : value.isFinite = true,
      (JsonNumber.float value finite).ReadsBack) :
    (formula.toJson.depth ≤ 127 → (∀ value ∈ formula.floats, value.isFinite = true) →
      ofText formula.toText = .ok formula) ∧
    (127 < formula.toJson.depth → ofText formula.toText = .error .json) ∧
    (formula.toJson.depth ≤ 127 → (∃ value ∈ formula.floats, value.isFinite = false) →
      ofText formula.toText =
        .error (.record (.malformed .float (.staticData "value" .notNumber)))) ∧
    ∀ other, ofText formula.toText = .ok other → other = formula := by
  have tooDeep (deep : 127 < formula.toJson.depth) : ofText formula.toText = .error .json := by
    rw [ofText, decode_toText readsBack, if_neg (by omega)]
  have readAs (fits : formula.toJson.depth ≤ 127) : ofText formula.toText =
      if ∀ value ∈ formula.floats, value.isFinite = true then .ok formula
      else .error (.record notNumber) := by
    simp only [ofText, decode_toText readsBack, if_pos fits, ofRecord_toRecord]
    by_cases finite : ∀ value ∈ formula.floats, value.isFinite = true
    · simp only [if_pos finite]
    · simp only [if_neg finite]
  refine ⟨fun fits finite => ?_, tooDeep, fun fits infinite => ?_, fun other reads => ?_⟩
  · rw [readAs fits, if_pos finite]
  · obtain ⟨value, listed, notFinite⟩ := infinite
    rw [readAs fits, if_neg]
    · rfl
    · intro finite
      rw [finite value listed] at notFinite
      cases notFinite
  · rcases Nat.lt_or_ge 127 formula.toJson.depth with deep | fits
    · rw [tooDeep deep] at reads
      cases reads
    · rw [readAs fits] at reads
      split at reads
      · cases reads
        rfl
      · cases reads

/-- A formula with an empty slot, a connective without operands, an operand of the wrong type, a
negative zero and strings of characters that are escaped. -/
def mixed : Expression :=
  .variadic .and
    [none, some (.variadic .or []),
      some (.binary .isInList (some (.float (-0.0)))
        (some (.stringList ["say \"no\"", "a\\b\n\u0001", "é"])))]

/-- A formula under a number of negations. -/
def negated (formula : Expression) : Nat → Expression
  | 0 => formula
  | count + 1 => .not (some (negated formula count))

theorem negativeZero_readsBack : (JsonNumber.float (-0.0) (by decide)).ReadsBack := by
  with_unfolding_all rfl

/-- A negation costs two levels: its record, and the row of its operand. -/
theorem depth_negated (formula : Expression) (count : Nat) :
    (formula.negated count).toJson.depth = 2 * count + formula.toJson.depth := by
  induction count with
  | zero => rw [negated, Nat.mul_zero, Nat.zero_add]
  | succ count ih =>
    have levels (operand : Expression) :
        (Expression.not (some operand)).toJson.depth = operand.toJson.depth + 2 := by
      show max 0 (max (max operand.toJson.depth 0 + 1) 0) + 1 = _
      omega
    rw [negated, levels, ih]
    omega

theorem floats_negated (formula : Expression) (count : Nat) :
    (formula.negated count).floats = formula.floats := by
  induction count with
  | zero => rfl
  | succ count ih => exact ih

/-- Under 60 negations the mixed formula nests 127 arrays and objects, and it is read back. One more
negation is too much. A sum with an infinite literal is refused as a record. -/
theorem ofText_toText_mixed :
    ofText (mixed.negated 60).toText = .ok (mixed.negated 60) ∧
    ofText (mixed.negated 61).toText = .error .json ∧
    ofText (binary .add (some (.float (1 / 0))) none).toText =
      .error (.record (.malformed .float (.staticData "value" .notNumber))) := by
  have readsBack (count : Nat) : ∀ value ∈ (mixed.negated count).floats,
      ∀ finite : value.isFinite = true, (JsonNumber.float value finite).ReadsBack := by
    rw [floats_negated]
    intro value listed finite
    obtain rfl := List.mem_singleton.mp listed
    exact negativeZero_readsBack
  have depth (count : Nat) : (mixed.negated count).toJson.depth = 2 * count + 7 := by
    have own : mixed.toJson.depth = 7 := by decide
    rw [depth_negated, own]
  refine ⟨?_, ?_, ?_⟩
  · refine (ofText_toText (mixed.negated 60) (readsBack 60)).1 ?_ ?_
    · exact Nat.le_of_eq (depth 60)
    · rw [floats_negated]
      decide
  · refine (ofText_toText (mixed.negated 61) (readsBack 61)).2.1 ?_
    rw [depth]
    decide
  · refine (ofText_toText (binary .add (some (.float (1 / 0))) none) ?_).2.2.1 (by decide) ?_
    · intro value listed finite
      obtain rfl := List.mem_singleton.mp listed
      exact absurd finite (by decide)
    · exact ⟨1 / 0, List.mem_singleton_self _, by decide⟩

end Expression

end RiskScoring
