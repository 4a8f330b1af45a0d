import Mathlib.Algebra.Group.Nat.Defs
import RiskScoring.Scenario.Codec
import RiskScoring.Proofs.Json.Decoding

/-!
# Identifiers and times are read back

* `Uuid.hexValue?_hexDigits`: hexadecimal digits stand for the number that they are the digits of.
* `Uuid.ofGroups?_chars`: the hyphenated form is read by its groups.
* `Uuid.ofText?_text`, `Uuid.reads`: an identifier is read back from its text and from its JSON.
* `Instant.reads`: a time is read back from its JSON if it is from its text.
-/

namespace RiskScoring

open Source (within)

namespace Uuid

theorem length_hexDigits (count value : Nat) : (hexDigits count value).length = count := by
  induction count with
  | zero => rfl
  | succ count ih => rw [hexDigits, List.length_cons, ih]

/-- Digits after a number move it up and come behind it. -/
theorem foldlM_hexDigits (count value before : Nat) :
    (hexDigits count value).foldlM (fun value c => (hexDigit? c).map (value * 16 + ·)) before =
      some (before * 16 ^ count + value % 16 ^ count) := by
  induction count generalizing before with
  | zero => simp [hexDigits, Nat.mod_one]
  | succ count ih =>
    have digit : hexDigit? (value / 16 ^ count % 16).digitChar = some (value / 16 ^ count % 16) :=
      hexDigit?_digitChar _ (Nat.mod_lt _ (by decide))
    have parts : value % 16 ^ (count + 1) =
        value / 16 ^ count % 16 * 16 ^ count + value % 16 ^ count := by
      rw [Nat.pow_succ, Nat.mod_mul, Nat.mul_comm (16 ^ count), Nat.add_comm]
    rw [hexDigits, List.foldlM_cons]
    show ((hexDigit? (value / 16 ^ count % 16).digitChar).map _).bind _ = _
    rw [digit]
    show List.foldlM _ _ (hexDigits count value) = _
    rw [ih, parts, Nat.add_mul, Nat.mul_assoc, Nat.mul_comm 16, ← Nat.pow_succ, Nat.add_assoc]

theorem hexValue?_hexDigits {count value : Nat} (fits : value < 16 ^ count) :
    hexValue? (hexDigits count value) = some value := by
  rw [hexValue?, foldlM_hexDigits, Nat.zero_mul, Nat.zero_add, Nat.mod_eq_of_lt fits]

theorem ofDigits?_hexDigits (id : Uuid) : ofDigits? (hexDigits 32 id.bits.toNat) = some id := by
  rw [ofDigits?, if_pos (length_hexDigits 32 _), hexValue?_hexDigits id.bits.isLt]
  simp

/-- The hyphenated form has its hyphens in place, and between them the digits. -/
theorem ofGroups?_hyphenated {digits : List Char} (length : digits.length = 32) :
    let group (start length : Nat) := (digits.drop start).take length
    ofGroups? (group 0 8 ++ '-' :: group 8 4 ++ '-' :: group 12 4 ++ '-' :: group 16 4 ++
      '-' :: group 20 12) = ofDigits? digits := by
  have whole : digits.take 8 ++ ((digits.drop 8).take 4 ++ ((digits.drop 12).take 4 ++
      ((digits.drop 16).take 4 ++ (digits.drop 20).take 12))) = digits := by
    have last : (digits.drop 20).take 12 = digits.drop 20 :=
      List.take_of_length_le (by simp [length])
    have next (start count : Nat) : digits.drop start =
        (digits.drop start).take count ++ digits.drop (start + count) := by
      rw [← List.drop_drop, List.take_append_drop]
    rw [last, ← next 16 4, ← next 12 4, ← next 8 4, List.take_append_drop]
  have sizes : (digits.take 8).length = 8 ∧ ((digits.drop 8).take 4).length = 4 ∧
      ((digits.drop 12).take 4).length = 4 ∧ ((digits.drop 16).take 4).length = 4 ∧
      ((digits.drop 20).take 12).length = 12 := by
    simp [length]
  simp only [List.drop_zero]
  generalize digits.take 8 = a at whole sizes ⊢
  generalize (digits.drop 8).take 4 = b at whole sizes ⊢
  generalize (digits.drop 12).take 4 = c at whole sizes ⊢
  generalize (digits.drop 16).take 4 = d at whole sizes ⊢
  generalize (digits.drop 20).take 12 = e at whole sizes ⊢
  obtain ⟨sizeA, sizeB, sizeC, sizeD, sizeE⟩ := sizes
  rw [ofGroups?, ← whole]
  simp (disch := omega) [List.drop_append, List.drop_eq_nil_of_le, List.take_of_length_le,
    List.getElem?_append, List.getElem?_cons_zero, sizeA, sizeB, sizeC, sizeD, sizeE]

theorem ofGroups?_chars (id : Uuid) : ofGroups? id.chars = some id :=
  (ofGroups?_hyphenated (length_hexDigits 32 _)).trans (ofDigits?_hexDigits id)

theorem length_chars (id : Uuid) : id.chars.length = 36 := by
  simp [chars, length_hexDigits]

theorem exists_head_chars (id : Uuid) :
    ∃ digit < 16, ∃ rest, id.chars = Nat.digitChar digit :: rest :=
  ⟨_, Nat.mod_lt _ (by decide), _, rfl⟩

/-- The hyphenated form begins with a digit, and not with a brace. -/
theorem unbraced?_chars (id : Uuid) : unbraced? id.chars = none := by
  have noBrace : ∀ digit < 16, Nat.digitChar digit ≠ '\x7b' := by decide
  obtain ⟨digit, small, rest, shape⟩ := id.exists_head_chars
  rw [shape]
  unfold unbraced?
  split
  · rename_i brace
    exact absurd (List.cons.inj brace).1 (noBrace digit small)
  · rfl

/-- The hyphenated form begins with a digit, and not with the mark. -/
theorem isMarked_chars (id : Uuid) : isMarked id.chars = false := by
  have noMark : ∀ digit < 16, (Nat.digitChar digit).toLower ≠ 'u' := by decide
  have mark : urnMark = 'u' :: "rn:uuid:".toList := by decide
  obtain ⟨digit, small, rest, shape⟩ := id.exists_head_chars
  rw [shape, isMarked, mark, List.length_cons, List.take_succ_cons, List.map_cons,
    List.cons_beq_cons, beq_false_of_ne (noMark digit small), Bool.false_and]

theorem ofText?_text (id : Uuid) : ofText? id.text = some id := by
  have notPlain : ¬id.chars.length = 32 := by
    rw [length_chars]
    decide
  rw [ofText?, text, String.toList_ofList, ofChars?, unbraced?_chars]
  simp only [isMarked_chars, Bool.false_eq_true, if_false, if_neg notPlain]
  exact ofGroups?_chars id

theorem reads (id : Uuid) : decoder.Reads id.toJson id := by
  intro budget _
  have read := id.ofText?_text
  simp only [decoder, toJson, within, Decoder.string, bind, Except.bind, read]
  rfl

end Uuid

theorem Instant.reads {instant : Instant} (readsBack : ofText? instant.text = some instant) :
    decoder.Reads instant.toJson instant := by
  intro budget _
  simp only [decoder, toJson, within, Decoder.string, bind, Except.bind, readsBack]
  rfl

end RiskScoring
