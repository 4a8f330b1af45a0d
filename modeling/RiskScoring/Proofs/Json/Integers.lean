import Mathlib.Data.List.TakeWhile
import RiskScoring.Proofs.Json.RoundTrip

/-!
# Integers are read back

The text of an integer is its decimal digits with a sign. Whatever word it is, the reader finds it
there again.

* `digitsValue_toDigits`: the value of the digits of a number is the number.
* `readWhole_toDigits`: the digits of a number are taken as a whole, as there is no leading zero.
* `JsonNumber.readsBack_int`: the text of an integer is read as the integer.
-/

namespace RiskScoring

/-! ## Digits -/

theorem digitsValue_toDigits (value : Nat) : digitsValue (Nat.toDigits 10 value) = value := by
  have folded : digitsValue (Nat.toDigits 10 value) =
      Nat.ofDigitChars 10 (Nat.toDigits 10 value) 0 := by
    rw [Nat.ofDigitChars_eq_foldl, digitsValue]
    simp only [Nat.mul_comm]
  rw [folded, Nat.ofDigitChars_ten_toDigits]

/-- Only zero begins with a zero. -/
theorem head_toDigits_ne_zero {value : Nat} (positive : 0 < value) :
    (Nat.toDigits 10 value).head? ≠ some '0' := by
  induction value using Nat.strongRecOn with
  | ind value ih =>
    by_cases small : value < 10
    · rw [Nat.toDigits_of_lt_base small]
      intro isZero
      have zero := Nat.digitChar_eq_zero.mp (Option.some.inj isZero)
      omega
    · have split : Nat.toDigits 10 value =
          Nat.toDigits 10 (value / 10) ++ [(value % 10).digitChar] :=
        Nat.toDigits_of_base_le (by decide) (by omega)
      have same : (Nat.toDigits 10 value).head? = (Nat.toDigits 10 (value / 10)).head? := by
        rw [split, List.head?_append, Option.or_of_isSome]
        rw [List.isSome_head?]
        simp [Nat.toDigits_ne_nil]
      rw [same]
      exact ih (value / 10) (by omega) (by omega)

theorem spanDigits_toDigits (value : Nat) :
    spanDigits (Nat.toDigits 10 value) = (Nat.toDigits 10 value, []) := by
  have digits : ∀ c ∈ Nat.toDigits 10 value, c.isDigit = true :=
    fun c => Nat.isDigit_of_mem_toDigits (by decide) (by decide)
  rw [spanDigits, List.span_eq_takeWhile_dropWhile, List.takeWhile_eq_self_iff.mpr digits,
    List.dropWhile_eq_nil_iff.mpr digits]

theorem readWhole_toDigits (value : Nat) :
    readWhole (Nat.toDigits 10 value) = some (Nat.toDigits 10 value, []) := by
  unfold readWhole
  rw [spanDigits_toDigits]
  split
  · rename_i isEmpty
    exact absurd (Prod.mk.inj isEmpty).1 Nat.toDigits_ne_nil
  · rename_i leading
    have starts := (Prod.mk.inj leading).1
    have small : value = 0 := by
      by_contra positive
      refine head_toDigits_ne_zero (Nat.pos_of_ne_zero positive) ?_
      rw [starts]
      rfl
    rw [small] at starts
    cases starts
  · rfl

/-- The digits of a number, with or without a sign in front. -/
theorem readNumber_toDigits (negative : Bool) (value : Nat) :
    readNumber ((if negative then ['-'] else []) ++ Nat.toDigits 10 value) =
      some (⟨negative, Nat.toDigits 10 value, none, none⟩, []) := by
  have unsigned : unsignedNumber negative (Nat.toDigits 10 value) =
      some (⟨negative, Nat.toDigits 10 value, none, none⟩, []) := by
    rw [unsignedNumber, readWhole_toDigits]
    rfl
  cases negative with
  | true => exact (readNumber_minus _).trans unsigned
  | false =>
    refine (readNumber_of_ne_minus fun rest starts => ?_).trans unsigned
    have listed : '-' ∈ Nat.toDigits 10 value := by
      change Nat.toDigits 10 value = '-' :: rest at starts
      rw [starts]
      exact List.mem_cons_self
    have isDigit : '-'.isDigit = true := Nat.isDigit_of_mem_toDigits (by decide) (by decide) listed
    exact absurd isDigit (by decide)

/-- The digits of a number stand for it, unless they are those of a negative zero. -/
theorem value_toDigits {negative : Bool} {magnitude : Nat} {value : Int}
    (signed : value = if negative then -(magnitude : Int) else magnitude)
    (notZero : negative = true → magnitude ≠ 0)
    (fits : -0x8000000000000000 ≤ value ∧ value < 0x10000000000000000) :
    NumberText.value ⟨negative, Nat.toDigits 10 magnitude, none, none⟩ =
      some (.int value fits) := by
  have digits : digitsValue (Nat.toDigits 10 magnitude ++ (none : Option (List Char)).getD []) =
      magnitude := by
    rw [Option.getD_none, List.append_nil, digitsValue_toDigits]
  have isInteger : ((none : Option (List Char)).isNone = true ∧ (none : Option Int).isNone = true ∧
      ¬(negative = true ∧ magnitude = 0)) :=
    ⟨rfl, rfl, fun ⟨isNegative, isZero⟩ => notZero isNegative isZero⟩
  have word : JsonNumber.ofInt? (if negative = true then -(magnitude : Int) else magnitude) =
      some (.int value fits) := by
    rw [← signed, JsonNumber.ofInt?, dif_pos fits]
  simp only [NumberText.value, digits, if_pos isInteger, word]

/-- A number is read back if its whole text is read as it. -/
theorem JsonNumber.readsBack_of_readNumber {number : JsonNumber} {parts : NumberText}
    (reads : readNumber (skipBlanks number.text) = some (parts, []))
    (isNumber : parts.value = some number) : number.ReadsBack := by
  have read (fuel : Nat) (budget : Option Nat) :
      readValue (fuel + 1) budget (Json.number number).chars =
        (.number (some number), some []) := by
    rw [Json.chars, readValue_of_readNumber reads, isNumber]
  simp only [ReadsBack, Json.ofText?, Document.read, Json.compact, String.toList_ofList, read]
  rfl

theorem isJsonBlank_of_isDigit {c : Char} (isDigit : c.isDigit = true) : isJsonBlank c = false := by
  by_contra isBlank
  rw [Bool.not_eq_false, isJsonBlank] at isBlank
  simp only [Bool.or_eq_true, beq_iff_eq] at isBlank
  rcases isBlank with ((rfl | rfl) | rfl) | rfl
  all_goals exact absurd isDigit (by decide)

/-- There are no blanks in front of an integer. -/
theorem skipBlanks_intText (value : Int) : skipBlanks (intText value) = intText value := by
  have digits : ∀ c ∈ Nat.toDigits 10 value.natAbs, isJsonBlank c = false := fun c listed =>
    isJsonBlank_of_isDigit (Nat.isDigit_of_mem_toDigits (by decide) (by decide) listed)
  unfold intText
  split
  · rfl
  · rcases shape : Nat.toDigits 10 value.natAbs with _ | ⟨c, rest⟩
    · rfl
    · rw [shape] at digits
      have noBlank : ¬isJsonBlank c = true := by simp [digits c List.mem_cons_self]
      exact List.dropWhile_cons_of_neg noBlank

/-- The text of an integer is read as the integer. -/
theorem JsonNumber.readsBack_int {value : Int}
    (fits : -0x8000000000000000 ≤ value ∧ value < 0x10000000000000000) :
    (JsonNumber.int value fits).ReadsBack := by
  have signed : ∃ negative : Bool, intText value =
        (if negative then ['-'] else []) ++ Nat.toDigits 10 value.natAbs ∧
      value = (if negative then -(value.natAbs : Int) else value.natAbs) ∧
      (negative = true → value.natAbs ≠ 0) := by
    by_cases isNegative : value < 0
    · exact ⟨true, if_pos isNegative, by simp only [if_true]; omega, by omega⟩
    · exact ⟨false, if_neg isNegative, by simp only [Bool.false_eq_true, if_false]; omega, nofun⟩
  obtain ⟨negative, isText, isValue, notZero⟩ := signed
  refine readsBack_of_readNumber ?_ (value_toDigits isValue notZero fits)
  rw [text, skipBlanks_intText, isText, readNumber_toDigits]

end RiskScoring
