import Mathlib.Data.List.TakeDrop
import RiskScoring.Json.Printer
import RiskScoring.Json.Reader

/-!
# Reading tokens in front of a text

What the reader does with a string or a number does not depend on the text that follows, as long as
that text does not go on with the number.

* `readString_quoted`: a string that was quoted is read back.
* `readNumber_append`: a number is read the same in front of a text that does not go on with it.
* `skipBlanks_append`: blanks in front of a text.
-/

namespace RiskScoring

/-! ## Strings -/

theorem hexDigit?_digitChar : ∀ digit < 16, hexDigit? (Nat.digitChar digit) = some digit := by
  decide

/-- The word that a control character is written with. -/
theorem hexWord?_ofControl {c : Char} (isControl : c.toNat < 0x20) :
    hexWord? '0' '0' (Nat.digitChar (c.toNat / 16)) (Nat.digitChar (c.toNat % 16)) =
      some c.toNat := by
  have high := hexDigit?_digitChar (c.toNat / 16) (by omega)
  have low := hexDigit?_digitChar (c.toNat % 16) (by omega)
  have zero : hexDigit? '0' = some 0 := rfl
  simp only [hexWord?, zero, high, low, bind, Option.bind, pure]
  congr 1
  omega

/-- A short escape stands for the character it was made from. -/
theorem unescape?_of_shortEscape? {c letter : Char} (short : Json.shortEscape? c = some letter) :
    unescape? letter = some c ∧ letter ≠ 'u' := by
  unfold Json.shortEscape? at short
  repeat' split at short
  all_goals first
    | cases short
      subst_vars
      exact ⟨rfl, by decide⟩
    | cases short

/-- Quotes and backslashes have short escapes. -/
theorem ne_of_shortEscape?_eq_none {c : Char} (long : Json.shortEscape? c = none) :
    c ≠ '"' ∧ c ≠ '\\' := by
  constructor
  · rintro rfl
    cases long
  · rintro rfl
    cases long

theorem StringSoFar.pushWord_ofControl {c : Char} (isControl : c.toNat < 0x20)
    (read : StringSoFar) : read.pushWord c.toNat = read.push c := by
  have notHigh : ¬(0xD800 ≤ c.toNat ∧ c.toNat < 0xDC00) := by omega
  have notLow : ¬(0xDC00 ≤ c.toNat ∧ c.toNat < 0xE000) := by omega
  rw [pushWord, if_neg notHigh, if_neg notLow, Char.ofNat_toNat]

/-- One character, as it is written, adds itself to a string. -/
theorem readString_escapeChar (read : StringSoFar) (c : Char) (rest : List Char) :
    readString read (Json.escapeChar c ++ rest) = readString (read.push c) rest := by
  unfold Json.escapeChar
  cases short : Json.shortEscape? c with
  | some letter =>
    obtain ⟨stands, notWord⟩ := unescape?_of_shortEscape? short
    show readString read ('\\' :: letter :: rest) = _
    rw [readString, stands]
    exact fun _ _ _ _ _ isWord _ => notWord isWord
  | none =>
    obtain ⟨notQuote, notBackslash⟩ := ne_of_shortEscape?_eq_none short
    by_cases isControl : c.toNat < 0x20
    · simp only [if_pos isControl]
      show readString read ('\\' :: 'u' :: '0' :: '0' :: _ :: _ :: rest) = _
      rw [readString, hexWord?_ofControl isControl]
      simp only [StringSoFar.pushWord_ofControl isControl]
    · simp only [if_neg isControl]
      show readString read (c :: rest) = _
      rw [readString, if_neg (by simp [isControl, notBackslash])]
      · exact notQuote
      · exact fun _ _ _ _ _ isBackslash _ => notBackslash isBackslash
      · exact fun _ _ isBackslash _ => notBackslash isBackslash

/-- The characters of a string, up to its closing quote. -/
theorem readString_quoted (found characters rest : List Char) :
    readString ⟨some found, none⟩ (characters.flatMap Json.escapeChar ++ '"' :: rest) =
      some (some (String.ofList (found.reverse ++ characters)), rest) := by
  induction characters generalizing found with
  | nil =>
    rw [List.append_nil]
    rfl
  | cons c characters ih =>
    have pushed : StringSoFar.push ⟨some found, none⟩ c = ⟨some (c :: found), none⟩ := rfl
    rw [List.flatMap_cons, List.append_assoc, readString_escapeChar, pushed, ih,
      List.reverse_cons, List.append_assoc, List.singleton_append]

/-! ## Numbers -/

/-- The text does not go on with a number. -/
def Stops (text : List Char) : Prop :=
  ∀ c ∈ text.head?, c.isDigit = false ∧ c ≠ '.' ∧ c ≠ 'e' ∧ c ≠ 'E'

theorem Stops.nil : Stops [] := fun _ isHead => nomatch isHead

theorem Stops.cons {c : Char} {rest : List Char}
    (ends : c.isDigit = false ∧ c ≠ '.' ∧ c ≠ 'e' ∧ c ≠ 'E') : Stops (c :: rest) := by
  rintro _ ⟨⟩
  exact ends

/-- The digits of an exponent whose sign is known. -/
def exponentDigits (negative : Bool) (text : List Char) : Option (Option Int × List Char) :=
  match spanDigits text with
  | ([], _) => none
  | (digits, rest) =>
    let magnitude : Int := digitsValue digits
    some (some (if negative then -magnitude else magnitude), rest)

/-- An exponent after its letter. -/
def signedExponent : List Char → Option (Option Int × List Char)
  | '+' :: rest => exponentDigits false rest
  | '-' :: rest => exponentDigits true rest
  | rest => exponentDigits false rest

theorem readExponent_eq (text : List Char) :
    readExponent text =
      match text with
      | 'e' :: rest => signedExponent rest
      | 'E' :: rest => signedExponent rest
      | rest => some (none, rest) := rfl

/-- A number whose sign is known. -/
def unsignedNumber (negative : Bool) (text : List Char) : Option (NumberText × List Char) := do
  let (whole, text) ← readWhole text
  let (fraction, text) ← readFraction text
  let (exponent, text) ← readExponent text
  return (⟨negative, whole, fraction, exponent⟩, text)

theorem readNumber_minus (text : List Char) :
    readNumber ('-' :: text) = unsignedNumber true text := rfl

theorem readNumber_of_ne_minus {text : List Char} (noMinus : ∀ rest, text ≠ '-' :: rest) :
    readNumber text = unsignedNumber false text := by
  unfold readNumber
  split
  rename_i signed
  split at signed
  · exact absurd rfl (noMinus _)
  · cases signed
    rfl

section

variable {text rest : List Char} (stops : Stops rest)

include stops

/-- A point or the letter of an exponent is in the text before. -/
theorem Stops.starts_of_append {c : Char} {tail : List Char} (starts : text ++ rest = c :: tail)
    (goesOn : c = '.' ∨ c = 'e' ∨ c = 'E') : ∃ tail, text = c :: tail := by
  cases text with
  | nil =>
    obtain rfl : rest = c :: tail := starts
    obtain ⟨-, noPoint, noLower, noUpper⟩ := stops c rfl
    rcases goesOn with rfl | rfl | rfl <;> contradiction
  | cons first text =>
    cases starts
    exact ⟨text, rfl⟩

theorem spanDigits_append {digits after : List Char} (spans : spanDigits text = (digits, after)) :
    spanDigits (text ++ rest) = (digits, after ++ rest) := by
  have noDigit : rest.takeWhile Char.isDigit = [] ∧ rest.dropWhile Char.isDigit = rest := by
    cases rest with
    | nil => exact ⟨rfl, rfl⟩
    | cons c rest =>
      have notDigit := (stops c rfl).1
      simp [notDigit]
  simp only [spanDigits, List.span_eq_takeWhile_dropWhile, Prod.mk.injEq] at spans ⊢
  obtain ⟨rfl, rfl⟩ := spans
  induction text with
  | nil => simp [noDigit]
  | cons c text ih => cases isDigit : c.isDigit <;> simp [isDigit, ih]

theorem readWhole_append {whole after : List Char} (reads : readWhole text = some (whole, after)) :
    readWhole (text ++ rest) = some (whole, after ++ rest) := by
  rcases spans : spanDigits text with ⟨digits, left⟩
  have spansOn := spanDigits_append stops spans
  unfold readWhole at reads ⊢
  rw [spans] at reads
  rw [spansOn]
  split at reads
  · cases reads
  · cases reads
  · rename_i notEmpty notPadded
    cases reads
    split
    · rename_i isEmpty
      cases isEmpty
      exact absurd rfl (notEmpty _)
    · rename_i isPadded
      cases isPadded
      exact absurd rfl (notPadded _ _ _)
    · rfl

theorem readFraction_append {fraction : Option (List Char)} {after : List Char}
    (reads : readFraction text = some (fraction, after)) :
    readFraction (text ++ rest) = some (fraction, after ++ rest) := by
  unfold readFraction at reads
  split at reads
  · rename_i tail
    rcases spans : spanDigits tail with ⟨_ | ⟨digit, digits⟩, left⟩
    · simp only [spans] at reads
      cases reads
    · simp only [spans] at reads
      cases reads
      simp only [List.cons_append, readFraction, spanDigits_append stops spans]
  · rename_i noPoint
    cases reads
    rw [readFraction]
    intro _ isPoint
    obtain ⟨tail, rfl⟩ := stops.starts_of_append isPoint (by simp)
    exact noPoint tail rfl

theorem exponentDigits_append {negative : Bool} {exponent : Option Int} {after : List Char}
    (reads : exponentDigits negative text = some (exponent, after)) :
    exponentDigits negative (text ++ rest) = some (exponent, after ++ rest) := by
  rcases spans : spanDigits text with ⟨_ | ⟨digit, digits⟩, left⟩
  · simp only [exponentDigits, spans] at reads
    cases reads
  · simp only [exponentDigits, spans] at reads
    cases reads
    simp only [exponentDigits, spanDigits_append stops spans]

theorem signedExponent_append {exponent : Option Int} {after : List Char}
    (reads : signedExponent text = some (exponent, after)) :
    signedExponent (text ++ rest) = some (exponent, after ++ rest) := by
  unfold signedExponent at reads
  split at reads
  · exact exponentDigits_append stops reads
  · exact exponentDigits_append stops reads
  · rename_i noPlus noMinus
    cases text with
    | nil => cases reads
    | cons c text =>
      rw [List.cons_append, signedExponent]
      · exact exponentDigits_append stops reads
      · rintro _ ⟨⟩
        exact noPlus text rfl
      · rintro _ ⟨⟩
        exact noMinus text rfl

theorem readExponent_append {exponent : Option Int} {after : List Char}
    (reads : readExponent text = some (exponent, after)) :
    readExponent (text ++ rest) = some (exponent, after ++ rest) := by
  rw [readExponent_eq] at reads ⊢
  split at reads
  · exact signedExponent_append stops reads
  · exact signedExponent_append stops reads
  · rename_i noLower noUpper
    cases reads
    split
    · rename_i isLower
      obtain ⟨tail, rfl⟩ := stops.starts_of_append isLower (by simp)
      exact absurd rfl (noLower tail)
    · rename_i isUpper
      obtain ⟨tail, rfl⟩ := stops.starts_of_append isUpper (by simp)
      exact absurd rfl (noUpper tail)
    · rfl

theorem unsignedNumber_append {negative : Bool} {number : NumberText} {after : List Char}
    (reads : unsignedNumber negative text = some (number, after)) :
    unsignedNumber negative (text ++ rest) = some (number, after ++ rest) := by
  simp only [unsignedNumber, bind, Option.bind_eq_some_iff, pure, Prod.exists] at reads
  obtain ⟨whole, afterWhole, wholeReads, fraction, afterFraction, fractionReads, exponent,
    afterExponent, exponentReads, ends⟩ := reads
  cases ends
  simp only [unsignedNumber, readWhole_append stops wholeReads, readFraction_append stops
    fractionReads, readExponent_append stops exponentReads, bind, Option.bind, pure]

theorem readNumber_append {number : NumberText} {after : List Char}
    (reads : readNumber text = some (number, after)) :
    readNumber (text ++ rest) = some (number, after ++ rest) := by
  cases text with
  | nil => cases reads
  | cons c text =>
    by_cases isMinus : c = '-'
    · subst isMinus
      rw [readNumber_minus] at reads
      rw [List.cons_append, readNumber_minus]
      exact unsignedNumber_append stops reads
    · rw [readNumber_of_ne_minus (by simp [isMinus])] at reads ⊢
      exact unsignedNumber_append stops reads

end

/-! ## Blanks -/

theorem skipBlanks_append {text : List Char} (occurs : skipBlanks text ≠ []) (rest : List Char) :
    skipBlanks (text ++ rest) = skipBlanks text ++ rest := by
  rw [skipBlanks, List.dropWhile_append, if_neg]
  · rfl
  · exact fun isEmpty => occurs (List.isEmpty_iff.mp isEmpty)

end RiskScoring
