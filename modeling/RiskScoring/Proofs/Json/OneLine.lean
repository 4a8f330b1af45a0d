import RiskScoring.Json.Printer
import RiskScoring.Proofs.Json.Tokens
import RiskScoring.Text.Lines

/-!
# Compact text stands on one line

Whatever characters the strings of a value hold, its compact text holds none of the characters that
end lines, so that values that are written line by line are found again line by line.

* `Json.visible_chars`: the compact text of a value holds no control character.
* `String.bytes`, `String.count_lineFeed`: only a line feed is encoded by the byte of a line feed.
* `textLines_join`: the lines of a text that was put together from lines.
-/

namespace RiskScoring

/-- The character is no control character, so it does not end a line. -/
def Visible (c : Char) : Prop := 0x20 ≤ c.toNat

instance : DecidablePred Visible := fun c => inferInstanceAs (Decidable (0x20 ≤ c.toNat))

theorem visible_of_all {text : List Char} (all : text.all (decide <| Visible ·) = true) :
    ∀ c ∈ text, Visible c := by
  simpa using all

/-! ## Numbers -/

theorem visible_of_isDigit {c : Char} (isDigit : c.isDigit = true) : Visible c := by
  have bounds : 48 ≤ c.val ∧ c.val ≤ 57 := by simpa [Char.isDigit] using isDigit
  have least : 48 ≤ c.toNat := bounds.1
  exact Nat.le_trans (by decide) least

theorem visible_toDigits (value : Nat) : ∀ c ∈ Nat.toDigits 10 value, Visible c :=
  fun _ listed => visible_of_isDigit (Nat.isDigit_of_mem_toDigits (by decide) (by decide) listed)

theorem visible_take (value count : Nat) :
    ∀ c ∈ (Nat.toDigits 10 value).take count, Visible c :=
  fun c listed => visible_toDigits value c (List.mem_of_mem_take listed)

theorem visible_drop (value count : Nat) :
    ∀ c ∈ (Nat.toDigits 10 value).drop count, Visible c :=
  fun c listed => visible_toDigits value c (List.mem_of_mem_drop listed)

theorem visible_zeros (count : Nat) : ∀ c ∈ List.replicate count '0', Visible c := by
  intro c listed
  rw [List.eq_of_mem_replicate listed]
  decide

theorem visible_intText (value : Int) : ∀ c ∈ intText value, Visible c := by
  have digits := visible_toDigits value.natAbs
  unfold intText
  split
  · exact List.forall_mem_cons.mpr ⟨by decide, digits⟩
  · exact digits

namespace NumberLayout

variable (layout : NumberLayout)

theorem visible_positionalDigits (number : Decimal) :
    ∀ c ∈ layout.positionalDigits number, Visible c := by
  have point : Visible '.' := by decide
  have zero : Visible '0' := by decide
  unfold positionalDigits
  dsimp only
  split
  · simp only [List.forall_mem_append]
    refine ⟨⟨visible_toDigits _, visible_zeros _⟩, ?_⟩
    split
    · exact visible_of_all (by decide)
    · exact List.forall_mem_nil _
  · split
    · simp only [List.forall_mem_append, List.forall_mem_cons]
      exact ⟨visible_take _ _, point, visible_drop _ _⟩
    · simp only [List.forall_mem_append, List.forall_mem_cons]
      exact ⟨zero, point, visible_zeros _, visible_toDigits _⟩

theorem visible_scientificDigits (number : Decimal) (order : Int) :
    ∀ c ∈ layout.scientificDigits number order, Visible c := by
  unfold scientificDigits
  dsimp only
  simp only [List.forall_mem_append, List.forall_mem_cons]
  refine ⟨⟨visible_take _ 1, ?_⟩, by decide, ?_, visible_toDigits _⟩
  · split
    · exact List.forall_mem_nil _
    · exact List.forall_mem_cons.mpr ⟨by decide, visible_drop _ 1⟩
  · split
    · exact visible_of_all (by decide)
    · split
      · exact visible_of_all (by decide)
      · exact List.forall_mem_nil _

theorem visible_finite (negative : Bool) (significand : Nat) (exponent : Int) :
    ∀ c ∈ layout.finite negative significand exponent, Visible c := by
  have body : ∀ c ∈ (if significand = 0 then layout.positionalDigits ⟨0, 0⟩
      else
        let number := Decimal.shortest layout.tie significand exponent
        let order := number.exponent + (Nat.toDigits 10 number.digits).length - 1
        if layout.positional order then layout.positionalDigits number
        else layout.scientificDigits number order), Visible c := by
    split
    · exact layout.visible_positionalDigits _
    · dsimp only
      split
      · exact layout.visible_positionalDigits _
      · exact layout.visible_scientificDigits _ _
  cases negative with
  | true => exact List.forall_mem_cons.mpr ⟨by decide, body⟩
  | false => exact body

theorem visible_text (value : Float) : ∀ c ∈ layout.text value, Visible c := by
  unfold text
  split
  · exact visible_of_all (by decide)
  · split
    · exact visible_of_all (by decide)
    · exact visible_of_all (by decide)
  · exact layout.visible_finite _ _ _

end NumberLayout

theorem JsonNumber.visible_text (number : JsonNumber) : ∀ c ∈ number.text, Visible c := by
  cases number with
  | int value fits => exact visible_intText value
  | float value finite => exact NumberLayout.json.visible_text value

/-! ## Values -/

namespace Json

/-- Control characters are escaped, and no escape has one in it. -/
theorem visible_escapeChar (c : Char) : ∀ written ∈ escapeChar c, Visible written := by
  have digits : ∀ digit < 16, Visible (Nat.digitChar digit) := by decide
  unfold escapeChar
  split
  · rename_i letter short
    have known : Visible letter := by
      unfold shortEscape? at short
      repeat' split at short
      all_goals
        cases short
        try decide
    exact List.forall_mem_cons.mpr ⟨by decide, List.forall_mem_singleton.mpr known⟩
  · split
    · rename_i isControl
      simp only [List.forall_mem_cons]
      refine ⟨by decide, by decide, by decide, by decide, digits _ (by omega),
        digits _ (by omega), ?_⟩
      exact List.forall_mem_nil _
    · rename_i plain
      exact List.forall_mem_singleton.mpr (Nat.le_of_not_lt plain)

theorem visible_quote (value : String) : ∀ c ∈ quote value, Visible c := by
  unfold quote
  simp only [List.forall_mem_cons, List.forall_mem_append]
  refine ⟨by decide, ?_, by decide, List.forall_mem_nil _⟩
  intro written listed
  obtain ⟨c, -, escaped⟩ := List.mem_flatMap.mp listed
  exact visible_escapeChar c written escaped

mutual

/-- The compact text of a value holds no control character. -/
theorem visible_chars : ∀ value : Json, ∀ c ∈ value.chars, Visible c
  | .null | .bool true | .bool false => visible_of_all (by decide)
  | .number value => value.visible_text
  | .string value => visible_quote value
  | .array [] => visible_of_all (by decide)
  | .array (item :: rest) => by
    simp only [chars, List.forall_mem_cons, List.forall_mem_append]
    exact ⟨by decide, visible_chars item, visible_charsItems rest⟩
  | .object [] => visible_of_all (by decide)
  | .object ((key, value) :: rest) => by
    simp only [chars, List.forall_mem_cons, List.forall_mem_append]
    exact ⟨by decide, visible_quote key, by decide, visible_chars value, visible_charsMembers rest⟩

theorem visible_charsItems : ∀ items : List Json, ∀ c ∈ charsItems items, Visible c
  | [] => visible_of_all (by decide)
  | item :: rest => by
    simp only [charsItems, List.forall_mem_cons, List.forall_mem_append]
    exact ⟨by decide, visible_chars item, visible_charsItems rest⟩

theorem visible_charsMembers : ∀ members : List (String × Json),
    ∀ c ∈ charsMembers members, Visible c
  | [] => visible_of_all (by decide)
  | (key, value) :: rest => by
    simp only [charsMembers, List.forall_mem_cons, List.forall_mem_append]
    exact ⟨by decide, visible_quote key, by decide, visible_chars value, visible_charsMembers rest⟩

end

theorem visible_compact (value : Json) : ∀ c ∈ value.compact.toList, Visible c := by
  rw [compact, String.toList_ofList]
  exact value.visible_chars

end Json

/-! ## Lines -/

/-- A text is read up to the first line feed in it. -/
theorem linesFrom_lineFeed (before : List Char) {line : List Char} (oneLine : '\n' ∉ line)
    (rest : List Char) :
    linesFrom before (line ++ '\n' :: rest) =
      dropReturn (before.reverse ++ line) :: linesFrom [] rest := by
  induction line generalizing before with
  | nil =>
    rw [List.nil_append, linesFrom, if_pos rfl, List.append_nil]
  | cons c line ih =>
    rw [List.mem_cons, not_or] at oneLine
    rw [List.cons_append, linesFrom, if_neg (Ne.symm oneLine.1), ih _ oneLine.2,
      List.reverse_cons, List.append_assoc]
    rfl

/-- The lines of a text that was put together from lines. -/
theorem textLines_join {lines : List String}
    (visible : ∀ line ∈ lines, ∀ c ∈ line.toList, Visible c) :
    textLines (String.join (lines.map (· ++ "\n"))) = lines := by
  induction lines with
  | nil => rfl
  | cons line rest ih =>
    obtain ⟨first, others⟩ := List.forall_mem_cons.mp visible
    have oneLine : '\n' ∉ line.toList := fun listed => absurd (first _ listed) (by decide)
    have noReturn : line.toList.getLast? ≠ some '\r' := fun isLast =>
      absurd (first _ (List.mem_of_getLast? isLast)) (by decide)
    have ended : (line ++ "\n").toList = line.toList ++ ['\n'] := String.toList_append
    have again : (linesFrom [] (String.join (rest.map (· ++ "\n"))).toList).map String.ofList =
        rest := ih others
    rw [List.map_cons, String.join_cons, textLines, String.toList_append, ended, List.append_assoc,
      List.singleton_append, linesFrom_lineFeed [] oneLine, List.reverse_nil, List.nil_append,
      dropReturn, if_neg noReturn, List.map_cons, again, String.ofList_toList]

/-! ## Bytes -/

/-- The bytes of a text. -/
def utf8Bytes (text : String) : List UInt8 := text.toByteArray.data.toList

/-- The byte of a line feed. -/
def lineFeed : UInt8 := 10

theorem utf8Bytes_append (first second : String) :
    utf8Bytes (first ++ second) = utf8Bytes first ++ utf8Bytes second := by
  rw [utf8Bytes, String.toByteArray_append]
  simp [utf8Bytes]

/-- Only a line feed is encoded by the byte of a line feed: all bytes of longer encodings are
from 128 on. -/
theorem lineFeed_mem_encoded {c : Char} (listed : lineFeed ∈ String.utf8EncodeChar c) :
    c = '\n' := by
  have isTen {byte : Nat} (same : lineFeed = UInt8.ofNat byte) : byte % 256 = 10 := by
    have value := congrArg UInt8.toNat same
    rw [UInt8.toNat_ofNat'] at value
    exact value.symm
  unfold String.utf8EncodeChar at listed
  dsimp only at listed
  split at listed
  · have value := isTen (List.mem_singleton.mp listed)
    have same : c.toNat = '\n'.toNat := by
      show c.val.toNat = 10
      omega
    exact Char.toNat_inj.mp same
  · exfalso
    split at listed
    · simp only [List.mem_cons, List.not_mem_nil, or_false] at listed
      rcases listed with same | same
      all_goals
        have value := isTen same
        omega
    · split at listed
      · simp only [List.mem_cons, List.not_mem_nil, or_false] at listed
        rcases listed with same | same | same
        all_goals
          have value := isTen same
          omega
      · simp only [List.mem_cons, List.not_mem_nil, or_false] at listed
        rcases listed with same | same | same | same
        all_goals
          have value := isTen same
          omega

theorem lineFeed_notMem_bytes {text : String} (visible : ∀ c ∈ text.toList, Visible c) :
    lineFeed ∉ utf8Bytes text := by
  intro listed
  have bytes : utf8Bytes text = text.toList.flatMap String.utf8EncodeChar := by
    have whole : utf8Bytes (String.ofList text.toList) = _ := List.toList_data_toByteArray
    rw [String.ofList_toList] at whole
    exact whole
  rw [bytes] at listed
  obtain ⟨c, inText, encoded⟩ := List.mem_flatMap.mp listed
  have isLineFeed := lineFeed_mem_encoded encoded
  subst isLineFeed
  exact absurd (visible _ inText) (by decide)

end RiskScoring
