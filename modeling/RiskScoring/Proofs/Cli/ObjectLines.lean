import RiskScoring.Cli.Run

/-!
# Lines of objects

A file of objects has one on each line that is not blank. These lines are numbered, and blank lines
are passed over before that, so the number of a line falls short of its position in the file by the
blank lines before it.

* `standsBetween_of_linesFrom`: where the line at a place stands in a text.
* `Cli.ObjectLine`: the line of an object, with its position and its number.
* `Cli.ObjectLine.number_add_blanksBefore`: the number and the position.
* `Cli.getElem?_numberedLines`: the lines that are numbered.
-/

namespace RiskScoring

/-! ## Lines in a text -/

/-- A line stands in a text between what is before it, which is nothing or ends a line, and its own
end: a line feed, with or without a carriage return before it, or the end of the text. -/
structure StandsBetween (before line after : List Char) : Prop where
  starts : before = [] ∨ before.getLast? = some '\n'
  oneLine : '\n' ∉ line
  ends : after = [] ∨ ∃ rest, after = '\n' :: rest ∨ after = '\r' :: '\n' :: rest

/-- Only a carriage return is dropped at the end of a line. -/
theorem exists_dropReturn (line : List Char) :
    ∃ dropped, line = dropReturn line ++ dropped ∧ (dropped = [] ∨ dropped = ['\r']) := by
  unfold dropReturn
  split
  · rename_i isLast
    obtain ⟨front, rfl⟩ := List.getLast?_eq_some_iff.mp isLast
    exact ⟨['\r'], by rw [List.dropLast_concat], .inr rfl⟩
  · exact ⟨[], (List.append_nil line).symm, .inl rfl⟩

theorem StandsBetween.later {before line after : List Char}
    (stands : StandsBetween before line after) (start : List Char) :
    StandsBetween (start ++ '\n' :: before) line after := by
  refine ⟨.inr ?_, stands.oneLine, stands.ends⟩
  rcases stands.starts with rfl | isLast
  · exact List.getLast?_concat
  · rw [List.getLast?_append, List.getLast?_cons, isLast]
    rfl

/-- The line at a place stands after as many line feeds. -/
theorem standsBetween_of_linesFrom {start chars line : List Char} {place : Nat}
    (oneLine : '\n' ∉ start.reverse) (found : (linesFrom start chars)[place]? = some line) :
    ∃ before after, start.reverse ++ chars = before ++ line ++ after ∧
      StandsBetween before line after ∧ before.count '\n' = place := by
  -- `start` holds what is read of the current line, so the lines to come are those of `chars`.
  induction chars generalizing start place with
  | nil =>
    rw [linesFrom] at found
    split at found
    · cases found
    · cases place with
      | zero =>
        obtain rfl : start.reverse = line := Option.some.inj found
        exact ⟨[], [], rfl, ⟨.inl rfl, oneLine, .inl rfl⟩, rfl⟩
      | succ place => cases found
  | cons c rest ih =>
    rw [linesFrom] at found
    by_cases isFeed : c = '\n'
    · subst isFeed
      rw [if_pos rfl] at found
      cases place with
      | zero =>
        obtain rfl : dropReturn start.reverse = line := Option.some.inj found
        obtain ⟨dropped, splits, kinds⟩ := exists_dropReturn start.reverse
        refine ⟨[], dropped ++ '\n' :: rest, ?_, ⟨.inl rfl, ?_, .inr ⟨rest, ?_⟩⟩, rfl⟩
        · rw [List.nil_append, ← List.append_assoc, ← splits]
        · intro listed
          rw [splits] at oneLine
          exact oneLine (List.mem_append_left _ listed)
        · rcases kinds with rfl | rfl
          · exact .inl rfl
          · exact .inr rfl
      | succ place =>
        obtain ⟨before, after, splits, stands, count⟩ := ih List.not_mem_nil found
        refine ⟨start.reverse ++ '\n' :: before, after, ?_, stands.later _, ?_⟩
        · rw [List.reverse_nil, List.nil_append] at splits
          simp only [splits, List.append_assoc, List.cons_append]
        · rw [List.count_append, List.count_cons_self, List.count_eq_zero.mpr oneLine, count,
            Nat.zero_add]
    · rw [if_neg isFeed] at found
      have longer : '\n' ∉ (c :: start).reverse := by
        rw [List.reverse_cons, List.mem_append, List.mem_singleton]
        exact not_or.mpr ⟨oneLine, Ne.symm isFeed⟩
      obtain ⟨before, after, splits, standsAt⟩ := ih longer found
      refine ⟨before, after, ?_, standsAt⟩
      rw [← splits, List.reverse_cons, List.append_assoc, List.singleton_append]

/-! ## Kept items -/

/-- The items that are kept, by their places in the whole list: before the item at a place, as many
are kept as its index among them says. -/
theorem getElem?_filter_eq_some_iff {α : Type} {keeps : α → Bool} {items : List α} {index : Nat}
    {item : α} : (items.filter keeps)[index]? = some item ↔
      ∃ place, items[place]? = some item ∧ keeps item = true ∧
        (items.take place).countP keeps = index := by
  -- The first item moves every later place by one, but an index only if it is kept.
  induction items generalizing index with
  | nil => simp
  | cons first rest ih =>
    constructor
    · intro found
      by_cases kept : keeps first = true
      · rw [List.filter_cons_of_pos kept] at found
        cases index with
        | zero =>
          obtain rfl : first = item := by simpa using found
          exact ⟨0, rfl, kept, rfl⟩
        | succ index =>
          obtain ⟨place, there, keptToo, count⟩ := ih.mp found
          refine ⟨place + 1, there, keptToo, ?_⟩
          rw [List.take_succ_cons, List.countP_cons_of_pos kept, count]
      · rw [List.filter_cons_of_neg kept] at found
        obtain ⟨place, there, keptToo, count⟩ := ih.mp found
        refine ⟨place + 1, there, keptToo, ?_⟩
        rw [List.take_succ_cons, List.countP_cons_of_neg kept, count]
    · rintro ⟨place, there, keptItem, rfl⟩
      cases place with
      | zero =>
        obtain rfl : first = item := by simpa using there
        rw [List.filter_cons_of_pos keptItem]
        rfl
      | succ place =>
        have later := ih.mpr ⟨place, there, keptItem, rfl⟩
        by_cases kept : keeps first = true
        · rw [List.filter_cons_of_pos kept, List.take_succ_cons, List.countP_cons_of_pos kept]
          exact later
        · rw [List.filter_cons_of_neg kept, List.take_succ_cons, List.countP_cons_of_neg kept]
          exact later

namespace Cli

/-! ## Lines of objects -/

/-- A line without an object. -/
def isBlankLine (line : String) : Bool := line.toList.all isBlank

/-- The line of an object in a text: one that is not blank, by its place. -/
structure ObjectLine (text : String) where
  place : Nat
  line : String
  found : (textLines text)[place]? = some line
  notBlank : isBlankLine line = false

namespace ObjectLine

variable {text : String}

/-- The position of the line in the text, from one on. -/
def position (object : ObjectLine text) : Nat := object.place + 1

/-- The line stands in the text after as many line feeds as there are positions before its own. -/
theorem exists_standsBetween (object : ObjectLine text) :
    ∃ before after, text.toList = before ++ object.line.toList ++ after ∧
      StandsBetween before object.line.toList after ∧
      before.count '\n' + 1 = object.position := by
  obtain ⟨chars, found, isLine⟩ : ∃ chars, (linesFrom [] text.toList)[object.place]? = some chars ∧
      String.ofList chars = object.line := by
    have found := object.found
    rw [textLines, List.getElem?_map, Option.map_eq_some_iff] at found
    exact found
  obtain ⟨before, after, splits, stands, count⟩ :=
    standsBetween_of_linesFrom List.not_mem_nil found
  rw [← isLine, String.toList_ofList]
  exact ⟨before, after, splits, stands, congrArg (· + 1) count⟩

/-- How many blank lines stand before the line. -/
def blanksBefore (object : ObjectLine text) : Nat :=
  ((textLines text).take object.place).countP isBlankLine

/-- The number of the line among those that are not blank, from one on. -/
def number (object : ObjectLine text) : Nat :=
  ((textLines text).take object.place).countP (fun line => !isBlankLine line) + 1

/-- The number falls short of the position by the blank lines before the line. -/
theorem number_add_blanksBefore (object : ObjectLine text) :
    object.number + object.blanksBefore = object.position := by
  obtain ⟨inText, -⟩ := List.getElem?_eq_some_iff.mp object.found
  have all := List.length_eq_countP_add_countP isBlankLine (l := (textLines text).take object.place)
  rw [List.length_take, Nat.min_eq_left (Nat.le_of_lt inText)] at all
  have others : ((textLines text).take object.place).countP (fun line => !isBlankLine line) =
      ((textLines text).take object.place).countP (fun line => ¬isBlankLine line = true) :=
    List.countP_congr fun line _ => by simp
  unfold number blanksBefore position
  omega

theorem number_eq_iff {object : ObjectLine text} {number : Nat} :
    object.number = number ↔ number + object.blanksBefore = object.position := by
  have := object.number_add_blanksBefore
  omega

/-- Lines are numbered in the order of the text. -/
theorem number_lt_of_position {one other : ObjectLine text}
    (before : one.position < other.position) : one.number < other.number := by
  have places : one.place + 1 ≤ other.place := Nat.lt_of_succ_lt_succ before
  have included : ((textLines text).take (one.place + 1)).Sublist
      ((textLines text).take other.place) :=
    (List.take_prefix_take_left places).sublist
  have upTo : (textLines text).take (one.place + 1) =
      (textLines text).take one.place ++ [one.line] := by
    rw [List.take_add_one, one.found]
    rfl
  have counted := included.countP_le (p := fun line => !isBlankLine line)
  rw [upTo, List.countP_append, List.countP_singleton, one.notBlank] at counted
  exact Nat.succ_lt_succ counted

theorem position_lt_iff {one other : ObjectLine text} :
    one.position < other.position ↔ one.number < other.number := by
  refine ⟨number_lt_of_position, fun before => ?_⟩
  rcases Nat.lt_trichotomy one.position other.position with isBefore | isSame | isAfter
  · exact isBefore
  · have same : one.place = other.place := Nat.succ.inj isSame
    unfold number at before
    rw [same] at before
    exact absurd before (Nat.lt_irrefl _)
  · exact absurd (number_lt_of_position isAfter) (Nat.lt_asymm before)

end ObjectLine

/-- The numbered lines are those of objects. -/
theorem getElem?_numberedLines {text : String} {index : Nat} {entry : Nat × String} :
    (numberedLines text)[index]? = some entry ↔ ∃ object : ObjectLine text,
      object.number = index + 1 ∧ entry = (object.number, object.line) := by
  unfold numberedLines
  rw [List.getElem?_mapIdx, Option.map_eq_some_iff]
  constructor
  · rintro ⟨line, found, rfl⟩
    obtain ⟨place, there, kept, count⟩ := getElem?_filter_eq_some_iff.mp found
    have notBlank : isBlankLine line = false := (Bool.not_eq_true' _).mp kept
    let object : ObjectLine text := ⟨place, line, there, notBlank⟩
    have numbered : object.number = index + 1 := congrArg (· + 1) count
    exact ⟨object, numbered, by rw [numbered]⟩
  · rintro ⟨object, numbered, rfl⟩
    have kept : (!isBlankLine object.line) = true := (Bool.not_eq_true' _).mpr object.notBlank
    refine ⟨object.line, getElem?_filter_eq_some_iff.mpr ?_, by rw [numbered]⟩
    exact ⟨object.place, object.found, kept, Nat.succ.inj numbered⟩

end Cli

end RiskScoring
