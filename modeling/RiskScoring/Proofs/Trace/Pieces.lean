import RiskScoring.Trace.Explanation

/-!
# The pieces of a line

A line of text is words and groups, where a group is a line in parentheses, and a space stands
between each two of them. The line can be read back if its words are not empty and contain neither
spaces nor parentheses.

* `Piece`, `Piece.line`: words and groups, and the line that they make.
* `Reader`, `Piece.read`: from a line to its pieces.
* `Piece.read_line`: the line tells its pieces.
-/

namespace RiskScoring

/-- A part of a line: a word, or a line in parentheses. -/
inductive Piece where
  | word (text : String)
  | group (pieces : List Piece)

namespace Piece

mutual

def text : Piece → String
  | word text => text
  | group pieces => "(" ++ " ".intercalate (texts pieces) ++ ")"

def texts : List Piece → List String
  | [] => []
  | piece :: rest => piece.text :: texts rest

end

/-- The line that pieces make. -/
def line (pieces : List Piece) : String := " ".intercalate (texts pieces)

theorem texts_append (front back : List Piece) :
    texts (front ++ back) = texts front ++ texts back := by
  induction front with
  | nil => rfl
  | cons piece rest ih => rw [List.cons_append, texts, ih, texts, List.cons_append]

theorem texts_ne_nil {pieces : List Piece} (nonempty : pieces ≠ []) : texts pieces ≠ [] := by
  cases pieces with
  | nil => exact absurd rfl nonempty
  | cons piece rest => exact List.cons_ne_nil _ _

theorem line_singleton (piece : Piece) : line [piece] = piece.text := String.intercalate_singleton

theorem line_group (pieces : List Piece) : line [group pieces] = "(" ++ line pieces ++ ")" := by
  rw [line_singleton, text]
  rfl

theorem line_append {front back : List Piece} (nonempty : front ≠ []) (alsoNonempty : back ≠ []) :
    line (front ++ back) = line front ++ " " ++ line back := by
  rw [line, texts_append]
  exact String.intercalate_append_of_ne_nil (texts_ne_nil nonempty) (texts_ne_nil alsoNonempty)

theorem line_cons {piece : Piece} {rest : List Piece} (nonempty : rest ≠ []) :
    line (piece :: rest) = piece.text ++ " " ++ line rest := by
  rw [← List.singleton_append, line_append (List.cons_ne_nil _ _) nonempty, line_singleton]

theorem intercalate_ne_nil {separator : Piece} {rows : List (List Piece)} (nonempty : rows ≠ [])
    (each : ∀ row ∈ rows, row ≠ []) : [separator].intercalate rows ≠ [] := by
  rcases rows with _ | ⟨row, _ | ⟨other, rest⟩⟩
  · exact absurd rfl nonempty
  · rw [List.intercalate_singleton]
    exact each row List.mem_cons_self
  · simp [List.intercalate_cons_cons]

/-- Lines that are put together around a word make one line. -/
theorem line_intercalate (op : String) {rows : List (List Piece)} (each : ∀ row ∈ rows, row ≠ []) :
    (" " ++ op ++ " ").intercalate (rows.map line) = line ([word op].intercalate rows) := by
  induction rows with
  | nil => rfl
  | cons row rest ih =>
    obtain ⟨begins, others⟩ := List.forall_mem_cons.mp each
    by_cases isLast : rest = []
    · rw [isLast, List.intercalate_singleton, List.map_singleton, String.intercalate_singleton]
    · have goesOn : [word op].intercalate rest ≠ [] := intercalate_ne_nil isLast others
      rw [List.map_cons, String.intercalate_cons_of_ne_nil (by simpa using isLast), ih others,
        List.intercalate_cons_of_ne_nil isLast, List.append_assoc,
        line_append begins (by simp), List.singleton_append, line_cons goesOn, text]
      simp only [String.append_assoc]

end Piece

/-- What was read of a line so far: the pieces before each open parenthesis, innermost first, the
pieces behind the last one, and the characters of a word that has not ended. -/
structure Reader where
  above : List (List Piece)
  pieces : List Piece
  word : List Char

namespace Reader

/-- The word has ended, if there is one. -/
def flush (reader : Reader) : Reader :=
  if reader.word = [] then reader
  else { reader with pieces := reader.pieces ++ [.word (String.ofList reader.word)], word := [] }

/-- The innermost group has ended. A parenthesis that was not opened is passed over. -/
def close (reader : Reader) : Reader :=
  match reader.above with
  | [] => reader
  | outer :: above => { reader with above, pieces := outer ++ [.group reader.pieces] }

def step (reader : Reader) (char : Char) : Reader :=
  if char = ' ' then reader.flush
  else if char = '(' then ⟨reader.flush.pieces :: reader.above, [], []⟩
  else if char = ')' then reader.flush.close
  else { reader with word := reader.word ++ [char] }

def run (reader : Reader) (text : String) : Reader := text.toList.foldl step reader

end Reader

/-- The pieces of a line. -/
def Piece.read (line : String) : List Piece := (Reader.run ⟨[], [], []⟩ line).flush.pieces

/-- Whether a character is part of a word. -/
def isWordChar (char : Char) : Bool := char != ' ' && char != '(' && char != ')'

/-- A text that is read back as one word. -/
structure IsWord (text : String) : Prop where
  nonempty : text ≠ ""
  chars : text.toList.all isWordChar = true

/-- The words of a piece are read back as words. -/
inductive Piece.Readable : Piece → Prop
  | word {text : String} (isWord : IsWord text) : Readable (.word text)
  | group {pieces : List Piece} (each : ∀ piece ∈ pieces, Readable piece) :
    Readable (.group pieces)

namespace Reader

variable {reader : Reader} {above : List (List Piece)} {pieces : List Piece}

theorem run_append (first second : String) :
    reader.run (first ++ second) = (reader.run first).run second := by
  rw [run, String.toList_append, List.foldl_append]
  rfl

theorem run_space : reader.run " " = reader.flush := rfl

theorem run_open : reader.run "(" = ⟨reader.flush.pieces :: reader.above, [], []⟩ := rfl

theorem run_close : reader.run ")" = reader.flush.close := rfl

theorem step_wordChar {char : Char} (inWord : isWordChar char = true) :
    reader.step char = { reader with word := reader.word ++ [char] } := by
  simp only [isWordChar, Bool.and_eq_true, bne_iff_ne] at inWord
  obtain ⟨⟨noSpace, noOpening⟩, noClosing⟩ := inWord
  rw [step, if_neg noSpace, if_neg noOpening, if_neg noClosing]

theorem foldl_wordChars {chars : List Char} (inWord : chars.all isWordChar = true) :
    chars.foldl step reader = { reader with word := reader.word ++ chars } := by
  induction chars generalizing reader with
  | nil => simp
  | cons char rest ih =>
    rw [List.all_cons, Bool.and_eq_true] at inWord
    rw [List.foldl_cons, step_wordChar inWord.1, ih inWord.2, List.append_assoc]
    rfl

/-- A word is read behind the pieces before it. -/
theorem run_word {text : String} (isWord : IsWord text) :
    (run ⟨above, pieces, []⟩ text).flush = ⟨above, pieces ++ [.word text], []⟩ := by
  have begun : text.toList ≠ [] := fun empty => isWord.nonempty (String.toList_eq_nil_iff.mp empty)
  rw [run, foldl_wordChars isWord.chars, flush, if_neg (by simpa using begun)]
  simp

mutual

/-- A piece is read behind the pieces before it. -/
theorem run_text (above : List (List Piece)) (pieces : List Piece) (piece : Piece)
    (readable : piece.Readable) :
    (run ⟨above, pieces, []⟩ piece.text).flush = ⟨above, pieces ++ [piece], []⟩ := by
  cases piece with
  | word text =>
    cases readable with
    | word isWord => exact run_word isWord
  | group inner =>
    cases readable with
    | group each =>
      have inside : (run ⟨pieces :: above, [], []⟩ (Piece.line inner)).flush =
          ⟨pieces :: above, inner, []⟩ := run_line (pieces :: above) [] inner each
      rw [← Piece.line_singleton, Piece.line_group, run_append, run_append, run_open, run_close]
      exact congrArg (fun reader => (close reader).flush) inside

/-- A line is read behind the pieces before it. -/
theorem run_line (above : List (List Piece)) (pieces line : List Piece)
    (each : ∀ piece ∈ line, piece.Readable) :
    (run ⟨above, pieces, []⟩ (Piece.line line)).flush = ⟨above, pieces ++ line, []⟩ := by
  cases line with
  | nil => rw [List.append_nil]; rfl
  | cons piece rest =>
    obtain ⟨readable, others⟩ := List.forall_mem_cons.mp each
    have front := run_text above pieces piece readable
    by_cases isLast : rest = []
    · rw [isLast, Piece.line_singleton, front]
    · have behind := run_line above (pieces ++ [piece]) rest others
      rw [Piece.line_cons isLast, run_append, run_append, run_space, front, behind,
        List.append_assoc]
      rfl

end

end Reader

/-- A line of readable pieces tells its pieces. -/
theorem Piece.read_line {pieces : List Piece} (each : ∀ piece ∈ pieces, piece.Readable) :
    read (line pieces) = pieces := by
  rw [read, Reader.run_line [] [] pieces each, List.nil_append]

end RiskScoring
