import Exposure.Token.Lexer
import Mathlib.Data.List.TakeWhile

/-!
What a position says about its text: the line and the column of a position lead back to the characters that stand behind
it, and every token and every refused character of a text stands where its position says.
-/

namespace Exposure

namespace Text

/-- The text from the beginning of a line on, lines counted from one. -/
def fromLine (text : List Char) : Nat → List Char
  | 0 => text
  | 1 => text
  | line + 2 => (fromLine text (line + 1)).dropWhile (· ≠ '\n') |>.drop 1

/-- The characters of a line, lines counted from one. -/
def lineAt (text : List Char) (line : Nat) : List Char := (fromLine text line).takeWhile (· ≠ '\n')

/-- The number of lines of a text. -/
def lineCount (text : List Char) : Nat := text.count '\n' + 1

/-- The text from a line and a column on, both counted from one. -/
def fromPlace (text : List Char) (line column : Nat) : List Char := (fromLine text line).drop (column - 1)

/-- A line and a column are those of a character of a text or of the end of one of its lines. -/
structure HasPlace (text : List Char) (line column : Nat) : Prop where
  line_pos : 1 ≤ line
  column_pos : 1 ≤ column
  line_le : line ≤ lineCount text
  column_le : column ≤ (lineAt text line).length + 1

instance (text : List Char) (line column : Nat) : Decidable (HasPlace text line column) :=
  decidable_of_iff (1 ≤ line ∧ 1 ≤ column ∧ line ≤ lineCount text ∧ column ≤ (lineAt text line).length + 1)
    ⟨fun ⟨linePos, columnPos, lineLe, columnLe⟩ => ⟨linePos, columnPos, lineLe, columnLe⟩,
      fun ⟨linePos, columnPos, lineLe, columnLe⟩ => ⟨linePos, columnPos, lineLe, columnLe⟩⟩

end Text

namespace Position

/-- A position has the rest of a text behind it, and the line and the column that its text counts. -/
structure Faces (text : List Char) (position : Position) (rest : List Char) : Prop where
  place : Text.HasPlace text position.line position.column
  behind : Text.fromPlace text position.line position.column = rest
  lines_left : position.line + rest.count '\n' = Text.lineCount text

namespace Faces

variable {text rest : List Char} {position : Position}

theorem start (text : List Char) : Faces text .start text :=
  ⟨⟨Nat.le_refl 1, Nat.le_refl 1, Nat.le_add_left .., Nat.le_add_left ..⟩, rfl, Nat.add_comm ..⟩

/-- Passing a character leads to the position behind it. -/
theorem after {passed : Char} (faces : Faces text position (passed :: rest)) : Faces text (position.after passed) rest := by
  obtain ⟨⟨linePos, columnPos, lineLe, columnLe⟩, behind, linesLeft⟩ := faces
  obtain ⟨offset, line, column⟩ := position
  obtain ⟨column, rfl⟩ : ∃ before, column = before + 1 := ⟨column - 1, by simp only at columnPos; omega⟩
  obtain ⟨line, rfl⟩ : ∃ before, line = before + 1 := ⟨line - 1, by simp only at linePos; omega⟩
  simp only [Text.fromPlace, Nat.add_sub_cancel] at behind columnLe linesLeft
  -- the characters of the line before the position hold no newline
  obtain ⟨front, split, size, plain⟩ : ∃ front, Text.fromLine text (line + 1) = front ++ passed :: rest ∧
      front.length = column ∧ ∀ char ∈ front, (decide (char ≠ '\n')) = true := by
    have whole := congrArg List.length behind
    rw [List.length_drop, List.length_cons] at whole
    have size : ((Text.fromLine text (line + 1)).take column).length = column := by
      rw [List.length_take]
      omega
    refine ⟨_, by rw [← behind, List.take_append_drop], size, fun char member => ?_⟩
    have shorter : (Text.fromLine text (line + 1)).take column <+: Text.lineAt text (line + 1) := by
      refine List.prefix_of_prefix_length_le (List.take_prefix ..) (List.takeWhile_prefix _) ?_
      rw [size]
      exact Nat.le_of_succ_le_succ columnLe
    exact List.mem_takeWhile_imp (p := fun char => decide (char ≠ '\n')) (shorter.subset member)
  by_cases isBreak : passed = '\n'
  · subst isBreak
    have next : Text.fromLine text (line + 2) = rest := by
      rw [Text.fromLine, split, List.dropWhile_append_of_pos plain, List.dropWhile_cons_of_neg (by simp)]
      rfl
    rw [List.count_cons_self] at linesLeft
    refine ⟨⟨Nat.le_add_left 1 (line + 1), Nat.le_refl 1, ?_, Nat.le_add_left ..⟩, next, ?_⟩
    · simp only [Position.after, if_true]
      omega
    · simp only [Position.after, if_true]
      omega
  · have moved : Position.after ⟨offset, line + 1, column + 1⟩ passed = ⟨offset + 1, line + 1, column + 2⟩ := if_neg isBreak
    rw [List.count_cons_of_ne isBreak] at linesLeft
    rw [moved]
    refine ⟨⟨linePos, Nat.le_add_left 1 (column + 1), lineLe, ?_⟩, ?_, linesLeft⟩
    · rw [Text.lineAt, split, List.takeWhile_append_of_pos plain, List.takeWhile_cons_of_pos (by simpa using isBreak)]
      simp only [List.length_append, List.length_cons, size]
      omega
    · simp only [Text.fromPlace]
      rw [split, ← size]
      simp

end Faces

end Position

/-- A word stands at a position of a text. -/
def Text.StandsAt (text word : List Char) (position : Position) : Prop := ∃ rest, Position.Faces text position (word ++ rest)

namespace Text.StandsAt

variable {text word : List Char} {position : Position}

theorem hasPlace (stands : StandsAt text word position) : HasPlace text position.line position.column := by
  obtain ⟨rest, faces⟩ := stands
  exact faces.place

theorem isPrefix (stands : StandsAt text word position) : word <+: fromPlace text position.line position.column := by
  obtain ⟨rest, faces⟩ := stands
  exact ⟨rest, faces.behind.symm⟩

end Text.StandsAt

namespace Lexing

open Position

variable {text : List Char}

/-- Every lexeme stands where its position says. -/
theorem standsAt_of_mem_scan {inside : Nat} {position : Position} {rest : List Char} (faces : Faces text position rest)
    {lexeme : Lexeme} (member : lexeme ∈ (scan inside position rest).lexemes) :
    Text.StandsAt text lexeme.text lexeme.start := by
  fun_induction scan inside position rest with
  | case1 => cases member
  | case2 position inside passed rest step => exact step faces.after member
  | case3 position first rest kind inside found step =>
    rcases List.mem_cons.mp member with rfl | later
    · exact ⟨(first :: rest).drop (inside + 1), (List.take_append_drop ..).symm ▸ faces⟩
    · exact step faces.after later
  | case4 => cases member

/-- The character that begins no lexeme stands where the lexing ends. -/
theorem standsAt_of_failure {inside : Nat} {position : Position} {rest : List Char} (faces : Faces text position rest)
    {char : Char} {place : Position} (failed : (scan inside position rest).failure = some (char, place)) :
    Text.StandsAt text [char] place := by
  fun_induction scan inside position rest with
  | case1 => cases failed
  | case2 position inside passed rest step => exact step faces.after failed
  | case3 position first rest kind inside found step => exact step faces.after failed
  | case4 position first rest =>
    cases failed
    exact ⟨rest, faces⟩

/-- Every token stands where its position says. -/
theorem standsAt_of_mem {text : String} {token : Token} (member : token ∈ (ofText text).tokens) :
    Text.StandsAt text.toList token.text.toList token.start := by
  obtain ⟨lexeme, isLexeme, found⟩ := List.mem_filterMap.mp member
  obtain ⟨terminal, -, rfl⟩ := Option.map_eq_some_iff.mp found
  simpa only [String.toList_ofList] using standsAt_of_mem_scan (Faces.start _) isLexeme

/-- Every lexeme has a character. -/
theorem text_ne_nil_of_mem_scan {inside : Nat} {position : Position} {rest : List Char} {lexeme : Lexeme}
    (member : lexeme ∈ (scan inside position rest).lexemes) : lexeme.text ≠ [] := by
  fun_induction scan inside position rest with
  | case1 => cases member
  | case2 position inside passed rest step => exact step member
  | case3 position first rest kind inside found step =>
    rcases List.mem_cons.mp member with rfl | later
    · exact List.cons_ne_nil _ _
    · exact step later
  | case4 => cases member

/-- Every token has a character. -/
theorem text_ne_empty_of_mem {text : String} {token : Token} (member : token ∈ (ofText text).tokens) :
    token.text ≠ "" := by
  obtain ⟨lexeme, isLexeme, found⟩ := List.mem_filterMap.mp member
  obtain ⟨terminal, -, rfl⟩ := Option.map_eq_some_iff.mp found
  simpa using text_ne_nil_of_mem_scan isLexeme

end Lexing

end Exposure
