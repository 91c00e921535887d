import Exposure.Proofs.Pieces
import Exposure.Proofs.Whereabouts
import Mathlib.Data.List.Induction
import Mathlib.Logic.ExistsUnique

/-!
# Lexemes and their offsets

The lexemes of a text, blanks and comments among them, are the text itself, cut into pieces: nothing is lost, nothing is read
twice, and what is left over begins with a character that begins no lexeme. A position that is reached by passing the
characters before it counts them, and so the offset, the line and the column of every token are those of the place where its
text stands.
-/

namespace Exposure

namespace Text

/-- The characters of a text from one offset up to another. -/
def slice (text : List Char) (start stop : Nat) : List Char := (text.take stop).drop start

theorem slice_append (before inside after : List Char) :
    slice (before ++ inside ++ after) before.length (before ++ inside).length = inside := by
  rw [slice, List.take_left, List.drop_left]

/-- The line of an offset begins where the text does or just behind a newline, and no newline stands between. -/
structure LineBegins (text : List Char) (offset first : Nat) : Prop where
  first_le : first ≤ offset
  behind : first = 0 ∨ text[first - 1]? = some '\n'
  plain : '\n' ∉ slice text first offset

namespace LineBegins

variable {text : List Char} {offset first : Nat}

/-- Where a line begins is a matter of the text before the offset. -/
theorem append (begins : LineBegins text offset first) (inside : offset ≤ text.length) (after : List Char) :
    LineBegins (text ++ after) offset first := by
  refine ⟨begins.first_le, begins.behind.imp_right fun behind => ?_, ?_⟩
  · obtain ⟨bound, -⟩ := List.getElem?_eq_some_iff.mp behind
    rwa [List.getElem?_append_left bound]
  · rw [slice, List.take_append_of_le_length inside]
    exact begins.plain

/-- A line begins at one offset only. -/
theorem unique {first' : Nat} (begins : LineBegins text offset first) (begins' : LineBegins text offset first') :
    first = first' := by
  -- the newline before the later of two beginnings would stand behind the earlier one
  have notBefore {one two : Nat} (early : LineBegins text offset one) (late : LineBegins text offset two) : ¬ one < two := by
    intro less
    have lateLe := late.first_le
    rcases late.behind with zero | newline
    · omega
    · refine early.plain (List.mem_iff_getElem?.mpr ⟨two - 1 - one, ?_⟩)
      rw [slice, List.getElem?_drop, List.getElem?_take_of_lt (by omega), show one + (two - 1 - one) = two - 1 by omega]
      exact newline
  have notLess := notBefore begins begins'
  have notMore := notBefore begins' begins
  omega

end LineBegins

end Text

namespace Position

/-- A position counts the text before its offset: its line the newlines, and its column the characters of the line. -/
structure Counts (text : List Char) (position : Position) : Prop where
  offset_le : position.offset ≤ text.length
  line_eq : position.line = 1 + (text.take position.offset).count '\n'
  column_eq : ∃! first, Text.LineBegins text position.offset first ∧ position.column = position.offset - first + 1

/-- The column behind some characters counts those behind the last newline. -/
theorem column_past (before : List Char) :
    ∃ first, Text.LineBegins before before.length first ∧ (start.past before).column = before.length - first + 1 := by
  induction before using List.reverseRecOn with
  | nil => exact ⟨0, ⟨Nat.le_refl 0, .inl rfl, List.not_mem_nil⟩, rfl⟩
  | append_singleton front last step =>
    obtain ⟨first, begins, column⟩ := step
    have moved : start.past (front ++ [last]) = (start.past front).after last := Lexeme.past_append ..
    have longer : (front ++ [last]).length = front.length + 1 := List.length_append
    by_cases feed : last = '\n'
    · refine ⟨front.length + 1, ⟨Nat.le_of_eq longer.symm, .inr ?_, ?_⟩, ?_⟩
      · rw [Nat.add_sub_cancel, List.getElem?_concat_length, feed]
      · rw [Text.slice, List.take_length, ← longer, List.drop_length]
        exact List.not_mem_nil
      · rw [moved, after, if_pos feed, longer, Nat.sub_self]
    · have le := begins.first_le
      refine ⟨first, ⟨by omega, (begins.append (Nat.le_refl _) [last]).behind, ?_⟩, ?_⟩
      · have plain := begins.plain
        rw [Text.slice, List.take_length] at plain ⊢
        rw [List.drop_append_of_le_length le, List.mem_append, List.mem_singleton, not_or]
        exact ⟨plain, Ne.symm feed⟩
      · rw [moved, after, if_neg feed, longer]
        show (start.past front).column + 1 = _
        omega

/-- The position behind the beginning of a text counts it. -/
theorem counts_past (before after : List Char) : (start.past before).Counts (before ++ after) := by
  have offset : (start.past before).offset = before.length := by
    rw [offset_past]
    exact Nat.zero_add _
  obtain ⟨first, begins, column⟩ := column_past before
  have whole := begins.append (Nat.le_refl _) after
  refine ⟨?_, ?_, first, ?_, fun other also => ?_⟩
  · rw [offset, List.length_append]
    omega
  · rw [offset, List.take_left, line_past]
    rfl
  · rw [offset]
    exact ⟨whole, column⟩
  · rw [offset] at also
    exact also.1.unique whole

end Position

namespace Lexeme

/-- A lexeme is what stands in a text between its offsets, and these are counted right. -/
structure IsCutFrom (text : List Char) (lexeme : Lexeme) : Prop where
  text_ne_nil : lexeme.text ≠ []
  text_eq : lexeme.text = Text.slice text lexeme.start.offset lexeme.stop.offset
  start_counts : lexeme.start.Counts text
  stop_counts : lexeme.stop.Counts text

/-- Of pieces put one behind another, each begins behind those before it. -/
theorem exists_split_of_mem_place {position : Position} {pieces : List Piece} {lexeme : Lexeme}
    (member : lexeme ∈ place position pieces) :
    ∃ before behind, pieces = before ++ (lexeme.kind, lexeme.text) :: behind ∧ lexeme.start = position.past (chars before) := by
  induction pieces generalizing position with
  | nil => cases member
  | cons first others step =>
    obtain ⟨kind, text⟩ := first
    rcases List.mem_cons.mp member with rfl | later
    · exact ⟨[], others, rfl, rfl⟩
    · obtain ⟨before, behind, rfl, start⟩ := step later
      refine ⟨(kind, text) :: before, behind, rfl, ?_⟩
      rw [start, chars_cons, past_append]

/-- A piece of a text stands where the pieces before it end. -/
theorem isCutFrom_of_mem_place {pieces : List Piece} {lexeme : Lexeme} (member : lexeme ∈ place .start pieces)
    (text_ne_nil : lexeme.text ≠ []) (rest : List Char) : lexeme.IsCutFrom (chars pieces ++ rest) := by
  obtain ⟨before, behind, rfl, start⟩ := exists_split_of_mem_place member
  have whole : chars (before ++ (lexeme.kind, lexeme.text) :: behind) ++ rest =
      chars before ++ lexeme.text ++ (chars behind ++ rest) := by simp [chars]
  have stop : lexeme.stop = Position.start.past (chars before ++ lexeme.text) := by
    rw [Lexeme.stop, start, past_append]
  have offset (passed : List Char) : (Position.start.past passed).offset = passed.length := by
    rw [Position.offset_past]
    exact Nat.zero_add _
  rw [whole]
  refine ⟨text_ne_nil, ?_, ?_, ?_⟩
  · rw [stop, start, offset, offset, Text.slice_append]
  · rw [start, List.append_assoc]
    exact Position.counts_past ..
  · rw [stop]
    exact Position.counts_past ..

end Lexeme

namespace Lexing

/-- For every text: its lexemes are not empty and follow each other without a gap, up to a rest that begins no lexeme; the
lexing fails exactly when something is left, at its first character and where that stands. The text of every token is what
stands between its offsets, its line is one more than the number of newlines before it, and its column is one more than the
number of characters between the beginning of its line and its offset. -/
theorem ofText_isLossless (text : String) :
    let lexing := ofText text
    (∃ rest, text.toList = lexing.lexemes.flatMap Lexeme.text ++ rest ∧
      (∀ kind length, Lexeme.first? rest ≠ some (kind, length + 1)) ∧
      (lexing.failure = none ↔ rest = []) ∧
      ∀ char place, lexing.failure = some (char, place) → rest.head? = some char ∧
        place.offset = (lexing.lexemes.flatMap Lexeme.text).length ∧ place.Counts text.toList) ∧
    (∀ lexeme ∈ lexing.lexemes, lexeme.IsCutFrom text.toList) ∧
    ∀ token ∈ lexing.tokens,
      token.text.toList = Text.slice text.toList token.start.offset token.stop.offset ∧
      token.start.line = 1 + (text.toList.take token.start.offset).count '\n' ∧
      ∃! first, Text.LineBegins text.toList token.start.offset first ∧
        token.start.column = token.start.offset - first + 1 := by
  intro lexing
  obtain ⟨pieces, rest, covers, refused, scanned⟩ := Lexeme.exists_pieces_scan .start text.toList
  have whole := covers.eq_append
  have lexemes : lexing.lexemes = Lexeme.place .start pieces := congrArg Lexing.lexemes scanned
  have failure : lexing.failure = rest.head?.map (·, Position.start.past (Lexeme.chars pieces)) :=
    congrArg Lexing.failure scanned
  have consumed : lexing.lexemes.flatMap Lexeme.text = Lexeme.chars pieces := by
    rw [lexemes, List.flatMap_def, Lexeme.map_text_place, ← List.flatMap_def]
    rfl
  have cut : ∀ lexeme ∈ lexing.lexemes, lexeme.IsCutFrom text.toList := by
    intro lexeme member
    rw [whole]
    exact Lexeme.isCutFrom_of_mem_place (lexemes ▸ member) (text_ne_nil_of_mem_scan member) rest
  refine ⟨⟨rest, consumed ▸ whole, refused, by simp [failure], ?_⟩, cut, ?_⟩
  · intro char place failed
    rw [failure] at failed
    obtain ⟨head, isHead, same⟩ := Option.map_eq_some_iff.mp failed
    cases same
    refine ⟨isHead, ?_, ?_⟩
    · rw [consumed, Position.offset_past]
      exact Nat.zero_add _
    · rw [whole]
      exact Position.counts_past ..
  · intro token member
    obtain ⟨lexeme, isLexeme, found⟩ := List.mem_filterMap.mp member
    obtain ⟨terminal, -, rfl⟩ := Option.map_eq_some_iff.mp found
    have ofLexeme := cut lexeme isLexeme
    exact ⟨by simpa using ofLexeme.text_eq, ofLexeme.start_counts.line_eq, ofLexeme.start_counts.column_eq⟩

/-- Behind a comment and a string of two lines each, a token stands on the third line. -/
example : (ofText "/*\n*/ \"a\nb\" c").tokens.map (fun token => (token.text, token.start)) =
    [("\"a\nb\"", ⟨6, 2, 4⟩), ("c", ⟨12, 3, 4⟩)] := by decide +kernel

end Lexing

end Exposure
