import Exposure.Proofs.Continuation
import Exposure.Proofs.Source
import Exposure.Proofs.Succession

/-!
Texts one behind another on lines of their own: the items of both, with the positions of the latter moved behind the
former.
-/

namespace Exposure

namespace Position

/-- The place of a position of a text in which lines stand in front of what it counted from. -/
def behind (lines : List Char) (position : Position) : Position :=
  ⟨position.offset + lines.length, position.line + lines.count '\n', position.column⟩

variable (lines : List Char)

theorem after_behind (position : Position) (char : Char) :
    (position.behind lines).after char = (position.after char).behind lines := by
  unfold after behind
  split
  · simp only [mk.injEq, and_true]
    omega
  · simp only [mk.injEq, and_true]
    omega

theorem past_behind (position : Position) (chars : List Char) :
    (position.behind lines).past chars = (position.past chars).behind lines := by
  induction chars generalizing position with
  | nil => rfl
  | cons first rest step =>
    show ((position.behind lines).after first).past rest = ((position.after first).past rest).behind lines
    rw [after_behind, step]

/-- A line end leads back to the first column. -/
theorem start_past_line : start.past (lines ++ ['\n']) = start.behind (lines ++ ['\n']) := by
  have offset := offset_past start (lines ++ ['\n'])
  have line := line_past start (lines ++ ['\n'])
  have column : (start.past (lines ++ ['\n'])).column = 1 := by
    rw [Lexeme.past_append]
    rfl
  generalize start.past (lines ++ ['\n']) = position at offset line column
  cases position
  simp only at offset line column
  rw [offset, line, column]
  rfl

end Position

namespace Lexeme

/-- The tokens of pieces behind some lines are moved by them. -/
theorem tokensFrom_behind (lines : List Char) (position : Position) (pieces : List Piece) :
    tokensFrom (position.behind lines) pieces = moved (Position.behind lines) (tokensFrom position pieces) := by
  induction pieces generalizing position with
  | nil => rfl
  | cons first others step =>
    obtain ⟨kind, text⟩ := first
    rw [tokensFrom_cons, tokensFrom_cons, Position.past_behind, step]
    cases kind with
    | none => rfl
    | some terminal =>
      show _ :: _ = _ :: _
      refine congrArg (· :: _) ?_
      simp only [stop, Position.past_behind]
      rfl

/-- Behind a line end nothing is closed that a further text does not close by itself. -/
theorem closesNothing_newline {first second : Char} (noFirst : first ≠ '\n') (noSecond : second ≠ '\n') {more : List Char}
    (absent : ¬ [first, second] <:+: more) : ClosesNothing first second ('\n' :: more) := by
  intro others found
  induction others with
  | nil =>
    obtain ⟨before, after, split⟩ := isSome_through?_iff.mp found
    cases before with
    | nil => exact absurd (List.cons.inj split).1 noFirst
    | cons _ before => exact absurd ⟨before, after, (List.cons.inj split).2⟩ absent
  | cons one rest step =>
    cases rest with
    | nil =>
      simp only [List.cons_append, List.nil_append, through?, Ne.symm noSecond, decide_false, Bool.and_false,
        Bool.false_eq_true, ↓reduceIte, Option.isSome_map] at found
      exact step found
    | cons two rest =>
      rw [List.cons_append, List.cons_append, through?] at found
      rw [through?]
      split at found
      · rename_i same
        rw [if_pos same]
        rfl
      · rename_i other
        rw [if_neg other, Option.isSome_map]
        rw [Option.isSome_map] at found
        exact step found

end Lexeme

open Lexeme in
/-- Accepted texts on lines of their own, one behind the other, are accepted together, and their items are those of the
former and then those of the latter, moved behind the former; unless the former leaves a block comment or a raw string open
and the latter closes it. -/
theorem parse_append_line {one two : String} {items items' : List Item} (ofOne : parse one = .ok items)
    (ofTwo : parse two = .ok items')
    (comment : opensComment ((Lexing.ofText one).lexemes.map Lexeme.text) = true → ¬ ['*', '/'] <:+: two.toList)
    (rawString : opensRawString ((Lexing.ofText one).lexemes.map Lexeme.text) = true → ¬ ['"', '#'] <:+: two.toList) :
    parse (one ++ "\n" ++ two) = .ok (items ++ moved (Position.behind (one ++ "\n").toList) items') := by
  obtain ⟨complete, readOne⟩ := parse_eq_ok.mp ofOne
  obtain ⟨pieces, covers, lexemes⟩ := exists_pieces complete
  obtain ⟨others, behind, readTwo⟩ := exists_of_parse ofTwo
  rw [Lexing.ofText, lexemes, map_text_place] at comment rawString
  rw [Lexing.tokens, Lexing.ofText, lexemes] at readOne
  have stays : StaysOpen (pieces.map Prod.snd) ('\n' :: two.toList) :=
    ⟨fun opens => closesNothing_newline (by decide) (by decide) (comment opens),
      fun opens => closesNothing_newline (by decide) (by decide) (rawString opens)⟩
  obtain ⟨joined, coversBoth, tokens⟩ := covers.before_newline stays behind
  have chars : (one ++ "\n" ++ two).toList = one.toList ++ '\n' :: two.toList := by simp
  have lexed : Lexing.ofText (one ++ "\n" ++ two) = ⟨place .start joined, none⟩ := by
    rw [Lexing.ofText, chars]
    exact scan_of_pieces coversBoth .start
  -- the tokens of the latter text stand behind those of the former, and are moved
  have moves : tokensFrom .start joined = tokensFrom .start pieces ++
      moved (Position.behind (one ++ "\n").toList) (tokensFrom .start others) := by
    rw [tokens, Position.start_past_line, tokensFrom_behind, String.toList_append]
    rfl
  have readMoved : Rule.moduleItems.read? (moved (Position.behind (one ++ "\n").toList) (tokensFrom .start others)) =
      moved (Position.behind (one ++ "\n").toList) (some items') := by
    rw [Rule.read?_moved Rule.moduleItems_moves, readTwo]
  refine parse_eq_ok.mpr ⟨by rw [lexed], ?_⟩
  rw [lexed]
  show Rule.moduleItems.read? (tokensFrom .start joined) = _
  rw [moves]
  exact Rule.read?_moduleItems_append readOne readMoved

open Lexeme in
/-- A call that leaves a block comment open, with a class behind it that closes none. -/
theorem parse_append_line_openComment : ∃ items items', parse "m!\x7b/*\x7d" = .ok items ∧
    parse "#[pyclass] struct A;" = .ok items' ∧ parse ("m!\x7b/*\x7d" ++ "\n" ++ "#[pyclass] struct A;") =
      .ok (items ++ moved (Position.behind ("m!\x7b/*\x7d" ++ "\n").toList) items') := by
  have acceptedOne : (parse "m!\x7b/*\x7d").toOption.isSome = true := by decide +kernel
  have acceptedTwo : (parse "#[pyclass] struct A;").toOption.isSome = true := by decide +kernel
  obtain ⟨items, ofOne⟩ := Option.isSome_iff_exists.mp acceptedOne
  obtain ⟨items', ofTwo⟩ := Option.isSome_iff_exists.mp acceptedTwo
  rw [Outcome.toOption_eq_some] at ofOne ofTwo
  have open_not_closed : opensComment ((Lexing.ofText "m!\x7b/*\x7d").lexemes.map Lexeme.text) = true ∧
      ¬ ['*', '/'] <:+: "#[pyclass] struct A;".toList := by decide +kernel
  have noRawString : opensRawString ((Lexing.ofText "m!\x7b/*\x7d").lexemes.map Lexeme.text) = false := by decide +kernel
  exact ⟨items, items', ofOne, ofTwo,
    parse_append_line ofOne ofTwo (fun _ => open_not_closed.2) (fun opens => by rw [noRawString] at opens; cases opens)⟩

/-- Two accepted texts that are not accepted together, since the latter closes the comment that the former leaves open. -/
theorem parse_of_closedComment : parse "m!\x7b/*\x7d" = .ok [] ∧ parse "/**/" = .ok [] ∧
    ∀ items, parse ("m!\x7b/*\x7d" ++ "\n" ++ "/**/") ≠ .ok items := by
  have acceptedOne : (parse "m!\x7b/*\x7d").toOption.any List.isEmpty = true := by decide +kernel
  have acceptedTwo : (parse "/**/").toOption.any List.isEmpty = true := by decide +kernel
  have refused : (parse ("m!\x7b/*\x7d" ++ "\n" ++ "/**/")).toOption.isNone = true := by decide +kernel
  obtain ⟨items, ofOne, none⟩ := (Option.any_eq_true _ _).mp acceptedOne
  obtain ⟨items', ofTwo, none'⟩ := (Option.any_eq_true _ _).mp acceptedTwo
  rw [Outcome.toOption_eq_some] at ofOne ofTwo
  refine ⟨List.isEmpty_iff.mp none ▸ ofOne, List.isEmpty_iff.mp none' ▸ ofTwo, fun items together => ?_⟩
  rw [Outcome.toOption_eq_some.mpr together] at refused
  cases refused

end Exposure
