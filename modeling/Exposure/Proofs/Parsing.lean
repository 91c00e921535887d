import Exposure.Proofs.Derivation
import Exposure.Syntax.Parse

/-!
Parsing accepts exactly the texts whose tokens the productions derive. Every other text is refused at the first token or
character, from left to right, with which no derivable text goes on, or else at its end.
-/

namespace Exposure

namespace Rule

theorem named_interprets : Grammar.Interprets named rules where
  solves
    | .tree => language_treeRule
    | .type => language_typeRule
    | .item => language_itemRule
  guarded which := by cases which <;> rfl
  proper which := by cases which <;> rfl

/-- A token of a class, for which text and position do not matter. -/
def sampleToken (terminal : Terminal) : Token := ⟨terminal, "", .start, .start⟩

/-- A token of every class. -/
def sampleTokens : List Token :=
  ([Terminal.ident, .number, .string, .rawString, .char, .lifetime, .docComment] ++ Keyword.all.map Terminal.word ++
    Punctuation.all.map Terminal.mark).map sampleToken

theorem rules_productive (which : RuleName) : (rules which).isProductive sampleTokens = true := by
  cases which <;> decide +kernel

theorem moduleItems_productive : Grammar.isProductive sampleTokens moduleItems = true := by decide +kernel

/-- Every recursive rule stands for some token list. -/
theorem named_inhabited (which : RuleName) : ∃ tokens, tokens ∈ named which := by
  have reads := fun tokens => Grammar.read?_isSome_iff named_interprets (.rule which id) tokens
  cases which with
  | tree => exact ⟨[sampleToken .ident], (reads _).mp (by decide +kernel)⟩
  | type => exact ⟨[sampleToken .ident], (reads _).mp (by decide +kernel)⟩
  | item =>
    exact ⟨[Terminal.word .modWord, .ident, .mark .semicolon].map sampleToken, (reads _).mp (by decide +kernel)⟩

theorem language_text : Grammar.language named moduleItems = (Form.phrase .text).language := by
  rw [← language, language_moduleItems, Form.language_phrase .text, Phrase.production, Form.language_repeated]

end Rule

/-- The productions derive a text of these tokens. -/
abbrev IsText (tokens : List Token) : Prop := (Form.phrase .text).Derives tokens

/-- Some text that the productions derive begins with these tokens. -/
def BeginsText (tokens : List Token) : Prop := ∃ rest, IsText (tokens ++ rest)

theorem BeginsText.of_append {front back : List Token} (begins : BeginsText (front ++ back)) : BeginsText front := by
  obtain ⟨rest, derives⟩ := begins
  exact ⟨back ++ rest, List.append_assoc front back rest ▸ derives⟩

theorem IsText.begins {tokens : List Token} (derives : IsText tokens) : BeginsText tokens :=
  ⟨[], (List.append_nil tokens).symm ▸ derives⟩

/-- What a lexed text is refused for: the first token or character that no text goes on with, or its end. -/
inductive Lexing.Stops (lexing : Lexing) : Diagnostic → Prop
  | token {before after : List Token} {token : Token} (split : lexing.tokens = before ++ token :: after)
      (begins : BeginsText before) (impossible : ¬ BeginsText (before ++ [token])) :
      Stops lexing ⟨.unexpectedToken token.text, .point token.start⟩
  | character {char : Char} {position : Position} (bad : lexing.failure = some (char, position))
      (begins : BeginsText lexing.tokens) : Stops lexing ⟨.unexpectedCharacter char, .point position⟩
  | ending (lexed : lexing.failure = none) (begins : BeginsText lexing.tokens) (unfinished : ¬ IsText lexing.tokens) :
      Stops lexing ⟨.unexpectedEnd, .unknown⟩

namespace Lexing.Stops

variable {lexing : Lexing}

/-- The tokens before an impossible token are fewer than those of any beginning of a text. -/
theorem impossible_of_split {before after front back : List Token} {token : Token}
    (split : before ++ token :: after = front ++ back) (impossible : ¬ BeginsText (before ++ [token]))
    (begins : BeginsText front) : ∃ between, before = front ++ between := by
  rcases List.append_eq_append_iff.mp split with ⟨between, rfl, rest⟩ | ⟨between, rfl, -⟩
  · cases between with
    | nil => exact ⟨[], by simp⟩
    | cons head between =>
      obtain ⟨rfl, -⟩ := List.cons_eq_cons.mp rest
      have extended : BeginsText (before ++ [token] ++ between) := by simpa using begins
      exact absurd extended.of_append impossible
  · exact ⟨between, rfl⟩

/-- A lexed text is refused for one thing at most. -/
theorem unique {one two : Diagnostic} (first : lexing.Stops one) (second : lexing.Stops two) : one = two := by
  have notWhole {before after : List Token} {token : Token} (split : lexing.tokens = before ++ token :: after)
      (impossible : ¬ BeginsText (before ++ [token])) : ¬ BeginsText lexing.tokens := by
    intro begins
    rw [split, List.append_cons] at begins
    exact impossible begins.of_append
  cases first with
  | @token before after token split begins impossible =>
    cases second with
    | @token before' after' token' split' begins' impossible' =>
      have same := split.symm.trans split'
      obtain ⟨between, rfl⟩ := impossible_of_split same impossible begins'
      obtain ⟨between', shorter⟩ := impossible_of_split same.symm impossible' begins
      rw [List.append_assoc, List.self_eq_append_right] at shorter
      obtain ⟨rfl, rfl⟩ := List.append_eq_nil_iff.mp shorter
      rw [List.append_nil, List.append_right_inj] at same
      cases same
      rfl
    | character bad begins' => exact absurd begins' (notWhole split impossible)
    | ending lexed begins' unfinished => exact absurd begins' (notWhole split impossible)
  | character bad begins =>
    cases second with
    | token split begins' impossible' => exact absurd begins (notWhole split impossible')
    | character bad' begins' =>
      cases bad.symm.trans bad'
      rfl
    | ending lexed begins' unfinished => cases bad.symm.trans lexed
  | ending lexed begins unfinished =>
    cases second with
    | token split begins' impossible' => exact absurd begins (notWhole split impossible')
    | character bad begins' => cases lexed.symm.trans bad
    | ending lexed' begins' unfinished' => rfl

/-- A text that the productions derive is refused for nothing. -/
theorem not_of_isText {found : Diagnostic} (stops : lexing.Stops found) (lexed : lexing.failure = none)
    (derives : IsText lexing.tokens) : False := by
  cases stops with
  | token split begins impossible =>
    have whole := derives.begins
    rw [split, List.append_cons] at whole
    exact impossible whole.of_append
  | character bad begins => cases lexed.symm.trans bad
  | ending lexed' begins unfinished => exact unfinished derives

end Lexing.Stops

/-- A token list is a text, or the beginning of one, or it is spoiled by the first token that no text goes on with. -/
theorem Reading.ofTokens_cases (tokens : List Token) :
    (∃ items, ofTokens tokens = complete items ∧ IsText tokens) ∨
      (ofTokens tokens = incomplete ∧ BeginsText tokens ∧ ¬ IsText tokens) ∨
      ∃ before token after, ofTokens tokens = spoiled token ∧ tokens = before ++ token :: after ∧ BeginsText before ∧
        ¬ BeginsText (before ++ [token]) := by
  have cases := Grammar.run_cases Rule.named_interprets Rule.named_inhabited Rule.rules_productive
    Rule.moduleItems_productive tokens
  have accepts := Grammar.read?_isSome_iff Rule.named_interprets Rule.moduleItems tokens
  rw [Rule.language_text] at cases accepts
  rcases cases with ⟨remaining, done, begins⟩ | ⟨before, next, after, done, split, begins, refused⟩
  · have read : Grammar.read? Rule.rules Rule.moduleItems tokens = remaining.empty? := by simp only [Grammar.read?, done]
    rw [read] at accepts
    cases finished : remaining.empty? with
    | some items => exact .inl ⟨items, by simp only [ofTokens, done, finished], accepts.mp (by rw [finished]; rfl)⟩
    | none =>
      refine .inr (.inl ⟨by simp only [ofTokens, done, finished], begins, fun derives => ?_⟩)
      have found := accepts.mpr derives
      rw [finished] at found
      cases found
  · refine .inr (.inr ⟨before, next, after, by simp only [ofTokens, done], split, begins, ?_⟩)
    rintro ⟨rest, derives⟩
    rw [List.append_assoc] at derives
    exact refused rest derives

/-- A text parses, and then the productions derive its tokens, or it is refused for what its tokens stop at. -/
theorem parse_cases (text : String) :
    (∃ items, parse text = .ok items ∧ (Lexing.ofText text).failure = none ∧ IsText (Lexing.ofText text).tokens) ∨
      ∃ found, parse text = .error (.diagnostic found) ∧ (Lexing.ofText text).Stops found := by
  rcases Reading.ofTokens_cases (Lexing.ofText text).tokens with
    ⟨items, read, derives⟩ | ⟨read, begins, unfinished⟩ | ⟨before, token, after, read, split, begins, impossible⟩
  · cases failed : (Lexing.ofText text).failure with
    | none => exact .inl ⟨items, by simp only [parse, read, failed], rfl, derives⟩
    | some place => exact .inr ⟨_, by simp only [parse, read, failed, Outcome.report], .character failed derives.begins⟩
  · cases failed : (Lexing.ofText text).failure with
    | none =>
      exact .inr ⟨_, by simp only [parse, read, failed, Outcome.report], .ending failed begins unfinished⟩
    | some place => exact .inr ⟨_, by simp only [parse, read, failed, Outcome.report], .character failed begins⟩
  · exact .inr ⟨_, by simp only [parse, read, Outcome.report], .token split begins impossible⟩

/-- A text parses exactly when it lexes to its end and the productions derive its tokens; it is refused with a report
exactly when its tokens stop there. -/
theorem parse_isExact (text : String) :
    ((∃ items, parse text = .ok items) ↔
      (Lexing.ofText text).failure = none ∧ IsText (Lexing.ofText text).tokens) ∧
    ∀ fault, parse text = .error fault ↔ ∃ found, fault = .diagnostic found ∧ (Lexing.ofText text).Stops found := by
  rcases parse_cases text with ⟨items, parsed, lexed, derives⟩ | ⟨found, refused, stops⟩
  · refine ⟨iff_of_true ⟨items, parsed⟩ ⟨lexed, derives⟩, fun fault => iff_of_false (by simp [parsed]) ?_⟩
    rintro ⟨found, -, stops⟩
    exact stops.not_of_isText lexed derives
  · refine ⟨iff_of_false (by simp [refused]) fun ⟨lexed, derives⟩ => stops.not_of_isText lexed derives, fun fault => ?_⟩
    constructor
    · intro refused'
      cases refused.symm.trans refused'
      exact ⟨found, rfl, stops⟩
    · rintro ⟨found', rfl, stops'⟩
      rw [refused, stops.unique stops']

end Exposure
