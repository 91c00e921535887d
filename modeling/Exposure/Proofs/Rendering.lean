import Exposure.Proofs.Vocabulary

/-!
The words of rendered types: what is written for a type is lexed as the words of the type.
-/

namespace Exposure

namespace Lexeme

/-- A text in front of which a word ends: it is empty or begins with a break that is no quote. -/
def Breaks (text : List Char) : Prop := ∀ char ∈ text.head?, IsBreak char ∧ char ≠ '"'

theorem Breaks.nil : Breaks [] := nofun

theorem Breaks.cons {first : Char} (isBreak : IsBreak first) (noQuote : first ≠ '"') (rest : List Char) :
    Breaks (first :: rest) := by
  rintro char same
  cases same
  exact ⟨isBreak, noQuote⟩

theorem EndsAtBreak.breaks {result : Type} {measure : List Char → result} (ends : EndsAtBreak measure)
    {more : List Char} (breaks : Breaks more) (before : List Char) : measure (before ++ more) = measure before := by
  cases more with
  | nil => rw [List.append_nil]
  | cons first rest => exact ends (breaks first rfl).1 before rest

/-- A text in front of which a word ends unless the two are one: it begins with no character of a word and with no quote. -/
def Detached (text : List Char) : Prop :=
  ∀ char ∈ text.head?, continuesIdent char = false ∧ char ≠ '"' ∧ char ≠ '\''

theorem Breaks.detached {text : List Char} (breaks : Breaks text) : Detached text := by
  intro char head
  obtain ⟨isBreak, noQuote⟩ := breaks char head
  exact ⟨isBreak.noIdent, noQuote, isBreak.noApostrophe⟩

/-- In front of a detached text nothing but letters stands before a mark, or the mark is in front of it too. -/
theorem Detached.split {name more mark rest : List Char} {stop : Char} (detached : Detached more)
    (letters : ∀ char ∈ mark, continuesIdent char = true) (same : name ++ more = mark ++ stop :: rest) :
    (name = mark ∧ more = stop :: rest) ∨ ∃ others, name = mark ++ stop :: others ∧ rest = others ++ more := by
  rcases List.append_eq_append_iff.mp same with ⟨inside, rfl, begins⟩ | ⟨inside, rfl, begins⟩
  · cases inside with
    | nil => exact .inl ⟨(List.append_nil _).symm, begins⟩
    | cons first others =>
      have letter := letters first (List.mem_append_right _ List.mem_cons_self)
      exact Bool.noConfusion (letter.symm.trans (detached first (by rw [begins]; rfl)).1)
  · cases inside with
    | nil => exact .inl ⟨List.append_nil _, begins.symm⟩
    | cons first others =>
      obtain ⟨rfl, rfl⟩ := List.cons.inj begins
      exact .inr ⟨others, rfl, rfl⟩

section Names

variable {name more : List Char} (isName : ∀ char ∈ name, isNameChar char = true) (detached : Detached more)

include isName detached

/-- In front of a detached text no name opens a literal, whatever letters stand before the quote. -/
theorem no_quote_of_detached {quote : Char} (isQuote : quote = '"' ∨ quote = '\'') {mark rest : List Char}
    (letters : ∀ char ∈ mark, continuesIdent char = true) : name ++ more ≠ mark ++ quote :: rest := by
  intro same
  rcases detached.split letters same with ⟨-, rfl⟩ | ⟨others, rfl, -⟩
  · obtain ⟨-, noQuote, noApostrophe⟩ := detached quote rfl
    exact isQuote.elim noQuote noApostrophe
  · have ofQuote := isName quote (List.mem_append_right _ List.mem_cons_self)
    rcases isQuote with rfl | rfl <;> cases ofQuote

theorem marked_quote_of_detached {quote : Char} (isQuote : quote = '"' ∨ quote = '\'') (class? : List Char → Option Nat) :
    marked (opened quote class?) (name ++ more) = none := by
  by_contra present
  obtain ⟨body, same, found⟩ := exists_of_isSome_marked (Option.isSome_iff_ne_none.mpr present)
  obtain ⟨rest, rfl, -⟩ := exists_of_isSome_opened found
  have byteMark : ∀ char ∈ ['b'], continuesIdent char = true := List.all_eq_true.mp rfl
  exact same.elim (no_quote_of_detached isName detached isQuote (List.forall_mem_nil _))
    (no_quote_of_detached isName detached isQuote byteMark)

/-- In front of a detached text a name opens a raw string only if it is the mark of one, and the text goes on like one. -/
theorem of_isSome_rawString? (found : (rawString? (name ++ more)).isSome = true) :
    (name = ['r'] ∨ name = ['b', 'r']) ∧ ∃ rest, more = '#' :: '"' :: rest ∧ (through? '"' '#' rest).isSome = true := by
  have plainMark : ∀ char ∈ ['r'], continuesIdent char = true := List.all_eq_true.mp rfl
  have byteMark : ∀ char ∈ ['b', 'r'], continuesIdent char = true := List.all_eq_true.mp rfl
  have hashed {mark rest : List Char} (letters : ∀ char ∈ mark, continuesIdent char = true)
      (same : name ++ more = mark ++ '#' :: '"' :: rest) : name = mark ∧ more = '#' :: '"' :: rest := by
    refine (detached.split letters same).resolve_right ?_
    rintro ⟨others, rfl, behind⟩
    cases others with
    | nil => exact (detached '"' (by rw [← List.nil_append more, ← behind]; rfl)).2.1 rfl
    | cons first others =>
      obtain ⟨rfl, -⟩ := List.cons.inj behind
      cases isName '"' (by simp)
  rw [rawString?_eq, Option.isSome_or, Bool.or_eq_true] at found
  rcases found with found | found
  · obtain ⟨body, same, raw⟩ := exists_of_isSome_marked found
    obtain ⟨_, rfl, hash⟩ := exists_of_isSome_opened raw
    obtain ⟨_, rfl, quote⟩ := exists_of_isSome_opened hash
    obtain ⟨rest, rfl, closed⟩ := exists_of_isSome_opened quote
    rcases same with same | same
    · obtain ⟨isMark, begins⟩ := hashed plainMark same
      exact ⟨.inl isMark, rest, begins, closed⟩
    · obtain ⟨isMark, begins⟩ := hashed byteMark same
      exact ⟨.inr isMark, rest, begins, closed⟩
  · obtain ⟨body, same, raw⟩ := exists_of_isSome_marked found
    obtain ⟨_, rfl, quote⟩ := exists_of_isSome_opened raw
    obtain ⟨rest, rfl, -⟩ := exists_of_isSome_opened quote
    exact (same.elim (no_quote_of_detached isName detached (.inl rfl) plainMark)
      (no_quote_of_detached isName detached (.inl rfl) byteMark)).elim

end Names

/-- An identifier has only name characters. -/
theorem isNameChar_of_ident? {text : List Char} (found : ident? text = some text.length) :
    ∀ char ∈ text, isNameChar char = true := by
  have inside := mem_of_le_run (ident?_le_run found).2
  rwa [List.take_length] at inside

section Words

variable {text more : List Char}

/-- A name is lexed as itself in front of a detached text, unless the two begin with a raw string or a longer name. -/
theorem first?_of_name (found : ident? text = some text.length) (detached : Detached more)
    (ends : ident? (text ++ more) = some text.length) (noRaw : rawString? (text ++ more) = none) :
    first? (text ++ more) = some (some .ident, text.length) := by
  have isName := isNameChar_of_ident? found
  have noString : string? (text ++ more) = none := by
    rw [string?_eq]
    exact marked_quote_of_detached isName detached (.inl rfl) _
  have noChar : char? (text ++ more) = none := by
    rw [char?_eq]
    exact marked_quote_of_detached isName detached (.inr rfl) _
  cases text with
  | nil => cases found
  | cons first rest => exact first?_letter (beginsIdent_of_ident? found) noRaw noString noChar ends

/-- A name is lexed as itself in front of a break. -/
theorem first?_of_ident? (breaks : Breaks more) (found : ident? text = some text.length) :
    first? (text ++ more) = some (some .ident, text.length) := by
  refine first?_of_name found breaks.detached ((endsAtBreak_ident?.breaks breaks _).trans found) ?_
  by_contra present
  obtain ⟨-, rest, rfl, -⟩ :=
    of_isSome_rawString? (isNameChar_of_ident? found) breaks.detached (Option.isSome_iff_ne_none.mpr present)
  exact (breaks '#' rfl).1.noHash rfl

/-- A number begins with a digit. -/
theorem isDigit_of_number? {first : Char} {rest : List Char} {length : Nat} (found : number? (first :: rest) = some length) :
    first.isDigit = true := by
  by_contra noDigit
  rw [number?_of_not_isDigit _ (Bool.eq_false_iff.mpr noDigit)] at found
  cases found

/-- A number is lexed as itself in front of a break. -/
theorem first?_of_number? (breaks : Breaks more) (found : number? text = some text.length) :
    first? (text ++ more) = some (some .number, text.length) := by
  cases text with
  | nil => cases found
  | cons first rest => exact first?_digit (isDigit_of_number? found) ((endsAtBreak_number?.breaks breaks _).trans found)

/-- A lifetime is lexed as itself in front of a detached text. -/
theorem first?_of_lifetime? (detached : Detached more) (found : lifetime? text = some text.length) :
    first? (text ++ more) = some (some .lifetime, text.length) := by
  have whole : lifetime? (text ++ more) = some text.length := by
    cases more with
    | nil => rwa [List.append_nil]
    | cons stop after =>
      obtain ⟨stops, -, noApostrophe⟩ := detached stop rfl
      rwa [lifetime?_append_cons stops noApostrophe]
  cases text with
  | nil => cases found
  | cons quote rest =>
    by_cases isQuote : quote = '\''
    · subst isQuote
      have noChar : charBody? (rest ++ more) = none := by
        cases rest with
        | nil => simp [lifetime?, plainIdent?] at found
        | cons first others =>
          have letter : beginsIdent first = true := by
            by_contra noIdent
            simp [lifetime?, plainIdent?, noIdent] at found
          have open_ended : (others ++ more).head? ≠ some '\'' := by
            cases others with
            | nil => exact fun quote => (detached _ quote).2.2 rfl
            | cons second others =>
              rintro same
              obtain rfl : second = '\'' := Option.some.inj same
              simp [lifetime?, plainIdent?, letter, run_cons, continuesIdent] at found
          rw [List.cons_append, charBody?_of_beginsIdent letter, if_neg open_ended]
      rw [List.cons_append] at whole ⊢
      rw [first?_apostrophe, noChar, whole]
      rfl
    · rw [lifetime?_of_ne _ isQuote] at found
      cases found

end Words

/-! Lexing a text in front of another -/

/-- The words of some pieces. -/
def wordsOf (pieces : List Piece) : List Word := (tokensFrom .start pieces).map Token.word

theorem map_word_tokensFrom (position : Position) (pieces : List Piece) :
    (tokensFrom position pieces).map Token.word = wordsOf pieces := by
  suffices same : ∀ position', (tokensFrom position pieces).map Token.word = (tokensFrom position' pieces).map Token.word from
    same .start
  intro position'
  induction pieces generalizing position position' with
  | nil => rfl
  | cons first others step =>
    obtain ⟨kind, text⟩ := first
    rw [tokensFrom_cons, tokensFrom_cons, List.map_append, List.map_append, step _ (position'.past text)]
    cases kind <;> rfl

theorem wordsOf_cons (kind : LexemeClass) (text : List Char) (others : List Piece) :
    wordsOf ((kind, text) :: others) = ((token? ⟨kind, text, .start⟩).map Token.word).toList ++ wordsOf others := by
  rw [wordsOf, tokensFrom_cons, List.map_append, map_word_tokensFrom]
  cases token? ⟨kind, text, .start⟩ <;> rfl

end Lexeme

open Lexeme

/-- In front of a break a text is lexed as some words. -/
def Lexes (text : String) (words : List Word) : Prop :=
  ∀ ⦃more : List Char⦄ ⦃others : List Piece⦄, Breaks more → Pieces more others [] →
    ∃ pieces, Pieces (text.toList ++ more) pieces [] ∧ wordsOf pieces = words ++ wordsOf others

/-- A text that words in front of it end at. -/
def IsFence (text : String) : Prop := ∀ ⦃more : List Char⦄, Breaks more → Breaks (text.toList ++ more)

/-- The characters that end words, as far as types have them. -/
def fences : List Char := [' ', ':', '<', '>', '(', ')', '[', ']', ',', ';', '=']

theorem IsFence.append {text : String} (begins : text.toList.head?.any fences.contains = true) (behind : String) :
    IsFence (text ++ behind) := by
  intro more _
  rw [String.toList_append]
  cases split : text.toList with
  | nil => simp [split] at begins
  | cons first rest =>
  have isFence : fences.contains first = true := by simpa [split] using begins
  simp only [fences, List.contains_iff_mem, List.mem_cons, List.not_mem_nil, or_false] at isFence
  refine .cons ?_ ?_ _ <;>
    rcases isFence with rfl | rfl | rfl | rfl | rfl | rfl | rfl | rfl | rfl | rfl | rfl <;>
      first | decide | (constructor <;> decide)

theorem IsFence.whole {text : String} (begins : text.toList.head?.any fences.contains = true) : IsFence text := by
  have fence := IsFence.append begins ""
  rwa [String.append_empty] at fence

namespace Lexes

theorem nil : Lexes "" [] := fun _ _ _ covers => ⟨_, covers, rfl⟩

theorem append {one two : String} {words words' : List Word} (ofOne : Lexes one words) (ofTwo : Lexes two words')
    (fence : IsFence two) : Lexes (one ++ two) (words ++ words') := by
  intro more others breaks covers
  obtain ⟨behind, ofBehind, same⟩ := ofTwo breaks covers
  obtain ⟨pieces, ofPieces, same'⟩ := ofOne (fence breaks) ofBehind
  refine ⟨pieces, ?_, ?_⟩
  · rw [String.toList_append, List.append_assoc]
    exact ofPieces
  · rw [same', same, List.append_assoc]

theorem blank {text : String} {words : List Word} (lexes : Lexes text words) : Lexes (" " ++ text) words := by
  intro more others breaks covers
  obtain ⟨behind, ofBehind, same⟩ := lexes breaks covers
  obtain ⟨pieces, ofPieces, tokens⟩ := ofBehind.behind_blanks (List.cons_ne_nil ' ' []) (by simp [isBlank])
  refine ⟨pieces, ?_, ?_⟩
  · rw [String.toList_append, List.append_assoc]
    exact ofPieces
  · rw [wordsOf, tokens, map_word_tokensFrom, same]

theorem cons_piece {text : String} (proper : text ≠ "") {more : List Char} {terminal : Terminal}
    (found : first? (text.toList ++ more) = some (some terminal, text.length)) {others : List Piece}
    (covers : Pieces more others []) : Pieces (text.toList ++ more) ((some terminal, text.toList) :: others) [] := by
  have size : 0 < text.length := Nat.pos_of_ne_zero fun empty => proper (String.length_eq_zero_iff.mp empty)
  have split : text.length - 1 + 1 = text.length := by omega
  exact .cons_append (split ▸ found) (by rw [String.length_toList, split]) covers

/-- A mark stands in front of any text unless it is the beginning of a longer one. -/
theorem mark (punctuation : Punctuation)
    (firm : ∀ rest, first? (punctuation.text.toList ++ rest) = some (some (.mark punctuation), punctuation.text.length))
    {text : String} {words : List Word} (lexes : Lexes text words) :
    Lexes (punctuation.text ++ text) (Word.mark punctuation :: words) := by
  intro more others breaks covers
  obtain ⟨behind, ofBehind, same⟩ := lexes breaks covers
  have proper : punctuation.text ≠ "" := by cases punctuation <;> decide
  refine ⟨(some (.mark punctuation), punctuation.text.toList) :: behind, ?_, ?_⟩
  · rw [String.toList_append, List.append_assoc]
    exact cons_piece proper (firm _) ofBehind
  · rw [wordsOf_cons, same]
    simp [token?, Token.word, Word.mark]

/-- A word that is no mark is lexed as itself. -/
theorem word {word : Word} (genuine : word.IsGenuine) (isText : word.isText = true) : Lexes word.2 [word] := by
  intro more others breaks covers
  obtain ⟨terminal, text⟩ := word
  cases terminal with
  | ident =>
    obtain ⟨ident, free⟩ := genuine
    have proper : text ≠ "" := by
      rintro rfl
      cases ident
    refine ⟨_, cons_piece proper (first?_of_ident? breaks ident) covers, ?_⟩
    rw [wordsOf_cons]
    simp [token?, Token.word, free]
  | word keyword =>
    obtain rfl : text = keyword.text := genuine
    have ident : ident? keyword.text.toList = some keyword.text.length := by cases keyword <;> rfl
    have proper : keyword.text ≠ "" := by cases keyword <;> decide
    refine ⟨_, cons_piece proper (first?_of_ident? breaks ident) covers, ?_⟩
    have reserved : Keyword.ofText? keyword.text = some keyword := by cases keyword <;> rfl
    rw [wordsOf_cons]
    simp [token?, Token.word, reserved]
  | number =>
    have proper : text ≠ "" := by
      rintro rfl
      cases genuine
    refine ⟨_, cons_piece proper (first?_of_number? breaks genuine) covers, ?_⟩
    rw [wordsOf_cons]
    simp [token?, Token.word]
  | lifetime =>
    have proper : text ≠ "" := by
      rintro rfl
      cases genuine
    refine ⟨_, cons_piece proper (first?_of_lifetime? breaks.detached genuine) covers, ?_⟩
    rw [wordsOf_cons]
    simp [token?, Token.word]
  | _ => cases isText

theorem single (punctuation : Punctuation)
    (firm : ∀ rest, first? (punctuation.text.toList ++ rest) = some (some (.mark punctuation), punctuation.text.length)) :
    Lexes punctuation.text [Word.mark punctuation] := by
  have alone := Lexes.mark punctuation firm nil
  rwa [String.append_empty] at alone

end Lexes

/-! The words of a type -/

namespace Word

/-- The word of a text of letters and digits that begins with a letter. -/
def name (text : String) : Word :=
  match Keyword.ofText? text with
  | some keyword => reserved keyword
  | none => ident text

/-- The word of a constant. -/
def constant (text : String) : Word := if (number? text.toList).isSome then number text else name text

/-- Lists of words with a mark between neighbours. -/
def joined (separator : Punctuation) : List (List Word) → List Word
  | [] => []
  | first :: rest => first ++ rest.flatMap (mark separator :: ·)

end Word

/-- The word before a list of bounds, as a reserved word. -/
def BoundedKind.keyword : BoundedKind → Keyword
  | impl => .implWord
  | dyn => .dynWord

mutual

/-- The words of a type as it is written. -/
def TypeExpr.words : TypeExpr → List Word
  | .path segments => Word.joined .pathSeparator (PathSegment.wordsOfAll segments)
  | .reference life mutable target =>
    .mark .ampersand :: ((match life with | some name => [.lifetime name] | none => []) ++
      (if mutable then [.reserved .mutWord] else []) ++ target.words)
  | .pointer mutable target => .mark .star :: .reserved (if mutable then .mutWord else .constWord) :: target.words
  | .tuple elements =>
    .mark .openParen :: (Word.joined .comma (TypeExpr.wordsOfAll elements) ++
      (match elements with | [_] => [.mark .comma] | _ => []) ++ [.mark .closeParen])
  | .slice element => .mark .openBracket :: (element.words ++ [.mark .closeBracket])
  | .array element length =>
    .mark .openBracket :: (element.words ++ [.mark .semicolon, .constant length, .mark .closeBracket])
  | .bounded kind bounds => .reserved kind.keyword :: Word.joined .plus (TypeExpr.wordsOfAll bounds)
  | .never => [.mark .bang]
  | .lifetime name => [.lifetime name]
  | .binding name value => .ident name :: .mark .equals :: value.words
  | .const text => [.constant text]
  | .maybe bound => .mark .question :: bound.words
  | .grouped bound => bound.words

/-- The words of every type of a list. -/
def TypeExpr.wordsOfAll : List TypeExpr → List (List Word)
  | [] => []
  | first :: rest => first.words :: TypeExpr.wordsOfAll rest

/-- The words of a path segment as it is written. -/
def PathSegment.words : PathSegment → List Word
  | .plain name [] => [.ident name]
  | .plain name arguments =>
    .ident name :: .mark .less :: (Word.joined .comma (TypeExpr.wordsOfAll arguments) ++ [.mark .greater])
  | .call name inputs output =>
    .ident name :: .mark .openParen :: (Word.joined .comma (TypeExpr.wordsOfAll inputs) ++ .mark .closeParen ::
      PathSegment.wordsOfOutput output)

/-- The words of the output of a call. -/
def PathSegment.wordsOfOutput : Option TypeExpr → List Word
  | none => []
  | some output => .mark .arrow :: output.words

/-- The words of every segment of a path. -/
def PathSegment.wordsOfAll : List PathSegment → List (List Word)
  | [] => []
  | first :: rest => first.words :: PathSegment.wordsOfAll rest

end

namespace Lexes

theorem joined {separator : Punctuation} {between : String}
    (separates : ∀ {text words}, Lexes text words → Lexes (between ++ text) (Word.mark separator :: words))
    (fence : ∀ text, IsFence (between ++ text)) {texts : List String} {lists : List (List Word)}
    (each : List.Forall₂ Lexes texts lists) : Lexes (between.intercalate texts) (Word.joined separator lists) := by
  induction each with
  | nil => exact nil
  | @cons text words texts lists first others step =>
    cases others with
    | nil => simpa [Word.joined] using first
    | @cons text' words' texts lists second others =>
      rw [String.intercalate_cons_cons, String.append_assoc]
      exact first.append (separates step) (fence _)

end Lexes

namespace Word

theorem mem_joined {separator : Punctuation} {lists : List (List Word)} {words : List Word} (member : words ∈ lists)
    {word : Word} (inWords : word ∈ words) : word ∈ joined separator lists := by
  cases lists with
  | nil => cases member
  | cons first rest =>
    rcases List.mem_cons.mp member with rfl | member
    · exact List.mem_append_left _ inWords
    · exact List.mem_append_right _ (List.mem_flatMap.mpr ⟨words, member, List.mem_cons_of_mem _ inWords⟩)

theorem constant_text (text : String) : (constant text).2 = text := by
  unfold constant name
  split
  · rfl
  · split
    · rename_i keyword reserved
      exact of_decide_eq_true (List.find?_some reserved : _)
    · rfl

theorem isText_constant (text : String) : (constant text).isText = true := by
  unfold constant name
  split
  · rfl
  · split <;> rfl

theorem isGenuine_reserved (keyword : Keyword) : (reserved keyword).IsGenuine := rfl

theorem isGenuine_mark (punctuation : Punctuation) : (mark punctuation).IsGenuine := rfl

end Word

namespace TypeExpr

theorem path_separates {text : String} {words : List Word} (lexes : Lexes text words) :
    Lexes ("::" ++ text) (.mark .pathSeparator :: words) := .mark .pathSeparator (fun _ => rfl) lexes

theorem comma_separates {text : String} {words : List Word} (lexes : Lexes text words) :
    Lexes (", " ++ text) (.mark .comma :: words) := by
  have split : ", " ++ text = "," ++ (" " ++ text) := by rw [← String.append_assoc]; rfl
  rw [split]
  exact .mark .comma (fun _ => rfl) lexes.blank

theorem plus_separates {text : String} {words : List Word} (lexes : Lexes text words) :
    Lexes (" + " ++ text) (.mark .plus :: words) := by
  have split : " + " ++ text = " " ++ ("+" ++ (" " ++ text)) := by rw [← String.append_assoc, ← String.append_assoc]; rfl
  rw [split]
  exact .blank (.mark .plus (fun _ => rfl) lexes.blank)

theorem semicolon_separates {text : String} {words : List Word} (lexes : Lexes text words) :
    Lexes ("; " ++ text) (.mark .semicolon :: words) := by
  have split : "; " ++ text = ";" ++ (" " ++ text) := by rw [← String.append_assoc]; rfl
  rw [split]
  exact .mark .semicolon (fun _ => rfl) lexes.blank

theorem equals_separates {text : String} {words : List Word} (lexes : Lexes text words) :
    Lexes (" = " ++ text) (.mark .equals :: words) := by
  have split : " = " ++ text = " " ++ ("=" ++ (" " ++ text)) := by rw [← String.append_assoc, ← String.append_assoc]; rfl
  rw [split]
  exact .blank (.mark .equals (fun _ => rfl) lexes.blank)

theorem reserved_lexes (keyword : Keyword) : Lexes keyword.text [.reserved keyword] :=
  .word (Word.isGenuine_reserved keyword) rfl

theorem constant_lexes {text : String} (genuine : (Word.constant text).IsGenuine) : Lexes text [.constant text] := by
  have lexes := Lexes.word genuine (Word.isText_constant text)
  rwa [Word.constant_text] at lexes

mutual

theorem render_lexes : (type : TypeExpr) → (∀ word ∈ type.words, word.IsGenuine) → Lexes type.render type.words
  | path segments, genuine =>
    .joined path_separates (.append rfl) (renderSegments_lexes segments fun words member word inWords =>
      genuine word (Word.mem_joined member inWords))
  | reference life mutable target, genuine => by
    have ofTarget := render_lexes target fun word member => genuine word (by simp [words, member])
    have ofMutable : Lexes ((if mutable then "mut " else "") ++ target.render)
        ((if mutable then [.reserved .mutWord] else []) ++ target.words) := by
      cases mutable with
      | false => simpa using ofTarget
      | true =>
        have behind := (reserved_lexes .mutWord).append ofTarget.blank (.append rfl _)
        rwa [← String.append_assoc] at behind
    have ofLife : Lexes ((match life with | some name => name ++ " " | none => "") ++
          ((if mutable then "mut " else "") ++ target.render))
        ((match life with | some name => [.lifetime name] | none => []) ++
          ((if mutable then [.reserved .mutWord] else []) ++ target.words)) := by
      cases life with
      | none => simpa using ofMutable
      | some name =>
        have ofName : Lexes name [.lifetime name] := .word (genuine (.lifetime name) (by simp [words])) rfl
        rw [String.append_assoc]
        exact ofName.append ofMutable.blank (.append rfl _)
    have whole := Lexes.mark .ampersand (fun _ => rfl) ofLife
    cases life <;>
      (rw [words, List.append_assoc]; rwa [← String.append_assoc, ← String.append_assoc] at whole)
  | pointer mutable target, genuine => by
    have ofTarget := render_lexes target fun word member => genuine word (by simp [words, member])
    have ofWord := (reserved_lexes (if mutable then .mutWord else .constWord)).append ofTarget.blank (.append rfl _)
    have whole := Lexes.mark .star (fun _ => rfl) ofWord
    cases mutable <;> rwa [← String.append_assoc, ← String.append_assoc] at whole
  | tuple elements, genuine => by
    have ofElements : Lexes (", ".intercalate (renderAll elements)) (Word.joined .comma (wordsOfAll elements)) :=
      .joined comma_separates (.append rfl) (renderAll_lexes elements fun words member word inWords =>
        genuine word (by simp [TypeExpr.words, Word.mem_joined member inWords]))
    have closing := Lexes.single .closeParen fun _ => rfl
    have grouped {comma : String} {ofComma : List Word} (behind : Lexes (comma ++ ")") (ofComma ++ [.mark .closeParen]))
        (fence : IsFence (comma ++ ")")) : Lexes ("(" ++ ", ".intercalate (renderAll elements) ++ comma ++ ")")
          (.mark .openParen :: (Word.joined .comma (wordsOfAll elements) ++ ofComma ++ [.mark .closeParen])) := by
      have whole := Lexes.mark .openParen (fun _ => rfl) (ofElements.append behind fence)
      rwa [← String.append_assoc, ← String.append_assoc, ← List.append_assoc] at whole
    rcases elements with _ | ⟨first, _ | ⟨second, rest⟩⟩
    · exact grouped closing (.whole rfl)
    · have comma : Lexes ("," ++ ")") ([.mark .comma] ++ [.mark .closeParen]) := .mark .comma (fun _ => rfl) closing
      have whole := grouped comma (.append rfl _)
      exact whole
    · have none : Lexes ("" ++ ")") ([] ++ [.mark .closeParen]) := closing
      have whole := grouped none (.whole rfl)
      exact whole
  | slice element, genuine => by
    have ofElement := render_lexes element fun word member => genuine word (by simp [words, member])
    have closing := Lexes.single .closeBracket fun _ => rfl
    have whole := Lexes.mark .openBracket (fun _ => rfl) (ofElement.append closing (.whole rfl))
    rwa [← String.append_assoc] at whole
  | array element length, genuine => by
    have ofElement := render_lexes element fun word member => genuine word (by simp [words, member])
    have ofLength : Lexes length [.constant length] := constant_lexes (genuine _ (by simp [words]))
    have closing := Lexes.single .closeBracket fun _ => rfl
    have behind := semicolon_separates (ofLength.append closing (.whole rfl))
    have whole := Lexes.mark .openBracket (fun _ => rfl) (ofElement.append behind (.append rfl _))
    rwa [← String.append_assoc, ← String.append_assoc, ← String.append_assoc] at whole
  | bounded kind bounds, genuine => by
    have ofBounds : Lexes (" + ".intercalate (renderAll bounds)) (Word.joined .plus (wordsOfAll bounds)) :=
      .joined plus_separates (.append rfl) (renderAll_lexes bounds fun words member word inWords =>
        genuine word (by simp [TypeExpr.words, Word.mem_joined member inWords]))
    have whole := (reserved_lexes kind.keyword).append ofBounds.blank (.append rfl _)
    cases kind <;> rwa [← String.append_assoc] at whole
  | never, _ => .single .bang fun _ => rfl
  | lifetime name, genuine => .word (genuine (.lifetime name) List.mem_cons_self) rfl
  | binding name value, genuine => by
    have ofValue := render_lexes value fun word member => genuine word (by simp [words, member])
    have ofName : Lexes name [.ident name] := .word (genuine (.ident name) (by simp [words])) rfl
    have whole := ofName.append (equals_separates ofValue) (.append rfl _)
    rwa [← String.append_assoc] at whole
  | const text, genuine => constant_lexes (genuine _ List.mem_cons_self)
  | maybe bound, genuine => .mark .question (fun _ => rfl) (render_lexes bound fun word member =>
      genuine word (List.mem_cons_of_mem _ member))
  | grouped bound, genuine => render_lexes bound genuine

theorem renderAll_lexes : (types : List TypeExpr) → (∀ words ∈ wordsOfAll types, ∀ word ∈ words, word.IsGenuine) →
    List.Forall₂ Lexes (renderAll types) (wordsOfAll types)
  | [], _ => .nil
  | first :: rest, genuine =>
    have ⟨ofFirst, ofRest⟩ := List.forall_mem_cons.mp genuine
    .cons (render_lexes first ofFirst) (renderAll_lexes rest ofRest)

theorem renderSegment_lexes : (segment : PathSegment) → (∀ word ∈ segment.words, word.IsGenuine) →
    Lexes (renderSegment segment) segment.words
  | .plain name [], genuine => .word (genuine _ List.mem_cons_self) rfl
  | .plain name (first :: rest), genuine => by
    have ofArguments : Lexes (", ".intercalate (renderAll (first :: rest))) (Word.joined .comma (wordsOfAll (first :: rest))) :=
      .joined comma_separates (.append rfl) (renderAll_lexes (first :: rest) fun words member word inWords =>
        genuine word (by simp [PathSegment.words, Word.mem_joined member inWords]))
    have ofName : Lexes name [.ident name] := .word (genuine (.ident name) (by simp [PathSegment.words])) rfl
    have closing := Lexes.single .greater fun _ => rfl
    have whole := ofName.append (.mark .less (fun _ => rfl) (ofArguments.append closing (.whole rfl))) (.append rfl _)
    rwa [← String.append_assoc, ← String.append_assoc] at whole
  | .call name inputs output, genuine => by
    have ofInputs : Lexes (", ".intercalate (renderAll inputs)) (Word.joined .comma (wordsOfAll inputs)) :=
      .joined comma_separates (.append rfl) (renderAll_lexes inputs fun words member word inWords =>
        genuine word (by simp [PathSegment.words, Word.mem_joined member inWords]))
    have ofName : Lexes name [.ident name] := .word (genuine (.ident name) (by simp [PathSegment.words])) rfl
    have ofOutput := renderOutput_lexes output fun word member => genuine word (by simp [PathSegment.words, member])
    have closing := Lexes.mark .closeParen (fun _ => rfl) ofOutput
    have inside := Lexes.mark .openParen (fun _ => rfl) (ofInputs.append closing (.append rfl _))
    have whole := ofName.append inside (.append rfl _)
    rwa [← String.append_assoc, ← String.append_assoc, ← String.append_assoc] at whole

theorem renderOutput_lexes : (output : Option TypeExpr) → (∀ word ∈ PathSegment.wordsOfOutput output, word.IsGenuine) →
    Lexes (renderOutput output) (PathSegment.wordsOfOutput output)
  | none, _ => .nil
  | some output, genuine => by
    have ofOutput := render_lexes output fun word member => genuine word (List.mem_cons_of_mem _ member)
    have whole := (Lexes.mark .arrow (fun _ => rfl) ofOutput.blank).blank
    rwa [← String.append_assoc, ← String.append_assoc] at whole

theorem renderSegments_lexes : (segments : List PathSegment) →
    (∀ words ∈ PathSegment.wordsOfAll segments, ∀ word ∈ words, word.IsGenuine) →
      List.Forall₂ Lexes (renderSegments segments) (PathSegment.wordsOfAll segments)
  | [], _ => .nil
  | first :: rest, genuine =>
    have ⟨ofFirst, ofRest⟩ := List.forall_mem_cons.mp genuine
    .cons (renderSegment_lexes first ofFirst) (renderSegments_lexes rest ofRest)

end

end TypeExpr

end Exposure
