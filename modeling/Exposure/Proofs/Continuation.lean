import Exposure.Proofs.Plain

/-!
A text of lexemes keeps them when a further text follows, if a closing brace or a semicolon ends it or a line end separates
the two, unless it leaves a block comment or a raw string open.
-/

namespace Exposure.Lexeme

/-- A block comment or a raw string is left open: what begins it is found as lexemes of their own. -/
def leavesOpen : List (List Char) → Bool
  | one :: two :: rest =>
    (one = ['/'] && two = ['*']) ||
      ((one = ['r'] || one = ['b', 'r']) && two = ['#'] && rest.head?.bind List.head? = some '"') ||
      leavesOpen (two :: rest)
  | _ => false

theorem leavesOpen_cons {first : List Char} {rest : List (List Char)} (opens : leavesOpen rest = true) :
    leavesOpen (first :: rest) = true := by
  cases rest with
  | nil => cases opens
  | cons second rest => rw [leavesOpen, opens, Bool.or_true]

theorem leavesOpen_append_left (before : List (List Char)) {texts : List (List Char)} (opens : leavesOpen texts = true) :
    leavesOpen (before ++ texts) = true := by
  induction before with
  | nil => exact opens
  | cons first rest step => exact leavesOpen_cons step

theorem leavesOpen_append_right {texts : List (List Char)} (opens : leavesOpen texts = true) (after : List (List Char)) :
    leavesOpen (texts ++ after) = true := by
  fun_induction leavesOpen texts with
  | case1 one two rest step =>
    rw [Bool.or_eq_true] at opens
    rcases opens with here | later
    · simp only [List.cons_append, leavesOpen, Bool.or_eq_true]
      refine .inl ?_
      rw [Bool.or_eq_true] at here
      refine here.imp_right fun raw => ?_
      cases rest with
      | nil => simp at raw
      | cons third rest => exact raw
    · exact leavesOpen_cons (step later)
  | case2 => cases opens

/-- A block comment is left open: its opening mark is found as two lexemes. -/
def opensComment : List (List Char) → Bool
  | one :: two :: rest => (one = ['/'] && two = ['*']) || opensComment (two :: rest)
  | _ => false

/-- A raw string is left open: what begins it is found as lexemes of their own. -/
def opensRawString : List (List Char) → Bool
  | one :: two :: rest =>
    ((one = ['r'] || one = ['b', 'r']) && two = ['#'] && rest.head?.bind List.head? = some '"') ||
      opensRawString (two :: rest)
  | _ => false

theorem leavesOpen_eq (texts : List (List Char)) : leavesOpen texts = (opensComment texts || opensRawString texts) := by
  fun_induction leavesOpen texts with
  | case1 one two rest step =>
    rw [opensComment, opensRawString, step]
    ac_rfl
  | case2 texts short =>
    cases texts with
    | nil => rfl
    | cons one rest =>
      cases rest with
      | nil => rfl
      | cons two rest => exact absurd rfl (short one two rest)

theorem isSome_through?_iff {first second : Char} {text : List Char} :
    (through? first second text).isSome = true ↔ [first, second] <:+: text := by
  fun_induction through? first second text with
  | case1 one two rest same =>
    simp only [Bool.and_eq_true, decide_eq_true_eq] at same
    obtain ⟨rfl, rfl⟩ := same
    exact iff_of_true rfl (List.prefix_append [one, two] rest).isInfix
  | case2 one two rest other step =>
    have elsewhere : ¬ [first, second] <+: one :: two :: rest := by
      rintro ⟨_, same⟩
      cases same
      simp at other
    rw [Option.isSome_map, step]
    exact (List.infix_cons_iff.trans (or_iff_right elsewhere)).symm
  | case3 text short =>
    refine iff_of_false Bool.false_ne_true ?_
    rintro ⟨before, after, rfl⟩
    rcases before with _ | ⟨_, _ | ⟨_, _⟩⟩ <;> exact short _ _ _ rfl

/-- A further text holds no first end of anything that ends with two given characters. -/
def ClosesNothing (first second : Char) (more : List Char) : Prop :=
  ∀ others, (through? first second (others ++ more)).isSome = true → (through? first second others).isSome = true

/-- What the lexemes of a text leave open is not closed by a further text. -/
structure StaysOpen (texts : List (List Char)) (more : List Char) : Prop where
  comment : opensComment texts = true → ClosesNothing '*' '/' more
  rawString : opensRawString texts = true → ClosesNothing '"' '#' more

namespace StaysOpen

variable {first : List Char} {texts : List (List Char)} {more : List Char}

theorem of_closed (closed : leavesOpen texts = false) : StaysOpen texts more := by
  rw [leavesOpen_eq, Bool.or_eq_false_iff] at closed
  exact ⟨by simp [closed.1], by simp [closed.2]⟩

theorem tail (stays : StaysOpen (first :: texts) more) : StaysOpen texts more := by
  cases texts with
  | nil => exact ⟨nofun, nofun⟩
  | cons second texts =>
    exact ⟨fun opens => stays.comment (by rw [opensComment, opens, Bool.or_true]),
      fun opens => stays.rawString (by rw [opensRawString, opens, Bool.or_true])⟩

end StaysOpen

/-- A text of lexemes begins with the lexeme that it begins. -/
theorem Pieces.of_first? {front behind : List Char} {kind : LexemeClass} {pieces : List Piece} (proper : front ≠ [])
    (found : first? (front ++ behind) = some (kind, front.length)) (covers : Pieces (front ++ behind) pieces []) :
    ∃ others, pieces = (kind, front) :: others ∧ Pieces behind others [] := by
  generalize whole : front ++ behind = text at found covers
  obtain _ | @⟨_, kind', length, others, _, first, rest⟩ := covers
  · simp [proper] at whole
  · rw [found] at first
    obtain ⟨rfl, size⟩ := Prod.mk.inj (Option.some.inj first)
    rw [← size, ← whole, List.drop_left] at rest
    exact ⟨others, by rw [← size, ← whole, List.take_left], rest⟩

/-- The characters of which one stands between two texts: those that end items, and the line end. -/
def ends : List Char := ['\x7d', ';', '\n']

/-- No mark that opens something begins in a text and ends behind it. -/
def Apart (front more : List Char) : Prop :=
  ∀ mark rest, (∀ char ∈ mark, char ∉ ends) → front ++ more = mark ++ rest → ∃ others, front = mark ++ others

namespace Apart

/-- A mark without an end in it stands before the first end. -/
theorem before_end {stop : Char} (isEnd : stop ∈ ends) (before after : List Char) : Apart before (stop :: after) := by
  intro mark rest noEnd same
  induction mark generalizing before with
  | nil => exact ⟨before, rfl⟩
  | cons first mark step =>
    obtain ⟨ofFirst, ofMark⟩ := List.forall_mem_cons.mp noEnd
    have different : stop ≠ first := by
      rintro rfl
      exact ofFirst isEnd
    obtain ⟨behind, rfl, tail⟩ := exists_of_append_eq_cons different same
    obtain ⟨others, rfl⟩ := step behind ofMark tail.symm
    exact ⟨others, rfl⟩

theorem behind_end {stop : Char} (isEnd : stop ∈ ends) (before after : List Char) : Apart (before ++ [stop]) after := by
  intro mark rest noEnd same
  rw [List.append_assoc] at same
  obtain ⟨others, rfl⟩ := before_end isEnd before after mark rest noEnd same
  exact ⟨others ++ [stop], List.append_assoc ..⟩

theorem tail {first : Char} {front more : List Char} (apart : Apart (first :: front) more) (noEnd : first ∉ ends) :
    Apart front more := by
  intro mark rest ofMark same
  obtain ⟨others, same⟩ := apart (first :: mark) rest (List.forall_mem_cons.mpr ⟨noEnd, ofMark⟩) (congrArg (first :: ·) same)
  exact ⟨others, (List.cons.inj same).2⟩

end Apart

section Apart

variable {front more : List Char} {pieces : List Piece}

theorem isSome_stringBody? {rest : List Char} (covers : Pieces ('"' :: rest) pieces []) :
    (stringBody? rest).isSome = true := by
  obtain _ | ⟨found, -⟩ := covers
  rw [first?_quote] at found
  obtain ⟨inner, found, -⟩ := Option.map_eq_some_iff.mp found
  rw [found]
  rfl

/-- A string that begins in a text of lexemes ends in it. -/
theorem string?_of_pieces (apart : Apart front more) (covers : Pieces front pieces [])
    (found : (string? (front ++ more)).isSome = true) : (string? front).isSome = true := by
  rw [string?_eq] at found
  obtain ⟨body, same, found⟩ := exists_of_isSome_marked found
  obtain ⟨rest, rfl, found⟩ := exists_of_isSome_opened found
  rcases same with same | same
  · obtain ⟨others, rfl⟩ := apart ['"'] rest (by simp [ends]) same
    have body := isSome_stringBody? covers
    simpa [string?, afterByteMark] using body
  · obtain ⟨others, rfl⟩ := apart ['b', '"'] rest (by simp [ends]) same
    by_contra nothing
    have noString : string? ('b' :: '"' :: others) = none := by simpa using nothing
    have ident : first? ('b' :: '"' :: others) = some (some .ident, 1) :=
      first?_letter (by decide) (by simp [rawString?, afterByteMark]) noString (by simp [char?, afterByteMark])
        (by simp [ident?, plainIdent?, run_cons, beginsIdent, continuesIdent])
    obtain ⟨behind, -, rest⟩ := Pieces.of_first? (List.cons_ne_nil 'b' []) ident covers
    have body := isSome_stringBody? rest
    simp [string?, afterByteMark] at noString
    simp [noString] at body

/-- A letter is a character literal before an apostrophe only. -/
theorem charBody?_of_beginsIdent {first : Char} (letter : beginsIdent first = true) (rest : List Char) :
    charBody? (first :: rest) = if rest.head? = some '\'' then some 2 else none := by
  have other {char : Char} (noIdent : beginsIdent char = false) : first ≠ char := by
    rintro rfl
    cases letter.symm.trans noIdent
  have noEscape : first ≠ '\\' := other rfl
  have noQuote : first ≠ '\'' := other rfl
  have noNewline : first ≠ '\n' := other rfl
  simp [charBody?, codePointEscape?, noEscape, noQuote, noNewline]

/-- A character literal in the place of a lifetime is found in the text of the lifetime. -/
theorem charBody?_of_lifetime {others : List Char} (apart : Apart ('\'' :: others) more) {length : Nat}
    (life : lifetime? ('\'' :: others) = some length) : charBody? (others ++ more) = charBody? others := by
  cases others with
  | nil => simp [lifetime?, plainIdent?] at life
  | cons first others =>
    have letter : beginsIdent first = true := by
      by_contra noIdent
      simp [lifetime?, plainIdent?, noIdent] at life
    rw [List.cons_append, charBody?_of_beginsIdent letter, charBody?_of_beginsIdent letter]
    cases others with
    | cons second others => rfl
    | nil =>
      have noEnd : first ∉ ends := by
        simp only [ends, List.mem_cons, List.not_mem_nil, or_false]
        rintro (rfl | rfl | rfl) <;> cases letter
      have noQuote : more.head? ≠ some '\'' := by
        intro quote
        obtain ⟨rest, rfl⟩ := List.head?_eq_some_iff.mp quote
        obtain ⟨behind, same⟩ := apart ['\'', first, '\''] rest
          (List.forall_mem_cons.mpr ⟨by simp [ends], List.forall_mem_cons.mpr ⟨noEnd, by simp [ends]⟩⟩) rfl
        cases same
      simp [noQuote]

/-- A character literal that begins in a text of lexemes ends in it. -/
theorem char?_of_pieces (apart : Apart front more) (covers : Pieces front pieces [])
    (found : (char? (front ++ more)).isSome = true) : (char? front).isSome = true := by
  have closed {others : List Char} {pieces : List Piece} (apart : Apart ('\'' :: others) more)
      (covers : Pieces ('\'' :: others) pieces []) (found : (charBody? (others ++ more)).isSome = true) :
      (charBody? others).isSome = true := by
    obtain _ | ⟨first, -⟩ := covers
    rw [first?_apostrophe] at first
    rcases Option.or_eq_some_iff.mp first with literal | ⟨-, life⟩
    · obtain ⟨inner, literal, -⟩ := Option.map_eq_some_iff.mp literal
      rw [literal]
      rfl
    · obtain ⟨inner, life, -⟩ := Option.map_eq_some_iff.mp life
      rwa [charBody?_of_lifetime apart life] at found
  rw [char?_eq] at found
  obtain ⟨body, same, found⟩ := exists_of_isSome_marked found
  obtain ⟨rest, rfl, found⟩ := exists_of_isSome_opened found
  rcases same with same | same
  · obtain ⟨others, rfl⟩ := apart ['\''] rest (by simp [ends]) same
    obtain rfl := (List.cons.inj same).2
    have body := closed apart covers (by simpa [opened] using found)
    simpa [char?, afterByteMark] using body
  · obtain ⟨others, rfl⟩ := apart ['b', '\''] rest (by simp [ends]) same
    obtain rfl := (List.cons.inj (List.cons.inj same).2).2
    by_contra nothing
    have noChar : char? ('b' :: '\'' :: others) = none := by simpa using nothing
    have ident : first? ('b' :: '\'' :: others) = some (some .ident, 1) :=
      first?_letter (by decide) (by simp [rawString?, afterByteMark]) (by simp [string?, afterByteMark]) noChar
        (by simp [ident?, plainIdent?, run_cons, beginsIdent, continuesIdent])
    obtain ⟨behind, -, rest⟩ := Pieces.of_first? (List.cons_ne_nil 'b' []) ident covers
    have body := closed (apart.tail (by decide)) rest (by simpa [opened] using found)
    simp [char?, afterByteMark] at noChar
    simp [noChar] at body

/-- What begins a raw string. -/
def IsRawMark (mark : List Char) : Prop := mark = ['r'] ∨ mark = ['b', 'r']

/-- What begins no raw string behind a raw mark is an identifier. -/
theorem first?_of_isRawMark {mark : List Char} (isMark : IsRawMark mark) {rest : List Char}
    (quoted : (∃ others, rest = '"' :: others) ∨ ∃ others, rest = '#' :: '"' :: others)
    (noRaw : rawString? (mark ++ rest) = none) : first? (mark ++ rest) = some (some .ident, mark.length) := by
  rcases isMark with rfl | rfl
  · refine first?_letter (by decide) noRaw (by simp [string?, afterByteMark]) (by simp [char?, afterByteMark]) ?_
    rcases quoted with ⟨others, rfl⟩ | ⟨others, rfl⟩ <;>
      simp [ident?, plainIdent?, run_cons, beginsIdent, continuesIdent]
  · refine first?_letter (by decide) noRaw (by simp [string?, afterByteMark]) (by simp [char?, afterByteMark]) ?_
    rcases quoted with ⟨others, rfl⟩ | ⟨others, rfl⟩ <;>
      simp [ident?, plainIdent?, run_cons, beginsIdent, continuesIdent]

theorem isSome_throughQuote? {rest : List Char} (body : (stringBody? rest).isSome = true) :
    (throughQuote? rest).isSome = true := by
  fun_induction stringBody? rest with
  | case1 => cases body
  | case2 rest => rfl
  | case3 => cases body
  | case4 => cases body
  | case5 escaped rest proper step =>
    rw [Option.isSome_map] at body
    by_cases quote : escaped = '"' <;> simp [throughQuote?_cons, quote, step body]
  | case6 first rest noQuote _ _ step =>
    rw [Option.isSome_map] at body
    by_cases quote : first = '"' <;> simp [throughQuote?_cons, quote, step body]

theorem rawString?_of_isRawMark {mark : List Char} (isMark : IsRawMark mark) {others : List Char}
    (body : (stringBody? others).isSome = true) : (rawString? (mark ++ '"' :: others)).isSome = true := by
  have closed := isSome_throughQuote? body
  rw [rawString?_eq]
  rcases isMark with rfl | rfl <;> simpa [marked, afterByteMark, opened] using closed

/-- A raw string that begins in a text of lexemes ends in it, unless it is left open. -/
theorem rawString?_of_pieces (apart : Apart front more) (covers : Pieces front pieces [])
    (stays : StaysOpen (pieces.map Prod.snd) more) (found : (rawString? (front ++ more)).isSome = true) :
    (rawString? front).isSome = true := by
  obtain ⟨mark, rest, isMark, quoted, rfl⟩ : ∃ mark rest, IsRawMark mark ∧
      ((∃ others, rest = '"' :: others) ∨ ∃ others, rest = '#' :: '"' :: others ∧
        (through? '"' '#' (others ++ more)).isSome = true) ∧ front = mark ++ rest := by
    rw [rawString?_eq, Option.isSome_or, Bool.or_eq_true] at found
    rcases found with found | found
    · obtain ⟨body, same, raw⟩ := exists_of_isSome_marked found
      obtain ⟨_, rfl, hash⟩ := exists_of_isSome_opened raw
      obtain ⟨_, rfl, quote⟩ := exists_of_isSome_opened hash
      obtain ⟨behind, rfl, closing⟩ := exists_of_isSome_opened quote
      rcases same with same | same
      · obtain ⟨others, rfl⟩ := apart ['r', '#', '"'] behind (by simp [ends]) same
        obtain rfl : others ++ more = behind := by simpa using same
        exact ⟨['r'], _, .inl rfl, .inr ⟨others, rfl, closing⟩, rfl⟩
      · obtain ⟨others, rfl⟩ := apart ['b', 'r', '#', '"'] behind (by simp [ends]) same
        obtain rfl : others ++ more = behind := by simpa using same
        exact ⟨['b', 'r'], _, .inr rfl, .inr ⟨others, rfl, closing⟩, rfl⟩
    · obtain ⟨body, same, raw⟩ := exists_of_isSome_marked found
      obtain ⟨_, rfl, quote⟩ := exists_of_isSome_opened raw
      obtain ⟨behind, rfl, -⟩ := exists_of_isSome_opened quote
      rcases same with same | same
      · obtain ⟨others, rfl⟩ := apart ['r', '"'] behind (by simp [ends]) same
        exact ⟨['r'], _, .inl rfl, .inl ⟨others, rfl⟩, rfl⟩
      · obtain ⟨others, rfl⟩ := apart ['b', 'r', '"'] behind (by simp [ends]) same
        exact ⟨['b', 'r'], _, .inr rfl, .inl ⟨others, rfl⟩, rfl⟩
  by_contra nothing
  have noString : rawString? (mark ++ rest) = none := by simpa using nothing
  have ident := first?_of_isRawMark isMark (quoted.imp_right (by rintro ⟨others, rfl, -⟩; exact ⟨_, rfl⟩)) noString
  have proper : mark ≠ [] := by rcases isMark with rfl | rfl <;> exact List.cons_ne_nil _ _
  obtain ⟨behind, rfl, ofRest⟩ := Pieces.of_first? proper ident covers
  rcases quoted with ⟨others, rfl⟩ | ⟨others, rfl, closing⟩
  · have body := rawString?_of_isRawMark isMark (isSome_stringBody? ofRest)
    rw [noString] at body
    cases body
  · have hash : first? ('#' :: '"' :: others) = some (some (.mark .hash), 1) := rfl
    obtain ⟨behind, rfl, quoted⟩ := Pieces.of_first? (List.cons_ne_nil '#' []) hash ofRest
    obtain _ | ⟨-, -⟩ := quoted
    -- the raw mark, the hash and the string are lexemes of their own, so nothing closes them
    have inside := stays.rawString (by rcases isMark with rfl | rfl <;> simp [opensRawString]) others closing
    rcases isMark with rfl | rfl <;> simp [rawString?, afterByteMark] at noString <;> simp [noString] at inside

/-- A block comment that begins in a text of lexemes ends in it, unless it is left open. -/
theorem blockComment?_of_pieces (apart : Apart front more) (covers : Pieces front pieces [])
    (stays : StaysOpen (pieces.map Prod.snd) more) (found : (blockComment? (front ++ more)).isSome = true) :
    (blockComment? front).isSome = true := by
  rw [blockComment?_eq] at found
  obtain ⟨_, same, found⟩ := exists_of_isSome_opened found
  obtain ⟨behind, rfl, closing⟩ := exists_of_isSome_opened found
  obtain ⟨others, rfl⟩ := apart ['/', '*'] behind (by simp [ends]) same
  obtain rfl : others ++ more = behind := by simpa using same
  by_contra nothing
  have noComment : blockComment? ('/' :: '*' :: others) = none := by simpa using nothing
  have slash : first? ('/' :: '*' :: others) = some (some (.mark .slash), 1) := by
    have noDoc : docComment? ('/' :: '*' :: others) = none := by simp [docComment?]
    have noLine : lineComment? ('/' :: '*' :: others) = none := by simp [lineComment?]
    simp (disch := decide) only [first?, classes, noDoc, rawString?_of_ne, string?_of_ne, char?_of_ne,
      number?_of_not_isDigit, ident?_of_not_beginsIdent, lifetime?_of_ne, noLine, noComment, blank?_of_not_isBlank]
    rfl
  have star : first? ('*' :: others) = some (some (.mark .star), 1) := rfl
  obtain ⟨behind, rfl, rest⟩ := Pieces.of_first? (List.cons_ne_nil '/' []) slash covers
  obtain ⟨behind, rfl, -⟩ := Pieces.of_first? (List.cons_ne_nil '*' []) star rest
  have inside := stays.comment (by simp [opensComment]) others closing
  simp [blockComment?] at noComment
  simp [noComment] at inside

end Apart

section Stop

variable {stop : Char} {before after : List Char} {pieces : List Piece}

theorem IsStop.mem_ends (isStop : IsStop stop) : stop ∈ ends := by rcases isStop with rfl | rfl <;> decide

/-- The first lexeme of a text that a stop ends is its first lexeme when a further text follows. -/
theorem first?_behind_stop (isStop : IsStop stop) (covers : Pieces (before ++ [stop]) pieces [])
    (closed : leavesOpen (pieces.map Prod.snd) = false) {kind : LexemeClass} {length : Nat}
    (found : first? (before ++ [stop]) = some (kind, length)) (fits : length ≤ before.length) (after : List Char) :
    first? (before ++ stop :: after) = some (kind, length) := by
  have apart := Apart.behind_end isStop.mem_ends before after
  have stays : StaysOpen (pieces.map Prod.snd) after := .of_closed closed
  have split : before ++ stop :: after = (before ++ [stop]) ++ after := by simp
  have ofClass {class? : List Char → Option Nat} (agrees : AgreesBeforeStop class?)
      (settled : (class? (before ++ stop :: after)).isSome = true → (class? (before ++ [stop])).isSome = true)
      (kind : LexemeClass) : AgreesUpTo before.length ((class? (before ++ [stop])).map (kind, ·))
        ((class? (before ++ stop :: after)).map (kind, ·)) := by
    refine ⟨fun found length same fits => ?_, fun found => ?_⟩
    · obtain ⟨length, found, same⟩ := Option.map_eq_some_iff.mp same
      cases same
      rw [agrees isStop found fits after]
      rfl
    · rw [Option.isSome_map] at found ⊢
      exact settled found
  have ofEnds {class? : List Char → Option Nat} (ends : EndsAtStop class?) (kind : LexemeClass) :=
    ofClass ends.agrees (fun found => ends.settled isStop found []) kind
  have ofMark : AgreesUpTo before.length
      ((Punctuation.ofText? (before ++ [stop])).map fun mark => (some (.mark mark), mark.text.length))
      ((Punctuation.ofText? (before ++ stop :: after)).map fun mark => (some (.mark mark), mark.text.length)) := by
    rw [ofText?_agrees isStop before after []]
    exact ⟨fun _ _ same _ => same, id⟩
  have each : List.Forall₂ (AgreesUpTo before.length) (classes (before ++ [stop])) (classes (before ++ stop :: after)) :=
    .cons (ofClass docComment?_agrees (fun found => docComment?_settled isStop found []) _) <|
    .cons (ofClass isClosed_rawString?.agrees (fun found => rawString?_of_pieces apart covers stays (split ▸ found)) _) <|
    .cons (ofClass isClosed_string?.agrees (fun found => string?_of_pieces apart covers (split ▸ found)) _) <|
    .cons (ofClass isClosed_char?.agrees (fun found => char?_of_pieces apart covers (split ▸ found)) _) <|
    .cons (ofEnds endsAtStop_number? _) <| .cons (ofEnds endsAtStop_ident? _) <| .cons (ofEnds endsAtStop_lifetime? _) <|
    .cons (ofClass lineComment?_agrees (fun found => lineComment?_settled isStop found []) _) <|
    .cons (ofClass isClosed_blockComment?.agrees (fun found => blockComment?_of_pieces apart covers stays (split ▸ found)) _) <|
    .cons (ofEnds endsAtStop_blank? _) <| .cons ofMark .nil
  exact (AgreesUpTo.findSome? each).agrees kind length found fits

/-- A text of lexemes that a stop ends keeps its lexemes when a further text follows. -/
theorem Pieces.continued {inside : List Piece} {terminal : Terminal} {last : List Char} (isStop : IsStop stop)
    (closes : terminal.closesItem = true) (covers : Pieces (before ++ [stop]) (inside ++ [(some terminal, last)]) [])
    (closed : leavesOpen ((inside ++ [(some terminal, last)]).map Prod.snd) = false) (after : List Char) :
    Pieces (before ++ stop :: after) (inside ++ [(some terminal, last)]) after := by
  induction inside generalizing before with
  | nil =>
    generalize whole : before ++ [stop] = text at covers
    obtain _ | ⟨first, behind⟩ := covers
    obtain ⟨stop', behind', -, rfl, rfl, again⟩ := exists_stop closes first
    cases before with
    | nil =>
      obtain ⟨rfl, rfl⟩ := List.cons.inj whole
      exact .cons (again after) (.nil after)
    | cons one before =>
      obtain ⟨rfl, rfl⟩ := List.cons.inj whole
      simpa using behind.eq_append
  | cons one others step =>
    have whole := covers
    generalize same : before ++ [stop] = text at covers
    obtain _ | @⟨_, kind, length, _, _, first, behind⟩ := covers
    subst same
    have later : leavesOpen ((others ++ [(some terminal, last)]).map Prod.snd) = false := by
      rw [Bool.eq_false_iff] at closed ⊢
      exact fun opens => closed (leavesOpen_cons opens)
    have fits : length + 1 ≤ before.length := by
      by_contra beyond
      have nothing : (before ++ [stop]).drop (length + 1) = [] := by
        apply List.drop_eq_nil_of_le
        rw [List.length_append, List.length_singleton]
        omega
      rw [nothing] at behind
      cases others <;> (obtain _ | ⟨impossible, -⟩ := behind; cases impossible)
    have front := first?_behind_stop isStop whole closed first fits after
    rw [List.drop_append_of_le_length fits] at behind
    rw [List.take_append_of_le_length fits]
    have size : (before.take (length + 1)).length = length + 1 := List.length_take_of_le fits
    rw [← List.take_append_drop (length + 1) before, List.append_assoc] at front ⊢
    rw [List.take_left' size]
    exact .cons_append front size (step behind later)

end Stop

/-! Before a line end -/

section LineEnd

variable {front after : List Char} {pieces : List Piece}

theorem isBreak_newline : IsBreak '\n' := by constructor <;> decide

theorem docComment?_newline (front after : List Char) : docComment? (front ++ '\n' :: after) = docComment? front := by
  ext length
  rw [docComment?_eq_some, docComment?_eq_some]
  constructor
  · rintro ⟨rest, same, single, rfl⟩
    obtain ⟨others, rfl⟩ := Apart.before_end (by decide) front after ['/', '/', '/'] rest (by simp [ends]) same
    obtain rfl : others ++ '\n' :: after = rest := by simpa using same
    refine ⟨others, rfl, ?_, by rw [run_append_cons (by decide)]⟩
    cases others with
    | nil => exact nofun
    | cons first others => exact single
  · rintro ⟨rest, rfl, single, rfl⟩
    refine ⟨rest ++ '\n' :: after, rfl, ?_, by rw [run_append_cons (by decide)]⟩
    cases rest with
    | nil => simp
    | cons first rest => exact single

/-- Three slashes at the end of a text are a documentation comment; what begins with two is known there. -/
theorem lineComment?_newline (noDoc : docComment? front = none) (after : List Char) :
    lineComment? (front ++ '\n' :: after) = lineComment? front := by
  ext length
  rw [lineComment?_eq_some, lineComment?_eq_some]
  constructor
  · rintro ⟨rest, same, others, rfl⟩
    obtain ⟨inside, rfl⟩ := Apart.before_end (by decide) front after ['/', '/'] rest (by simp [ends]) same
    obtain rfl : inside ++ '\n' :: after = rest := by simpa using same
    refine ⟨inside, rfl, ?_, by rw [run_append_cons (by decide)]⟩
    rintro next behind rfl
    exact others next _ rfl
  · rintro ⟨rest, rfl, others, rfl⟩
    refine ⟨rest ++ '\n' :: after, rfl, ?_, by rw [run_append_cons (by decide)]⟩
    intro next behind same
    match rest with
    | [] => cases same
    | [slash] =>
      obtain rfl := (List.cons.inj same).1
      simp [docComment?] at noDoc
    | slash :: second :: rest =>
      simp only [List.cons_append, List.cons.injEq] at same
      obtain ⟨rfl, rfl, -⟩ := same
      exact others second rest rfl

theorem ofText?_newline (proper : front ≠ []) (after : List Char) :
    Punctuation.ofText? (front ++ '\n' :: after) = Punctuation.ofText? front := by
  match front with
  | [] => exact absurd rfl proper
  | first :: second :: rest => exact (ofText?_two first second _).trans (ofText?_two first second rest).symm
  | [first] =>
    refine (ofText?_two first '\n' after).trans ?_
    by_cases isMark : first ∈ markChars
    · rw [ofText?_of_mem isMark]
    by_cases colon : first = ':'
    · rw [colon]; rfl
    by_cases minus : first = '-'
    · rw [minus]; rfl
    · have noMark : first ∉ ':' :: '-' :: markChars := by simp [colon, minus, isMark]
      rw [ofText?_of_not_mem noMark, ofText?_of_not_mem noMark]

theorem IsClosed.extend {class? : List Char → Option Nat} (closed : IsClosed class?) {input : List Char} {length : Nat}
    (found : class? input = some length) (more : List Char) : class? (input ++ more) = some length := by
  have same := (closed _ _ found).2.2 (input.drop length ++ more)
  rwa [← List.append_assoc, List.take_append_drop] at same

/-- A class that finds nothing new finds the same. -/
theorem IsClosed.eq_of_settled {class? : List Char → Option Nat} (closed : IsClosed class?) {input more : List Char}
    (settled : (class? (input ++ more)).isSome = true → (class? input).isSome = true) :
    class? (input ++ more) = class? input := by
  cases found : class? input with
  | some length => exact closed.extend found more
  | none =>
    rw [found] at settled
    exact Option.not_isSome_iff_eq_none.mp (by simpa using settled)

theorem run_append_of_mem {kind : Char → Bool} {input : List Char} {char : Char} (member : char ∈ input)
    (other : kind char = false) (more : List Char) : run kind (input ++ more) = run kind input := by
  induction input with
  | nil => cases member
  | cons first rest step =>
    rw [List.cons_append, run_cons, run_cons]
    rcases List.mem_cons.mp member with rfl | later
    · simp [other]
    · rw [step later]

/-- The first lexeme of a text, unless it is blank to its end, is its first lexeme before a line end. -/
theorem first?_before_newline (covers : Pieces front pieces [])
    (stays : StaysOpen (pieces.map Prod.snd) ('\n' :: after)) {char : Char} (member : char ∈ front)
    (noBlank : isBlank char = false) : first? (front ++ '\n' :: after) = first? front := by
  obtain ⟨first, rest, rfl⟩ := List.exists_cons_of_ne_nil (List.ne_nil_of_mem member)
  by_cases blank : isBlank first = true
  · have later : char ∈ rest := by
      rcases List.mem_cons.mp member with rfl | later
      · exact absurd blank (by simp [noBlank])
      · exact later
    rw [List.cons_append, first?_blank blank, first?_blank blank, run_append_of_mem later noBlank]
  have apart : Apart (first :: rest) ('\n' :: after) := .before_end (by decide) _ _
  have doc := docComment?_newline (first :: rest) after
  cases ofDoc : docComment? (first :: rest) with
  | some length =>
    rw [ofDoc] at doc
    simp only [first?, classes, ofDoc, doc]
    rfl
  | none =>
    have raw := isClosed_rawString?.eq_of_settled (rawString?_of_pieces apart covers stays)
    have string := isClosed_string?.eq_of_settled (string?_of_pieces apart covers)
    have ofChar := isClosed_char?.eq_of_settled (char?_of_pieces apart covers)
    have number := endsAtBreak_number? isBreak_newline (first :: rest) after
    have ident := endsAtBreak_ident? isBreak_newline (first :: rest) after
    have life := endsAtBreak_lifetime? isBreak_newline (first :: rest) after
    have line := lineComment?_newline ofDoc after
    have block := isClosed_blockComment?.eq_of_settled (blockComment?_of_pieces apart covers stays)
    have noBlanks : blank? (first :: rest ++ '\n' :: after) = blank? (first :: rest) := by
      rw [List.cons_append, blank?_of_not_isBlank _ (by simpa using blank), blank?_of_not_isBlank _ (by simpa using blank)]
    have mark := ofText?_newline (List.cons_ne_nil first rest) after
    rw [first?, first?, classes, classes, doc, raw, string, ofChar, number, ident, life, line, block, noBlanks, mark]

theorem run_append_of_forall {kind : Char → Bool} {front : List Char} (each : ∀ char ∈ front, kind char = true)
    (more : List Char) : run kind (front ++ more) = front.length + run kind more := by
  induction front with
  | nil => simp
  | cons first rest step =>
    obtain ⟨ofFirst, ofRest⟩ := List.forall_mem_cons.mp each
    rw [List.cons_append, run_cons, if_pos ofFirst, step ofRest, List.length_cons]
    omega

/-- Blanks in front of a text of lexemes are a lexeme, together with the blanks that the text begins with. -/
theorem Pieces.behind_blanks {blanks two : List Char} {others : List Piece} (proper : blanks ≠ [])
    (blank : ∀ char ∈ blanks, isBlank char = true) (covers : Pieces two others []) :
    ∃ joined, Pieces (blanks ++ two) joined [] ∧
      ∀ position, tokensFrom position joined = tokensFrom (position.past blanks) others := by
  have found : ∃ length, first? (blanks ++ two) = some (none, length + 1) ∧ length + 1 = blanks.length + run isBlank two := by
    obtain ⟨first, rest, rfl⟩ := List.exists_cons_of_ne_nil proper
    obtain ⟨ofFirst, ofRest⟩ := List.forall_mem_cons.mp blank
    exact ⟨_, first?_blank ofFirst (rest ++ two), by rw [run_append_of_forall ofRest, List.length_cons]; omega⟩
  obtain ⟨length, found, size⟩ := found
  by_cases bare : run isBlank two = 0
  · refine ⟨(none, blanks) :: others, .cons_append found (by omega) covers, fun position => ?_⟩
    rw [tokensFrom_cons]
    rfl
  · obtain _ | @⟨_, kind, inside, others, _, first, behind⟩ := covers
    · exact absurd rfl bare
    · -- the text begins with a blank, so its first lexeme is the run of its blanks
      obtain ⟨same, fits⟩ : kind = .none ∧ inside + 1 = run isBlank two := by
        cases two with
        | nil => exact absurd rfl bare
        | cons next rest =>
          rw [run_cons] at bare ⊢
          split at bare
          · rename_i isBlank
            rw [first?_blank isBlank] at first
            cases first
            exact ⟨rfl, by simp [isBlank]⟩
          · exact absurd rfl bare
      subst same
      have whole : blanks ++ two = (blanks ++ two.take (inside + 1)) ++ two.drop (inside + 1) := by
        rw [List.append_assoc, List.take_append_drop]
      have shorter := run_le isBlank two
      have joined := Pieces.cons_append (whole ▸ found)
        (by rw [List.length_append, List.length_take_of_le (by omega)]; omega) behind
      refine ⟨_, whole ▸ joined, fun position => ?_⟩
      rw [tokensFrom_cons, tokensFrom_cons, past_append]
      rfl

/-- Blanks hold no tokens. -/
theorem tokensFrom_of_blank {blanks : List Char} (blank : ∀ char ∈ blanks, isBlank char = true)
    (covers : Pieces blanks pieces []) (position : Position) : tokensFrom position pieces = [] := by
  obtain _ | @⟨_, kind, length, others, _, first, behind⟩ := covers
  · rfl
  · cases blanks with
    | nil => cases first
    | cons next rest =>
      obtain ⟨ofNext, ofRest⟩ := List.forall_mem_cons.mp blank
      have whole := run_append_of_forall ofRest []
      rw [List.append_nil] at whole
      rw [first?_blank ofNext, whole] at first
      cases first
      have nothing : (next :: rest).drop (rest.length + 0 + 1) = [] := List.drop_eq_nil_of_le (by simp)
      rw [show run isBlank [] = 0 from rfl, nothing] at behind
      obtain _ | ⟨impossible, -⟩ := behind
      · rfl
      · cases impossible

/-- A lexeme lies in the text that it begins. -/
theorem first?_le {input : List Char} {kind : LexemeClass} {length : Nat} (found : first? input = some (kind, length)) :
    length ≤ input.length := by
  obtain ⟨candidate, member, same⟩ := List.exists_of_findSome?_eq_some found
  simp only [classes, List.mem_cons, List.not_mem_nil, or_false] at member
  have ofClosed {class? : List Char → Option Nat} (closed : IsClosed class?) {size : Nat} (ofClass : class? input = some size) :
      size ≤ input.length := (closed _ _ ofClass).2.1
  rcases member with rfl | rfl | rfl | rfl | rfl | rfl | rfl | rfl | rfl | rfl | rfl <;>
    (obtain ⟨size, ofClass, same⟩ := Option.map_eq_some_iff.mp same; cases same)
  · obtain ⟨rest, rfl, -, rfl⟩ := docComment?_eq_some.mp ofClass
    have := run_le (· ≠ '\n') rest
    simp only [List.length_cons]
    omega
  · exact ofClosed isClosed_rawString? ofClass
  · exact ofClosed isClosed_string? ofClass
  · exact ofClosed isClosed_char? ofClass
  · exact Nat.le_trans (number?_le_run ofClass).2 (run_le _ _)
  · exact Nat.le_trans (ident?_le_run ofClass).2 (run_le _ _)
  · unfold lifetime? at ofClass
    split at ofClass
    · obtain ⟨inner, plain, ofClass⟩ := Option.bind_eq_some_iff.mp ofClass
      have := plainIdent?_le plain
      rw [List.length_cons]
      split at ofClass
      · split at ofClass <;> cases ofClass
        omega
      · cases ofClass
        omega
    · cases ofClass
  · obtain ⟨rest, rfl, -, rfl⟩ := lineComment?_eq_some.mp ofClass
    have := run_le (· ≠ '\n') rest
    simp only [List.length_cons]
    omega
  · exact ofClosed isClosed_blockComment? ofClass
  · simp only [blank?, Option.ite_none_right_eq_some, Option.some.injEq] at ofClass
    have := run_le isBlank input
    omega
  · exact List.IsPrefix.length_le ( ofText?_prefix ofClass)

/-- A text of lexemes keeps its tokens before a line end, and so does the text behind it. -/
theorem Pieces.before_newline {one two : List Char} {others : List Piece} (covers : Pieces one pieces [])
    (stays : StaysOpen (pieces.map Prod.snd) ('\n' :: two)) (behind : Pieces two others []) :
    ∃ joined, Pieces (one ++ '\n' :: two) joined [] ∧ ∀ position, tokensFrom position joined =
      tokensFrom position pieces ++ tokensFrom (position.past (one ++ ['\n'])) others := by
  generalize ended : ([] : List Char) = rest at covers
  induction covers with
  | nil rest =>
    subst ended
    exact behind.behind_blanks (List.cons_ne_nil '\n' []) (by simp [isBlank])
  | @cons text kind length rest _ first covered step =>
    subst ended
    have whole := Pieces.cons first covered
    by_cases blank : ∀ char ∈ text, isBlank char = true
    · -- the blanks at the end of the text and the line end are one lexeme
      have proper : text ++ ['\n'] ≠ [] := List.concat_ne_nil '\n' text
      have ofBlanks : ∀ char ∈ text ++ ['\n'], isBlank char = true := by
        intro char member
        rcases List.mem_append.mp member with inside | last
        · exact blank char inside
        · rw [List.mem_singleton.mp last]
          rfl
      obtain ⟨joined, covers, tokens⟩ := behind.behind_blanks proper ofBlanks
      refine ⟨joined, by simpa using covers, fun position => ?_⟩
      rw [tokens, tokensFrom_of_blank blank whole, List.nil_append]
    · push Not at blank
      obtain ⟨char, member, noBlank⟩ := blank
      have again := first?_before_newline whole stays member (by simpa using noBlank)
      obtain ⟨joined, others, tokens⟩ := step stays.tail rfl
      have size : (text.take (length + 1)).length = length + 1 := List.length_take_of_le (first?_le first)
      have split : text ++ '\n' :: two = text.take (length + 1) ++ (text.drop (length + 1) ++ '\n' :: two) := by
        rw [← List.append_assoc, List.take_append_drop]
      refine ⟨_, split ▸ Pieces.cons_append (split ▸ again.trans first) size others, fun position => ?_⟩
      rw [tokensFrom_cons, tokensFrom_cons, tokens, List.append_assoc, ← past_append, ← List.append_assoc (text.take _),
        List.take_append_drop]

end LineEnd

end Exposure.Lexeme
