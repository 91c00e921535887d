import Exposure.Proofs.Beginnings
import Exposure.Proofs.Pieces
import Exposure.Proofs.Shape

/-!
Plain characters: those of words, numbers, blanks and of marks that are no bracket. Where none of them begins a literal,
each begins a lexeme of plain characters.
-/

namespace Exposure

namespace Lexeme

/-- The marks that begin no comment and are no bracket, as far as descriptors have them. -/
def plainMarks : List Char := ['#', '!', '=', ',', ':', ';', '<', '>', '&', '*', '+', '-', '.', '?']

/-- The characters of words, numbers, blanks and plain marks. -/
def isPlain (char : Char) : Bool := continuesIdent char || isBlank char || plainMarks.contains char

/-- The marks inside words and numbers. -/
def wordMarks : List Char := ['#', '+', '-', '.']

/-- The characters of words and numbers. -/
def isWordChar (char : Char) : Bool := continuesIdent char || wordMarks.contains char

theorem isPlain_of_isNameChar {char : Char} (ofName : isNameChar char = true) : isPlain char = true := by
  simp only [isNameChar, Bool.or_eq_true, decide_eq_true_eq] at ofName
  rcases ofName with ofName | rfl
  · simp [isPlain, ofName]
  · rfl

/-! Lexemes of plain characters -/

theorem run_le_run {kind kind' : Char → Bool} (wider : ∀ char, kind char = true → kind' char = true)
    (input : List Char) : run kind input ≤ run kind' input := by
  induction input with
  | nil => exact Nat.le_refl 0
  | cons first rest step =>
    rw [run_cons, run_cons]
    by_cases ofKind : kind first = true
    · simp only [ofKind, ↓reduceIte, wider first ofKind]
      omega
    · simp [ofKind]

theorem run_cons_pos {kind : Char → Bool} {first : Char} (ofKind : kind first = true) (rest : List Char) :
    run kind (first :: rest) = run kind rest + 1 := by rw [run_cons, if_pos ofKind]

theorem run_drop_add {kind : Char → Bool} {input : List Char} {front behind : Nat} (ofFront : front ≤ run kind input)
    (ofBehind : behind ≤ run kind (input.drop front)) : front + behind ≤ run kind input := by
  induction front generalizing input with
  | zero => rwa [Nat.zero_add]
  | succ front step =>
    cases input with
    | nil => simp at ofFront
    | cons first rest =>
      rw [run_cons] at ofFront ⊢
      split at ofFront
      · have := step (Nat.le_of_succ_le_succ ofFront) ofBehind
        simp only [↓reduceIte, *]
        omega
      · omega

theorem isPlain_of_continuesIdent {char : Char} (ofIdent : continuesIdent char = true) : isPlain char = true := by
  simp [isPlain, ofIdent]

theorem isPlain_of_isWordChar {char : Char} (ofWord : isWordChar char = true) : isPlain char = true := by
  simp only [isWordChar, Bool.or_eq_true, List.contains_iff_mem, wordMarks, List.mem_cons, List.not_mem_nil,
    or_false] at ofWord
  rcases ofWord with ofIdent | rfl | rfl | rfl | rfl
  · exact isPlain_of_continuesIdent ofIdent
  all_goals rfl

theorem isWordChar_of_continuesIdent {char : Char} (ofIdent : continuesIdent char = true) : isWordChar char = true := by
  simp [isWordChar, ofIdent]

theorem isWordChar_of_continuesDecimal {char : Char} (ofDecimal : continuesDecimal char = true) :
    isWordChar char = true := by
  refine isWordChar_of_continuesIdent ?_
  simp only [continuesDecimal, continuesIdent, Char.isAlphanum, Bool.or_eq_true, decide_eq_true_eq] at ofDecimal ⊢
  tauto

theorem isPlain_of_isBlank {char : Char} (blank : isBlank char = true) : isPlain char = true := by
  simp [isPlain, blank]

theorem continuesIdent_of_beginsIdent {char : Char} (letter : beginsIdent char = true) : continuesIdent char = true := by
  simp only [beginsIdent, continuesIdent, Char.isAlphanum, Bool.or_eq_true] at letter ⊢
  tauto

theorem isPlain_of_beginsIdent {char : Char} (letter : beginsIdent char = true) : isPlain char = true :=
  isPlain_of_continuesIdent (continuesIdent_of_beginsIdent letter)

theorem isWordChar_of_isDigit {char : Char} (digit : char.isDigit = true) : isWordChar char = true :=
  isWordChar_of_continuesDecimal (by simp [continuesDecimal, digit])

theorem identRun_le_run (input : List Char) : run continuesIdent input ≤ run isWordChar input :=
  run_le_run (fun _ ofIdent => isWordChar_of_continuesIdent ofIdent) input

theorem decimalRun_le_run (input : List Char) : run continuesDecimal input ≤ run isWordChar input :=
  run_le_run (fun _ ofDecimal => isWordChar_of_continuesDecimal ofDecimal) input

theorem fraction_le_run (input : List Char) : fraction input ≤ run isWordChar input := by
  unfold fraction
  split
  · rename_i first rest
    split
    · rename_i digit
      have behind := decimalRun_le_run rest
      rw [run_cons_pos rfl, run_cons_pos (isWordChar_of_isDigit digit)]
      omega
    · exact Nat.zero_le _
  · exact Nat.zero_le _

theorem exponent_le_run (input : List Char) : exponent input ≤ run isWordChar input := by
  unfold exponent
  split
  · rename_i letter rest
    split
    · rename_i isLetter
      have plain : isWordChar letter = true := by
        simp only [Bool.or_eq_true, decide_eq_true_eq] at isLetter
        rcases isLetter with rfl | rfl <;> rfl
      rw [run_cons_pos plain]
      have behindSign {signed : Nat} (ofSign : signed ≤ run isWordChar rest) :
          signed + run continuesDecimal (rest.drop signed) ≤ run isWordChar rest :=
        run_drop_add ofSign (decimalRun_le_run _)
      have one {sign : Char} (ofSign : isWordChar sign = true) (others : List Char) :
          1 ≤ run isWordChar (sign :: others) := by
        rw [run_cons_pos ofSign]
        exact Nat.le_add_left 1 _
      dsimp only
      split
      · have := behindSign (one rfl _)
        split <;> omega
      · have := behindSign (one rfl _)
        split <;> omega
      · have := behindSign (Nat.zero_le _)
        split <;> omega
    · exact Nat.zero_le _
  · exact Nat.zero_le _

/-- A number has only word characters. -/
theorem number?_le_wordRun {input : List Char} {length : Nat} (found : number? input = some length) :
    0 < length ∧ length ≤ run isWordChar input := by
  rcases Option.or_eq_some_iff.mp found with radix | ⟨-, decimal⟩
  · unfold radixNumber? at radix
    split at radix
    · rename_i radixMark first rest
      simp only [Option.ite_none_right_eq_some, Bool.and_eq_true, Option.some.injEq] at radix
      obtain ⟨⟨isMark, isDigit⟩, rfl⟩ := radix
      have ofMark : isWordChar radixMark = true := by
        simp only [Bool.or_eq_true, decide_eq_true_eq] at isMark
        rcases isMark with (rfl | rfl) | rfl <;> rfl
      have ofFirst : isWordChar first = true := by
        refine isWordChar_of_continuesIdent ?_
        simp only [Bool.or_eq_true, decide_eq_true_eq] at isMark isDigit
        rcases isDigit with rfl | isDigit
        · rfl
        rcases isMark with (rfl | rfl) | rfl
        · exact continuesIdent_of_isHexDigit isDigit
        · simp [continuesIdent, Char.isAlphanum, Char.isDigit, Char.le_def, UInt32.le_iff_toNat_le] at isDigit ⊢
          omega
        · simp only [Bool.or_eq_true, decide_eq_true_eq] at isDigit
          rcases isDigit with rfl | rfl <;> rfl
      have := identRun_le_run rest
      rw [run_cons_pos rfl, run_cons_pos ofMark, run_cons_pos ofFirst]
      omega
    · cases radix
  · cases input with
    | nil => cases decimal
    | cons first rest =>
      simp only [decimalNumber?, Option.ite_none_right_eq_some, Option.some.injEq] at decimal
      obtain ⟨digit, rfl⟩ := decimal
      have whole : 1 + run continuesDecimal rest ≤ run isWordChar (first :: rest) := by
        have := decimalRun_le_run rest
        rw [run_cons_pos (isWordChar_of_isDigit digit)]
        omega
      have fractional := run_drop_add whole (fraction_le_run _)
      have scaled := run_drop_add fractional (exponent_le_run _)
      exact ⟨by omega, run_drop_add scaled (identRun_le_run _)⟩

/-- A number has only plain characters. -/
theorem number?_le_run {input : List Char} {length : Nat} (found : number? input = some length) :
    0 < length ∧ length ≤ run isPlain input := by
  obtain ⟨proper, fits⟩ := number?_le_wordRun found
  exact ⟨proper, Nat.le_trans fits (run_le_run (fun _ ofWord => isPlain_of_isWordChar ofWord) input)⟩

theorem plainIdent?_le_run {input : List Char} {length : Nat} (found : plainIdent? input = some length) :
    0 < length ∧ length ≤ run isNameChar input := by
  match input with
  | first :: rest =>
    simp only [plainIdent?, Option.ite_none_right_eq_some, Option.some.injEq] at found
    obtain ⟨letter, rfl⟩ := found
    have ofFirst : isNameChar first = true := by simp [isNameChar, continuesIdent_of_beginsIdent letter]
    have : run continuesIdent rest ≤ run isNameChar rest :=
      run_le_run (fun _ ofIdent => by simp [isNameChar, ofIdent]) rest
    rw [run_cons, if_pos ofFirst]
    omega

/-- An identifier has only name characters. -/
theorem ident?_le_run {input : List Char} {length : Nat} (found : ident? input = some length) :
    0 < length ∧ length ≤ run isNameChar input := by
  unfold ident? at found
  split at found
  · rename_i rest
    rcases Option.or_eq_some_iff.mp found with raw | ⟨-, plain⟩
    · obtain ⟨inner, plain, rfl⟩ := Option.map_eq_some_iff.mp raw
      have := (plainIdent?_le_run plain).2
      have ofMark : run isNameChar ('r' :: '#' :: rest) = run isNameChar rest + 2 := by
        rw [run_cons, run_cons]
        rfl
      omega
    · exact plainIdent?_le_run plain
  · exact plainIdent?_le_run found

theorem mem_of_le_run {kind : Char → Bool} {input : List Char} {length : Nat} (fits : length ≤ run kind input) :
    ∀ char ∈ input.take length, kind char = true := by
  intro char member
  have inRun : input.take length <+: input.takeWhile kind :=
    List.prefix_of_prefix_length_le (List.take_prefix length input) (List.takeWhile_prefix kind)
      (Nat.le_trans (List.length_take_le length input) fits)
  exact List.mem_takeWhile_imp (inRun.subset member)

/-- A lexeme of the class of identifiers is an identifier, and one of the class of numbers is a number. -/
theorem first?_word {input : List Char} {terminal : Terminal} {length : Nat}
    (found : first? input = some (some terminal, length)) :
    (terminal = .ident → ident? input = some length) ∧ (terminal = .number → number? input = some length) := by
  obtain ⟨candidate, member, same⟩ := List.exists_of_findSome?_eq_some found
  simp only [classes, List.mem_cons, List.not_mem_nil, or_false] at member
  rcases member with rfl | rfl | rfl | rfl | rfl | rfl | rfl | rfl | rfl | rfl | rfl
  all_goals
    obtain ⟨_, ofClass, same⟩ := Option.map_eq_some_iff.mp same
    cases same
  case inr.inr.inr.inr.inl => exact ⟨Terminal.noConfusion, fun _ => ofClass⟩
  case inr.inr.inr.inr.inr.inl => exact ⟨fun _ => ofClass, Terminal.noConfusion⟩
  all_goals exact ⟨Terminal.noConfusion, Terminal.noConfusion⟩

/-- The identifiers among the tokens of a text are made of name characters. -/
theorem isName_of_pieces {text rest : List Char} {pieces : List Piece} (covers : Pieces text pieces rest)
    (position : Position) :
    ∀ token ∈ tokensFrom position pieces, token.terminal = .ident → IsName token.text := by
  induction covers generalizing position with
  | nil => nofun
  | @cons text kind length others rest first behind step =>
    intro token member isIdent
    rw [tokensFrom_cons] at member
    rcases List.mem_append.mp member with here | later
    · rw [Option.mem_toList] at here
      obtain ⟨terminal, rfl, rfl⟩ := Option.map_eq_some_iff.mp here
      have ofKind : terminal = .ident := by
        cases terminal with
        | ident => rfl
        | _ => cases isIdent
      subst ofKind
      intro char inText
      rw [String.toList_ofList] at inText
      exact mem_of_le_run (ident?_le_run ((first?_word first).1 rfl)).2 char inText
    · exact step _ token later isIdent

/-- What separates tokens, or what is a token tree of its own. -/
def IsTreeClass : LexemeClass → Prop
  | none => True
  | some (.mark mark) => mark = .semicolon ∨ Rule.isPlainLeaf (.mark mark) = true
  | some _ => True

/-- A plain mark is no bracket, and it has only plain characters. -/
theorem mark_le_run {first : Char} (plain : isPlain first = true) {rest : List Char} {mark : Punctuation}
    (found : Punctuation.ofText? (first :: rest) = some mark) :
    IsTreeClass (some (.mark mark)) ∧ 0 < mark.text.length ∧ mark.text.length ≤ run isPlain (first :: rest) := by
  obtain ⟨behind, whole⟩ := ofText?_prefix found
  have one (rest : List Char) : 1 ≤ run isPlain (first :: rest) := by
    rw [run_cons_pos plain]
    exact Nat.le_add_left 1 _
  have two {second : Char} (ofSecond : isPlain second = true) (rest : List Char) :
      2 ≤ run isPlain (first :: second :: rest) := by
    rw [run_cons_pos plain, run_cons_pos ofSecond]
    exact Nat.le_add_left 2 _
  cases mark <;> cases whole <;> first
    | exact absurd plain (by decide)
    | exact ⟨.inr rfl, Nat.one_pos, one _⟩
    | exact ⟨.inl rfl, Nat.one_pos, one _⟩
    | exact ⟨.inr rfl, Nat.two_pos, two rfl _⟩

theorem exists_ofText? {first : Char} (isMark : first ∈ plainMarks) (rest : List Char) :
    ∃ mark, Punctuation.ofText? (first :: rest) = some mark := by
  simp only [plainMarks, List.mem_cons, List.not_mem_nil, or_false] at isMark
  rcases isMark with rfl | rfl | rfl | rfl | rfl | rfl | rfl | rfl | rfl | rfl | rfl | rfl | rfl | rfl
  case inr.inr.inr.inr.inl =>
    cases rest with
    | nil => exact ⟨_, rfl⟩
    | cons second rest =>
      by_cases separator : second = ':'
      · exact ⟨.pathSeparator, by rw [separator]; rfl⟩
      · exact ⟨_, ofText?_colon separator rest⟩
  case inr.inr.inr.inr.inr.inr.inr.inr.inr.inr.inr.inl =>
    cases rest with
    | nil => exact ⟨_, rfl⟩
    | cons second rest =>
      by_cases arrow : second = '>'
      · exact ⟨.arrow, by rw [arrow]; rfl⟩
      · exact ⟨_, ofText?_minus arrow rest⟩
  all_goals exact ⟨_, rfl⟩

theorem exists_ident? {first : Char} (letter : beginsIdent first = true) (rest : List Char) :
    ∃ length, ident? (first :: rest) = some length := by
  have plain : (plainIdent? (first :: rest)).isSome = true := by simp [plainIdent?, letter]
  rw [← Option.isSome_iff_exists]
  unfold ident?
  split
  · rw [Option.isSome_or, plain, Bool.or_true]
  · exact plain

/-- A plain character that begins no literal begins a lexeme of plain characters. -/
theorem exists_first?_of_isPlain {first : Char} {rest : List Char} (plain : isPlain first = true)
    (noLiteral : beginsIdent first = true →
      rawString? (first :: rest) = none ∧ string? (first :: rest) = none ∧ char? (first :: rest) = none) :
    ∃ kind length, first? (first :: rest) = some (kind, length + 1) ∧ length + 1 ≤ run isPlain (first :: rest) ∧
      IsTreeClass kind := by
  have proper {kind : LexemeClass} {length : Nat} (found : first? (first :: rest) = some (kind, length))
      (fits : 0 < length ∧ length ≤ run isPlain (first :: rest)) (ofTree : IsTreeClass kind) :
      ∃ kind length, first? (first :: rest) = some (kind, length + 1) ∧ length + 1 ≤ run isPlain (first :: rest) ∧
        IsTreeClass kind := by
    obtain ⟨less, rfl⟩ : ∃ less, length = less + 1 := ⟨length - 1, by omega⟩
    exact ⟨kind, less, found, fits.2, ofTree⟩
  by_cases blank : isBlank first = true
  · refine proper (first?_blank blank rest) ⟨Nat.succ_pos _, ?_⟩ trivial
    have : run isBlank rest ≤ run isPlain rest := run_le_run (fun _ blank => isPlain_of_isBlank blank) rest
    rw [run_cons_pos plain]
    omega
  by_cases letter : beginsIdent first = true
  · obtain ⟨noRaw, noString, noChar⟩ := noLiteral letter
    obtain ⟨length, found⟩ := exists_ident? letter rest
    obtain ⟨positive, fits⟩ := ident?_le_run found
    have wider : run isNameChar (first :: rest) ≤ run isPlain (first :: rest) :=
      run_le_run (fun _ ofName => isPlain_of_isNameChar ofName) _
    exact proper (first?_letter letter noRaw noString noChar found) ⟨positive, Nat.le_trans fits wider⟩ trivial
  by_cases digit : first.isDigit = true
  · obtain ⟨length, found⟩ : ∃ length, number? (first :: rest) = some length := by
      rw [← Option.isSome_iff_exists, number?, Option.isSome_or, decimalNumber?, if_pos digit]
      exact Bool.or_true _
    exact proper (first?_digit digit found) (number?_le_run found) trivial
  · have noSlash : first ≠ '/' := by
      rintro rfl
      cases plain
    have noQuote : first ≠ '"' := by
      rintro rfl
      cases plain
    have noApostrophe : first ≠ '\'' := by
      rintro rfl
      cases plain
    have found := first?_of_onlyMark ⟨noSlash, noQuote, noApostrophe, by simpa using letter, by simpa using digit,
      by simpa using blank⟩ rest
    have isMark : first ∈ plainMarks := by
      simp only [beginsIdent, Bool.or_eq_true, decide_eq_true_eq, not_or] at letter
      simpa [isPlain, continuesIdent, Char.isAlphanum, letter, digit, blank] using plain
    obtain ⟨mark, isMark⟩ := exists_ofText? isMark rest
    rw [isMark] at found
    obtain ⟨ofTree, fits⟩ := mark_le_run plain isMark
    exact proper found fits ofTree

end Lexeme

end Exposure
