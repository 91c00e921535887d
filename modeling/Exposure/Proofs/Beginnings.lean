import Exposure.Proofs.Lookahead

/-!
Which lexeme a character begins: each class finds something only behind some first characters, so the first character of
a text leaves few classes to try.
-/

namespace Exposure.Lexeme

section Classes

variable {first : Char} (rest : List Char)

theorem docComment?_of_ne (noSlash : first ≠ '/') : docComment? (first :: rest) = none := by
  unfold docComment?
  split
  · rename_i same
    exact absurd (List.cons.inj same).1 noSlash
  · rfl

theorem lineComment?_of_ne (noSlash : first ≠ '/') : lineComment? (first :: rest) = none := by
  unfold lineComment?
  split
  · rename_i same
    exact absurd (List.cons.inj same).1 noSlash
  · rfl

theorem blockComment?_of_ne (noSlash : first ≠ '/') : blockComment? (first :: rest) = none := by
  simp [blockComment?_eq, opened, noSlash]

theorem afterByteMark_of_ne (noByte : first ≠ 'b') : afterByteMark (first :: rest) = (0, first :: rest) := by
  unfold afterByteMark
  split
  · rename_i same
    exact absurd (List.cons.inj same).1 noByte
  · rfl

theorem marked_opened_of_ne {mark : Char} (class? : List Char → Option Nat) (noByte : first ≠ 'b')
    (noMark : first ≠ mark) : marked (opened mark class?) (first :: rest) = none := by
  rw [marked, afterByteMark_of_ne rest noByte, opened, if_neg noMark]
  rfl

theorem rawString?_of_ne (noByte : first ≠ 'b') (noRaw : first ≠ 'r') : rawString? (first :: rest) = none := by
  rw [rawString?_eq, marked_opened_of_ne rest _ noByte noRaw, marked_opened_of_ne rest _ noByte noRaw]
  rfl

theorem string?_of_ne (noByte : first ≠ 'b') (noQuote : first ≠ '"') : string? (first :: rest) = none := by
  rw [string?_eq, marked_opened_of_ne rest _ noByte noQuote]

theorem char?_of_ne (noByte : first ≠ 'b') (noQuote : first ≠ '\'') : char? (first :: rest) = none := by
  rw [char?_eq, marked_opened_of_ne rest _ noByte noQuote]

theorem number?_of_not_isDigit (noDigit : first.isDigit = false) : number? (first :: rest) = none := by
  have radix : radixNumber? (first :: rest) = none := by
    unfold radixNumber?
    split
    · rename_i same
      obtain ⟨rfl, -⟩ := List.cons.inj same
      cases noDigit
    · rfl
  simp [number?, radix, decimalNumber?, noDigit]

theorem ident?_of_not_beginsIdent (noIdent : beginsIdent first = false) : ident? (first :: rest) = none := by
  have plain : ∀ others, first :: rest ≠ 'r' :: '#' :: others := by
    rintro others same
    obtain ⟨rfl, -⟩ := List.cons.inj same
    cases noIdent
  simp [ident?_eq_plainIdent? plain, plainIdent?, noIdent]

theorem lifetime?_of_ne (noQuote : first ≠ '\'') : lifetime? (first :: rest) = none := by
  unfold lifetime?
  split
  · rename_i same
    exact absurd (List.cons.inj same).1 noQuote
  · rfl

theorem blank?_of_not_isBlank (noBlank : isBlank first = false) : blank? (first :: rest) = none := by
  simp [blank?, run_cons, noBlank]

end Classes

/-! Marks that begin literals -/

theorem exists_of_isSome_opened {mark : Char} {class? : List Char → Option Nat} {input : List Char}
    (found : (opened mark class? input).isSome = true) : ∃ rest, input = mark :: rest ∧ (class? rest).isSome = true := by
  cases input with
  | nil => cases found
  | cons first rest =>
    rw [opened] at found
    split at found
    · rename_i same
      rw [Option.isSome_map] at found
      exact ⟨rest, by rw [same], found⟩
    · cases found

theorem exists_of_isSome_marked {class? : List Char → Option Nat} {input : List Char}
    (found : (marked class? input).isSome = true) :
    ∃ body, (input = body ∨ input = 'b' :: body) ∧ (class? body).isSome = true := by
  rw [marked, Option.isSome_map] at found
  unfold afterByteMark at found
  split at found
  · exact ⟨_, .inr rfl, found⟩
  · exact ⟨_, .inl rfl, found⟩

/-! What a character begins -/

/-- A quote begins a string or nothing. -/
theorem first?_quote (rest : List Char) :
    first? ('"' :: rest) = (stringBody? rest).map fun length => (some .string, 1 + length) := by
  have string : string? ('"' :: rest) = (stringBody? rest).map (1 + ·) := by simp [string?, afterByteMark]
  have mark : Punctuation.ofText? ('"' :: rest) = none := rfl
  simp (disch := decide) only [first?, classes, docComment?_of_ne, rawString?_of_ne, string, char?_of_ne,
    number?_of_not_isDigit, ident?_of_not_beginsIdent, lifetime?_of_ne, lineComment?_of_ne, blockComment?_of_ne,
    blank?_of_not_isBlank, mark]
  cases stringBody? rest <;> rfl

/-- An apostrophe begins a character literal, a lifetime or nothing. -/
theorem first?_apostrophe (rest : List Char) :
    first? ('\'' :: rest) = ((charBody? rest).map fun length => (some .char, 1 + length)).or
      ((lifetime? ('\'' :: rest)).map fun length => (some .lifetime, length)) := by
  have char : char? ('\'' :: rest) = (charBody? rest).map (1 + ·) := by simp [char?, afterByteMark]
  have mark : Punctuation.ofText? ('\'' :: rest) = none := rfl
  simp (disch := decide) only [first?, classes, docComment?_of_ne, rawString?_of_ne, string?_of_ne, char,
    number?_of_not_isDigit, ident?_of_not_beginsIdent, lineComment?_of_ne, blockComment?_of_ne, blank?_of_not_isBlank,
    mark]
  cases charBody? rest <;> cases lifetime? ('\'' :: rest) <;> rfl

/-- A blank begins a run of blanks. -/
theorem first?_blank {first : Char} (blank : isBlank first = true) (rest : List Char) :
    first? (first :: rest) = some (none, run isBlank rest + 1) := by
  have found : blank? (first :: rest) = some (run isBlank rest + 1) := by simp [blank?, run_cons, blank]
  simp only [isBlank, Bool.or_eq_true, decide_eq_true_eq] at blank
  rcases blank with (((rfl | rfl) | rfl) | rfl) | rfl <;>
    (simp (disch := decide) only [first?, classes, docComment?_of_ne, rawString?_of_ne, string?_of_ne, char?_of_ne,
      number?_of_not_isDigit, ident?_of_not_beginsIdent, lifetime?_of_ne, lineComment?_of_ne, blockComment?_of_ne,
      found]; rfl)

/-- The characters that begin nothing but marks. -/
structure OnlyMark (char : Char) : Prop where
  noSlash : char ≠ '/'
  noQuote : char ≠ '"'
  noApostrophe : char ≠ '\''
  noIdent : beginsIdent char = false
  noDigit : char.isDigit = false
  noBlank : isBlank char = false

theorem ne_of_not_beginsIdent {first letter : Char} (noIdent : beginsIdent first = false)
    (isLetter : beginsIdent letter = true) : first ≠ letter := by
  rintro rfl
  exact absurd isLetter (by simp [noIdent])

/-- A character that begins nothing but marks begins the mark that it is. -/
theorem first?_of_onlyMark {first : Char} (only : OnlyMark first) (rest : List Char) :
    first? (first :: rest) =
      (Punctuation.ofText? (first :: rest)).map fun mark => (some (.mark mark), mark.text.length) := by
  obtain ⟨noSlash, noQuote, noApostrophe, noIdent, noDigit, noBlank⟩ := only
  have noByte : first ≠ 'b' := ne_of_not_beginsIdent noIdent (by decide)
  have noRaw : first ≠ 'r' := ne_of_not_beginsIdent noIdent (by decide)
  simp only [first?, classes, docComment?_of_ne rest noSlash, rawString?_of_ne rest noByte noRaw,
    char?_of_ne rest noByte noApostrophe, string?_of_ne rest noByte noQuote, number?_of_not_isDigit rest noDigit,
    ident?_of_not_beginsIdent rest noIdent, lifetime?_of_ne rest noApostrophe, lineComment?_of_ne rest noSlash,
    blockComment?_of_ne rest noSlash, blank?_of_not_isBlank rest noBlank]
  cases Punctuation.ofText? (first :: rest) <;> rfl

/-- A digit begins a number. -/
theorem first?_digit {first : Char} (digit : first.isDigit = true) {rest : List Char} {length : Nat}
    (found : number? (first :: rest) = some length) : first? (first :: rest) = some (some .number, length) := by
  have other {char : Char} (noDigit : char.isDigit = false) : first ≠ char := by
    rintro rfl
    exact absurd digit (by simp [noDigit])
  simp only [first?, classes, docComment?_of_ne rest (other rfl), rawString?_of_ne rest (other rfl) (other rfl),
    char?_of_ne rest (other rfl) (other rfl), string?_of_ne rest (other rfl) (other rfl), found]
  rfl

theorem not_isDigit_of_beginsIdent {first : Char} (letter : beginsIdent first = true) : first.isDigit = false := by
  simp only [beginsIdent, Bool.or_eq_true, decide_eq_true_eq] at letter
  rcases letter with letter | rfl
  · cases digit : first.isDigit with
    | false => rfl
    | true =>
      delta Char.isAlpha Char.isUpper Char.isLower Char.isDigit at letter digit
      simp [UInt32.le_iff_toNat_le] at letter digit
      omega
  · rfl

theorem beginsIdent_of_ident? {first : Char} {rest : List Char} {length : Nat}
    (found : ident? (first :: rest) = some length) : beginsIdent first = true := by
  by_contra noLetter
  rw [ident?_of_not_beginsIdent _ (Bool.eq_false_iff.mpr noLetter)] at found
  cases found

/-- No number begins where an identifier does. -/
theorem number?_of_ident? {input : List Char} {length : Nat} (found : ident? input = some length) : number? input = none := by
  cases input with
  | nil => cases found
  | cons first rest => exact number?_of_not_isDigit _ (not_isDigit_of_beginsIdent (beginsIdent_of_ident? found))

/-- A letter or an underscore begins an identifier, unless it begins a literal. -/
theorem first?_letter {first : Char} (letter : beginsIdent first = true) {rest : List Char} {length : Nat}
    (noRaw : rawString? (first :: rest) = none) (noString : string? (first :: rest) = none)
    (noChar : char? (first :: rest) = none) (found : ident? (first :: rest) = some length) :
    first? (first :: rest) = some (some .ident, length) := by
  have noSlash : first ≠ '/' := by
    rintro rfl
    cases letter
  simp only [first?, classes, docComment?_of_ne rest noSlash, noRaw, noString, noChar,
    number?_of_not_isDigit rest (not_isDigit_of_beginsIdent letter), found]
  rfl

end Exposure.Lexeme
