import Exposure.Proofs.Isolation
import Exposure.Proofs.Rendering

/-!
# Where a token ends

A token goes on for as long as its text does, so that what is written behind it may become part of it, or make a comment of
it. It is said here for each kind of token which texts do so. No other text changes the token that it stands behind.
-/

namespace Exposure

/-- The kind and the text of a token inside an attribute or an expression. -/
abbrev Atom := LeafKind × String

namespace Lexeme

/-- A digit, and digits and underscores behind it. -/
def IsDigits (text : List Char) : Prop :=
  ∃ first rest, text = first :: rest ∧ first.isDigit = true ∧ ∀ char ∈ rest, continuesDecimal char = true

/-- A decimal number without an exponent. -/
inductive IsMantissa : List Char → Prop
  | whole {digits : List Char} (isDigits : IsDigits digits) : IsMantissa digits
  | fractional {digits behind : List Char} (ofWhole : IsDigits digits) (ofFraction : IsDigits behind) :
      IsMantissa (digits ++ '.' :: behind)

/-- The letters of an exponent. -/
def isExponentMark (char : Char) : Bool := char = 'e' || char = 'E'

end Lexeme

open Lexeme

namespace Atom

/-- A token has a text of its kind, and is no documentation comment. -/
def IsLexed : Atom → Prop
  | (.ident, text) => ident? text.toList = some text.length
  | (.number, text) => number? text.toList = some text.length
  | (.string, text) => rawString? text.toList = some text.length ∨ string? text.toList = some text.length
  | (.char, text) => char? text.toList = some text.length
  | (.lifetime, text) => lifetime? text.toList = some text.length
  | (.doc, _) => False
  | (.punctuation, text) => ∃ mark : Punctuation, mark.text = text

/-- A text behind a token makes it another lexeme: two marks become one or begin a comment, the mark of raw strings and names
becomes part of one, and a number gets a fraction or an exponent. -/
inductive Overruns : Atom → List Char → Prop
  | pathSeparator (rest : List Char) : Overruns (.punctuation, ":") (':' :: rest)
  | arrow (rest : List Char) : Overruns (.punctuation, "-") ('>' :: rest)
  | lineComment (rest : List Char) : Overruns (.punctuation, "/") ('/' :: rest)
  | blockComment {rest : List Char} (closed : ['*', '/'] <:+: rest) : Overruns (.punctuation, "/") ('*' :: rest)
  | rawName {first : Char} (begins : beginsIdent first = true) (rest : List Char) :
      Overruns (.ident, "r") ('#' :: first :: rest)
  | rawString {mark : String} (isMark : mark = "r" ∨ mark = "br") {rest : List Char} (closed : ['"', '#'] <:+: rest) :
      Overruns (.ident, mark) ('#' :: '"' :: rest)
  | fraction {whole : String} (isDigits : IsDigits whole.toList) {digit : Char} (isDigit : digit.isDigit = true)
      (rest : List Char) : Overruns (.number, whole) ('.' :: digit :: rest)
  | exponent {text : String} {mantissa : List Char} (isMantissa : IsMantissa mantissa) {letter sign digit : Char}
      (isMark : isExponentMark letter = true) (written : text.toList = mantissa ++ [letter]) (signed : isSign sign = true)
      (isDigit : continuesDecimal digit = true) (rest : List Char) : Overruns (.number, text) (sign :: digit :: rest)

end Atom

namespace Lexeme

theorem run_append_of_not {kind : Char → Bool} {more : List Char} (stops : ∀ char ∈ more.head?, kind char = false)
    (before : List Char) : run kind (before ++ more) = run kind before := by
  cases more with
  | nil => rw [List.append_nil]
  | cons stop after => exact run_append_cons (stops stop rfl) before after

namespace Detached

variable {more : List Char} (detached : Detached more)

include detached

theorem noDecimal : ∀ char ∈ more.head?, continuesDecimal char = false := fun char head =>
  not_continuesDecimal_of_not_continuesIdent (detached char head).1

theorem identRun (before : List Char) : run continuesIdent (before ++ more) = run continuesIdent before :=
  run_append_of_not (fun char head => (detached char head).1) before

theorem decimalRun (before : List Char) : run continuesDecimal (before ++ more) = run continuesDecimal before :=
  run_append_of_not detached.noDecimal before

end Detached

/-! Decimal numbers -/

/-- The length of an exponent and of the suffix behind it. -/
def scaleLength (text : List Char) : Nat := exponent text + run continuesIdent (text.drop (exponent text))

/-- The length of all that stands behind the whole part of a number. -/
def tailLength (text : List Char) : Nat := fraction text + scaleLength (text.drop (fraction text))

/-- A decimal number is measured behind its whole part. -/
theorem decimalNumber?_append {digits rest : List Char} (isDigits : IsDigits digits)
    (stops : ∀ char ∈ rest.head?, continuesDecimal char = false) :
    decimalNumber? (digits ++ rest) = some (digits.length + tailLength rest) := by
  obtain ⟨first, others, rfl, digit, each⟩ := isDigits
  have whole : 1 + run continuesDecimal (others ++ rest) = (first :: others).length := by
    rw [run_append_of_not stops, run, List.takeWhile_eq_self_iff.mpr each, List.length_cons, Nat.add_comm]
  rw [List.cons_append, decimalNumber?, if_pos digit]
  simp only [whole]
  rw [← List.cons_append]
  simp only [← List.drop_drop, List.drop_left, tailLength, scaleLength, Nat.add_assoc]

/-- A decimal number has a whole part. -/
theorem exists_isDigits {text : List Char} {length : Nat} (found : decimalNumber? text = some length) :
    ∃ digits rest, text = digits ++ rest ∧ IsDigits digits ∧ ∀ char ∈ rest.head?, continuesDecimal char = false := by
  cases text with
  | nil => cases found
  | cons first others =>
    rw [decimalNumber?, Option.ite_none_right_eq_some] at found
    refine ⟨first :: others.takeWhile continuesDecimal, others.dropWhile continuesDecimal, ?_, ?_, ?_⟩
    · rw [List.cons_append, List.takeWhile_append_dropWhile]
    · exact ⟨first, _, rfl, found.1, fun char member => List.mem_takeWhile_imp member⟩
    · intro char head
      rw [← drop_run] at head
      exact not_of_mem_head?_drop_run head

/-- A whole part does not continue with the mark of a radix. -/
theorem radixNumber?_of_isDigits {digits rest : List Char} (isDigits : IsDigits digits)
    (noMark : ∀ char ∈ rest.head?, char ∉ ['x', 'o', 'b']) : radixNumber? (digits ++ rest) = none := by
  obtain ⟨first, others, rfl, -, each⟩ := isDigits
  have other : ∀ char ∈ (others ++ rest).head?, char ∉ ['x', 'o', 'b'] := by
    intro char head isMark
    cases others with
    | nil => exact noMark char head isMark
    | cons second others =>
      obtain rfl : second = char := Option.some.inj head
      have decimal := each second List.mem_cons_self
      simp only [List.mem_cons, List.not_mem_nil, or_false] at isMark
      rcases isMark with rfl | rfl | rfl <;> cases decimal
  rw [List.cons_append]
  unfold radixNumber?
  split
  · rename_i radix first behind same
    rw [(List.cons.inj same).2] at other
    have noRadix := other radix rfl
    simp only [List.mem_cons, List.not_mem_nil, or_false, not_or] at noRadix
    simp [noRadix]
  · rfl

/-- A number in no marked radix is measured behind its whole part. -/
theorem number?_of_isDigits {digits rest : List Char} (isDigits : IsDigits digits)
    (stops : ∀ char ∈ rest.head?, continuesDecimal char = false ∧ char ∉ ['x', 'o', 'b']) :
    number? (digits ++ rest) = some (digits.length + tailLength rest) := by
  rw [number?, radixNumber?_of_isDigits isDigits fun char head => (stops char head).2, Option.none_or,
    decimalNumber?_append isDigits fun char head => (stops char head).1]

section Tail

variable {tail more : List Char} (detached : Detached more)

include detached

theorem fraction_append (noFraction : tail = [] → fraction more = 0) : fraction (tail ++ more) = fraction tail := by
  match tail with
  | [] => exact noFraction rfl
  | [point] =>
    cases more with
    | nil => rw [List.append_nil]
    | cons first rest =>
      have noDigit : first.isDigit = false := (Bool.or_eq_false_iff.mp (detached.noDecimal first rfl)).1
      by_cases isPoint : point = '.'
      · simp [fraction, isPoint, noDigit]
      · simp [fraction, isPoint]
  | point :: first :: rest =>
    by_cases isPoint : point = '.'
    · simp [fraction, isPoint, detached.decimalRun]
    · simp [fraction, isPoint]

theorem exponent_append (noExponent : ∀ letter, tail = [letter] → exponent (letter :: more) = 0) :
    exponent (tail ++ more) = exponent tail := by
  match tail with
  | [] =>
    cases more with
    | nil => rfl
    | cons first rest =>
      refine exponent_of_no_letter (fun isLetter => ?_) rest
      have noIdent := (detached first rfl).1
      simp only [Bool.or_eq_true, decide_eq_true_eq] at isLetter
      rcases isLetter with rfl | rfl <;> cases noIdent
  | [letter] =>
    have nothing : exponent [letter] = 0 := by simp [exponent]
    exact (noExponent letter rfl).trans nothing.symm
  | letter :: sign :: rest =>
    by_cases isLetter : (letter = 'e' || letter = 'E') = true
    · cases signed : isSign sign with
      | true =>
        rw [List.cons_append, List.cons_append, exponent_sign isLetter signed, exponent_sign isLetter signed, exponentDigits,
          exponentDigits, detached.decimalRun]
      | false =>
        have unsigned (others : List Char) : exponent (letter :: sign :: others) = exponentDigits 1 (sign :: others) :=
          exponent_unsigned isLetter (by rintro char ⟨⟩; exact signed)
        rw [List.cons_append, List.cons_append, unsigned, unsigned, exponentDigits, exponentDigits, ← List.cons_append,
          detached.decimalRun]
    · rw [List.cons_append, exponent_of_no_letter isLetter, exponent_of_no_letter isLetter]

theorem scaleLength_append (noExponent : ∀ letter, tail = [letter] → exponent (letter :: more) = 0) :
    scaleLength (tail ++ more) = scaleLength tail := by
  rw [scaleLength, scaleLength, exponent_append detached noExponent, List.drop_append_of_le_length (exponent_le tail),
    detached.identRun]

theorem tailLength_append (noFraction : tail = [] → fraction more = 0)
    (noExponent : ∀ letter, tail.drop (fraction tail) = [letter] → exponent (letter :: more) = 0) :
    tailLength (tail ++ more) = tailLength tail := by
  rw [tailLength, tailLength, fraction_append detached noFraction, List.drop_append_of_le_length (fraction_le tail),
    scaleLength_append detached noExponent]

end Tail

theorem fraction_point {digit : Char} (isDigit : digit.isDigit = true) (rest : List Char) :
    fraction ('.' :: digit :: rest) = 2 + run continuesDecimal rest := by rw [fraction, if_pos isDigit]

theorem exists_of_fraction_ne_zero {text : List Char} (some : fraction text ≠ 0) :
    ∃ digit rest, text = '.' :: digit :: rest ∧ digit.isDigit = true := by
  unfold fraction at some
  split at some
  · rename_i digit rest
    exact ⟨digit, rest, rfl, by simpa using some⟩
  · exact absurd rfl some

/-- An exponent behind its letter has a sign, if the letter ends a word. -/
theorem exists_of_exponent_ne_zero {letter : Char} {more : List Char} (detached : Detached more)
    (some : exponent (letter :: more) ≠ 0) :
    isExponentMark letter = true ∧
      ∃ sign digit rest, more = sign :: digit :: rest ∧ isSign sign = true ∧ continuesDecimal digit = true := by
  by_cases isLetter : (letter = 'e' || letter = 'E') = true
  · refine ⟨isLetter, ?_⟩
    have noDigits (marked : Nat) {rest : List Char} (stops : ∀ char ∈ rest.head?, continuesDecimal char = false) :
        exponentDigits marked rest = 0 := by
      have nothing : run continuesDecimal rest = 0 := run_append_of_not stops []
      simp [exponentDigits, nothing]
    by_cases unsigned : ∀ sign ∈ more.head?, isSign sign = false
    · rw [exponent_unsigned isLetter unsigned, noDigits 1 detached.noDecimal] at some
      exact absurd rfl some
    · push Not at unsigned
      obtain ⟨sign, head, signed⟩ := unsigned
      rw [ne_eq, Bool.not_eq_false] at signed
      obtain ⟨rest, rfl⟩ := List.head?_eq_some_iff.mp head
      rw [exponent_sign isLetter signed] at some
      by_cases stops : ∀ char ∈ rest.head?, continuesDecimal char = false
      · exact absurd (noDigits 2 stops) some
      · push Not at stops
        obtain ⟨digit, head, isDigit⟩ := stops
        rw [ne_eq, Bool.not_eq_false] at isDigit
        obtain ⟨rest, rfl⟩ := List.head?_eq_some_iff.mp head
        exact ⟨sign, digit, rest, rfl, signed, isDigit⟩
  · rw [exponent_of_no_letter isLetter] at some
    exact absurd rfl some

theorem le_scaleLength {letter sign digit : Char} (isMark : isExponentMark letter = true) (signed : isSign sign = true)
    (isDigit : continuesDecimal digit = true) (rest : List Char) : 3 ≤ scaleLength (letter :: sign :: digit :: rest) := by
  have size : exponent (letter :: sign :: digit :: rest) = 2 + (run continuesDecimal rest + 1) := by
    rw [exponent_sign isMark signed, exponentDigits, run_cons_pos isDigit, if_pos (Nat.succ_pos _)]
  rw [scaleLength, size]
  omega

/-- The part in front of an exponent. -/
theorem isMantissa_of_fraction {digits rest : List Char} (isDigits : IsDigits digits) :
    IsMantissa (digits ++ rest.take (fraction rest)) := by
  by_cases none : fraction rest = 0
  · rw [none, List.take_zero, List.append_nil]
    exact .whole isDigits
  · obtain ⟨digit, behind, rfl, isDigit⟩ := exists_of_fraction_ne_zero none
    rw [fraction_point isDigit, Nat.add_comm, List.take_succ_cons, List.take_succ_cons]
    exact .fractional isDigits ⟨digit, _, rfl, isDigit, mem_of_le_run (Nat.le_refl _)⟩

/-- A number with an exponent is longer than its mantissa, the letter, the sign and the first digit. -/
theorem IsMantissa.exists_number? {mantissa : List Char} (isMantissa : IsMantissa mantissa) {letter sign digit : Char}
    (isMark : isExponentMark letter = true) (signed : isSign sign = true) (isDigit : continuesDecimal digit = true)
    (rest : List Char) :
    ∃ length, number? (mantissa ++ letter :: sign :: digit :: rest) = some length ∧ mantissa.length + 3 ≤ length := by
  have long := le_scaleLength isMark signed isDigit rest
  have isLetter : letter = 'e' ∨ letter = 'E' := by simpa [isExponentMark] using isMark
  have stops : continuesDecimal letter = false ∧ letter ∉ ['x', 'o', 'b'] := by rcases isLetter with rfl | rfl <;> decide
  cases isMantissa with
  | whole isDigits =>
    have nothing : fraction (letter :: sign :: digit :: rest) = 0 := by
      rcases isLetter with rfl | rfl <;> simp [fraction]
    refine ⟨_, number?_of_isDigits isDigits (by rintro char ⟨⟩; exact stops), ?_⟩
    rw [tailLength, nothing, List.drop_zero]
    omega
  | @fractional digits _ ofWhole ofFraction =>
    obtain ⟨first, others, rfl, isFirst, each⟩ := ofFraction
    have size : fraction ('.' :: first :: others ++ letter :: sign :: digit :: rest) = ('.' :: first :: others).length := by
      rw [List.cons_append, List.cons_append, fraction_point isFirst,
        run_append_of_not (by rintro char ⟨⟩; exact stops.1), run, List.takeWhile_eq_self_iff.mpr each]
      simp only [List.length_cons]
      omega
    rw [List.append_assoc]
    refine ⟨_, number?_of_isDigits ofWhole (by rintro char ⟨⟩; decide), ?_⟩
    rw [tailLength, size, List.drop_left]
    simp only [List.length_append, List.length_cons] at long ⊢
    omega

/-- A number is measured as before in front of a detached text that does not overrun it. -/
theorem number?_append {text : String} {more : List Char} (found : number? text.toList = some text.length)
    (detached : Detached more) (free : ¬ Atom.Overruns (.number, text) more) :
    number? (text.toList ++ more) = some text.length := by
  have sameRadix : radixNumber? (text.toList ++ more) = radixNumber? text.toList := by
    cases more with
    | nil => rw [List.append_nil]
    | cons stop after => exact radixNumber?_append_cons (detached stop rfl).1 _ _
  rw [number?, sameRadix]
  rcases Option.or_eq_some_iff.mp found with radix | ⟨noRadix, decimal⟩
  · rw [radix, Option.some_or]
  · obtain ⟨digits, rest, split, isDigits, stops⟩ := exists_isDigits decimal
    have stopsBehind : ∀ char ∈ (rest ++ more).head?, continuesDecimal char = false := by
      cases rest with
      | nil => exact detached.noDecimal
      | cons first others => exact stops
    have noFraction : rest = [] → fraction more = 0 := by
      rintro rfl
      by_contra some
      obtain ⟨digit, behind, rfl, isDigit⟩ := exists_of_fraction_ne_zero some
      rw [List.append_nil] at split
      exact free (.fraction (split ▸ isDigits) isDigit behind)
    have noExponent (letter : Char) (last : rest.drop (fraction rest) = [letter]) : exponent (letter :: more) = 0 := by
      by_contra some
      obtain ⟨isMark, sign, digit, behind, rfl, signed, isDigit⟩ := exists_of_exponent_ne_zero detached some
      have written : text.toList = (digits ++ rest.take (fraction rest)) ++ [letter] := by
        rw [List.append_assoc, ← last, List.take_append_drop, split]
      exact free (.exponent (isMantissa_of_fraction isDigits) isMark written signed isDigit behind)
    rw [noRadix, Option.none_or, ← decimal, split, List.append_assoc, decimalNumber?_append isDigits stopsBehind,
      decimalNumber?_append isDigits stops, tailLength_append detached noFraction noExponent]

theorem first?_of_number {input : List Char} {length : Nat} (found : number? input = some length) :
    first? input = some (some .number, length) := by
  cases input with
  | nil => cases found
  | cons first rest => exact first?_digit (isDigit_of_number? found) found

/-! Names -/

/-- An identifier is measured as before in front of a detached text, unless the two begin with a raw name. -/
theorem ident?_append {text more : List Char} (found : ident? text = some text.length) (detached : Detached more)
    (noRaw : text = ['r'] → ∀ first rest, more = '#' :: first :: rest → beginsIdent first = false) :
    ident? (text ++ more) = some text.length := by
  cases more with
  | nil => rwa [List.append_nil]
  | cons stop after =>
    by_cases marked : text = ['r'] ∧ stop = '#'
    · obtain ⟨rfl, rfl⟩ := marked
      have noName : plainIdent? after = none := by
        cases after with
        | nil => rfl
        | cons first rest => simp [plainIdent?, noRaw rfl first rest rfl]
      have alone : plainIdent? ('r' :: '#' :: after) = some 1 := by
        simp [plainIdent?, run_cons, beginsIdent, continuesIdent]
      rw [List.singleton_append, ident?, noName, Option.map_none, Option.none_or, alone]
      rfl
    · rw [ident?_append_cons (detached stop rfl).1 text after fun isMark isHash => marked ⟨isMark, isHash⟩, found]

/-! Literals -/

theorem first?_of_rawString? {input : List Char} {length : Nat} (found : rawString? input = some length) :
    first? input = some (some .rawString, length) := by
  have noDoc : docComment? input = none := by
    by_contra present
    obtain ⟨size, doc⟩ := Option.ne_none_iff_exists'.mp present
    obtain ⟨rest, rfl, -, -⟩ := docComment?_eq_some.mp doc
    rw [rawString?_of_ne _ (by decide) (by decide)] at found
    cases found
  simp only [first?, classes, noDoc, found]
  rfl

theorem first?_of_string? {input : List Char} {length : Nat} (found : string? input = some length) :
    first? input = some (some .string, length) := by
  have isSome := Option.isSome_of_eq_some found
  rw [string?_eq] at isSome
  obtain ⟨_, same, opens⟩ := exists_of_isSome_marked isSome
  obtain ⟨rest, rfl, -⟩ := exists_of_isSome_opened opens
  rcases same with rfl | rfl
  · simp (disch := decide) only [first?, classes, docComment?_of_ne, rawString?_of_ne, found]
    rfl
  · have noRaw : rawString? ('b' :: '"' :: rest) = none := by simp [rawString?, afterByteMark]
    simp (disch := decide) only [first?, classes, docComment?_of_ne, noRaw, found]
    rfl

theorem first?_of_char? {input : List Char} {length : Nat} (found : char? input = some length) :
    first? input = some (some .char, length) := by
  have isSome := Option.isSome_of_eq_some found
  rw [char?_eq] at isSome
  obtain ⟨_, same, opens⟩ := exists_of_isSome_marked isSome
  obtain ⟨rest, rfl, -⟩ := exists_of_isSome_opened opens
  rcases same with rfl | rfl
  · simp (disch := decide) only [first?, classes, docComment?_of_ne, rawString?_of_ne, string?_of_ne, found]
    rfl
  · have noRaw : rawString? ('b' :: '\'' :: rest) = none := by simp [rawString?, afterByteMark]
    have noString : string? ('b' :: '\'' :: rest) = none := by simp [string?, afterByteMark]
    simp (disch := decide) only [first?, classes, docComment?_of_ne, noRaw, noString, found]
    rfl

/-! Marks -/

/-- A slash begins a comment or is a mark of its own. -/
theorem first?_slash (rest : List Char) :
    first? ('/' :: rest) = ((docComment? ('/' :: rest)).map (some .docComment, ·)).or
      (((lineComment? ('/' :: rest)).map (none, ·)).or (((blockComment? ('/' :: rest)).map (none, ·)).or
        (some (some (.mark .slash), 1)))) := by
  have mark : Punctuation.ofText? ('/' :: rest) = some .slash := rfl
  simp (disch := decide) only [first?, classes, rawString?_of_ne, string?_of_ne, char?_of_ne, number?_of_not_isDigit,
    ident?_of_not_beginsIdent, lifetime?_of_ne, blank?_of_not_isBlank, mark]
  cases docComment? ('/' :: rest) <;> cases lineComment? ('/' :: rest) <;> cases blockComment? ('/' :: rest) <;> rfl

/-- Two slashes begin a comment. -/
theorem first?_two_slashes (rest : List Char) :
    ∃ kind length, first? ('/' :: '/' :: rest) = some (kind, length) ∧ 1 < length := by
  rw [first?_slash]
  cases doc : docComment? ('/' :: '/' :: rest) with
  | some size =>
    obtain ⟨behind, -, -, rfl⟩ := docComment?_eq_some.mp doc
    exact ⟨_, _, rfl, by omega⟩
  | none =>
    have noDoc : ∀ next others, rest = '/' :: next :: others → next = '/' := by
      rintro next others rfl
      by_contra other
      simp [docComment?, other] at doc
    rw [lineComment?_eq_some.mpr ⟨rest, rfl, noDoc, rfl⟩]
    exact ⟨_, _, rfl, by omega⟩

end Lexeme

namespace Atom

/-- A token that is overrun is read as part of something longer. -/
theorem Overruns.exists_longer {atom : Atom} {more : List Char} (overruns : Overruns atom more) :
    ∃ kind length, first? (atom.2.toList ++ more) = some (kind, length) ∧ atom.2.length < length := by
  cases overruns with
  | pathSeparator rest => exact ⟨_, 2, rfl, by decide⟩
  | arrow rest => exact ⟨_, 2, rfl, by decide⟩
  | lineComment rest => exact first?_two_slashes rest
  | @blockComment rest closed =>
    obtain ⟨size, through⟩ := Option.isSome_iff_exists.mp (isSome_through?_iff.mpr closed)
    have block : blockComment? ('/' :: '*' :: rest) = some (2 + size) := by rw [blockComment?, through, Option.map_some]
    have noDoc : docComment? ('/' :: '*' :: rest) = none := by simp [docComment?]
    have noLine : lineComment? ('/' :: '*' :: rest) = none := by simp [lineComment?]
    have found : first? ('/' :: '*' :: rest) = some (none, 2 + size) := by rw [first?_slash, noDoc, noLine, block]; rfl
    exact ⟨_, _, found, show 1 < 2 + size by omega⟩
  | @rawName first begins rest =>
    have noQuote : first ≠ '"' := by
      rintro rfl
      cases begins
    have noRaw : rawString? ('r' :: '#' :: first :: rest) = none := by simp [rawString?, afterByteMark, noQuote]
    have name : ident? ('r' :: '#' :: first :: rest) = some (2 + (1 + run continuesIdent rest)) := by
      simp [ident?, plainIdent?, begins]
    have noString : string? ('r' :: '#' :: first :: rest) = none := string?_of_ne _ (by decide) (by decide)
    have noChar : char? ('r' :: '#' :: first :: rest) = none := char?_of_ne _ (by decide) (by decide)
    exact ⟨_, _, first?_letter rfl noRaw noString noChar name, show 1 < 2 + (1 + _) by omega⟩
  | @rawString mark isMark rest closed =>
    obtain ⟨size, through⟩ := Option.isSome_iff_exists.mp (isSome_through?_iff.mpr closed)
    rcases isMark with rfl | rfl
    · have raw : rawString? ('r' :: '#' :: '"' :: rest) = some (0 + 3 + size) := by simp [rawString?, afterByteMark, through]
      exact ⟨_, _, first?_of_rawString? raw, show 1 < 0 + 3 + size by omega⟩
    · have raw : rawString? ('b' :: 'r' :: '#' :: '"' :: rest) = some (1 + 3 + size) := by
        simp [rawString?, afterByteMark, through]
      exact ⟨_, _, first?_of_rawString? raw, show 2 < 1 + 3 + size by omega⟩
  | @fraction whole isDigits digit isDigit rest =>
    refine ⟨_, _, first?_of_number (number?_of_isDigits isDigits (by rintro char ⟨⟩; decide)), ?_⟩
    rw [String.length_toList, tailLength, fraction_point isDigit]
    omega
  | @exponent text mantissa isMantissa letter sign digit isMark written signed isDigit rest =>
    obtain ⟨length, longer, fits⟩ := isMantissa.exists_number? isMark signed isDigit rest
    have size := congrArg List.length written
    rw [String.length_toList, List.length_append, List.length_singleton] at size
    rw [written, List.append_assoc, List.singleton_append]
    exact ⟨_, _, first?_of_number longer, show text.length < length by omega⟩

/-- A mark is lexed as itself in front of a text that does not overrun it. -/
theorem first?_of_mark (mark : Punctuation) {more : List Char} (free : ¬ Overruns (.punctuation, mark.text) more) :
    first? (mark.text.toList ++ more) = some (some (.mark mark), mark.text.length) := by
  cases mark with
  | colon =>
    cases more with
    | nil => rfl
    | cons second rest =>
      have single : second ≠ ':' := by
        rintro rfl
        exact free (.pathSeparator rest)
      have only : OnlyMark ':' := by constructor <;> decide
      exact (first?_of_onlyMark only _).trans (congrArg (Option.map _) (ofText?_colon single rest))
  | minus =>
    cases more with
    | nil => rfl
    | cons second rest =>
      have single : second ≠ '>' := by
        rintro rfl
        exact free (.arrow rest)
      have only : OnlyMark '-' := by constructor <;> decide
      exact (first?_of_onlyMark only _).trans (congrArg (Option.map _) (ofText?_minus single rest))
  | slash =>
    have noSlash (rest : List Char) : more ≠ '/' :: rest := by
      rintro rfl
      exact free (.lineComment rest)
    have noDoc : docComment? ('/' :: more) = none := by
      by_contra present
      obtain ⟨size, doc⟩ := Option.ne_none_iff_exists'.mp present
      obtain ⟨rest, same, -, -⟩ := docComment?_eq_some.mp doc
      exact noSlash ('/' :: rest) (List.cons.inj same).2
    have noLine : lineComment? ('/' :: more) = none := by
      by_contra present
      obtain ⟨size, line⟩ := Option.ne_none_iff_exists'.mp present
      obtain ⟨rest, same, -, -⟩ := lineComment?_eq_some.mp line
      exact noSlash rest (List.cons.inj same).2
    have noBlock : blockComment? ('/' :: more) = none := by
      by_contra present
      have found := Option.isSome_iff_ne_none.mpr present
      rw [blockComment?_eq] at found
      obtain ⟨_, same, opens⟩ := exists_of_isSome_opened found
      obtain ⟨rest, rfl, through⟩ := exists_of_isSome_opened opens
      rw [(List.cons.inj same).2] at free
      exact free (.blockComment (isSome_through?_iff.mp through))
    have found := first?_slash more
    rwa [noDoc, noLine, noBlock] at found
  | _ => rfl

/-- A name is lexed as itself in front of a detached text that does not overrun it. -/
theorem first?_of_ident {text : String} {more : List Char} (found : ident? text.toList = some text.length)
    (detached : Detached more) (free : ¬ Overruns (.ident, text) more) :
    first? (text.toList ++ more) = some (some .ident, text.length) := by
  rw [← String.length_toList] at found ⊢
  refine first?_of_name found detached (ident?_append found detached ?_) ?_
  · rintro isMark first rest rfl
    obtain rfl : text = "r" := String.toList_inj.mp isMark
    by_contra begins
    exact free (.rawName (Bool.not_eq_false _ ▸ begins) rest)
  · by_contra present
    obtain ⟨isMark, rest, rfl, through⟩ :=
      of_isSome_rawString? (isNameChar_of_ident? found) detached (Option.isSome_iff_ne_none.mpr present)
    have isRawMark : text = "r" ∨ text = "br" :=
      isMark.imp (fun same => String.toList_inj.mp same) fun same => String.toList_inj.mp same
    exact free (.rawString isRawMark (isSome_through?_iff.mp through))

/-- A token is lexed as itself in front of a text that does not overrun it, if a word is detached from the text. -/
theorem IsLexed.first?_append {atom : Atom} (lexed : atom.IsLexed) {more : List Char}
    (apart : atom.1.isWord = true → Detached more) (free : ¬ Overruns atom more) :
    ∃ terminal, LeafKind.ofTerminal terminal = atom.1 ∧
      first? (atom.2.toList ++ more) = some (some terminal, atom.2.length) := by
  obtain ⟨kind, text⟩ := atom
  have closed {class? : List Char → Option Nat} (closes : IsClosed class?) (found : class? text.toList = some text.length) :
      class? (text.toList ++ more) = some text.length := by
    obtain ⟨-, -, again⟩ := closes _ _ found
    have whole := again more
    rwa [← String.length_toList, List.take_length, String.length_toList] at whole
  cases kind with
  | ident => exact ⟨.ident, rfl, first?_of_ident lexed (apart rfl) free⟩
  | number => exact ⟨.number, rfl, first?_of_number (number?_append lexed (apart rfl) free)⟩
  | string =>
    rcases lexed with raw | string
    · exact ⟨.rawString, rfl, first?_of_rawString? (closed isClosed_rawString? raw)⟩
    · exact ⟨.string, rfl, first?_of_string? (closed isClosed_string? string)⟩
  | char => exact ⟨.char, rfl, first?_of_char? (closed isClosed_char? lexed)⟩
  | lifetime =>
    have found : lifetime? text.toList = some text.toList.length := lexed.trans (by rw [String.length_toList])
    have whole := first?_of_lifetime? (apart rfl) found
    rw [String.length_toList] at whole
    exact ⟨.lifetime, rfl, whole⟩
  | doc => exact lexed.elim
  | punctuation =>
    obtain ⟨mark, rfl⟩ := lexed
    exact ⟨.mark mark, rfl, first?_of_mark mark free⟩

end Atom

end Exposure
