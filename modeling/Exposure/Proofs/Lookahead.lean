import Exposure.Token.Lexer
import Mathlib.Data.List.Forall2
import Mathlib.Data.List.TakeWhile

/-!
How far a lexeme looks ahead: a lexeme that ends before a closing brace or a semicolon is found from the text up to that
character alone.
-/

namespace Exposure.Lexeme

/-- The characters of the marks that end items. -/
def IsStop (char : Char) : Prop := char = '}' ∨ char = ';'

/-- What is measured at the beginning of a text does not depend on a stop or on what follows it. -/
def EndsAtStop {result : Type} (measure : List Char → result) : Prop :=
  ∀ {stop}, IsStop stop → ∀ before after, measure (before ++ stop :: after) = measure before

/-! Runs of characters -/

theorem run_le (kind : Char → Bool) (input : List Char) : run kind input ≤ input.length :=
  (List.takeWhile_prefix kind).length_le

@[simp] theorem run_nil (kind : Char → Bool) : run kind [] = 0 := rfl

theorem run_cons (kind : Char → Bool) (first : Char) (rest : List Char) :
    run kind (first :: rest) = if kind first then run kind rest + 1 else 0 := by
  rw [run, List.takeWhile_cons]
  split <;> rfl

/-- A run ends before a character of another kind. -/
theorem run_append_cons {kind : Char → Bool} {stop : Char} (stops : kind stop = false) (before after : List Char) :
    run kind (before ++ stop :: after) = run kind before := by
  induction before with
  | nil => simp [run_cons, stops]
  | cons first rest step => simp [run_cons, step]

/-- A character that ends a word, a number or a lifetime that stands before it. -/
structure IsBreak (char : Char) : Prop where
  noIdent : continuesIdent char = false
  noPoint : char ≠ '.'
  noPlus : char ≠ '+'
  noMinus : char ≠ '-'
  noHash : char ≠ '#'
  noApostrophe : char ≠ '\''

theorem not_continuesDecimal_of_not_continuesIdent {stop : Char} (stops : continuesIdent stop = false) :
    continuesDecimal stop = false := by
  simp only [continuesIdent, Char.isAlphanum, Bool.or_eq_false_iff] at stops
  simp [continuesDecimal, stops]

namespace IsBreak

variable {stop : Char}

theorem noDecimal (isBreak : IsBreak stop) : continuesDecimal stop = false :=
  not_continuesDecimal_of_not_continuesIdent isBreak.noIdent

theorem noDigit (isBreak : IsBreak stop) : stop.isDigit = false := (Bool.or_eq_false_iff.mp isBreak.noDecimal).1

theorem noLetter (isBreak : IsBreak stop) : beginsIdent stop = false := by
  have noIdent := isBreak.noIdent
  simp only [continuesIdent, Char.isAlphanum, Bool.or_eq_false_iff] at noIdent
  simp [beginsIdent, noIdent]

theorem ne_of_letter (isBreak : IsBreak stop) {letter : Char} (isLetter : beginsIdent letter = true) : stop ≠ letter := by
  rintro rfl
  cases isLetter.symm.trans isBreak.noLetter

end IsBreak

theorem IsStop.isBreak {stop : Char} (isStop : IsStop stop) : IsBreak stop := by
  rcases isStop with rfl | rfl <;> constructor <;> decide

/-- What is measured at the beginning of a text does not depend on what begins with a break behind it. -/
def EndsAtBreak {result : Type} (measure : List Char → result) : Prop :=
  ∀ {stop}, IsBreak stop → ∀ before after, measure (before ++ stop :: after) = measure before

theorem EndsAtBreak.endsAtStop {result : Type} {measure : List Char → result} (ends : EndsAtBreak measure) :
    EndsAtStop measure := fun isStop => ends isStop.isBreak

theorem endsAtBreak_identRun : EndsAtBreak (run continuesIdent) :=
  fun isBreak before after => run_append_cons isBreak.noIdent before after

theorem endsAtBreak_decimalRun : EndsAtBreak (run continuesDecimal) :=
  fun isBreak before after => run_append_cons isBreak.noDecimal before after

/-! Numbers -/

theorem endsAtBreak_fraction : EndsAtBreak fraction := by
  intro stop isBreak before after
  match before with
  | [] =>
    unfold fraction
    split
    · rename_i same
      exact absurd (List.cons.inj same).1 isBreak.noPoint
    · rfl
  | [point] =>
    by_cases isPoint : point = '.'
    · simp [fraction, isPoint, isBreak.noDigit]
    · simp [fraction, isPoint]
  | point :: first :: rest =>
    by_cases isPoint : point = '.'
    · simp [fraction, isPoint, endsAtBreak_decimalRun isBreak]
    · simp [fraction, isPoint]

theorem fraction_le (input : List Char) : fraction input ≤ input.length := by
  match input with
  | [] => simp [fraction]
  | [point] =>
    by_cases isPoint : point = '.' <;> simp [fraction, isPoint]
  | point :: first :: rest =>
    have := run_le continuesDecimal rest
    by_cases isPoint : point = '.' <;> simp [fraction, isPoint]
    split <;> omega

theorem endsAtBreak_exponent : EndsAtBreak exponent := by
  intro stop isBreak before after
  match before with
  | [] => simp [exponent, (isBreak.ne_of_letter rfl : stop ≠ 'e'), (isBreak.ne_of_letter rfl : stop ≠ 'E')]
  | [letter] => simp [exponent, isBreak.noPlus, isBreak.noMinus, run_cons, isBreak.noDecimal]
  | letter :: sign :: rest =>
    have behindSign := endsAtBreak_decimalRun isBreak rest after
    have fromSign := endsAtBreak_decimalRun isBreak (sign :: rest) after
    rw [List.cons_append] at fromSign
    by_cases plus : sign = '+'
    · simp [exponent, plus, behindSign]
    by_cases minus : sign = '-'
    · simp [exponent, minus, behindSign]
    · simp [exponent, plus, minus, fromSign]

theorem exponent_le (input : List Char) : exponent input ≤ input.length := by
  match input with
  | [] => simp [exponent]
  | [letter] => simp [exponent]
  | letter :: sign :: rest =>
    have behindSign := run_le continuesDecimal rest
    have fromSign := run_le continuesDecimal (sign :: rest)
    rw [List.length_cons] at fromSign
    by_cases plus : sign = '+'
    · simp only [exponent, plus, List.drop_succ_cons, List.drop_zero, List.length_cons]
      split <;> [split <;> omega; omega]
    by_cases minus : sign = '-'
    · simp only [exponent, minus, List.drop_succ_cons, List.drop_zero, List.length_cons]
      split <;> [split <;> omega; omega]
    · simp only [exponent, List.length_cons]
      split
      · simp [plus, minus]
        split <;> omega
      · omega

theorem endsAtBreak_decimalNumber? : EndsAtBreak decimalNumber? := by
  intro stop isBreak before after
  match before with
  | [] => simp [decimalNumber?, isBreak.noDigit]
  | first :: rest =>
    simp only [List.cons_append, decimalNumber?, endsAtBreak_decimalRun isBreak]
    split
    · rw [← List.cons_append]
      generalize whole_eq : 1 + run continuesDecimal rest = whole
      have wholeFits : whole ≤ (first :: rest).length := by
        have := run_le continuesDecimal rest
        rw [List.length_cons]
        omega
      rw [List.drop_append_of_le_length wholeFits, endsAtBreak_fraction isBreak]
      generalize fractional_eq : whole + fraction ((first :: rest).drop whole) = fractional
      have fractionalFits : fractional ≤ (first :: rest).length := by
        have := fraction_le ((first :: rest).drop whole)
        rw [List.length_drop] at this
        omega
      rw [List.drop_append_of_le_length fractionalFits, endsAtBreak_exponent isBreak]
      generalize scaled_eq : fractional + exponent ((first :: rest).drop fractional) = scaled
      have scaledFits : scaled ≤ (first :: rest).length := by
        have := exponent_le ((first :: rest).drop fractional)
        rw [List.length_drop] at this
        omega
      rw [List.drop_append_of_le_length scaledFits, endsAtBreak_identRun isBreak]
    · rfl

theorem continuesIdent_of_isHexDigit {char : Char} (digit : isHexDigit char = true) : continuesIdent char = true := by
  delta isHexDigit continuesIdent Char.isAlphanum Char.isAlpha Char.isLower Char.isUpper Char.isDigit at *
  simp [Char.le_def, UInt32.le_iff_toNat_le] at digit ⊢
  omega

/-- A number in a marked radix ends before every character that continues no identifier. -/
theorem radixNumber?_append_cons {stop : Char} (stops : continuesIdent stop = false) (before after : List Char) :
    radixNumber? (before ++ stop :: after) = radixNumber? before := by
  have noWord {char : Char} (isWord : continuesIdent char = true) : stop ≠ char := by
    rintro rfl
    cases isWord.symm.trans stops
  match before with
  | [] =>
    unfold radixNumber?
    split
    · rename_i same
      exact absurd (List.cons.inj same).1 (noWord rfl)
    · rfl
  | [zero] =>
    by_cases isZero : zero = '0'
    · cases after <;> simp [radixNumber?, isZero, (noWord rfl : stop ≠ 'x'), (noWord rfl : stop ≠ 'o'),
        (noWord rfl : stop ≠ 'b')]
    · simp [radixNumber?, isZero]
  | [zero, radix] =>
    by_cases isZero : zero = '0'
    · subst isZero
      have noHex : isHexDigit stop = false := by
        rw [Bool.eq_false_iff]
        exact fun digit => Bool.false_ne_true (stops.symm.trans (continuesIdent_of_isHexDigit digit))
      have noOctal : ('0' ≤ stop && stop ≤ '7') = false := by
        have noDigit := (Bool.or_eq_false_iff.mp (not_continuesDecimal_of_not_continuesIdent stops)).1
        simp [Char.isDigit, Char.le_def, UInt32.le_iff_toNat_le] at noDigit ⊢
        omega
      by_cases hexadecimal : radix = 'x'
      · simp [radixNumber?, hexadecimal, noHex, (noWord rfl : stop ≠ '_')]
      by_cases octal : radix = 'o'
      · simp [radixNumber?, octal, noOctal, (noWord rfl : stop ≠ '_')]
      by_cases binary : radix = 'b'
      · simp [radixNumber?, binary, (noWord rfl : stop ≠ '0'), (noWord rfl : stop ≠ '1'), (noWord rfl : stop ≠ '_')]
      · simp [radixNumber?, hexadecimal, octal, binary]
    · simp [radixNumber?, isZero]
  | zero :: radix :: first :: rest =>
    by_cases isZero : zero = '0'
    · simp only [isZero, List.cons_append, radixNumber?, run_append_cons stops]
    · simp [radixNumber?, isZero]

theorem endsAtBreak_number? : EndsAtBreak number? := by
  intro stop isBreak before after
  rw [number?, number?, radixNumber?_append_cons isBreak.noIdent, endsAtBreak_decimalNumber? isBreak]

theorem endsAtStop_number? : EndsAtStop number? := endsAtBreak_number?.endsAtStop

/-! Identifiers and lifetimes -/

theorem plainIdent?_append_cons {stop : Char} (stops : continuesIdent stop = false) (before after : List Char) :
    plainIdent? (before ++ stop :: after) = plainIdent? before := by
  have noIdent : beginsIdent stop = false := by
    simp only [continuesIdent, Char.isAlphanum, Bool.or_eq_false_iff] at stops
    simp [beginsIdent, stops]
  cases before with
  | nil => simp [plainIdent?, noIdent]
  | cons first rest => simp only [List.cons_append, plainIdent?, run_append_cons stops]

theorem plainIdent?_le {input : List Char} {length : Nat} (found : plainIdent? input = some length) :
    length ≤ input.length := by
  match input with
  | first :: rest =>
    have := run_le continuesIdent rest
    simp only [plainIdent?] at found
    split at found
    · cases found
      rw [List.length_cons]
      omega
    · cases found

/-- Without the raw mark an identifier is plain. -/
theorem ident?_eq_plainIdent? {input : List Char} (plain : ∀ rest, input ≠ 'r' :: '#' :: rest) :
    ident? input = plainIdent? input := by
  unfold ident?
  split
  · exact absurd rfl (plain _)
  · rfl

/-- An identifier ends before a character that continues none, unless the two are the raw mark. -/
theorem ident?_append_cons {stop : Char} (stops : continuesIdent stop = false) (before after : List Char)
    (apart : before = ['r'] → stop ≠ '#') : ident? (before ++ stop :: after) = ident? before := by
  have plain := plainIdent?_append_cons stops before after
  match before with
  | [] => rw [ident?_eq_plainIdent? (by rintro rest ⟨⟩; cases stops), ident?_eq_plainIdent? (by simp), plain]
  | [first] =>
    have noRaw : ∀ rest, [first] ++ stop :: after ≠ 'r' :: '#' :: rest := by
      rintro rest same
      obtain ⟨rfl, behind⟩ := List.cons.inj same
      exact apart rfl (List.cons.inj behind).1
    rw [ident?_eq_plainIdent? noRaw, ident?_eq_plainIdent? (by simp), plain]
  | first :: second :: rest =>
    by_cases raw : first = 'r' ∧ second = '#'
    · obtain ⟨rfl, rfl⟩ := raw
      simp only [List.cons_append] at plain
      simp only [List.cons_append, ident?, plain, plainIdent?_append_cons stops]
    · rw [ident?_eq_plainIdent?, ident?_eq_plainIdent?, plain]
      · rintro others same
        cases same
        exact raw ⟨rfl, rfl⟩
      · rintro others same
        cases same
        exact raw ⟨rfl, rfl⟩

theorem endsAtBreak_ident? : EndsAtBreak ident? := fun isBreak before after =>
  ident?_append_cons isBreak.noIdent before after fun _ => isBreak.noHash

theorem endsAtStop_ident? : EndsAtStop ident? := endsAtBreak_ident?.endsAtStop

/-- What stands behind a beginning of the text before a stop is a given other character or not. -/
theorem head?_drop_append {stop char : Char} (different : stop ≠ char) {before : List Char} {length : Nat}
    (fits : length ≤ before.length) (after : List Char) :
    ((before ++ stop :: after).drop length).head? = some char ↔ (before.drop length).head? = some char := by
  rw [List.drop_append_of_le_length fits]
  cases before.drop length with
  | nil => simp [different]
  | cons first rest => rfl

/-- A lifetime ends before a character that continues no identifier, unless that is an apostrophe. -/
theorem lifetime?_append_cons {stop : Char} (stops : continuesIdent stop = false) (noApostrophe : stop ≠ '\'')
    (before after : List Char) : lifetime? (before ++ stop :: after) = lifetime? before := by
  match before with
  | [] =>
    unfold lifetime?
    split
    · rename_i same
      exact absurd (List.cons.inj same).1 noApostrophe
    · rfl
  | first :: rest =>
    by_cases quote : first = '\''
    · subst quote
      simp only [List.cons_append, lifetime?, plainIdent?_append_cons stops]
      cases found : plainIdent? rest with
      | none => rfl
      | some length =>
        have fits := plainIdent?_le found
        simp only [Option.bind_some, head?_drop_append noApostrophe fits]
    · simp [lifetime?, quote]

theorem endsAtBreak_lifetime? : EndsAtBreak lifetime? := fun isBreak before after =>
  lifetime?_append_cons isBreak.noIdent isBreak.noApostrophe before after

theorem endsAtStop_lifetime? : EndsAtStop lifetime? := endsAtBreak_lifetime?.endsAtStop

theorem endsAtStop_blank? : EndsAtStop blank? := by
  intro stop isStop before after
  have noBlank : isBlank stop = false := by rcases isStop with rfl | rfl <;> rfl
  rw [blank?, blank?, run_append_cons noBlank]

/-! Literals and block comments -/

/-- A class finds what it takes from a text whatever follows the characters taken. -/
def IsClosed (class? : List Char → Option Nat) : Prop :=
  ∀ input length, class? input = some length →
    0 < length ∧ length ≤ input.length ∧ ∀ more, class? (input.take length ++ more) = some length

/-- Read one given character before a class. -/
def opened (mark : Char) (class? : List Char → Option Nat) : List Char → Option Nat
  | [] => none
  | first :: rest => if first = mark then (class? rest).map (1 + ·) else none

/-- Read a class behind the mark of a byte literal, if there is one. -/
def marked (class? : List Char → Option Nat) (input : List Char) : Option Nat :=
  (class? (afterByteMark input).2).map ((afterByteMark input).1 + ·)

theorem IsClosed.opened {class? : List Char → Option Nat} (closed : IsClosed class?) (mark : Char) :
    IsClosed (opened mark class?) := by
  intro input length found
  cases input with
  | nil => cases found
  | cons first rest =>
    rw [Lexeme.opened] at found
    split at found
    · obtain ⟨inner, foundInner, rfl⟩ := Option.map_eq_some_iff.mp found
      obtain ⟨-, fits, again⟩ := closed rest inner foundInner
      refine ⟨by omega, by rw [List.length_cons]; omega, fun more => ?_⟩
      rename_i isMark
      rw [Nat.add_comm, List.take_succ_cons, List.cons_append, Lexeme.opened, if_pos isMark, again more, Option.map_some,
        Nat.add_comm]
    · cases found

theorem IsClosed.marked {class? : List Char → Option Nat} (closed : IsClosed class?) : IsClosed (marked class?) := by
  intro input length found
  obtain ⟨inner, foundInner, rfl⟩ := Option.map_eq_some_iff.mp found
  obtain ⟨positive, fits, again⟩ := closed _ inner foundInner
  unfold afterByteMark at foundInner fits again ⊢
  split at fits
  · rename_i rest
    simp only at foundInner fits again ⊢
    refine ⟨by omega, by rw [List.length_cons]; omega, fun more => ?_⟩
    rw [Nat.add_comm, List.take_succ_cons, List.cons_append, Lexeme.marked, afterByteMark, again more, Option.map_some,
      Nat.add_comm]
  · rename_i plain
    simp only [Nat.zero_add] at foundInner fits again ⊢
    refine ⟨positive, fits, fun more => ?_⟩
    obtain ⟨first, rest, rfl⟩ : ∃ first rest, input = first :: rest :=
      List.exists_cons_of_length_pos (by omega)
    obtain ⟨less, rfl⟩ : ∃ less, inner = less + 1 := ⟨inner - 1, by omega⟩
    have same : afterByteMark (first :: (rest.take less ++ more)) = (0, first :: (rest.take less ++ more)) := by
      unfold afterByteMark
      split
      · rename_i begins
        cases begins
        exact absurd rfl (plain rest)
      · rfl
    have found := again more
    rw [List.take_succ_cons, List.cons_append] at found ⊢
    rw [Lexeme.marked, same, found]
    simp

theorem isClosed_through? (first second : Char) : IsClosed (through? first second) := by
  intro input length found
  induction input generalizing length with
  | nil => cases found
  | cons one rest step =>
    cases rest with
    | nil => cases found
    | cons two rest =>
      rw [through?] at found
      split at found
      · rename_i both
        cases found
        exact ⟨by omega, by simp, fun more => if_pos both⟩
      · rename_i other
        obtain ⟨inner, foundInner, rfl⟩ := Option.map_eq_some_iff.mp found
        obtain ⟨positive, fits, again⟩ := step inner foundInner
        refine ⟨by omega, by rw [List.length_cons]; omega, fun more => ?_⟩
        obtain ⟨less, rfl⟩ : ∃ less, inner = less + 1 := ⟨inner - 1, by omega⟩
        have found := again more
        rw [List.take_succ_cons, List.cons_append] at found
        rw [List.take_succ_cons, List.take_succ_cons, List.cons_append, List.cons_append, through?, if_neg other, found,
          Option.map_some]

theorem stringBody?_plain {first : Char} (noQuote : first ≠ '"') (noEscape : first ≠ '\\') (rest : List Char) :
    stringBody? (first :: rest) = (stringBody? rest).map (· + 1) := by
  rw [stringBody?]
  all_goals simp_all

theorem isClosed_stringBody? : IsClosed stringBody? := by
  intro input length found
  fun_induction stringBody? input generalizing length with
  | case1 => cases found
  | case2 rest =>
    cases found
    exact ⟨by omega, by simp, fun more => by simp [stringBody?]⟩
  | case3 => cases found
  | case4 => cases found
  | case5 escaped rest proper step =>
    obtain ⟨inner, foundInner, rfl⟩ := Option.map_eq_some_iff.mp found
    obtain ⟨positive, fits, again⟩ := step inner foundInner
    refine ⟨by omega, by simp only [List.length_cons]; omega, fun more => ?_⟩
    rw [List.take_succ_cons, List.take_succ_cons, List.cons_append, List.cons_append, stringBody?, if_neg proper,
      again more, Option.map_some]
  | case6 first rest noQuote noLastEscape noEscape step =>
    obtain ⟨inner, foundInner, rfl⟩ := Option.map_eq_some_iff.mp found
    obtain ⟨positive, fits, again⟩ := step inner foundInner
    refine ⟨by omega, by simp only [List.length_cons]; omega, fun more => ?_⟩
    have plain : first ≠ '\\' := by
      rintro rfl
      cases rest with
      | nil => exact noLastEscape rfl rfl
      | cons escaped rest => exact noEscape escaped rest rfl rfl
    rw [List.take_succ_cons, List.cons_append, stringBody?_plain noQuote plain, again more, Option.map_some]

theorem drop_run (kind : Char → Bool) (input : List Char) : input.drop (run kind input) = input.dropWhile kind := by
  induction input with
  | nil => rfl
  | cons first rest step =>
    rw [run, List.takeWhile_cons, List.dropWhile_cons]
    split
    · exact step
    · rfl

theorem run_of_forall {kind : Char → Bool} {stop : Char} (stops : kind stop = false) {before : List Char}
    (inside : ∀ char ∈ before, kind char = true) (after : List Char) :
    run kind (before ++ stop :: after) = before.length := by
  rw [run, List.takeWhile_append_of_pos inside, List.takeWhile_cons_of_neg (by simp [stops]), List.append_nil]

/-- A run that ends before a given character is followed by it. -/
theorem exists_of_head?_drop_run {kind : Char → Bool} {stop : Char} {input : List Char}
    (closing : (input.drop (run kind input)).head? = some stop) :
    ∃ inside behind, input = inside ++ stop :: behind ∧ ∀ char ∈ inside, kind char = true := by
  rw [drop_run] at closing
  obtain ⟨behind, rest⟩ := List.head?_eq_some_iff.mp closing
  have parts := List.takeWhile_append_dropWhile (p := kind) (l := input)
  rw [rest] at parts
  exact ⟨input.takeWhile kind, behind, parts.symm, fun _ inside => List.mem_takeWhile_imp inside⟩

theorem isClosed_codePointEscape? : IsClosed codePointEscape? := by
  intro input length found
  unfold codePointEscape? at found
  split at found
  · rename_i rest
    simp only [Bool.and_eq_true, decide_eq_true_eq, and_assoc, Option.ite_none_right_eq_some, Option.some.injEq] at found
    obtain ⟨positive, few, closing, rfl⟩ := found
    obtain ⟨digits, behind, rfl, hexadecimal⟩ := exists_of_head?_drop_run closing
    have count (more : List Char) : run isHexDigit (digits ++ '\x7d' :: more) = digits.length :=
      run_of_forall (by decide) hexadecimal more
    rw [count] at positive few ⊢
    refine ⟨by omega, by simp only [List.length_cons, List.length_append]; omega, fun more => ?_⟩
    have taken : List.take (digits.length + 4) ('\\' :: 'u' :: '\x7b' :: (digits ++ '\x7d' :: behind)) =
        '\\' :: 'u' :: '\x7b' :: (digits ++ ['\x7d']) := by
      simp [List.take_append, List.take_of_length_le]
    rw [taken]
    simp [codePointEscape?, count, positive, few]
  · cases found

theorem isClosed_charBody? : IsClosed charBody? := by
  intro input length found
  rcases Option.or_eq_some_iff.mp found with escape | ⟨-, single⟩
  · obtain ⟨inner, foundEscape, closing⟩ := Option.bind_eq_some_iff.mp escape
    obtain ⟨positive, fits, again⟩ := isClosed_codePointEscape? input inner foundEscape
    simp only [Option.ite_none_right_eq_some, Option.some.injEq] at closing
    obtain ⟨quote, rfl⟩ := closing
    obtain ⟨behind, parts⟩ := List.head?_eq_some_iff.mp quote
    have whole : input = input.take inner ++ '\'' :: behind := by rw [← parts, List.take_append_drop]
    have size : (input.take inner).length = inner := List.length_take_of_le fits
    generalize input.take inner = escaped at whole size again
    subst whole size
    refine ⟨by omega, by simp, fun more => ?_⟩
    have taken : List.take (escaped.length + 1) (escaped ++ '\'' :: behind) = escaped ++ ['\''] := by
      simp [List.take_append, List.take_of_length_le]
    rw [taken, List.append_assoc]
    simp [charBody?, again]
  · split at single
    · rename_i escaped rest
      simp only [Option.ite_none_left_eq_some, Option.ite_none_right_eq_some, Option.some.injEq] at single
      obtain ⟨proper, quote, rfl⟩ := single
      obtain ⟨behind, rfl⟩ := List.head?_eq_some_iff.mp quote
      exact ⟨by omega, by simp, fun more => by simp [charBody?, codePointEscape?, proper]⟩
    · rename_i plain rest other
      simp only [Option.ite_none_left_eq_some, Option.ite_none_right_eq_some, Option.some.injEq, Bool.or_eq_true, decide_eq_true_eq, not_or] at single
      obtain ⟨⟨⟨noQuote, noEscape⟩, noNewline⟩, quote, rfl⟩ := single
      obtain ⟨behind, rfl⟩ := List.head?_eq_some_iff.mp quote
      refine ⟨by omega, by simp, fun more => ?_⟩
      simp [charBody?, codePointEscape?, noQuote, noEscape, noNewline]
    · cases single

/-- Read up to the next quote. -/
def throughQuote? (input : List Char) : Option Nat :=
  if run (· ≠ '"') input < input.length then some (run (· ≠ '"') input + 1) else none

theorem throughQuote?_cons (first : Char) (rest : List Char) :
    throughQuote? (first :: rest) = if first = '"' then some 1 else (throughQuote? rest).map (· + 1) := by
  by_cases quote : first = '"'
  · simp [throughQuote?, run, quote]
  · simp only [throughQuote?, run, List.takeWhile_cons, quote, List.length_cons]
    split <;> simp_all

theorem isClosed_throughQuote? : IsClosed throughQuote? := by
  intro input length found
  induction input generalizing length with
  | nil => cases found
  | cons first rest step =>
    rw [throughQuote?_cons] at found
    split at found
    · rename_i quote
      cases found
      exact ⟨by omega, by simp, fun more => by simp [throughQuote?_cons, quote]⟩
    · rename_i other
      obtain ⟨inner, foundInner, rfl⟩ := Option.map_eq_some_iff.mp found
      obtain ⟨positive, fits, again⟩ := step inner foundInner
      refine ⟨by omega, by rw [List.length_cons]; omega, fun more => ?_⟩
      rw [List.take_succ_cons, List.cons_append, throughQuote?_cons, if_neg other, again more, Option.map_some]

theorem string?_eq : string? = marked (opened '"' stringBody?) := by
  funext input
  unfold string? marked
  cases afterByteMark input with
  | mk mark body =>
    cases body with
    | nil => rfl
    | cons first rest =>
      by_cases quote : first = '"'
      · simp [opened, quote, Function.comp_def, Nat.add_assoc]
      · simp [opened, quote]

theorem char?_eq : char? = marked (opened '\'' charBody?) := by
  funext input
  unfold char? marked
  cases afterByteMark input with
  | mk mark body =>
    cases body with
    | nil => rfl
    | cons first rest =>
      by_cases quote : first = '\''
      · simp [opened, quote, Function.comp_def, Nat.add_assoc]
      · simp [opened, quote]

theorem blockComment?_eq : blockComment? = opened '/' (opened '*' (through? '*' '/')) := by
  funext input
  match input with
  | [] => rfl
  | [first] => simp [blockComment?, opened]
  | first :: second :: rest =>
    by_cases slash : first = '/'
    · by_cases star : second = '*'
      · simp [blockComment?, opened, slash, star, Function.comp_def, ← Nat.add_assoc]
      · simp [blockComment?, opened, slash, star]
    · simp [blockComment?, opened, slash]

theorem rawString?_eq (input : List Char) :
    rawString? input = (marked (opened 'r' (opened '#' (opened '"' (through? '"' '#')))) input).or
      (marked (opened 'r' (opened '"' throughQuote?)) input) := by
  unfold rawString? marked
  cases afterByteMark input with
  | mk mark body =>
    match body with
    | [] => rfl
    | [first] => simp [opened]
    | first :: second :: rest =>
      by_cases raw : first = 'r'
      · subst raw
        by_cases hash : second = '#'
        · subst hash
          cases rest with
          | nil => simp [opened]
          | cons third rest =>
            by_cases quote : third = '"'
            · simp [opened, quote, Function.comp_def, ← Nat.add_assoc]
            · simp [opened, quote]
        · by_cases quote : second = '"'
          · simp [opened, quote, throughQuote?, ← Nat.add_assoc]
          · simp [opened, hash, quote]
      · simp [opened, raw]

theorem isClosed_string? : IsClosed string? := string?_eq ▸ (isClosed_stringBody?.opened '"').marked

theorem isClosed_char? : IsClosed char? := char?_eq ▸ (isClosed_charBody?.opened '\'').marked

theorem isClosed_blockComment? : IsClosed blockComment? :=
  blockComment?_eq ▸ ((isClosed_through? '*' '/').opened '*').opened '/'

theorem isClosed_rawString? : IsClosed rawString? := by
  intro input length found
  rw [rawString?_eq] at found
  have hashed := ((((isClosed_through? '"' '#').opened '"').opened '#').opened 'r').marked
  have plain := ((isClosed_throughQuote?.opened '"').opened 'r').marked
  rcases Option.or_eq_some_iff.mp found with found | ⟨-, found⟩
  · obtain ⟨positive, fits, again⟩ := hashed input length found
    exact ⟨positive, fits, fun more => by rw [rawString?_eq, again more]; rfl⟩
  · obtain ⟨positive, fits, again⟩ := plain input length found
    refine ⟨positive, fits, fun more => ?_⟩
    have noHash : marked (opened 'r' (opened '#' (opened '"' (through? '"' '#')))) (input.take length ++ more) = none := by
      have quoted := again more
      unfold marked at quoted ⊢
      generalize (afterByteMark (input.take length ++ more)).2 = body at quoted ⊢
      match body with
      | [] => rfl
      | [first] => simp [opened]
      | first :: second :: rest =>
        by_cases quote : second = '"'
        · simp [opened, quote]
        · simp [opened, quote] at quoted
    rw [rawString?_eq, noHash, again more]
    rfl

/-! Comments up to the end of a line -/

/-- A stop is no beginning of a text that begins with another character. -/
theorem exists_of_append_eq_cons {stop first : Char} (different : stop ≠ first) {before after rest : List Char}
    (same : before ++ stop :: after = first :: rest) :
    ∃ others, before = first :: others ∧ rest = others ++ stop :: after := by
  cases before with
  | nil => exact absurd (List.cons.inj same).1 different
  | cons one others =>
    obtain ⟨rfl, rfl⟩ := List.cons.inj same
    exact ⟨others, rfl, rfl⟩

theorem run_append_of_lt {kind : Char → Bool} {before after : List Char}
    (inside : run kind (before ++ after) < before.length) (after' : List Char) :
    run kind (before ++ after') = run kind (before ++ after) := by
  induction before with
  | nil => simp at inside
  | cons first rest step =>
    simp only [List.cons_append, run_cons] at inside ⊢
    split
    · rename_i continues
      rw [if_pos continues, List.length_cons] at inside
      rw [step (by omega)]
    · rfl

/-- How a class finds a beginning of a text does not depend on what follows a stop behind it. -/
def AgreesBeforeStop (class? : List Char → Option Nat) : Prop :=
  ∀ {stop}, IsStop stop → ∀ {before after length}, class? (before ++ stop :: after) = some length →
    length ≤ before.length → ∀ after', class? (before ++ stop :: after') = some length

theorem EndsAtStop.agrees {class? : List Char → Option Nat} (ends : EndsAtStop class?) : AgreesBeforeStop class? := by
  intro stop isStop before after length found _ after'
  rw [ends isStop, ← ends isStop before after, found]

theorem IsClosed.agrees {class? : List Char → Option Nat} (closed : IsClosed class?) : AgreesBeforeStop class? := by
  intro stop isStop before after length found fits after'
  obtain ⟨-, -, again⟩ := closed _ _ found
  have same := again (before.drop length ++ stop :: after')
  rwa [List.take_append_of_le_length fits, ← List.append_assoc, List.take_append_drop] at same

theorem docComment?_eq_some {input : List Char} {length : Nat} :
    docComment? input = some length ↔
      ∃ rest, input = '/' :: '/' :: '/' :: rest ∧ rest.head? ≠ some '/' ∧ length = 3 + run (· ≠ '\n') rest := by
  constructor
  · intro found
    unfold docComment? at found
    split at found
    · rename_i rest
      simp only [Option.ite_none_left_eq_some, Option.some.injEq] at found
      exact ⟨rest, rfl, found.1, found.2.symm⟩
    · cases found
  · rintro ⟨rest, rfl, single, rfl⟩
    simp [docComment?, single]

theorem lineComment?_eq_some {input : List Char} {length : Nat} :
    lineComment? input = some length ↔
      ∃ rest, input = '/' :: '/' :: rest ∧ (∀ next others, rest = '/' :: next :: others → next = '/') ∧
        length = 2 + run (· ≠ '\n') rest := by
  constructor
  · intro found
    unfold lineComment? at found
    split at found
    · rename_i rest
      simp only [Option.ite_none_left_eq_some, Option.some.injEq] at found
      refine ⟨rest, rfl, ?_, found.2.symm⟩
      rintro next others rfl
      simpa using found.1
    · cases found
  · rintro ⟨rest, rfl, noDoc, rfl⟩
    simp only [lineComment?, Option.ite_none_left_eq_some, and_true]
    split
    · simpa using noDoc _ _ rfl
    · simp

/-- A class that finds a beginning of a text which a stop ends also finds one when something follows the stop. -/
def PersistsBehindStop (class? : List Char → Option Nat) : Prop :=
  ∀ {stop}, IsStop stop → ∀ {before}, (class? (before ++ [stop])).isSome = true →
    ∀ after, (class? (before ++ stop :: after)).isSome = true

/-- Whether a class finds something is known before a stop. -/
def SettledAtStop (class? : List Char → Option Nat) : Prop :=
  ∀ {stop}, IsStop stop → ∀ {before after}, (class? (before ++ stop :: after)).isSome = true →
    ∀ after', (class? (before ++ stop :: after')).isSome = true

theorem EndsAtStop.settled {class? : List Char → Option Nat} (ends : EndsAtStop class?) : SettledAtStop class? := by
  intro stop isStop before after found after'
  rwa [ends isStop, ← ends isStop before after]

theorem SettledAtStop.persists {class? : List Char → Option Nat} (settled : SettledAtStop class?) :
    PersistsBehindStop class? := fun isStop _ found => settled isStop found

theorem IsClosed.persists {class? : List Char → Option Nat} (closed : IsClosed class?) :
    PersistsBehindStop class? := by
  intro stop isStop before found after
  obtain ⟨length, found⟩ := Option.isSome_iff_exists.mp found
  obtain ⟨-, -, again⟩ := closed _ _ found
  have same := again ((before ++ [stop]).drop length ++ after)
  rw [← List.append_assoc, List.take_append_drop, List.append_assoc, List.singleton_append] at same
  rw [same]
  rfl

theorem run_newline_append {stop : Char} {others after : List Char}
    (fits : run (· ≠ '\n') (others ++ stop :: after) ≤ others.length) (after' : List Char) :
    run (· ≠ '\n') (others ++ stop :: after') = run (· ≠ '\n') (others ++ stop :: after) := by
  have inside : run (· ≠ '\n') ((others ++ [stop]) ++ after) < (others ++ [stop]).length := by
    rw [List.append_assoc, List.length_append]
    exact Nat.lt_succ_of_le fits
  have same := run_append_of_lt inside after'
  rwa [List.append_assoc, List.append_assoc] at same

theorem docComment?_agrees : AgreesBeforeStop docComment? := by
  intro stop isStop before after length found fits after'
  have noSlash : stop ≠ '/' := by rcases isStop with rfl | rfl <;> decide
  obtain ⟨rest, same, single, rfl⟩ := docComment?_eq_some.mp found
  obtain ⟨_, rfl, behindOne⟩ := exists_of_append_eq_cons noSlash same
  obtain ⟨_, rfl, behindTwo⟩ := exists_of_append_eq_cons noSlash behindOne.symm
  obtain ⟨others, rfl, rfl⟩ := exists_of_append_eq_cons noSlash behindTwo.symm
  refine docComment?_eq_some.mpr ⟨others ++ stop :: after', rfl, ?_, ?_⟩
  · cases others <;> exact single
  · have inside : run (· ≠ '\n') (others ++ stop :: after) ≤ others.length := by
      simp only [List.length_cons] at fits
      omega
    rw [run_newline_append inside after']

theorem docComment?_settled : SettledAtStop docComment? := by
  intro stop isStop before after found after'
  have noSlash : stop ≠ '/' := by rcases isStop with rfl | rfl <;> decide
  obtain ⟨length, found⟩ := Option.isSome_iff_exists.mp found
  obtain ⟨rest, same, single, rfl⟩ := docComment?_eq_some.mp found
  obtain ⟨_, rfl, behindOne⟩ := exists_of_append_eq_cons noSlash same
  obtain ⟨_, rfl, behindTwo⟩ := exists_of_append_eq_cons noSlash behindOne.symm
  obtain ⟨others, rfl, rfl⟩ := exists_of_append_eq_cons noSlash behindTwo.symm
  refine Option.isSome_iff_exists.mpr ⟨_, docComment?_eq_some.mpr ⟨others ++ stop :: after', rfl, ?_, rfl⟩⟩
  cases others <;> exact single

/-- Whether a line comment is a documentation comment is known before a stop. -/
theorem noDoc_of_noDoc {stop : Char} (noSlash : stop ≠ '/') {others after : List Char}
    (noDoc : ∀ next behind, others ++ stop :: after = '/' :: next :: behind → next = '/') (after' : List Char) :
    ∀ next behind, others ++ stop :: after' = '/' :: next :: behind → next = '/' := by
  intro next behind same
  obtain ⟨others, rfl, rest⟩ := exists_of_append_eq_cons noSlash same
  cases others with
  | nil => exact absurd (noDoc stop after rfl) noSlash
  | cons first others =>
    obtain ⟨rfl, -⟩ := List.cons.inj rest
    exact noDoc next (others ++ stop :: after) rfl

theorem lineComment?_agrees : AgreesBeforeStop lineComment? := by
  intro stop isStop before after length found fits after'
  have noSlash : stop ≠ '/' := by rcases isStop with rfl | rfl <;> decide
  obtain ⟨rest, same, noDoc, rfl⟩ := lineComment?_eq_some.mp found
  obtain ⟨_, rfl, behindOne⟩ := exists_of_append_eq_cons noSlash same
  obtain ⟨others, rfl, rfl⟩ := exists_of_append_eq_cons noSlash behindOne.symm
  refine lineComment?_eq_some.mpr ⟨others ++ stop :: after', rfl, noDoc_of_noDoc noSlash noDoc after', ?_⟩
  have inside : run (· ≠ '\n') (others ++ stop :: after) ≤ others.length := by
    simp only [List.length_cons] at fits
    omega
  rw [run_newline_append inside after']

theorem lineComment?_settled : SettledAtStop lineComment? := by
  intro stop isStop before after found after'
  have noSlash : stop ≠ '/' := by rcases isStop with rfl | rfl <;> decide
  obtain ⟨length, found⟩ := Option.isSome_iff_exists.mp found
  obtain ⟨rest, same, noDoc, rfl⟩ := lineComment?_eq_some.mp found
  obtain ⟨_, rfl, behindOne⟩ := exists_of_append_eq_cons noSlash same
  obtain ⟨others, rfl, rfl⟩ := exists_of_append_eq_cons noSlash behindOne.symm
  exact Option.isSome_iff_exists.mpr ⟨_, lineComment?_eq_some.mpr
    ⟨others ++ stop :: after', rfl, noDoc_of_noDoc noSlash noDoc after', rfl⟩⟩

/-! Punctuation -/

/-- The characters that are marks of their own whatever follows them. -/
def markChars : List Char :=
  ['#', '!', '[', ']', '(', ')', '=', '\x7b', '\x7d', ',', ';', '<', '>', '&', '*', '/', '+', '.', '?', '@', '|', '^',
    '%', '$', '~']

theorem ofText?_of_mem {first : Char} (isMark : first ∈ markChars) (rest : List Char) :
    Punctuation.ofText? (first :: rest) = Punctuation.ofText? [first] := by
  simp only [markChars, List.mem_cons, List.not_mem_nil, or_false] at isMark
  rcases isMark with rfl | rfl | rfl | rfl | rfl | rfl | rfl | rfl | rfl | rfl | rfl | rfl | rfl | rfl | rfl | rfl | rfl |
    rfl | rfl | rfl | rfl | rfl | rfl | rfl | rfl <;> rfl

theorem ofText?_of_not_mem {first : Char} (noMark : first ∉ ':' :: '-' :: markChars) (rest : List Char) :
    Punctuation.ofText? (first :: rest) = none := by
  unfold Punctuation.ofText?
  split <;> first
    | rfl
    | rename_i same
      obtain ⟨rfl, -⟩ := List.cons.inj same
      exact absurd (by decide) noMark
theorem ofText?_colon {second : Char} (single : second ≠ ':') (rest : List Char) :
    Punctuation.ofText? (':' :: second :: rest) = some .colon := by
  simp [Punctuation.ofText?, single]

theorem ofText?_minus {second : Char} (single : second ≠ '>') (rest : List Char) :
    Punctuation.ofText? ('-' :: second :: rest) = some .minus := by
  simp [Punctuation.ofText?, single]

theorem ofText?_two (first second : Char) (rest : List Char) :
    Punctuation.ofText? (first :: second :: rest) = Punctuation.ofText? [first, second] := by
  by_cases isMark : first ∈ markChars
  · rw [ofText?_of_mem isMark, ofText?_of_mem isMark [second]]
  by_cases colon : first = ':'
  · subst colon
    by_cases separator : second = ':'
    · rw [separator]
      rfl
    · rw [ofText?_colon separator, ofText?_colon separator]
  by_cases minus : first = '-'
  · subst minus
    by_cases arrow : second = '>'
    · rw [arrow]
      rfl
    · rw [ofText?_minus arrow, ofText?_minus arrow]
  · have noMark : first ∉ ':' :: '-' :: markChars := by simp [colon, minus, isMark]
    rw [ofText?_of_not_mem noMark, ofText?_of_not_mem noMark]

theorem ofText?_agrees {stop : Char} (isStop : IsStop stop) (before after after' : List Char) :
    Punctuation.ofText? (before ++ stop :: after) = Punctuation.ofText? (before ++ stop :: after') := by
  match before with
  | [] => rcases isStop with rfl | rfl <;> rfl
  | [first] => exact (ofText?_two first stop after).trans (ofText?_two first stop after').symm
  | first :: second :: rest => exact (ofText?_two first second _).trans (ofText?_two first second _).symm

/-- What is found first at the beginning of a text is of the first class that finds something. -/
structure AgreesUpTo (bound : Nat) (found found' : Option (LexemeClass × Nat)) : Prop where
  agrees : ∀ kind length, found = some (kind, length) → length ≤ bound → found' = some (kind, length)
  persists : found'.isSome = true → found.isSome = true

theorem AgreesUpTo.findSome? {bound : Nat} {found found' : List (Option (LexemeClass × Nat))}
    (each : List.Forall₂ (AgreesUpTo bound) found found') :
    AgreesUpTo bound (found.findSome? id) (found'.findSome? id) := by
  induction each with
  | nil => exact ⟨nofun, nofun⟩
  | @cons one one' others others' first _ rest =>
    cases one with
    | none =>
      cases one' with
      | none => exact rest
      | some result' => cases first.persists rfl
    | some result =>
      refine ⟨fun kind length same fits => ?_, fun _ => rfl⟩
      rw [first.agrees kind length same fits]
      rfl

theorem AgreesUpTo.ofClass {class? : List Char → Option Nat} (agrees : AgreesBeforeStop class?)
    (persists : PersistsBehindStop class?) {stop : Char} (isStop : IsStop stop) (kind : LexemeClass)
    (before after : List Char) :
    AgreesUpTo before.length ((class? (before ++ stop :: after)).map (kind, ·))
      ((class? (before ++ [stop])).map (kind, ·)) where
  agrees := by
    intro found length same fits
    obtain ⟨length, found, same⟩ := Option.map_eq_some_iff.mp same
    cases same
    rw [agrees isStop found fits []]
    rfl
  persists := by
    rw [Option.isSome_map, Option.isSome_map]
    exact fun found => persists isStop found after

/-- The first lexeme of a text, if it ends before a stop, is the first lexeme of the text up to that stop. -/
theorem first?_of_stop {stop : Char} (isStop : IsStop stop) {before after : List Char} {kind : LexemeClass}
    {length : Nat} (found : first? (before ++ stop :: after) = some (kind, length)) (fits : length ≤ before.length) :
    first? (before ++ [stop]) = some (kind, length) := by
  have ofEnds {class? : List Char → Option Nat} (ends : EndsAtStop class?) (kind : LexemeClass) :=
    AgreesUpTo.ofClass ends.agrees (SettledAtStop.persists ends.settled) isStop kind before after
  have ofClosed {class? : List Char → Option Nat} (closed : IsClosed class?) (kind : LexemeClass) :=
    AgreesUpTo.ofClass closed.agrees closed.persists isStop kind before after
  have ofMark : AgreesUpTo before.length
      ((Punctuation.ofText? (before ++ stop :: after)).map fun mark => (some (.mark mark), mark.text.length))
      ((Punctuation.ofText? (before ++ [stop])).map fun mark => (some (.mark mark), mark.text.length)) := by
    rw [ofText?_agrees isStop before after []]
    exact ⟨fun _ _ same _ => same, id⟩
  have each : List.Forall₂ (AgreesUpTo before.length) (classes (before ++ stop :: after)) (classes (before ++ [stop])) :=
    .cons (.ofClass docComment?_agrees (SettledAtStop.persists docComment?_settled) isStop _ before after) <|
    .cons (ofClosed isClosed_rawString? _) <| .cons (ofClosed isClosed_string? _) <|
    .cons (ofClosed isClosed_char? _) <| .cons (ofEnds endsAtStop_number? _) <| .cons (ofEnds endsAtStop_ident? _) <|
    .cons (ofEnds endsAtStop_lifetime? _) <|
    .cons (.ofClass lineComment?_agrees (SettledAtStop.persists lineComment?_settled) isStop _ before after) <|
    .cons (ofClosed isClosed_blockComment? _) <| .cons (ofEnds endsAtStop_blank? _) <| .cons ofMark .nil
  exact (AgreesUpTo.findSome? each).agrees kind length found fits

end Exposure.Lexeme
