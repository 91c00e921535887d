import Exposure.Proofs.IntegerLiteral
import Mathlib.Algebra.Field.Rat
import Mathlib.Tactic.NormNum

/-!
# Number literals on both sides

A number is written as digits in a marked radix, or as a whole part with perhaps a fraction and an exponent. Declarations and
callers read the same number from such a text, but they disagree about where underscores and leading zeros may stand. So a
default value that is rendered without its type is either a literal of the same number or no literal at all.
-/

namespace Exposure

/-- Digits of a radix, with underscores anywhere among them. -/
@[ext]
structure DigitRun (radix : Radix) where
  chars : List Char
  chars_mem : ∀ char ∈ chars, char = '_' ∨ char ∈ radix.digits

/-- Digits as callers write them: an underscore stands between two digits. -/
inductive IsDigitPart (radix : Radix) : List Char → Prop
  | single {digit : Char} (isDigit : digit ∈ radix.digits) : IsDigitPart radix [digit]
  | next {digit : Char} {others : List Char} (isDigit : digit ∈ radix.digits) (part : IsDigitPart radix others) :
      IsDigitPart radix (digit :: others)
  | separated {digit : Char} {others : List Char} (isDigit : digit ∈ radix.digits) (part : IsDigitPart radix others) :
      IsDigitPart radix (digit :: '_' :: others)

namespace Radix

/-- The letters that mark a radix behind a zero, in both cases. -/
def letters : Radix → List Char
  | decimal => []
  | hexadecimal => ['x', 'X']
  | octal => ['o', 'O']
  | binary => ['b', 'B']

theorem eq_of_mem_letters {radix radix' : Radix} {letter : Char} (isMark : letter ∈ radix.letters)
    (isMark' : letter ∈ radix'.letters) : radix = radix' := by
  cases radix <;> cases radix' <;> simp only [letters, List.mem_cons, List.not_mem_nil, or_false] at isMark isMark' <;>
    first
    | rfl
    | rcases isMark with rfl | rfl <;> simp at isMark'

theorem underscore_not_mem_digits : ∀ radix : Radix, '_' ∉ radix.digits := by rintro ⟨⟩ <;> decide

end Radix

namespace DigitRun

variable {radix : Radix} (run : DigitRun radix)

/-- The digits without the underscores. -/
def significant : List Char := run.chars.filter (· ≠ '_')

/-- The number that the digits denote. -/
def value : Nat := radix.valueOf run.significant

def BeginsWithDigit : Prop := ∃ first rest, run.chars = first :: rest ∧ first ∈ radix.digits

/-- No underscore stands at the end or behind another one. -/
def IsTidy : Prop := run.chars.getLast? ≠ some '_' ∧ ¬ ['_', '_'] <:+: run.chars

end DigitRun

/-- A power of ten behind a number. -/
@[ext]
structure Exponent where
  letter : Char
  sign : List Char
  digits : DigitRun .decimal
  letter_mem : letter ∈ ['e', 'E']
  sign_mem : sign ∈ [[], ['+'], ['-']]

namespace Exponent

def text (exponent : Exponent) : List Char := exponent.letter :: (exponent.sign ++ exponent.digits.chars)

/-- What an exponent multiplies a number by. -/
def scale (exponent : Exponent) : ℚ :=
  if exponent.sign = ['-'] then 1 / 10 ^ exponent.digits.value else 10 ^ exponent.digits.value

end Exponent

/-- A number without a sign and a type, as either side may write it. -/
inductive WrittenNumber where
  | marked (radix : Radix) (letter : Char) (isMark : letter ∈ radix.letters) (digits : DigitRun radix)
  | decimal (whole : DigitRun .decimal) (fraction : Option (DigitRun .decimal)) (exponent : Option Exponent)

namespace WrittenNumber

def fractionText : Option (DigitRun .decimal) → List Char
  | none => []
  | some digits => '.' :: digits.chars

def exponentText : Option Exponent → List Char
  | none => []
  | some exponent => exponent.text

def text : WrittenNumber → List Char
  | marked _ letter _ digits => '0' :: letter :: digits.chars
  | decimal whole fraction exponent => whole.chars ++ (fractionText fraction ++ exponentText exponent)

/-- The digits of a fraction stand for tenths, hundredths and so on. -/
def fractionValue : Option (DigitRun .decimal) → ℚ
  | none => 0
  | some digits => digits.value / 10 ^ digits.significant.length

/-- The number that is written. -/
def value : WrittenNumber → ℚ
  | marked _ _ _ digits => digits.value
  | decimal whole fraction exponent => (whole.value + fractionValue fraction) * (exponent.map Exponent.scale).getD 1

/-- Declarations allow this number: the letter of a radix is small, digits stand first in the whole part and in a fraction, and
there is a digit in every group. -/
def IsDeclared : WrittenNumber → Prop
  | marked radix letter _ digits => ['0', letter] = radix.mark ∧ digits.significant ≠ []
  | decimal whole fraction exponent =>
    whole.BeginsWithDigit ∧ (∀ digits ∈ fraction, digits.BeginsWithDigit) ∧
      ∀ power ∈ exponent, power.digits.significant ≠ []

/-- Callers allow this number: an underscore stands in front of a digit and behind another one or behind the mark of a radix,
the whole part or the fraction may have no digits, and only a zero begins with a zero if it is an integer. -/
def IsCallable : WrittenNumber → Prop
  | marked radix _ _ digits =>
    IsDigitPart radix digits.chars ∨ ∃ others, digits.chars = '_' :: others ∧ IsDigitPart radix others
  | decimal whole none none =>
    IsDigitPart .decimal whole.chars ∧ (whole.chars.head? = some '0' → ∀ digit ∈ whole.significant, digit = '0')
  | decimal whole none (some exponent) =>
    IsDigitPart .decimal whole.chars ∧ IsDigitPart .decimal exponent.digits.chars
  | decimal whole (some fraction) exponent =>
    (whole.chars = [] ∧ IsDigitPart .decimal fraction.chars ∨
      IsDigitPart .decimal whole.chars ∧ (fraction.chars = [] ∨ IsDigitPart .decimal fraction.chars)) ∧
      ∀ power ∈ exponent, IsDigitPart .decimal power.digits.chars

/-- The underscores and the leading zeros of a number stand where both sides allow them. -/
def IsTidy : WrittenNumber → Prop
  | marked _ _ _ digits => digits.IsTidy
  | decimal whole fraction exponent =>
    whole.IsTidy ∧ (∀ digits ∈ fraction, digits.IsTidy) ∧
      (∀ power ∈ exponent, power.digits.chars.head? ≠ some '_' ∧ power.digits.IsTidy) ∧
      (fraction = none → exponent = none → whole.chars.head? = some '0' → ∀ digit ∈ whole.significant, digit = '0')

/-- The types that may stand behind a number; there may be none. -/
def suffixes : WrittenNumber → List (List Char)
  | marked .. => IntegerLiteral.suffixes
  | decimal _ none none => IntegerLiteral.suffixes ++ ["f32", "f64"].map String.toList
  | decimal .. => ["", "f32", "f64"].map String.toList

end WrittenNumber

/-- A number literal of a declaration. -/
structure NumberLiteral where
  number : WrittenNumber
  suffix : List Char
  declared : number.IsDeclared
  suffix_mem : suffix ∈ number.suffixes

/-- The literal as it is written. -/
def NumberLiteral.text (literal : NumberLiteral) : String := String.ofList (literal.number.text ++ literal.suffix)

/-! ## Digits -/

namespace DigitRun

variable {radix : Radix} (run : DigitRun radix)

theorem beginsWithDigit_of_head_ne (kept : run.significant ≠ []) (head : run.chars.head? ≠ some '_') : run.BeginsWithDigit := by
  have nonempty : run.chars ≠ [] := by
    intro empty
    exact kept (by rw [significant, empty, List.filter_nil])
  obtain ⟨first, rest, written⟩ := List.exists_cons_of_ne_nil nonempty
  have noUnderscore : first ≠ '_' := by simpa [written] using head
  exact ⟨first, rest, written, (run.chars_mem first (by simp [written])).resolve_left noUnderscore⟩

theorem BeginsWithDigit.head_ne {run : DigitRun radix} (begins : run.BeginsWithDigit) : run.chars.head? ≠ some '_' := by
  obtain ⟨first, rest, written, isDigit⟩ := begins
  rintro isFirst
  rw [written, List.head?_cons, Option.some_inj] at isFirst
  exact radix.underscore_not_mem_digits (isFirst ▸ isDigit)

end DigitRun

namespace IsDigitPart

variable {radix : Radix} {chars : List Char}

theorem exists_cons (part : IsDigitPart radix chars) : ∃ first rest, chars = first :: rest ∧ first ∈ radix.digits := by
  cases part with
  | single isDigit => exact ⟨_, _, rfl, isDigit⟩
  | next isDigit part => exact ⟨_, _, rfl, isDigit⟩
  | separated isDigit part => exact ⟨_, _, rfl, isDigit⟩

theorem not_opens {digit : Char} (isDigit : digit ∈ radix.digits) {more others : List Char} :
    ¬ '_' :: more <+: digit :: others := by
  intro found
  obtain ⟨same, -⟩ := List.cons_prefix_cons.mp found
  exact radix.underscore_not_mem_digits (same ▸ isDigit)

theorem getLast?_ne (part : IsDigitPart radix chars) : chars.getLast? ≠ some '_' := by
  induction part with
  | single isDigit =>
    intro same
    obtain rfl := Option.some_inj.mp same
    exact radix.underscore_not_mem_digits isDigit
  | next isDigit part step =>
    obtain ⟨first, rest, rfl, -⟩ := part.exists_cons
    rwa [List.getLast?_cons_cons]
  | separated isDigit part step =>
    obtain ⟨first, rest, rfl, -⟩ := part.exists_cons
    rwa [List.getLast?_cons_cons, List.getLast?_cons_cons]

theorem not_doubled (part : IsDigitPart radix chars) : ¬ ['_', '_'] <:+: chars := by
  induction part with
  | single isDigit => simp [List.infix_cons_iff, not_opens isDigit]
  | next isDigit part step => simp [List.infix_cons_iff, not_opens isDigit, step]
  | @separated _ others isDigit part step =>
    have apart : ¬ ['_', '_'] <+: '_' :: others := by
      obtain ⟨first, rest, rfl, isDigit⟩ := part.exists_cons
      exact fun found => not_opens isDigit (List.cons_prefix_cons.mp found).2
    simp [List.infix_cons_iff, not_opens isDigit, apart, step]

/-- Digits that begin with a digit and are tidy are digits as callers write them. -/
theorem of_tidy : ∀ {first : Char} {rest : List Char}, first ∈ radix.digits →
    (∀ char ∈ rest, char = '_' ∨ char ∈ radix.digits) → (first :: rest).getLast? ≠ some '_' →
    ¬ ['_', '_'] <:+: first :: rest → IsDigitPart radix (first :: rest)
  | _, [], isDigit, _, _, _ => .single isDigit
  | first, second :: rest, isDigit, each, last, apart => by
    obtain ⟨ofSecond, ofRest⟩ := List.forall_mem_cons.mp each
    rw [List.getLast?_cons_cons] at last
    have apartBehind : ¬ ['_', '_'] <:+: second :: rest := fun found => apart (List.infix_cons found)
    rcases ofSecond with rfl | secondDigit
    · -- an underscore is not the last character, and a digit follows it
      cases rest with
      | nil => exact absurd rfl last
      | cons third rest =>
        obtain ⟨ofThird, ofRest⟩ := List.forall_mem_cons.mp ofRest
        have thirdDigit : third ∈ radix.digits := ofThird.resolve_left fun same =>
          apartBehind (List.IsPrefix.isInfix ⟨rest, by rw [same]; rfl⟩)
        rw [List.getLast?_cons_cons] at last
        exact .separated isDigit (of_tidy thirdDigit ofRest last fun found => apartBehind (List.infix_cons found))
    · exact .next isDigit (of_tidy secondDigit ofRest last apartBehind)

end IsDigitPart

theorem DigitRun.isDigitPart_iff {radix : Radix} (run : DigitRun radix) :
    IsDigitPart radix run.chars ↔ run.BeginsWithDigit ∧ run.IsTidy := by
  constructor
  · intro part
    exact ⟨part.exists_cons, part.getLast?_ne, part.not_doubled⟩
  · rintro ⟨⟨first, rest, written, isDigit⟩, last, apart⟩
    have each := run.chars_mem
    rw [written] at each last apart ⊢
    exact .of_tidy isDigit (List.forall_mem_cons.mp each).2 last apart

/-! ## A text is written in one way -/

/-- Where characters of one kind end in front of another character or the end of a text, is read from the text. -/
theorem boundary_unique {kind : Char → Bool} {one two rest rest' : List Char} (ofOne : ∀ char ∈ one, kind char = true)
    (ofTwo : ∀ char ∈ two, kind char = true) (stops : ∀ char ∈ rest.head?, kind char = false)
    (stops' : ∀ char ∈ rest'.head?, kind char = false) (same : one ++ rest = two ++ rest') : one = two ∧ rest = rest' := by
  have front {inside behind : List Char} (each : ∀ char ∈ inside, kind char = true)
      (stop : ∀ char ∈ behind.head?, kind char = false) : (inside ++ behind).takeWhile kind = inside := by
    rw [List.takeWhile_append_of_pos each]
    cases behind with
    | nil => simp
    | cons next behind => rw [List.takeWhile_cons_of_neg (by simp [stop next rfl]), List.append_nil]
  have fronts : one = two := by rw [← front ofOne stops, same, front ofTwo stops']
  exact ⟨fronts, List.append_cancel_left (fronts ▸ same)⟩

theorem DigitRun.continuesDecimal (run : DigitRun .decimal) : ∀ char ∈ run.chars, Lexeme.continuesDecimal char = true := by
  have every : ∀ char ∈ Radix.decimal.digits, Lexeme.continuesDecimal char = true := List.all_eq_true.mp (by decide)
  intro char written
  rcases run.chars_mem char written with rfl | isDigit
  · rfl
  · exact every char isDigit

theorem Exponent.text_injective : Function.Injective Exponent.text := by
  intro one two same
  obtain ⟨letters, behind⟩ := List.cons.inj same
  have signs (exponent : Exponent) : ∀ char ∈ exponent.sign, (char = '+' || char = '-') = true := by
    have every : ∀ sign ∈ [[], ['+'], ['-']], sign.all (fun char => char = '+' || char = '-') = true := by decide
    exact List.all_eq_true.mp (every exponent.sign exponent.sign_mem)
  have digits (exponent : Exponent) : ∀ char ∈ exponent.digits.chars.head?, (char = '+' || char = '-') = false := by
    intro char isFirst
    have isDigit := exponent.digits.continuesDecimal char (List.mem_of_mem_head? isFirst)
    by_contra isSign
    rw [Bool.not_eq_false, Bool.or_eq_true, decide_eq_true_eq, decide_eq_true_eq] at isSign
    rcases isSign with rfl | rfl <;> cases isDigit
  obtain ⟨ofSigns, ofDigits⟩ := boundary_unique (signs one) (signs two) (digits one) (digits two) behind
  exact Exponent.ext letters ofSigns (DigitRun.ext ofDigits)

namespace WrittenNumber

theorem head_exponentText (exponent : Option Exponent) : ∀ char ∈ (exponentText exponent).head?, char ∈ ['e', 'E'] := by
  cases exponent with
  | none => simp [exponentText]
  | some exponent =>
    intro char isFirst
    obtain rfl := Option.mem_some.mp isFirst
    exact exponent.letter_mem

theorem head_tail {fraction : Option (DigitRun .decimal)} {exponent : Option Exponent} :
    ∀ char ∈ (fractionText fraction ++ exponentText exponent).head?, char ∈ ['.', 'e', 'E'] := by
  cases fraction with
  | none => exact fun char isFirst => List.mem_cons_of_mem '.' (head_exponentText exponent char isFirst)
  | some digits =>
    intro char isFirst
    obtain rfl := Option.mem_some.mp isFirst
    exact List.mem_cons_self

theorem stops_tail (fraction : Option (DigitRun .decimal)) (exponent : Option Exponent) :
    ∀ char ∈ (fractionText fraction ++ exponentText exponent).head?, Lexeme.continuesDecimal char = false := by
  have every : ∀ char ∈ ['.', 'e', 'E'], Lexeme.continuesDecimal char = false := List.all_iff_forall_prop.mp (by decide)
  exact fun char isFirst => every char (head_tail char isFirst)

theorem exponentText_injective : Function.Injective exponentText := by
  intro one two same
  cases one with
  | none =>
    cases two with
    | none => rfl
    | some two => cases same
  | some one =>
    cases two with
    | none => cases same
    | some two => exact congrArg some (Exponent.text_injective same)

theorem tail_injective {fraction fraction' : Option (DigitRun .decimal)} {exponent exponent' : Option Exponent}
    (same : fractionText fraction ++ exponentText exponent = fractionText fraction' ++ exponentText exponent') :
    fraction = fraction' ∧ exponent = exponent' := by
  have stops (exponent : Option Exponent) : ∀ char ∈ (exponentText exponent).head?, Lexeme.continuesDecimal char = false :=
    stops_tail none exponent
  have noPoint {exponent : Option Exponent} {behind : List Char} : exponentText exponent ≠ '.' :: behind := by
    intro same
    have isLetter := head_exponentText exponent '.' (by rw [same]; rfl)
    exact absurd isLetter (by decide)
  cases fraction with
  | none =>
    cases fraction' with
    | none => exact ⟨rfl, exponentText_injective same⟩
    | some digits => exact absurd same noPoint
  | some digits =>
    cases fraction' with
    | none => exact absurd same.symm noPoint
    | some digits' =>
      obtain ⟨ofDigits, ofExponents⟩ := boundary_unique digits.continuesDecimal digits'.continuesDecimal (stops exponent)
        (stops exponent') (List.cons.inj same).2
      exact ⟨congrArg some (DigitRun.ext ofDigits), exponentText_injective ofExponents⟩

/-- A decimal number carries no mark of a radix. -/
theorem marked_text_ne {radix : Radix} {letter : Char} (isMark : letter ∈ radix.letters) (digits : DigitRun radix)
    (whole : DigitRun .decimal) (fraction : Option (DigitRun .decimal)) (exponent : Option Exponent) :
    (marked radix letter isMark digits).text ≠ (decimal whole fraction exponent).text := by
  intro same
  have noDecimal : ∀ radix : Radix, ∀ letter ∈ radix.letters,
      Lexeme.continuesDecimal letter = false ∧ letter ∉ ['.', 'e', 'E'] := by
    rintro ⟨⟩ <;> exact List.all_iff_forall_prop.mp (by decide)
  have zero : ∀ char ∈ ['0'], Lexeme.continuesDecimal char = true := List.forall_mem_singleton.mpr rfl
  have stops : ∀ char ∈ (letter :: digits.chars).head?, Lexeme.continuesDecimal char = false := by
    simpa using (noDecimal radix letter isMark).1
  obtain ⟨-, behind⟩ := boundary_unique zero whole.continuesDecimal stops (stops_tail fraction exponent) same
  exact (noDecimal radix letter isMark).2 (head_tail letter (by rw [← behind]; rfl))

/-- A text is that of one number only. -/
theorem text_injective : Function.Injective text := by
  intro one two same
  cases one with
  | marked radix letter isMark digits =>
    cases two with
    | marked radix' letter' isMark' digits' =>
      obtain ⟨rfl, sameDigits⟩ := List.cons.inj (List.cons.inj same).2
      obtain rfl := Radix.eq_of_mem_letters isMark isMark'
      obtain rfl := DigitRun.ext sameDigits
      rfl
    | decimal whole fraction exponent => exact absurd same (marked_text_ne isMark digits whole fraction exponent)
  | decimal whole fraction exponent =>
    cases two with
    | marked radix letter isMark digits => exact absurd same.symm (marked_text_ne isMark digits whole fraction exponent)
    | decimal whole' fraction' exponent' =>
      obtain ⟨ofWhole, ofTail⟩ := boundary_unique whole.continuesDecimal whole'.continuesDecimal (stops_tail fraction exponent)
        (stops_tail fraction' exponent') same
      obtain ⟨rfl, rfl⟩ := tail_injective ofTail
      rw [DigitRun.ext ofWhole]

/-- No number begins with a minus sign. -/
theorem text_ne_minus (number : WrittenNumber) (behind : List Char) : number.text ≠ '-' :: behind := by
  intro same
  cases number with
  | marked radix letter isMark digits => cases same
  | decimal whole fraction exponent =>
    cases written : whole.chars with
    | nil =>
      rw [text, written, List.nil_append] at same
      exact absurd (head_tail '-' (by rw [same]; rfl)) (by decide)
    | cons first rest =>
      rw [text, written] at same
      obtain ⟨rfl, -⟩ := List.cons.inj same
      cases whole.continuesDecimal '-' (by simp [written])

end WrittenNumber

/-! ## The type is cut off -/

namespace WrittenNumber

/-- What may stand behind any number. -/
def types : List (List Char) := [] :: Numeral.suffixes

theorem mem_types_of_mem_suffixes {number : WrittenNumber} {suffix : List Char} (isType : suffix ∈ number.suffixes) :
    suffix ∈ types := by
  have ofInteger : ∀ suffix ∈ IntegerLiteral.suffixes ++ ["f32", "f64"].map String.toList, suffix ∈ types := by decide
  have ofFloat : ∀ suffix ∈ ["", "f32", "f64"].map String.toList, suffix ∈ types := by decide
  unfold suffixes at isType
  split at isType
  · exact IntegerLiteral.mem_types_of_mem_suffixes isType
  · exact ofInteger suffix isType
  · exact ofFloat suffix isType

theorem run_eq_zero {kind : Char → Bool} {behind : List Char} (stops : ∀ char ∈ behind.head?, kind char = false) :
    Lexeme.run kind behind = 0 := by
  cases behind with
  | nil => rfl
  | cons next behind => rw [Lexeme.run_cons, if_neg (by simp [stops next rfl])]

/-- An exponent is read up to the type. -/
theorem exponent_append {exponent : Option Exponent} (proper : ∀ power ∈ exponent, power.digits.significant ≠ [])
    {suffix : List Char} (isType : suffix ∈ types) :
    Lexeme.exponent (exponentText exponent ++ suffix) = (exponentText exponent).length := by
  have stops : ∀ suffix ∈ types, Lexeme.run Lexeme.continuesDecimal suffix = 0 ∧ Lexeme.exponent suffix = 0 := by decide
  obtain ⟨noDigit, noExponent⟩ := stops suffix isType
  cases exponent with
  | none => exact noExponent
  | some power =>
    have counted : Lexeme.run Lexeme.continuesDecimal (power.digits.chars ++ suffix) = power.digits.chars.length := by
      rw [Lexeme.run_append_of_forall power.digits.continuesDecimal, noDigit, Nat.add_zero]
    have positive : 0 < power.digits.chars.length := by
      refine List.length_pos_iff.mpr fun empty => proper power rfl ?_
      rw [DigitRun.significant, empty, List.filter_nil]
    have isLetter : (power.letter = 'e' || power.letter = 'E') = true := by simpa using power.letter_mem
    obtain ⟨first, others, written⟩ := List.exists_cons_of_length_pos positive
    have isDigit := power.digits.continuesDecimal first (by simp [written])
    have noPlus : first ≠ '+' := by rintro rfl; cases isDigit
    have noMinus : first ≠ '-' := by rintro rfl; cases isDigit
    have signs : power.sign = [] ∨ power.sign = ['+'] ∨ power.sign = ['-'] := by simpa using power.sign_mem
    rw [written] at counted positive
    simp only [exponentText, Exponent.text, written, List.cons_append, List.append_assoc] at counted ⊢
    rcases signs with sign | sign | sign <;> simp [Lexeme.exponent, sign, isLetter, counted, noPlus, noMinus] <;> omega

/-- A fraction is read up to the exponent. -/
theorem fraction_append {fraction : Option (DigitRun .decimal)} (begins : ∀ digits ∈ fraction, digits.BeginsWithDigit)
    {behind : List Char} (noPoint : behind.head? ≠ some '.')
    (stops : ∀ char ∈ behind.head?, Lexeme.continuesDecimal char = false) :
    Lexeme.fraction (fractionText fraction ++ behind) = (fractionText fraction).length := by
  cases fraction with
  | none =>
    change Lexeme.fraction behind = 0
    unfold Lexeme.fraction
    split
    · exact absurd rfl noPoint
    · rfl
  | some digits =>
    obtain ⟨first, others, written, isDigit⟩ := begins digits rfl
    have digit : ∀ char ∈ Radix.decimal.digits, char.isDigit = true := List.all_eq_true.mp (by decide)
    have each : ∀ char ∈ others, Lexeme.continuesDecimal char = true := fun char isOther =>
      digits.continuesDecimal char (by simp [written, isOther])
    have counted : Lexeme.run Lexeme.continuesDecimal (others ++ behind) = others.length := by
      rw [Lexeme.run_append_of_forall each, run_eq_zero stops, Nat.add_zero]
    simp only [fractionText, written, List.cons_append, Lexeme.fraction, digit first isDigit, if_true, counted,
      List.length_cons]
    omega

/-- Behind a fraction there is an exponent, a type or nothing. -/
theorem head_exponent_append (exponent : Option Exponent) {suffix : List Char} (isType : suffix ∈ types) :
    ∀ char ∈ (exponentText exponent ++ suffix).head?,
      Lexeme.continuesDecimal char = false ∧ char ≠ '.' ∧ char ∉ IntegerLiteral.marks := by
  have outside : ∀ char ∈ types.filterMap List.head? ++ ['e', 'E'],
      Lexeme.continuesDecimal char = false ∧ char ≠ '.' ∧ char ∉ IntegerLiteral.marks :=
    List.all_iff_forall_prop.mp (by decide)
  intro char isFirst
  refine outside char (List.mem_append.mpr ?_)
  cases exponent with
  | none => exact .inl (List.mem_filterMap.mpr ⟨suffix, isType, isFirst⟩)
  | some power => exact .inr (head_exponentText (some power) char isFirst)

/-- Behind the whole part there may also be a point. -/
theorem head_fraction_append (fraction : Option (DigitRun .decimal)) (exponent : Option Exponent) {suffix : List Char}
    (isType : suffix ∈ types) :
    ∀ char ∈ (fractionText fraction ++ (exponentText exponent ++ suffix)).head?,
      Lexeme.continuesDecimal char = false ∧ char ∉ IntegerLiteral.marks := by
  have behind := head_exponent_append exponent isType
  have ofPoint : Lexeme.continuesDecimal '.' = false ∧ '.' ∉ IntegerLiteral.marks := by decide
  cases fraction with
  | none => exact fun char isFirst => ⟨(behind char isFirst).1, (behind char isFirst).2.2⟩
  | some digits =>
    intro char isFirst
    obtain rfl := Option.mem_some.mp isFirst
    exact ofPoint

section

variable {whole : DigitRun .decimal} {fraction : Option (DigitRun .decimal)} {exponent : Option Exponent}

theorem radixLength?_eq_none (begins : whole.BeginsWithDigit) {suffix : List Char} (isType : suffix ∈ types) :
    Numeral.radixLength? ((decimal whole fraction exponent).text ++ suffix) = none := by
  obtain ⟨first, rest, written, -⟩ := begins
  rw [text, written, List.append_assoc, List.append_assoc, List.cons_append]
  refine IntegerLiteral.radixLength?_of_unmarked first ?_
  cases rest with
  | nil => exact fun char isFirst => (head_fraction_append fraction exponent isType char isFirst).2
  | cons next rest =>
    have stops : ∀ mark ∈ IntegerLiteral.marks, Lexeme.continuesDecimal mark = false := List.all_iff_forall_prop.mp (by decide)
    have isDecimal := whole.continuesDecimal next (by simp [written])
    intro char isNext isMark
    obtain rfl := Option.mem_some.mp isNext
    exact Bool.false_ne_true ((stops next isMark).symm.trans isDecimal)

/-- A number is read up to the type. -/
theorem decimalLength?_text (declared : (decimal whole fraction exponent).IsDeclared) {suffix : List Char}
    (isType : suffix ∈ types) :
    Numeral.decimalLength? ((decimal whole fraction exponent).text ++ suffix) =
      some (decimal whole fraction exponent).text.length := by
  obtain ⟨⟨first, rest, written, isDigit⟩, ofFraction, ofExponent⟩ := declared
  have digit : ∀ char ∈ Radix.decimal.digits, char.isDigit = true := List.all_eq_true.mp (by decide)
  have each : ∀ char ∈ rest, Lexeme.continuesDecimal char = true := fun char member =>
    whole.continuesDecimal char (by simp [written, member])
  have afterFraction := head_exponent_append exponent isType
  have afterWhole := head_fraction_append fraction exponent isType
  have counted : 1 + Lexeme.run Lexeme.continuesDecimal (rest ++ (fractionText fraction ++ (exponentText exponent ++ suffix))) =
      (first :: rest).length := by
    rw [Lexeme.run_append_of_forall each, run_eq_zero fun char isFirst => (afterWhole char isFirst).1, List.length_cons]
    omega
  have fractional := fraction_append ofFraction (fun isPoint => (afterFraction '.' isPoint).2.1 rfl)
    fun char isFirst => (afterFraction char isFirst).1
  have scaled := exponent_append ofExponent isType
  have behindWhole (more : List Char) : (first :: (rest ++ more)).drop (first :: rest).length = more := List.drop_left
  have behindFraction : (first :: (rest ++ (fractionText fraction ++ (exponentText exponent ++ suffix)))).drop
      ((first :: rest).length + (fractionText fraction).length) = exponentText exponent ++ suffix := by
    rw [← List.drop_drop, behindWhole, List.drop_left]
  simp only [text, written, List.cons_append, List.append_assoc, Numeral.decimalLength?, digit first isDigit, if_true, counted,
    behindWhole, fractional, behindFraction, scaled]
  simp [Nat.add_assoc]
  omega

/-- Of a decimal number as it is written, what stands before the type is read. -/
theorem bare?_decimal (declared : (decimal whole fraction exponent).IsDeclared) {suffix : List Char}
    (isType : suffix ∈ types) :
    Numeral.bare? ((decimal whole fraction exponent).text ++ suffix) = some (decimal whole fraction exponent).text := by
  rw [Numeral.bare?, radixLength?_eq_none declared.1 isType, decimalLength?_text declared isType, Option.bind_some]
  exact IntegerLiteral.cutAt_length isType _

end

end WrittenNumber

/-- Of a literal as it is written, the number is read. -/
theorem NumberLiteral.bare?_text (literal : NumberLiteral) :
    Numeral.bare? literal.text.toList = some literal.number.text := by
  obtain ⟨number, suffix, declared, isType⟩ := literal
  cases number with
  | marked radix letter isMark digits =>
    obtain ⟨marked, proper⟩ := declared
    obtain ⟨digit, kept⟩ := List.exists_mem_of_ne_nil _ proper
    obtain ⟨written, noUnderscore⟩ := List.mem_filter.mp kept
    have isDigit := (digits.chars_mem digit written).resolve_left (by simpa using noUnderscore)
    have noDecimal : radix ≠ .decimal := by
      rintro rfl
      cases isMark
    have read := IntegerLiteral.bare?_text
      ⟨radix, digits.chars, suffix, digits.chars_mem, ⟨digit, written, isDigit⟩, fun same => absurd same noDecimal, isType⟩
    simp only [IntegerLiteral.text, IntegerLiteral.bare, ← marked] at read
    exact read
  | decimal whole fraction exponent =>
    rw [text, String.toList_ofList]
    exact WrittenNumber.bare?_decimal declared (WrittenNumber.mem_types_of_mem_suffixes isType)

/-! ## Where both sides agree -/

namespace DigitRun

variable {radix : Radix} {run : DigitRun radix}

theorem isDigitPart_iff_of_beginsWithDigit (begins : run.BeginsWithDigit) : IsDigitPart radix run.chars ↔ run.IsTidy := by
  rw [isDigitPart_iff, and_iff_right begins]

theorem isDigitPart_iff_of_significant (proper : run.significant ≠ []) :
    IsDigitPart radix run.chars ↔ run.chars.head? ≠ some '_' ∧ run.IsTidy := by
  rw [isDigitPart_iff]
  exact and_congr_left fun _ => ⟨BeginsWithDigit.head_ne, run.beginsWithDigit_of_head_ne proper⟩

/-- Behind the mark of a radix one underscore may stand in front of the digits. -/
theorem isDigitPart_or_iff (proper : run.significant ≠ []) :
    (IsDigitPart radix run.chars ∨ ∃ others, run.chars = '_' :: others ∧ IsDigitPart radix others) ↔ run.IsTidy := by
  constructor
  · rintro (part | ⟨others, written, part⟩)
    · exact ((isDigitPart_iff run).mp part).2
    · obtain ⟨first, rest, rfl, isDigit⟩ := part.exists_cons
      have apart : ¬ ['_', '_'] <+: '_' :: first :: rest := fun found =>
        IsDigitPart.not_opens isDigit (List.cons_prefix_cons.mp found).2
      refine ⟨?_, ?_⟩
      · rw [written, List.getLast?_cons_cons]
        exact part.getLast?_ne
      · rw [written, List.infix_cons_iff]
        exact not_or.mpr ⟨apart, part.not_doubled⟩
  · rintro tidy
    by_cases head : run.chars.head? = some '_'
    · obtain ⟨others, written⟩ := List.head?_eq_some_iff.mp head
      refine .inr ⟨others, written, ?_⟩
      have each := run.chars_mem
      obtain ⟨last, apart⟩ := tidy
      rw [written] at each last apart
      cases others with
      | nil => exact absurd rfl last
      | cons first rest =>
        obtain ⟨ofFirst, ofRest⟩ := List.forall_mem_cons.mp (List.forall_mem_cons.mp each).2
        have isDigit : first ∈ radix.digits := ofFirst.resolve_left fun same =>
          apart (List.IsPrefix.isInfix ⟨rest, by rw [same]; rfl⟩)
        rw [List.getLast?_cons_cons] at last
        exact .of_tidy isDigit ofRest last fun found => apart (List.infix_cons found)
    · exact .inl ((isDigitPart_iff_of_significant proper).mpr ⟨head, tidy⟩)

end DigitRun

namespace WrittenNumber

/-- Callers allow a number of a declaration if and only if it is tidy. -/
theorem isCallable_iff {number : WrittenNumber} (declared : number.IsDeclared) : number.IsCallable ↔ number.IsTidy := by
  cases number with
  | marked radix letter isMark digits => exact DigitRun.isDigitPart_or_iff declared.2
  | decimal whole fraction exponent =>
    obtain ⟨ofWhole, ofFraction, ofExponent⟩ := declared
    have wholePart := DigitRun.isDigitPart_iff_of_beginsWithDigit ofWhole
    have exponentParts : (∀ power ∈ exponent, IsDigitPart .decimal power.digits.chars) ↔
        ∀ power ∈ exponent, power.digits.chars.head? ≠ some '_' ∧ power.digits.IsTidy :=
      forall₂_congr fun power isExponent => DigitRun.isDigitPart_iff_of_significant (ofExponent power isExponent)
    have notEmpty {run : DigitRun .decimal} (begins : run.BeginsWithDigit) : run.chars ≠ [] := by
      obtain ⟨first, rest, written, -⟩ := begins
      simp [written]
    cases fraction with
    | none =>
      cases exponent with
      | none => simp [IsCallable, IsTidy, wholePart]
      | some power =>
        have exponentPart := DigitRun.isDigitPart_iff_of_significant (ofExponent power rfl)
        simp [IsCallable, IsTidy, wholePart, exponentPart]
    | some digits =>
      have fractionPart := DigitRun.isDigitPart_iff_of_beginsWithDigit (ofFraction digits rfl)
      simp only [IsCallable, IsTidy, wholePart, exponentParts, fractionPart, notEmpty ofWhole,
        notEmpty (ofFraction digits rfl)]
      simp [and_assoc]

end WrittenNumber

/-! ## Default values -/

namespace DefaultValue

/-- The sign in front of a number. -/
def signText (negative : Bool) : List Char := if negative then ['-'] else []

/-- A number behind a sign. -/
def signedValue (negative : Bool) (number : WrittenNumber) : ℚ := if negative then -number.value else number.value

/-- Callers take a text for a number: it is one that they allow, perhaps behind a minus sign. -/
inductive Denotes : List Char → ℚ → Prop
  | signed (negative : Bool) {number : WrittenNumber} (callable : number.IsCallable) :
      Denotes (signText negative ++ number.text) (signedValue negative number)

/-- Trees spell a number literal, perhaps behind a minus sign and perhaps as the value of options within options. -/
inductive Spells (literal : NumberLiteral) : Bool → List TokenTree → Prop
  | unsigned {number : Leaf} (isNumber : number.kind = .number) (written : number.text = literal.text) :
      Spells literal false [.leaf number]
  | negated {sign number : Leaf} (isSign : sign.text = Punctuation.minus.text) (isNumber : number.kind = .number)
      (written : number.text = literal.text) : Spells literal true [.leaf sign, .leaf number]
  | wrapped {negative : Bool} {word : Leaf} {inside : List TokenTree} {position : Position} (isSome : word.text = "Some")
      (spells : Spells literal negative inside) : Spells literal negative [.leaf word, .group .paren inside position]

/-- The text of a signed number is taken for that number, if callers allow it, and for no other. -/
theorem denotes_iff {negative : Bool} {number : WrittenNumber} {found : ℚ} :
    Denotes (signText negative ++ number.text) found ↔ number.IsCallable ∧ found = signedValue negative number := by
  constructor
  · generalize same : signText negative ++ number.text = text
    rintro ⟨negative', callable⟩
    have unsigned (number number' : WrittenNumber) : number.text ≠ signText true ++ number'.text :=
      number.text_ne_minus _
    cases negative <;> cases negative'
    case false.false =>
      obtain rfl := WrittenNumber.text_injective same
      exact ⟨callable, rfl⟩
    case false.true => exact absurd same (unsigned _ _)
    case true.false => exact absurd same.symm (unsigned _ _)
    case true.true =>
      obtain rfl := WrittenNumber.text_injective (List.cons.inj same).2
      exact ⟨callable, rfl⟩
  · rintro ⟨callable, rfl⟩
    exact .signed negative callable

theorem render_of_spells {literal : NumberLiteral} {negative : Bool} {trees : List TokenTree}
    (spells : Spells literal negative trees) :
    render trees = some (String.ofList (signText negative ++ literal.number.text)) := by
  have read {number : Leaf} (written : number.text = literal.text) :
      renderNumber number.text = some (String.ofList literal.number.text) := by
    rw [renderNumber, written, literal.bare?_text, Option.map_some]
  induction spells with
  | unsigned isNumber written =>
    simp only [render, renderLeaf, isNumber, read written]
    rfl
  | negated isSign isNumber written =>
    simp only [render, isSign, isNumber, read written, Punctuation.text, decide_true, Bool.and_self, if_true, Option.map_some,
      signText, String.ofList_append]
  | wrapped isSome spells step => simp only [render, isSome, if_true, step]

/-- A number literal, negated or not and as deep in options as one likes, is rendered as a text. Callers take this text for the
number of the literal, and for no other, if and only if the literal is tidy. -/
theorem render_number {literal : NumberLiteral} {negative : Bool} {trees : List TokenTree}
    (spells : Spells literal negative trees) :
    ∃ text, render trees = some text ∧
      ∀ found, Denotes text.toList found ↔ literal.number.IsTidy ∧ found = signedValue negative literal.number := by
  refine ⟨_, render_of_spells spells, fun found => ?_⟩
  rw [String.toList_ofList, denotes_iff, WrittenNumber.isCallable_iff literal.declared]

/-- A number with everything that a decimal literal may have. -/
def scaledLiteral : NumberLiteral where
  number := .decimal ⟨"1_000".toList, List.all_iff_forall_prop.mp (by decide)⟩
    (some ⟨"5".toList, List.all_iff_forall_prop.mp (by decide)⟩)
    (some ⟨'e', ['-'], ⟨"3".toList, List.all_iff_forall_prop.mp (by decide)⟩, by decide, by decide⟩)
  suffix := "f64".toList
  declared := by
    refine ⟨⟨'1', "_000".toList, rfl, by decide⟩, ?_, ?_⟩
    · rintro _ ⟨⟩
      exact ⟨'5', [], rfl, by decide⟩
    · rintro _ ⟨⟩
      decide
  suffix_mem := by decide

theorem render_number_nested :
    ∃ text, render [.leaf ⟨.ident, "Some", .start⟩, .group .paren [.leaf ⟨.ident, "Some", .start⟩, .group .paren
        [.leaf ⟨.punctuation, "-", .start⟩, .leaf ⟨.number, "1_000.5e-3f64", .start⟩] .start] .start] = some text ∧
      Denotes text.toList (-2001 / 2000) := by
  have written : "1_000.5e-3f64" = scaledLiteral.text := by decide
  have spells : Spells scaledLiteral true [.leaf ⟨.ident, "Some", .start⟩, .group .paren [.leaf ⟨.ident, "Some", .start⟩,
      .group .paren [.leaf ⟨.punctuation, "-", .start⟩, .leaf ⟨.number, "1_000.5e-3f64", .start⟩] .start] .start] :=
    .wrapped rfl (.wrapped rfl (.negated rfl rfl written))
  obtain ⟨text, rendered, denotes⟩ := render_number spells
  have tidy : scaledLiteral.number.IsTidy := by
    refine ⟨⟨by decide, by decide⟩, ?_, ?_, nofun⟩
    · rintro _ ⟨⟩
      exact ⟨by decide, by decide⟩
    · rintro _ ⟨⟩
      exact ⟨by decide, by decide, by decide⟩
  have value : scaledLiteral.number.value = 2001 / 2000 := by
    have whole : Radix.decimal.valueOf ("1_000".toList.filter (· ≠ '_')) = 1000 := by decide
    have tenths : Radix.decimal.valueOf ("5".toList.filter (· ≠ '_')) = 5 := by decide
    have places : ("5".toList.filter (· ≠ '_')).length = 1 := by decide
    have power : Radix.decimal.valueOf ("3".toList.filter (· ≠ '_')) = 3 := by decide
    simp only [scaledLiteral, WrittenNumber.value, WrittenNumber.fractionValue, Exponent.scale, DigitRun.value,
      DigitRun.significant, whole, tenths, places, power, Option.map_some, Option.getD_some, if_true]
    norm_num
  refine ⟨text, rendered, (denotes _).mpr ⟨tidy, ?_⟩⟩
  rw [signedValue, if_pos rfl, value]
  norm_num

/-- A seven with zeros in front of it. -/
def paddedLiteral : NumberLiteral where
  number := .decimal ⟨"007".toList, List.all_iff_forall_prop.mp (by decide)⟩ none none
  suffix := []
  declared := ⟨⟨'0', "07".toList, rfl, by decide⟩, nofun, nofun⟩
  suffix_mem := by decide

/-- A padded number is rendered as it stands, which is no number for callers. -/
theorem render_padded :
    paddedLiteral.text = "007" ∧ paddedLiteral.number.value = 7 ∧
      render [.leaf ⟨.number, "007", .start⟩] = some "007" ∧ ∀ found, ¬ Denotes "007".toList found := by
  have seven : Radix.decimal.valueOf ("007".toList.filter (· ≠ '_')) = 7 := by decide
  have written : "007" = paddedLiteral.text := by decide
  have spells : Spells paddedLiteral false [.leaf ⟨.number, "007", .start⟩] := .unsigned rfl written
  refine ⟨written.symm, ?_, render_of_spells spells, fun found denotes => ?_⟩
  · simp only [paddedLiteral, WrittenNumber.value, WrittenNumber.fractionValue, DigitRun.value, DigitRun.significant, seven,
      Option.map_none, Option.getD_none]
    norm_num
  · have read : Denotes (signText false ++ paddedLiteral.number.text) found := denotes
    have zeros : ∀ digit ∈ "007".toList.filter (· ≠ '_'), digit = '0' := (denotes_iff.mp read).1.2 rfl
    cases zeros '7' (by decide)

end DefaultValue

end Exposure
