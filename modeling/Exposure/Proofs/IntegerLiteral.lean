import Exposure.Proofs.Continuation
import Exposure.Syntax.DefaultValue
import Mathlib.Data.Bool.AllAny
import Mathlib.Data.List.Induction
import Mathlib.Data.Nat.Digits.Defs

/-!
# Integer literals

An integer literal is the mark of its radix, digits of that radix with underscores anywhere among them, and perhaps an integer
type behind them. A reader cuts the literal off before its type, drops the underscores and takes the digits one by one: what
it reads is the number whose digits these are.
-/

namespace Exposure

/-- The radix in which an integer is written. -/
inductive Radix where
  | decimal | hexadecimal | octal | binary

namespace Radix

def base : Radix → Nat
  | decimal => 10
  | hexadecimal => 16
  | octal => 8
  | binary => 2

/-- What stands before the digits of a radix. -/
def mark : Radix → List Char
  | decimal => []
  | hexadecimal => ['0', 'x']
  | octal => ['0', 'o']
  | binary => ['0', 'b']

def digits : Radix → List Char
  | decimal => "0123456789".toList
  | hexadecimal => "0123456789abcdefABCDEF".toList
  | octal => "01234567".toList
  | binary => "01".toList

/-- A digit stands for its place among the digits, in whatever case it is written. -/
def digitValue (digit : Char) : Nat := "0123456789abcdef".toList.idxOf digit.toLower

/-- The number that digits of a radix denote, the most significant first. -/
def valueOf (radix : Radix) (digits : List Char) : Nat := Nat.ofDigits radix.base (digits.reverse.map digitValue)

theorem valueOf_append_singleton (radix : Radix) (digits : List Char) (digit : Char) :
    radix.valueOf (digits ++ [digit]) = radix.valueOf digits * radix.base + digitValue digit := by
  rw [valueOf, List.reverse_append, List.reverse_singleton, List.singleton_append, List.map_cons, Nat.ofDigits_cons,
    Nat.add_comm, Nat.mul_comm]
  rfl

theorem digitValue?_of_mem (radix : Radix) :
    ∀ digit ∈ radix.digits, Numeral.digitValue? radix.base digit = some (digitValue digit) := by
  -- the digits are gone through as a list, as there are too many characters to go through them all
  cases radix <;> exact List.all_iff_forall_prop.mp (by decide)

/-- Digits of a radix are read as the number that they denote. -/
theorem ofDigits?_eq_some (radix : Radix) {digits : List Char} (each : ∀ digit ∈ digits, digit ∈ radix.digits)
    (nonempty : digits ≠ []) : Numeral.ofDigits? radix.base digits = some (radix.valueOf digits) := by
  rw [Numeral.ofDigits?, if_neg (by simpa using nonempty)]
  clear nonempty
  induction digits using List.reverseRecOn with
  | nil => rfl
  | append_singleton before digit again =>
    rw [List.forall_mem_append, List.forall_mem_singleton] at each
    rw [List.foldlM_append, again each.1, valueOf_append_singleton]
    simp [digitValue?_of_mem radix digit each.2]

end Radix

/-- What may stand behind the digits of an integer literal: nothing or an integer type. -/
def IntegerLiteral.suffixes : List (List Char) :=
  ["", "i8", "i16", "i32", "i64", "i128", "isize", "u8", "u16", "u32", "u64", "u128", "usize"].map String.toList

/-- An integer literal: digits of a radix and underscores, with a digit among them, and perhaps an integer type behind them.
A decimal literal begins with a digit; with an underscore it would be a name. -/
structure IntegerLiteral where
  radix : Radix
  digits : List Char
  suffix : List Char
  digits_mem : ∀ char ∈ digits, char = '_' ∨ char ∈ radix.digits
  exists_digit : ∃ char ∈ digits, char ∈ radix.digits
  head_ne : radix = .decimal → digits.head? ≠ some '_'
  suffix_mem : suffix ∈ IntegerLiteral.suffixes

namespace IntegerLiteral

/-- The literal without its type. -/
def bare (literal : IntegerLiteral) : List Char := literal.radix.mark ++ literal.digits

/-- The literal as it is written. -/
def text (literal : IntegerLiteral) : String := String.ofList (literal.bare ++ literal.suffix)

/-- The digits without the underscores. -/
def significant (literal : IntegerLiteral) : List Char := literal.digits.filter (· ≠ '_')

/-- The number that the literal denotes. -/
def value (literal : IntegerLiteral) : Nat := literal.radix.valueOf literal.significant

/-- A decimal literal has no more digits than a number may be read from. -/
def IsReadable (literal : IntegerLiteral) : Prop :=
  literal.radix = .decimal → literal.significant.length ≤ Numeral.maxDigits

/-! The type is cut off -/

/-- The letters that mark a radix behind a zero. -/
def marks : List Char := ['x', 'o', 'b']

theorem cutAt_length {suffix : List Char} (isType : suffix ∈ [] :: Numeral.suffixes) (bare : List Char) :
    Numeral.cutAt (bare ++ suffix) bare.length = some bare := by
  have known : (suffix.isEmpty || Numeral.suffixes.contains suffix) = true := by
    rcases List.mem_cons.mp isType with rfl | isType
    · rfl
    · rw [List.contains_iff_mem.mpr isType, Bool.or_true]
  simp only [Numeral.cutAt, List.drop_left, List.take_left, known, if_true]

theorem mem_types_of_mem_suffixes {suffix : List Char} (isType : suffix ∈ suffixes) : suffix ∈ [] :: Numeral.suffixes := by
  have every : ∀ suffix ∈ suffixes, suffix ∈ [] :: Numeral.suffixes := by decide
  exact every suffix isType

/-- The digits of a marked radix go on up to the type, which does not begin with one. -/
theorem radixLength?_append {mark : Char} (isMark : mark ∈ marks) {digits suffix : List Char}
    (each : ∀ char ∈ digits, Numeral.isRadixDigit mark char = true) (nonempty : digits ≠ []) (isType : suffix ∈ suffixes) :
    Numeral.radixLength? ('0' :: mark :: (digits ++ suffix)) = some (digits.length + 2) := by
  have stops : ∀ mark ∈ marks, ∀ suffix ∈ suffixes, Lexeme.run (Numeral.isRadixDigit mark) suffix = 0 :=
    List.all_iff_forall_prop.mp (by decide)
  have marked : (mark = 'x' || mark = 'o' || mark = 'b') = true := by simpa [marks, or_assoc] using isMark
  have counted : Lexeme.run (Numeral.isRadixDigit mark) (digits ++ suffix) = digits.length := by
    rw [Lexeme.run_append_of_forall each, stops mark isMark suffix isType, Nat.add_zero]
  have positive : 0 < digits.length := List.length_pos_iff.mpr nonempty
  simp only [Numeral.radixLength?, counted, marked, positive, decide_true, Bool.and_self, if_true]

theorem radixLength?_of_unmarked (first : Char) {behind : List Char} (unmarked : ∀ next ∈ behind.head?, next ∉ marks) :
    Numeral.radixLength? (first :: behind) = none := by
  unfold Numeral.radixLength?
  split
  case h_1 next others same =>
    obtain ⟨-, same⟩ := List.cons.inj same
    have noMark := unmarked next (by simp [same])
    simp only [marks, List.mem_cons, List.not_mem_nil, or_false, not_or] at noMark
    simp [noMark]
  case h_2 => rfl

/-- A decimal literal carries no mark of a radix, not even when it begins with a zero. -/
theorem radixLength?_decimal (first : Char) {rest suffix : List Char}
    (each : ∀ char ∈ rest, Lexeme.continuesDecimal char = true) (isType : suffix ∈ suffixes) :
    Numeral.radixLength? (first :: (rest ++ suffix)) = none := by
  refine radixLength?_of_unmarked first ?_
  cases rest with
  | nil =>
    have unmarked : ∀ suffix ∈ suffixes, (suffix.head?.all fun next => next ∉ marks) = true := by decide
    simpa [Option.all_eq_true] using unmarked suffix isType
  | cons next rest =>
    intro _ isFirst isMark
    obtain rfl := Option.mem_some.mp isFirst
    have stops : ∀ mark ∈ marks, Lexeme.continuesDecimal mark = false :=
      List.all_iff_forall_prop.mp (by decide)
    exact Bool.false_ne_true ((stops next isMark).symm.trans (each next List.mem_cons_self))

/-- The digits of a decimal literal go on up to the type, which is no fraction and no exponent. -/
theorem decimalLength?_append {first : Char} (isDigit : first.isDigit = true) {rest suffix : List Char}
    (each : ∀ char ∈ rest, Lexeme.continuesDecimal char = true) (isType : suffix ∈ suffixes) :
    Numeral.decimalLength? (first :: (rest ++ suffix)) = some (first :: rest).length := by
  have stops : ∀ suffix ∈ suffixes, Lexeme.run Lexeme.continuesDecimal suffix = 0 ∧ Lexeme.fraction suffix = 0 ∧
      Lexeme.exponent suffix = 0 := by
    decide
  obtain ⟨noDigit, noFraction, noExponent⟩ := stops suffix isType
  have counted : 1 + Lexeme.run Lexeme.continuesDecimal (rest ++ suffix) = (first :: rest).length := by
    rw [Lexeme.run_append_of_forall each, noDigit, List.length_cons]
    omega
  have behind : (first :: (rest ++ suffix)).drop (first :: rest).length = suffix := List.drop_left
  simp only [Numeral.decimalLength?, isDigit, if_true, counted, behind, noFraction, noExponent, Nat.add_zero]

variable (literal : IntegerLiteral)

theorem digits_ne_nil : literal.digits ≠ [] := by
  obtain ⟨digit, written, -⟩ := literal.exists_digit
  exact List.ne_nil_of_mem written

/-- A decimal literal begins with a digit, and digits and underscores follow. -/
theorem exists_decimal_digits (decimal : literal.radix = .decimal) :
    ∃ first rest, literal.digits = first :: rest ∧ first.isDigit = true ∧
      ∀ char ∈ rest, Lexeme.continuesDecimal char = true := by
  obtain ⟨first, rest, same⟩ := List.exists_cons_of_ne_nil literal.digits_ne_nil
  have each := literal.digits_mem
  rw [same, decimal, List.forall_mem_cons] at each
  have noUnderscore : first ≠ '_' := by simpa [same] using literal.head_ne decimal
  have digit : ∀ char ∈ Radix.decimal.digits, char.isDigit = true := List.all_eq_true.mp (by decide)
  refine ⟨first, rest, same, digit first (each.1.resolve_left noUnderscore), fun char written => ?_⟩
  rcases each.2 char written with rfl | isDigit
  · rfl
  · simp [Lexeme.continuesDecimal, digit char isDigit]

theorem bare?_of_mark {mark : Char} (isMark : mark ∈ marks) (marked : literal.radix.mark = ['0', mark])
    (digits : ∀ char ∈ literal.radix.digits, Numeral.isRadixDigit mark char = true) :
    Numeral.bare? (literal.bare ++ literal.suffix) = some literal.bare := by
  have each : ∀ char ∈ literal.digits, Numeral.isRadixDigit mark char = true := by
    intro char written
    rcases literal.digits_mem char written with rfl | isDigit
    · rfl
    · exact digits char isDigit
  have length : Numeral.radixLength? (literal.bare ++ literal.suffix) = some literal.bare.length := by
    rw [bare, marked]
    exact radixLength?_append isMark each literal.digits_ne_nil literal.suffix_mem
  rw [Numeral.bare?, length, Option.bind_some, cutAt_length (mem_types_of_mem_suffixes literal.suffix_mem), Option.some_or]

/-- Of a literal as it is written, what stands before the type is read. -/
theorem bare?_text : Numeral.bare? literal.text.toList = some literal.bare := by
  have hexadecimal : ∀ char ∈ Radix.hexadecimal.digits, Numeral.isRadixDigit 'x' char = true :=
    List.all_eq_true.mp (by decide)
  have octal : ∀ char ∈ Radix.octal.digits, Numeral.isRadixDigit 'o' char = true := List.all_eq_true.mp (by decide)
  have binary : ∀ char ∈ Radix.binary.digits, Numeral.isRadixDigit 'b' char = true := List.all_eq_true.mp (by decide)
  rw [text, String.toList_ofList]
  cases radix : literal.radix with
  | hexadecimal => exact literal.bare?_of_mark (by decide : 'x' ∈ _) (by rw [radix]; rfl) (by rw [radix]; exact hexadecimal)
  | octal => exact literal.bare?_of_mark (by decide : 'o' ∈ _) (by rw [radix]; rfl) (by rw [radix]; exact octal)
  | binary => exact literal.bare?_of_mark (by decide : 'b' ∈ _) (by rw [radix]; rfl) (by rw [radix]; exact binary)
  | decimal =>
    obtain ⟨first, rest, digits, isDigit, each⟩ := literal.exists_decimal_digits radix
    have written : literal.bare = first :: rest := by rw [bare, radix, digits]; rfl
    rw [written, Numeral.bare?, List.cons_append, radixLength?_decimal first each literal.suffix_mem,
      decimalLength?_append isDigit each literal.suffix_mem, Option.bind_some]
    exact cutAt_length (mem_types_of_mem_suffixes literal.suffix_mem) (first :: rest)

/-! The digits are read -/

theorem mem_digits_of_mem_significant : ∀ digit ∈ literal.significant, digit ∈ literal.radix.digits := by
  intro digit kept
  obtain ⟨written, noUnderscore⟩ := List.mem_filter.mp kept
  exact (literal.digits_mem digit written).resolve_left (by simpa using noUnderscore)

theorem significant_ne_nil : literal.significant ≠ [] := by
  obtain ⟨digit, written, isDigit⟩ := literal.exists_digit
  have noUnderscore : ∀ radix : Radix, '_' ∉ radix.digits := by rintro ⟨⟩ <;> decide
  have kept : digit ≠ '_' := fun same => noUnderscore _ (same ▸ isDigit)
  exact List.ne_nil_of_mem (List.mem_filter.mpr ⟨written, by simpa using kept⟩)

/-- Only underscores are dropped. -/
theorem filter_bare : literal.bare.filter (· ≠ '_') = literal.radix.mark ++ literal.significant := by
  have kept : ∀ radix : Radix, radix.mark.filter (· ≠ '_') = radix.mark := by rintro ⟨⟩ <;> rfl
  rw [bare, List.filter_append, kept, significant]

/-- The digits of a literal without its underscores are read as the number that it denotes. -/
theorem natural?_eq_some (readable : literal.IsReadable) :
    Numeral.natural? (literal.radix.mark ++ literal.significant) = some literal.value := by
  have read := literal.radix.ofDigits?_eq_some literal.mem_digits_of_mem_significant literal.significant_ne_nil
  have each := literal.mem_digits_of_mem_significant
  rw [value]
  cases radix : literal.radix with
  | hexadecimal => rw [radix] at read; exact read
  | octal => rw [radix] at read; exact read
  | binary => rw [radix] at read; exact read
  | decimal =>
    rw [radix] at read each
    have unmarked : ∀ mark ∈ marks, ∀ behind, literal.significant ≠ '0' :: mark :: behind := by
      intro mark isMark behind same
      have noDigit : ∀ mark ∈ marks, mark ∉ Radix.decimal.digits :=
        List.all_iff_forall_prop.mp (by decide)
      exact noDigit mark isMark (each mark (by simp [same]))
    change Numeral.natural? literal.significant = _
    unfold Numeral.natural?
    split
    case h_1 behind same => exact absurd same (unmarked 'x' (by decide) behind)
    case h_2 behind same => exact absurd same (unmarked 'o' (by decide) behind)
    case h_3 behind same => exact absurd same (unmarked 'b' (by decide) behind)
    case h_4 => rw [if_pos (readable radix)]; exact read

/-- A literal without its type is read as the number that it denotes. -/
theorem integer?_bare (readable : literal.IsReadable) : Numeral.integer? literal.bare = some (literal.value : Int) := by
  have unsigned : ∀ behind, literal.radix.mark ++ literal.significant ≠ '-' :: behind := by
    intro behind same
    have noSign : ∀ radix : Radix, '-' ∉ radix.mark ++ radix.digits := by rintro ⟨⟩ <;> decide
    have written : '-' ∈ literal.radix.mark ++ literal.significant := by simp [same]
    refine noSign literal.radix (List.mem_append.mpr ((List.mem_append.mp written).imp_right ?_))
    exact literal.mem_digits_of_mem_significant '-'
  rw [Numeral.integer?, filter_bare]
  split
  case h_1 behind same => exact absurd same (unsigned behind)
  case h_2 => rw [literal.natural?_eq_some readable]; rfl

/-- A minus sign before a literal negates the number. -/
theorem integer?_negated (readable : literal.IsReadable) :
    Numeral.integer? ('-' :: literal.bare) = some (-(literal.value : Int)) := by
  have kept : ('-' :: literal.bare).filter (· ≠ '_') = '-' :: (literal.radix.mark ++ literal.significant) := by
    rw [← filter_bare]
    rfl
  simp only [Numeral.integer?, kept, literal.natural?_eq_some readable]
  rfl

end IntegerLiteral

namespace DefaultValue

/-- Trees spell an integer: they are an integer literal that can be read, or a minus sign and such a literal. -/
inductive SpellsInteger : List TokenTree → Int → Prop
  | literal {number : Leaf} (literal : IntegerLiteral) (isNumber : number.kind = .number)
      (written : number.text = literal.text) (readable : literal.IsReadable) :
      SpellsInteger [.leaf number] literal.value
  | negated {sign number : Leaf} (literal : IntegerLiteral) (isSign : sign.text = Punctuation.minus.text)
      (isNumber : number.kind = .number) (written : number.text = literal.text) (readable : literal.IsReadable) :
      SpellsInteger [.leaf sign, .leaf number] (-literal.value)

/-- A literal is rendered without its type. -/
theorem renderNumber_text (literal : IntegerLiteral) :
    renderNumber literal.text = some (String.ofList literal.bare) := by
  rw [renderNumber, literal.bare?_text, Option.map_some]

/-- The integer that trees spell is read from them. -/
theorem integer?_of_spells {trees : List TokenTree} {value : Int} (spells : SpellsInteger trees value) :
    integer? trees = some value := by
  cases spells with
  | literal literal isNumber written readable =>
    simp only [integer?, render, renderLeaf, isNumber, written, renderNumber_text, Option.bind_some, String.toList_ofList]
    exact literal.integer?_bare readable
  | negated literal isSign isNumber written readable =>
    have sign : ("-" ++ String.ofList literal.bare).toList = '-' :: literal.bare := by
      simp [String.toList_append]
    simp only [integer?, render, isSign, isNumber, written, renderNumber_text, Punctuation.text, decide_true, Bool.and_self,
      if_true, Option.map_some, Option.bind_some, sign]
    exact literal.integer?_negated readable

end DefaultValue

end Exposure
