import Exposure.Proofs.Continuation
import Exposure.Proofs.Wording

/-!
The words of a text: its tokens without their places. A word of a lexed text is lexed as itself in front of any text that
begins with a break.
-/

namespace Exposure

/-- A token without its places. -/
abbrev Word := Terminal × String

namespace Word

/-- The word of a mark. -/
def mark (punctuation : Punctuation) : Word := (.mark punctuation, punctuation.text)

/-- A reserved word. -/
def reserved (keyword : Keyword) : Word := (.word keyword, keyword.text)

/-- The word of a name. -/
def ident (name : String) : Word := (.ident, name)

/-- The word of a lifetime. -/
def lifetime (name : String) : Word := (.lifetime, name)

/-- The word of a number. -/
def number (text : String) : Word := (.number, text)

/-- A mark or a reserved word is spelled as it should be, and a name, a lifetime or a number is one to its end. -/
def IsGenuine : Word → Prop
  | (.mark punctuation, text) => text = punctuation.text
  | (.word keyword, text) => text = keyword.text
  | (.ident, text) => Lexeme.ident? text.toList = some text.length ∧ Keyword.ofText? text = none
  | (.lifetime, text) => Lexeme.lifetime? text.toList = some text.length
  | (.number, text) => Lexeme.number? text.toList = some text.length
  | _ => True

/-- A word of letters and digits, or a lifetime. -/
def isText (word : Word) : Bool :=
  match word.1 with
  | .ident | .number | .lifetime | .word _ => true
  | _ => false

end Word

/-- The word of a token. -/
def Token.word (token : Token) : Word := (token.terminal, token.text)

namespace Lexeme

/-! Cutting a text behind a lexeme -/

theorem run_of_append {kind : Char → Bool} {before more : List Char} (all : before.length ≤ run kind (before ++ more)) :
    run kind before = before.length := by
  have inside : ∀ char ∈ before, kind char = true := by
    have := mem_of_le_run all
    rwa [List.take_left] at this
  rw [run, List.takeWhile_eq_self_iff.mpr inside]

/-- A length measured at the beginning of a text is found in any beginning of the text that is as long. -/
def Truncates (measure : List Char → Nat) : Prop :=
  ∀ before more : List Char, measure (before ++ more) ≤ before.length → measure before = measure (before ++ more)

theorem truncates_run (kind : Char → Bool) : Truncates (run kind) := by
  intro before more fits
  induction before with
  | nil => exact (Nat.le_zero.mp fits).symm
  | cons first rest step =>
    rw [List.cons_append, run_cons] at fits ⊢
    rw [run_cons]
    split
    · rename_i ofKind
      rw [if_pos ofKind, List.length_cons] at fits
      rw [step (Nat.le_of_succ_le_succ fits)]
    · rfl

theorem truncates_fraction : Truncates fraction := by
  intro before more fits
  match before with
  | [] => exact (Nat.le_zero.mp fits).symm
  | [point] =>
    by_cases isPoint : point = '.'
    · subst isPoint
      cases more with
      | nil => rfl
      | cons first more =>
        by_cases digit : first.isDigit = true
        · simp only [List.cons_append, List.nil_append, fraction, digit, ↓reduceIte, List.length_singleton] at fits
          omega
        · simp [fraction, digit]
    · simp [fraction, isPoint]
  | point :: first :: rest =>
    by_cases isPoint : point = '.'
    · subst isPoint
      by_cases digit : first.isDigit = true
      · simp only [List.cons_append, fraction, digit, ↓reduceIte, List.length_cons] at fits ⊢
        rw [truncates_run continuesDecimal _ _ (show run continuesDecimal (rest ++ more) ≤ rest.length by omega)]
      · simp [fraction, digit]
    · simp [fraction, isPoint]

/-- The length of an exponent behind so many characters, given what follows them. -/
def exponentDigits (marked : Nat) (rest : List Char) : Nat :=
  if 0 < run continuesDecimal rest then marked + run continuesDecimal rest else 0

/-- The signs of an exponent. -/
def isSign (char : Char) : Bool := char = '+' || char = '-'

theorem exponent_sign {letter sign : Char} (isLetter : (letter = 'e' || letter = 'E') = true) (signed : isSign sign = true)
    (rest : List Char) : exponent (letter :: sign :: rest) = exponentDigits 2 rest := by
  simp only [isSign, Bool.or_eq_true, decide_eq_true_eq] at signed
  rcases signed with rfl | rfl <;> simp only [exponent, isLetter, ↓reduceIte] <;> rfl

theorem exponent_unsigned {letter : Char} (isLetter : (letter = 'e' || letter = 'E') = true) {rest : List Char}
    (unsigned : ∀ sign ∈ rest.head?, isSign sign = false) : exponent (letter :: rest) = exponentDigits 1 rest := by
  cases rest with
  | nil => simp [exponent, exponentDigits]
  | cons sign rest =>
    have other := unsigned sign rfl
    simp only [isSign, Bool.or_eq_false_iff, decide_eq_false_iff_not] at other
    simp [exponent, exponentDigits, isLetter, other.1, other.2]

theorem exponent_of_no_letter {letter : Char} (noLetter : ¬(letter = 'e' || letter = 'E') = true) (rest : List Char) :
    exponent (letter :: rest) = 0 := by
  simp only [exponent, noLetter]
  rfl

theorem exponentDigits_of_append {marked : Nat} {before more : List Char}
    (fits : exponentDigits marked (before ++ more) ≤ marked + before.length) :
    exponentDigits marked before = exponentDigits marked (before ++ more) := by
  have inside : run continuesDecimal (before ++ more) ≤ before.length := by
    unfold exponentDigits at fits
    split at fits <;> omega
  rw [exponentDigits, exponentDigits, truncates_run continuesDecimal _ _ inside]

theorem truncates_exponent : Truncates exponent := by
  intro before more fits
  match before with
  | [] => exact (Nat.le_zero.mp fits).symm
  | letter :: rest =>
    by_cases isLetter : (letter = 'e' || letter = 'E') = true
    · by_cases unsigned : ∀ sign ∈ (rest ++ more).head?, isSign sign = false
      · have first : ∀ sign ∈ rest.head?, isSign sign = false := by
          intro sign member
          obtain ⟨others, rfl⟩ := List.head?_eq_some_iff.mp member
          exact unsigned sign rfl
        rw [List.cons_append, exponent_unsigned isLetter unsigned] at fits ⊢
        rw [exponent_unsigned isLetter first]
        exact exponentDigits_of_append (by rwa [Nat.add_comm])
      · push Not at unsigned
        obtain ⟨sign, member, signed⟩ := unsigned
        rw [ne_eq, Bool.not_eq_false] at signed
        cases rest with
        | cons first rest =>
          obtain rfl : first = sign := Option.some.inj member
          rw [List.cons_append, List.cons_append, exponent_sign isLetter signed] at fits ⊢
          rw [exponent_sign isLetter signed]
          exact exponentDigits_of_append (by rwa [Nat.add_comm 2])
        | nil =>
          obtain ⟨others, rfl⟩ := List.head?_eq_some_iff.mp member
          rw [List.singleton_append, exponent_sign isLetter signed] at fits ⊢
          rw [exponent_unsigned isLetter (by simp)]
          unfold exponentDigits at fits ⊢
          split at fits
          · rw [List.length_singleton] at fits
            omega
          · rename_i nothing
            rw [if_neg nothing]
            rfl
    · rw [List.cons_append, exponent_of_no_letter isLetter, exponent_of_no_letter isLetter]

theorem decimalNumber?_of_append {number more : List Char} (proper : number ≠ [])
    (found : decimalNumber? (number ++ more) = some number.length) : decimalNumber? number = some number.length := by
  obtain ⟨first, rest, rfl⟩ := List.exists_cons_of_ne_nil proper
  rw [List.cons_append] at found
  simp only [decimalNumber?, Option.ite_none_right_eq_some, Option.some.injEq] at found ⊢
  obtain ⟨digit, total⟩ := found
  refine ⟨digit, ?_⟩
  rw [← List.cons_append] at total
  have inside : run continuesDecimal (rest ++ more) ≤ rest.length := by
    rw [List.length_cons] at total
    omega
  rw [truncates_run continuesDecimal _ _ inside]
  generalize 1 + run continuesDecimal (rest ++ more) = whole at total ⊢
  have fits : whole ≤ (first :: rest).length := by omega
  rw [List.drop_append_of_le_length fits] at total
  rw [truncates_fraction ((first :: rest).drop whole) more (by rw [List.length_drop]; omega)]
  generalize whole + fraction ((first :: rest).drop whole ++ more) = fractional at total ⊢
  have fits : fractional ≤ (first :: rest).length := by omega
  rw [List.drop_append_of_le_length fits] at total
  rw [truncates_exponent ((first :: rest).drop fractional) more (by rw [List.length_drop]; omega)]
  generalize fractional + exponent ((first :: rest).drop fractional ++ more) = scaled at total ⊢
  have fits : scaled ≤ (first :: rest).length := by omega
  rw [List.drop_append_of_le_length fits] at total
  rw [truncates_run continuesIdent ((first :: rest).drop scaled) more (by rw [List.length_drop]; omega)]
  exact total

theorem radixNumber?_append {number : List Char} (found : (radixNumber? number).isSome = true) (more : List Char) :
    (radixNumber? (number ++ more)).isSome = true := by
  match number with
  | zero :: radix :: first :: rest =>
    by_cases isZero : zero = '0'
    · subst isZero
      simp only [List.cons_append, radixNumber?, Option.isSome_ite] at found ⊢
      exact found
    · simp [radixNumber?, isZero] at found
  | [] => cases found
  | [zero] => simp [radixNumber?] at found
  | [zero, radix] => simp [radixNumber?] at found

theorem radixNumber?_of_append {number more : List Char}
    (found : radixNumber? (number ++ more) = some number.length) : radixNumber? number = some number.length := by
  match number with
  | zero :: radix :: first :: rest =>
    by_cases isZero : zero = '0'
    · subst isZero
      simp only [List.cons_append, radixNumber?, Option.ite_none_right_eq_some, Option.some.injEq, List.length_cons] at found ⊢
      refine ⟨found.1, ?_⟩
      rw [truncates_run continuesIdent _ _ (show run continuesIdent (rest ++ more) ≤ rest.length by omega)]
      exact found.2
    · simp [radixNumber?, isZero] at found
  | [] | [_] | [_, _] =>
    unfold radixNumber? at found
    split at found
    · simp only [Option.ite_none_right_eq_some, Option.some.injEq, List.length_cons, List.length_nil] at found
      omega
    · cases found

/-- A number is one without what follows it. -/
theorem number?_of_append {number more : List Char} (proper : number ≠ [])
    (found : number? (number ++ more) = some number.length) : number? number = some number.length := by
  rcases Option.or_eq_some_iff.mp found with radix | ⟨noRadix, decimal⟩
  · rw [number?, radixNumber?_of_append radix, Option.some_or]
  · have absent : radixNumber? number = none := by
      by_contra present
      have present := radixNumber?_append (Option.isSome_iff_ne_none.mpr present) more
      simp [noRadix] at present
    rw [number?, absent, Option.none_or, decimalNumber?_of_append proper decimal]

theorem plainIdent?_pos {input : List Char} {length : Nat} (found : plainIdent? input = some length) : 0 < length := by
  cases input with
  | nil => cases found
  | cons first rest =>
    simp only [plainIdent?, Option.ite_none_right_eq_some, Option.some.injEq] at found
    omega

theorem plainIdent?_of_append {name more : List Char} (proper : name ≠ []) {length : Nat}
    (found : plainIdent? (name ++ more) = some length) (fits : name.length ≤ length) :
    plainIdent? name = some name.length := by
  obtain ⟨first, rest, rfl⟩ := List.exists_cons_of_ne_nil proper
  simp only [List.cons_append, plainIdent?, Option.ite_none_right_eq_some, Option.some.injEq] at found ⊢
  rw [List.length_cons] at fits ⊢
  have all : rest.length ≤ run continuesIdent (rest ++ more) := by omega
  exact ⟨found.1, by rw [run_of_append all, Nat.add_comm]⟩

/-- An identifier is one without what follows it. -/
theorem ident?_of_append {name more : List Char} (proper : name ≠ [])
    (found : ident? (name ++ more) = some name.length) : ident? name = some name.length := by
  have raw (rest : List Char) : ident? ('r' :: '#' :: rest) = ((plainIdent? rest).map (2 + ·)).or (some 1) := by
    simp [ident?, plainIdent?, beginsIdent, run_cons, continuesIdent]
  have plain (noMark : ∀ rest, name ++ more ≠ 'r' :: '#' :: rest) : ident? name = some name.length := by
    rw [ident?_eq_plainIdent? noMark] at found
    rw [ident?_eq_plainIdent? fun rest same => noMark (rest ++ more) (by rw [same]; rfl)]
    exact plainIdent?_of_append proper found (Nat.le_refl _)
  by_cases marked : ∃ rest, name ++ more = 'r' :: '#' :: rest
  · obtain ⟨rest, same⟩ := marked
    rcases name with _ | ⟨letter, _ | ⟨hash, others⟩⟩
    · exact absurd rfl proper
    · obtain ⟨rfl, -⟩ := List.cons.inj same
      rfl
    · obtain ⟨rfl, behind⟩ := List.cons.inj same
      obtain ⟨rfl, rfl⟩ := List.cons.inj behind
      rw [same, raw] at found
      rw [raw]
      cases name : plainIdent? (others ++ more) with
      | none => simp [name] at found
      | some length =>
        simp only [List.append_eq, name, Option.map_some, Option.some_or, Option.some.injEq, List.length_cons] at found
        obtain rfl : length = others.length := by omega
        have inside : others ≠ [] := by
          rintro rfl
          exact absurd (plainIdent?_pos name) (Nat.lt_irrefl 0)
        rw [plainIdent?_of_append inside name (Nat.le_refl _), Option.map_some, Option.some_or, List.length_cons, List.length_cons]
        congr 1
  · exact plain fun rest same => marked ⟨rest, same⟩

/-- A lifetime is one without what follows it. -/
theorem lifetime?_of_append {name more : List Char} (proper : name ≠ [])
    (found : lifetime? (name ++ more) = some name.length) : lifetime? name = some name.length := by
  obtain ⟨first, rest, rfl⟩ := List.exists_cons_of_ne_nil proper
  by_cases quote : first = '\''
  · subst quote
    simp only [List.cons_append, lifetime?, Option.bind_eq_some_iff, List.length_cons] at found
    obtain ⟨length, ident, taken⟩ := found
    have positive := plainIdent?_pos ident
    have fits : rest.length ≤ length ∧ rest ≠ [] := by
      split at taken
      · simp only [Option.ite_none_right_eq_some, Option.some.injEq] at taken
        exact ⟨by omega, List.ne_nil_of_length_pos (by omega)⟩
      · have := Option.some.inj taken
        exact ⟨by omega, List.ne_nil_of_length_pos (by omega)⟩
    simp [lifetime?, plainIdent?_of_append fits.2 ident fits.1, Nat.add_comm]
  · rw [List.cons_append, lifetime?_of_ne _ quote] at found
    cases found

/-- A lexeme of the class of lifetimes is a lifetime, and none has the class of a reserved word. -/
theorem first?_unresolved {input : List Char} {terminal : Terminal} {length : Nat}
    (found : first? input = some (some terminal, length)) :
    (terminal = .lifetime → lifetime? input = some length) ∧ ∀ keyword, terminal ≠ .word keyword := by
  obtain ⟨candidate, member, same⟩ := List.exists_of_findSome?_eq_some found
  simp only [classes, List.mem_cons, List.not_mem_nil, or_false] at member
  rcases member with rfl | rfl | rfl | rfl | rfl | rfl | rfl | rfl | rfl | rfl | rfl
  all_goals
    obtain ⟨_, ofClass, same⟩ := Option.map_eq_some_iff.mp same
    cases same
  case inr.inr.inr.inr.inr.inr.inl => exact ⟨fun _ => ofClass, fun _ => Terminal.noConfusion⟩
  all_goals exact ⟨Terminal.noConfusion, fun _ => Terminal.noConfusion⟩

theorem genuine_of_first? {text : List Char} {terminal : Terminal} {length : Nat}
    (found : first? text = some (some terminal, length + 1)) {position : Position} {token : Token}
    (same : token? ⟨some terminal, text.take (length + 1), position⟩ = some token) : token.word.IsGenuine := by
  cases same
  have size : (text.take (length + 1)).length = length + 1 := List.length_take_of_le (first?_le found)
  have proper : text.take (length + 1) ≠ [] := List.ne_nil_of_length_pos (by omega)
  have whole : text.take (length + 1) ++ text.drop (length + 1) = text := List.take_append_drop _ _
  have cut {class? : List Char → Option Nat}
      (ofAppend : ∀ {front more}, front ≠ [] → class? (front ++ more) = some front.length → class? front = some front.length)
      (ofClass : class? text = some (length + 1)) :
      class? (String.ofList (text.take (length + 1))).toList = some (String.ofList (text.take (length + 1))).length := by
    rw [String.toList_ofList, String.length_ofList]
    exact ofAppend proper (by rw [whole, size, ofClass])
  cases terminal with
  | mark punctuation =>
    obtain ⟨isMark, same⟩ := first?_mark found
    obtain ⟨behind, rfl⟩ := ofText?_prefix isMark
    rw [same, ← String.length_toList]
    exact (congrArg String.ofList (List.take_left' rfl)).trans (String.ofList_toList)
  | word keyword => exact absurd rfl ((first?_unresolved found).2 keyword)
  | number => exact cut number?_of_append ((first?_word found).2 rfl)
  | lifetime => exact cut lifetime?_of_append ((first?_unresolved found).1 rfl)
  | ident =>
    have ident := cut ident?_of_append ((first?_word found).1 rfl)
    cases reserved : Keyword.ofText? (String.ofList (text.take (length + 1))) with
    | none =>
      simp only [Token.word, reserved, Option.map_none, Option.getD_none]
      exact ⟨ident, reserved⟩
    | some keyword =>
      simp only [Token.word, reserved, Option.map_some, Option.getD_some]
      exact (of_decide_eq_true (List.find?_some reserved : _)).symm
  | _ => trivial

/-- The words of a lexed text are genuine. -/
theorem isGenuine_of_pieces {text rest : List Char} {pieces : List Piece} (covers : Pieces text pieces rest)
    (position : Position) : ∀ token ∈ tokensFrom position pieces, token.word.IsGenuine := by
  induction covers generalizing position with
  | nil => nofun
  | @cons text kind length others rest first behind step =>
    intro token member
    rw [tokensFrom_cons] at member
    rcases List.mem_append.mp member with here | later
    · rw [Option.mem_toList] at here
      cases kind with
      | none => cases here
      | some terminal => exact genuine_of_first? first here
    · exact step _ token later

end Lexeme

end Exposure
