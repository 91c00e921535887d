import Exposure.Proofs.Naming
import Mathlib

/-!
# Names in other cases

A rule cuts a name into words and writes the words with or without separators and in some case. Words in lower case with a
separator between them are cut into the same words again, so that no rule sees whether a name has been written like that
before. The letters of a name stay whatever the rule is, but for their case.
-/

namespace Exposure

namespace Text.LetterCase

/-- Every character of a text is ASCII. -/
def AllAscii (text : List Char) : Prop := ∀ char ∈ text, isAscii char = true

theorem isAscii_toLower {char : Char} (ascii : isAscii char = true) : isAscii char.toLower = true := by
  by_cases upper : char.isUpper = true
  · simp only [isAscii, Char.isUpper, UInt32.le_iff_toNat_le, decide_eq_true_eq] at ascii upper ⊢
    rw [Char.toLower_eq_of_isUpper (by simpa [Char.isUpper, UInt32.le_iff_toNat_le] using upper)]
    have valid : (char.toNat + 32).isValidChar := by
      left
      omega
    have bound : char.toNat ≤ 90 := upper.2
    rw [Char.toNat_ofNat, if_pos valid]
    omega
  · rwa [Char.toLower_eq_of_not_isUpper upper]

theorem isAscii_toUpper {char : Char} (ascii : isAscii char = true) : isAscii char.toUpper = true := by
  by_cases lower : char.isLower = true
  · simp only [isAscii, decide_eq_true_eq] at ascii ⊢
    rw [Char.toUpper_eq_of_isLower lower]
    have valid : (char.toNat - 32).isValidChar := by
      left
      omega
    rw [Char.toNat_ofNat, if_pos valid]
    omega
  · rwa [Char.toUpper_eq_of_not_isLower lower]

theorem lowerFrom_ascii {text : List Char} (ascii : AllAscii text) (before : List Char) :
    lowerFrom before text = text.map Char.toLower := by
  induction text generalizing before with
  | nil => rfl
  | cons first rest step =>
    obtain ⟨ofFirst, ofRest⟩ := List.forall_mem_cons.mp ascii
    rw [lowerFrom, lowerChar, if_pos ofFirst, step ofRest, List.map_cons, List.singleton_append]

theorem lower_ascii {text : List Char} (ascii : AllAscii text) : lower text = text.map Char.toLower :=
  lowerFrom_ascii ascii []

theorem upper_ascii {text : List Char} (ascii : AllAscii text) : upper text = text.map Char.toUpper := by
  induction text with
  | nil => rfl
  | cons first rest step =>
    obtain ⟨ofFirst, ofRest⟩ := List.forall_mem_cons.mp ascii
    rw [upper, List.flatMap_cons, upperChar, if_pos ofFirst, ← upper, step ofRest, List.map_cons, List.singleton_append]

theorem capitalize_ascii {first : Char} {rest : List Char} (ascii : AllAscii (first :: rest)) :
    capitalize (first :: rest) = first.toUpper :: rest.map Char.toLower := by
  obtain ⟨ofFirst, ofRest⟩ := List.forall_mem_cons.mp ascii
  rw [capitalize, titleChar, if_pos ofFirst, lowerFrom_ascii ofRest, List.singleton_append]

end Text.LetterCase

namespace RenameRule

open Text.LetterCase

/-- The letters of a name in lower case, without the characters between its words. -/
def letters (name : List Char) : List Char := Text.LetterCase.lower (name.filter (!isSeparator ·))

/-- A word as it is cut from a name: it has a character, and neither a separator nor a capital. -/
structure IsWord (word : List Char) : Prop where
  proper : word ≠ []
  ascii : AllAscii word
  inside : ∀ char ∈ word, isSeparator char = false
  small : ∀ char ∈ word, char.isUpper = false

theorem IsWord.map_toLower {word : List Char} (ofWord : IsWord word) : word.map Char.toLower = word := by
  refine (List.map_congr_left fun char inside => ?_).trans word.map_id
  exact Char.toLower_eq_of_not_isUpper (by simp [ofWord.small char inside])

/-! Characters -/

theorem isSeparator_of_isAlpha {char : Char} (alpha : char.isAlpha = true) : isSeparator char = false := by
  by_contra separates
  simp only [isSeparator, Bool.or_eq_true, decide_eq_true_eq, Bool.not_eq_false] at separates
  obtain rfl | rfl := separates <;> exact absurd alpha (by decide)

theorem isSeparator_toLower (char : Char) : isSeparator char.toLower = isSeparator char := by
  by_cases alpha : char.isAlpha = true
  · rw [isSeparator_of_isAlpha alpha, isSeparator_of_isAlpha (by rwa [Char.isAlpha_toLower_eq_isAlpha])]
  · rw [Char.toLower_eq_of_not_isUpper (by simp_all [Char.isAlpha])]

theorem isSeparator_toUpper (char : Char) : isSeparator char.toUpper = isSeparator char := by
  by_cases alpha : char.isAlpha = true
  · rw [isSeparator_of_isAlpha alpha, isSeparator_of_isAlpha (by rwa [Char.isAlpha_toUpper_eq_isAlpha])]
  · rw [Char.toUpper_eq_of_not_isLower (by simp_all [Char.isAlpha])]

/-! Cutting -/

/-- There is no boundary in a text without capitals. -/
theorem markBoundaries_eq_self {text : List Char} (small : ∀ char ∈ text, char.isUpper = false) :
    markBoundaries text = text := by
  fun_induction markBoundaries text with
  | case1 first second rest boundary step => simp [isBoundary, small second (by simp)] at boundary
  | case2 first second rest inside step => rw [step (List.forall_mem_cons.mp small).2]
  | case3 => rfl

/-- The marks at the boundaries are separators, and everything else stays. -/
theorem filter_markBoundaries (text : List Char) :
    (markBoundaries text).filter (!isSeparator ·) = text.filter (!isSeparator ·) := by
  fun_induction markBoundaries text with
  | case1 first second rest boundary step =>
    have mark : ∀ rest, List.filter (!isSeparator ·) ('_' :: rest) = rest.filter (!isSeparator ·) := fun rest => rfl
    rw [List.filter_cons, mark, step, @List.filter_cons _ first]
  | case2 first second rest inside step => rw [List.filter_cons, step, @List.filter_cons _ first]
  | case3 => rfl

theorem allAscii_markBoundaries {text : List Char} (ascii : AllAscii text) : AllAscii (markBoundaries text) := by
  fun_induction markBoundaries text with
  | case1 first second rest boundary step =>
    obtain ⟨ofFirst, ofRest⟩ := List.forall_mem_cons.mp ascii
    exact List.forall_mem_cons.mpr ⟨ofFirst, List.forall_mem_cons.mpr ⟨by rfl, step ofRest⟩⟩
  | case2 first second rest inside step =>
    obtain ⟨ofFirst, ofRest⟩ := List.forall_mem_cons.mp ascii
    exact List.forall_mem_cons.mpr ⟨ofFirst, step ofRest⟩
  | case3 => exact ascii

theorem flatten_splitOnP (text : List Char) : (text.splitOnP isSeparator).flatten = text.filter (!isSeparator ·) := by
  induction text with
  | nil => rfl
  | cons first rest step =>
    rw [List.splitOnP_cons_eq_if_modifyHead]
    obtain ⟨head, tail, parts⟩ := List.exists_cons_of_ne_nil (List.splitOnP_ne_nil isSeparator rest)
    rw [parts] at step ⊢
    cases separates : isSeparator first with
    | true => simpa [separates] using step
    | false => simpa [separates] using step

theorem mem_of_mem_splitOnP {text part : List Char} (member : part ∈ text.splitOnP isSeparator) :
    ∀ char ∈ part, char ∈ text ∧ isSeparator char = false := by
  intro char inside
  have flat : char ∈ (text.splitOnP isSeparator).flatten := List.mem_flatten.mpr ⟨part, member, inside⟩
  rw [flatten_splitOnP] at flat
  simpa using List.mem_filter.mp flat

/-- Words with separators between them are cut into those words. -/
theorem splitOnP_intercalate {separator : Char} (separates : isSeparator separator = true) {parts : List (List Char)}
    (some : parts ≠ []) (each : ∀ part ∈ parts, IsWord part) :
    ([separator].intercalate parts).splitOnP isSeparator = parts := by
  induction parts with
  | nil => exact absurd rfl some
  | cons first rest step =>
    obtain ⟨ofFirst, ofRest⟩ := List.forall_mem_cons.mp each
    cases rest with
    | nil => simpa using List.splitOnP_eq_singleton ofFirst.inside
    | cons second others =>
      rw [List.intercalate_cons_cons, List.append_assoc, List.singleton_append,
        List.splitOnP_append_cons_of_forall_mem ofFirst.inside _ separates, step (List.cons_ne_nil _ _) ofRest]

/-! The words of a name -/

section Words

variable {name : List Char}

theorem words_ascii (ascii : AllAscii name) :
    words name =
      (((markBoundaries name).splitOnP isSeparator).filter (!·.isEmpty)).map (List.map Char.toLower) := by
  apply List.map_congr_left
  intro part member
  have inside := mem_of_mem_splitOnP (List.mem_filter.mp member).1
  exact lower_ascii fun char ofPart => allAscii_markBoundaries ascii char (inside char ofPart).1

theorem isWord_of_mem_words (ascii : AllAscii name) {word : List Char} (member : word ∈ words name) : IsWord word := by
  have proper := ne_nil_of_mem_words member
  rw [words_ascii ascii] at member
  obtain ⟨part, cut, rfl⟩ := List.mem_map.mp member
  have inside := mem_of_mem_splitOnP (List.mem_filter.mp cut).1
  refine ⟨proper, ?ascii, ?inside, ?small⟩ <;> simp only [AllAscii, List.forall_mem_map]
  case ascii => exact fun char ofPart => isAscii_toLower (allAscii_markBoundaries ascii char (inside char ofPart).1)
  case inside => exact fun char ofPart => (isSeparator_toLower char).trans (inside char ofPart).2
  case small => exact fun char _ => Char.isUpper_toLower_eq_false char

/-- The words of a name are its letters. -/
theorem flatten_words (ascii : AllAscii name) :
    (words name).flatten = (name.filter (!isSeparator ·)).map Char.toLower := by
  rw [words_ascii ascii, ← List.map_flatten, List.flatten_filter_not_isEmpty, flatten_splitOnP, filter_markBoundaries]

end Words

section Joined

variable {separator : Char} {parts : List (List Char)}

/-- What holds of a separator and of every character of the parts holds throughout a text of parts with separators. -/
theorem forall_mem_intercalate {property : Char → Prop} (ofSeparator : property separator)
    (ofParts : ∀ part ∈ parts, ∀ char ∈ part, property char) :
    ∀ char ∈ [separator].intercalate parts, property char := by
  induction parts with
  | nil => exact fun char member => absurd member List.not_mem_nil
  | cons first rest step =>
    obtain ⟨ofFirst, ofRest⟩ := List.forall_mem_cons.mp ofParts
    cases rest with
    | nil => simpa using ofFirst
    | cons second others =>
      rw [List.intercalate_cons_cons]
      simp only [List.forall_mem_append, List.forall_mem_singleton]
      exact ⟨⟨ofFirst, ofSeparator⟩, step ofRest⟩

/-- Separators that do not count change nothing. -/
theorem filter_intercalate {counts : Char → Bool} (drop : counts separator = false) :
    ([separator].intercalate parts).filter counts = parts.flatten.filter counts := by
  induction parts with
  | nil => rfl
  | cons first rest step =>
    cases rest with
    | nil => simp
    | cons second others =>
      rw [List.intercalate_cons_cons, List.filter_append, List.filter_append, step,
        List.filter_cons_of_neg (by simp [drop]), List.filter_nil, List.append_nil, ← List.filter_append,
        ← List.flatten_cons]

variable (separates : isSeparator separator = true) (each : ∀ part ∈ parts, IsWord part)

include separates each

/-- Words with separators between them have those words. -/
theorem words_intercalate (some : parts ≠ []) : words ([separator].intercalate parts) = parts := by
  have small : ∀ char ∈ [separator].intercalate parts, char.isUpper = false := by
    refine forall_mem_intercalate ?_ fun part member => (each part member).small
    simp only [isSeparator, Bool.or_eq_true, decide_eq_true_eq] at separates
    obtain rfl | rfl := separates <;> rfl
  have proper : parts.filter (!·.isEmpty) = parts :=
    List.filter_eq_self.mpr fun part member => by simpa using (each part member).proper
  have same : ∀ part ∈ parts, Text.LetterCase.lower part = part := fun part member =>
    (lower_ascii (each part member).ascii).trans (each part member).map_toLower
  rw [words, markBoundaries_eq_self small, splitOnP_intercalate separates some each, proper]
  exact (List.map_congr_left same).trans parts.map_id

end Joined

/-! Letters -/

/-- The letters of an ASCII name. -/
def plain (name : List Char) : List Char := (name.filter (!isSeparator ·)).map Char.toLower

theorem letters_ascii {name : List Char} (ascii : AllAscii name) : letters name = plain name :=
  lower_ascii fun char member => ascii char (List.mem_filter.mp member).1

theorem plain_append (front behind : List Char) : plain (front ++ behind) = plain front ++ plain behind := by
  rw [plain, List.filter_append, List.map_append, plain, plain]

theorem plain_flatten (parts : List (List Char)) : plain parts.flatten = (parts.map plain).flatten := by
  induction parts with
  | nil => rfl
  | cons first rest step => rw [List.flatten_cons, plain_append, step, List.map_cons, List.flatten_cons]

theorem plain_word {word : List Char} (ofWord : IsWord word) : plain word = word := by
  have all : word.filter (!isSeparator ·) = word :=
    List.filter_eq_self.mpr fun char member => by simp [ofWord.inside char member]
  rw [plain, all, ofWord.map_toLower]

/-- A change of characters that keeps separators and lower case keeps the letters of a name. -/
theorem plain_map {change : Char → Char} (separators : ∀ char, isSeparator (change char) = isSeparator char)
    (small : ∀ char, (change char).toLower = char.toLower) (name : List Char) : plain (name.map change) = plain name := by
  have inside : (fun char : Char => !isSeparator char) ∘ change = (!isSeparator ·) :=
    funext fun char => congrArg not (separators char)
  have same : Char.toLower ∘ change = Char.toLower := funext small
  rw [plain, List.filter_map, inside, List.map_map, same, plain]

/-- The case of a name does not matter for its letters. -/
theorem plain_map_toUpper (name : List Char) : plain (name.map Char.toUpper) = plain name :=
  plain_map isSeparator_toUpper Char.toLower_toUpper_eq_toLower name

theorem plain_map_toLower (name : List Char) : plain (name.map Char.toLower) = plain name :=
  plain_map isSeparator_toLower Char.toLower_toLower_eq_toLower name

theorem plain_capitalize {word : List Char} (ofWord : IsWord word) : plain (capitalize word) = word := by
  cases word with
  | nil => rfl
  | cons first rest =>
    have front : [first].map Char.toUpper = [first.toUpper] := rfl
    rw [capitalize_ascii ofWord.ascii, ← List.singleton_append, plain_append, ← front, plain_map_toUpper,
      plain_map_toLower, ← plain_append, List.singleton_append, plain_word ofWord]

theorem plain_intercalate {separator : Char} (separates : isSeparator separator = true) (parts : List (List Char)) :
    plain ([separator].intercalate parts) = plain parts.flatten := by
  rw [plain, filter_intercalate (by rw [separates]; rfl), plain]

theorem plain_words {parts : List (List Char)} (each : ∀ part ∈ parts, IsWord part) :
    plain parts.flatten = parts.flatten := by
  rw [plain_flatten]
  exact congrArg List.flatten ((List.map_congr_left fun part member => plain_word (each part member)).trans parts.map_id)

theorem plain_capitalized {parts : List (List Char)} (each : ∀ part ∈ parts, IsWord part) :
    plain (parts.map capitalize).flatten = parts.flatten := by
  have same : ∀ part ∈ parts, (plain ∘ capitalize) part = part := fun part member => plain_capitalize (each part member)
  rw [plain_flatten, List.map_map]
  exact congrArg List.flatten ((List.map_congr_left same).trans parts.map_id)

theorem allAscii_flatten {parts : List (List Char)} (each : ∀ part ∈ parts, AllAscii part) : AllAscii parts.flatten := by
  intro char member
  obtain ⟨part, inside, ofPart⟩ := List.mem_flatten.mp member
  exact each part inside char ofPart

theorem allAscii_upper {name : List Char} (ascii : AllAscii name) : AllAscii (Text.LetterCase.upper name) := by
  rw [upper_ascii ascii, AllAscii, List.forall_mem_map]
  exact fun char member => isAscii_toUpper (ascii char member)

theorem allAscii_capitalize {word : List Char} (ascii : AllAscii word) : AllAscii (capitalize word) := by
  cases word with
  | nil => exact ascii
  | cons first rest =>
    obtain ⟨ofFirst, ofRest⟩ := List.forall_mem_cons.mp ascii
    rw [capitalize_ascii ascii, AllAscii, List.forall_mem_cons, List.forall_mem_map]
    exact ⟨isAscii_toUpper ofFirst, fun char member => isAscii_toLower (ofRest char member)⟩

theorem allAscii_capitalized {parts : List (List Char)} (each : ∀ part ∈ parts, IsWord part) :
    AllAscii (parts.map capitalize).flatten := by
  apply allAscii_flatten
  rw [List.forall_mem_map]
  exact fun part member => allAscii_capitalize (each part member).ascii

section Rules

variable {name : List Char} (ascii : AllAscii name)

include ascii

theorem allAscii_flatten_words : AllAscii (words name).flatten := by
  apply allAscii_flatten
  exact fun part member => (isWord_of_mem_words ascii member).ascii

theorem allAscii_intercalate_words {separator : Char} (ofSeparator : isAscii separator = true) :
    AllAscii ([separator].intercalate (words name)) := by
  refine forall_mem_intercalate ofSeparator ?_
  exact fun part member => (isWord_of_mem_words ascii member).ascii

/-- What a rule makes of an ASCII name is ASCII. -/
theorem allAscii_applyTo (rule : RenameRule) : AllAscii (rule.applyTo name) := by
  have each : ∀ part ∈ words name, IsWord part := fun part member => isWord_of_mem_words ascii member
  cases rule with
  | camel =>
    simp only [applyTo]
    split
    case h_1 => exact ascii
    case h_2 first rest parts =>
      obtain ⟨ofFirst, ofRest⟩ := List.forall_mem_cons.mp (parts ▸ each)
      exact List.forall_mem_append.mpr ⟨ofFirst.ascii, allAscii_capitalized ofRest⟩
  | pascal => exact allAscii_capitalized each
  | snake => exact allAscii_intercalate_words ascii (by rfl)
  | screamingSnake => exact allAscii_upper (allAscii_intercalate_words ascii (by rfl))
  | kebab => exact allAscii_intercalate_words ascii (by rfl)
  | screamingKebab => exact allAscii_upper (allAscii_intercalate_words ascii (by rfl))
  | lower => exact allAscii_flatten_words ascii
  | upper => exact allAscii_upper (allAscii_flatten_words ascii)

/-- The letters of an ASCII name stay under every rule. -/
theorem letters_applyTo (rule : RenameRule) : letters (rule.applyTo name) = letters name := by
  have each : ∀ part ∈ words name, IsWord part := fun part member => isWord_of_mem_words ascii member
  have joined {separator : Char} (ofSeparator : isAscii separator = true) :
      plain (Text.LetterCase.upper ([separator].intercalate (words name))) = plain ([separator].intercalate (words name)) := by
    rw [upper_ascii (allAscii_intercalate_words ascii ofSeparator), plain_map_toUpper]
  have whole : plain name = (words name).flatten := (flatten_words ascii).symm
  rw [letters_ascii ascii, letters_ascii (allAscii_applyTo ascii rule), whole]
  cases rule with
  | camel =>
    simp only [applyTo]
    split
    case h_1 none => rw [whole, none]
    case h_2 first rest parts =>
      rw [parts] at each
      obtain ⟨ofFirst, ofRest⟩ := List.forall_mem_cons.mp each
      rw [plain_append, plain_word ofFirst, plain_capitalized ofRest, parts, List.flatten_cons]
  | pascal => exact plain_capitalized each
  | snake => exact (plain_intercalate (by rfl) _).trans (plain_words each)
  | screamingSnake => rw [applyTo, joined (by rfl), plain_intercalate (by rfl), plain_words each]
  | kebab => exact (plain_intercalate (by rfl) _).trans (plain_words each)
  | screamingKebab => rw [applyTo, joined (by rfl), plain_intercalate (by rfl), plain_words each]
  | lower => exact plain_words each
  | upper => rw [applyTo, upper_ascii (allAscii_flatten_words ascii), plain_map_toUpper, plain_words each]

/-- Words in lower case with separators between them are renamed as the name is that they are cut from. -/
theorem applyTo_intercalate {separator : Char} (separates : isSeparator separator = true)
    (proper : ∃ char ∈ name, isSeparator char = false) (rule : RenameRule) :
    rule.applyTo ([separator].intercalate (words name)) = rule.applyTo name := by
  have some : words name ≠ [] := by
    intro none
    obtain ⟨char, member, inside⟩ := proper
    exact Bool.noConfusion (inside.symm.trans (words_eq_nil.mp none char member))
  have again : words ([separator].intercalate (words name)) = words name :=
    words_intercalate separates (fun part member => isWord_of_mem_words ascii member) some
  obtain ⟨first, rest, parts⟩ := List.exists_cons_of_ne_nil some
  rw [parts] at again
  cases rule <;> simp only [applyTo, parts, again]

end Rules

/-- Words in lower case with underscores or hyphens between them are a canonical form of an ASCII name that has a word: every
rule makes of it what it makes of the name. The letters of an ASCII name stay under every rule. -/
theorem rename_canonical {name : String} (ascii : ∀ char ∈ name.toList, isAscii char = true) (rule : RenameRule) :
    ((∃ char ∈ name.toList, isSeparator char = false) → ∀ canonical ∈ [snake, kebab],
      rename (some rule) (rename (some canonical) name) = rename (some rule) name) ∧
      letters (rename (some rule) name).toList = letters name.toList := by
  constructor
  case left =>
    intro proper canonical member
    simp only [rename, String.toList_ofList]
    refine congrArg String.ofList ?_
    obtain rfl | rfl : canonical = snake ∨ canonical = kebab := by simpa using member
    · exact applyTo_intercalate ascii (by rfl) proper rule
    · exact applyTo_intercalate ascii (by rfl) proper rule
  case right =>
    rw [rename, String.toList_ofList]
    exact letters_applyTo ascii rule

/-- Capitals in a row, separators in front and in a row, digits, and a word of one letter. -/
theorem rename_canonical_mixed :
    rename (some screamingKebab) (rename (some snake) "__HTTPd--v2X_a") = "HTTPD-V2-X-A" ∧
      letters (rename (some pascal) "__HTTPd--v2X_a").toList = "httpdv2xa".toList := by
  have ascii : ∀ char ∈ "__HTTPd--v2X_a".toList, isAscii char = true := by simp [isAscii]
  have proper : ∃ char ∈ "__HTTPd--v2X_a".toList, isSeparator char = false := by simp [isSeparator]
  constructor
  case left =>
    rw [(rename_canonical ascii screamingKebab).1 proper snake (by decide)]
    decide
  case right =>
    rw [(rename_canonical ascii pascal).2]
    decide

end RenameRule

end Exposure
