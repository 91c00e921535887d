import Exposure.Proofs.Continuation
import Exposure.Proofs.Whereabouts

/-!
# Words that stand alone

A lexeme that ends with a letter, a digit or an underscore takes as many of them as there are, so that none is left for the
token behind it: a text mentions the words among its tokens. A lifetime alone gives back a character, before a closing
quote, and what it gives back is a word of one character.
-/

namespace Exposure

open Lexeme (continuesIdent)

/-! Words in texts -/

/-- A word stands in a text with no character beside it that could continue it. -/
def Text.Mentions (word text : List Char) : Prop :=
  ∃ before behind, text = before ++ word ++ behind ∧ (∀ char ∈ before.getLast?, continuesIdent char = false) ∧
    ∀ char ∈ behind.head?, continuesIdent char = false

namespace Text.Mentions

/-- Two texts lie apart: the first does not end, or the second does not begin, with a character of a word. -/
def Apart (first second : List Char) : Prop :=
  (∀ char ∈ first.getLast?, continuesIdent char = false) ∨ ∀ char ∈ second.head?, continuesIdent char = false

variable {word first second : List Char}

theorem mem {text : List Char} (mentions : Mentions word text) {char : Char} (inWord : char ∈ word) : char ∈ text := by
  obtain ⟨before, behind, rfl, -, -⟩ := mentions
  exact List.mem_append_left _ (List.mem_append_right _ inWord)

/-- A text that mentions a word goes on doing so behind another text that lies apart. -/
theorem behind (proper : word ≠ []) (letters : ∀ char ∈ word, continuesIdent char = true) (apart : Apart first second)
    (mentions : Mentions word second) : Mentions word (first ++ second) := by
  obtain ⟨before, behind, rfl, ofBefore, ofBehind⟩ := mentions
  refine ⟨first ++ before, behind, by simp, ?_, ofBehind⟩
  cases before with
  | cons _ _ => simpa [List.getLast?_append] using ofBefore
  | nil =>
    obtain ⟨letter, rest, rfl⟩ := List.exists_cons_of_ne_nil proper
    rw [List.append_nil]
    refine apart.resolve_right fun begins => ?_
    exact absurd (begins letter rfl) (by simp [letters letter List.mem_cons_self])

/-- A text that mentions a word goes on doing so before another text that lies apart. -/
theorem before (proper : word ≠ []) (letters : ∀ char ∈ word, continuesIdent char = true) (apart : Apart first second)
    (mentions : Mentions word first) : Mentions word (first ++ second) := by
  obtain ⟨before, behind, rfl, ofBefore, ofBehind⟩ := mentions
  refine ⟨before, behind ++ second, by simp, ofBefore, ?_⟩
  cases behind with
  | cons _ _ => simpa using ofBehind
  | nil =>
    obtain ⟨rest, letter, rfl⟩ := List.eq_nil_or_concat word |>.resolve_left proper
    refine apart.resolve_left fun ends => ?_
    exact absurd (ends letter (by simp)) (by simp [letters letter (by simp)])

/-- What texts that lie apart mention together is mentioned by one of them. -/
theorem append (proper : word ≠ []) (letters : ∀ char ∈ word, continuesIdent char = true) (apart : Apart first second) :
    Mentions word (first ++ second) ↔ Mentions word first ∨ Mentions word second := by
  refine ⟨?_, fun either => either.elim (before proper letters apart) (behind proper letters apart)⟩
  rintro ⟨before, behind, same, ofBefore, ofBehind⟩
  rw [List.append_assoc] at same
  rcases List.append_eq_append_iff.mp same with ⟨more, rfl, rfl⟩ | ⟨more, rfl, inside⟩
  · refine .inr ⟨more, behind, by simp, fun char last => ofBefore char ?_, ofBehind⟩
    rw [List.getLast?_append, Option.mem_def.mp last, Option.some_or, Option.mem_some_iff]
  · rcases List.append_eq_append_iff.mp inside with ⟨rest, rfl, rfl⟩ | ⟨rest, rfl, rfl⟩
    · refine .inl ⟨before, rest, by simp, ofBefore, fun char head => ofBehind char ?_⟩
      rw [List.head?_append, Option.mem_def.mp head, Option.some_or, Option.mem_some_iff]
    -- the word lies across the joint, so that one of its two parts is empty
    · rcases List.eq_nil_or_concat more with rfl | ⟨_, last, rfl⟩
      · exact .inr ⟨[], behind, by simp, nofun, ofBehind⟩
      · cases rest with
        | nil => exact .inl ⟨before, [], by simp, ofBefore, nofun⟩
        | cons head _ =>
          rcases apart with ends | begins
          · exact absurd (ends last (by simp)) (by simp [letters last (by simp)])
          · exact absurd (begins head rfl) (by simp [letters head (by simp)])

end Text.Mentions

namespace Lexeme

/-! Classes that end with characters of one kind -/

/-- A text ends with a character of some kind. -/
def EndsWith (closes : Char → Prop) (text : List Char) : Prop := ∃ before last, text = before ++ [last] ∧ closes last

theorem EndsWith.behind {closes : Char → Prop} {text : List Char} (ends : EndsWith closes text) (before : List Char) :
    EndsWith closes (before ++ text) := by
  obtain ⟨front, last, rfl, ofLast⟩ := ends
  exact ⟨before ++ front, last, (List.append_assoc ..).symm, ofLast⟩

theorem EndsWith.of_forall {closes : Char → Prop} {text : List Char} (proper : text ≠ [])
    (each : ∀ char ∈ text, closes char) : EndsWith closes text := by
  obtain ⟨before, last, rfl⟩ := (List.eq_nil_or_concat' text).resolve_left proper
  exact ⟨before, last, rfl, each last (by simp)⟩

/-- What a class takes from a text ends with a character of some kind. -/
def EndsIn (closes : Char → Prop) (class? : List Char → Option Nat) : Prop :=
  ∀ input length, class? input = some length → EndsWith closes (input.take length)

section Endings

variable {closes : Char → Prop} {class? : List Char → Option Nat}

theorem EndsIn.opened (ends : EndsIn closes class?) (mark : Char) : EndsIn closes (opened mark class?) := by
  intro input length found
  cases input with
  | nil => cases found
  | cons first rest =>
    rw [Lexeme.opened, Option.ite_none_right_eq_some, Option.map_eq_some_iff] at found
    obtain ⟨-, inner, inside, rfl⟩ := found
    rw [Nat.add_comm, List.take_succ_cons]
    exact (ends rest inner inside).behind [first]

theorem EndsIn.marked (ends : EndsIn closes class?) : EndsIn closes (marked class?) := by
  intro input length found
  obtain ⟨inner, inside, rfl⟩ := Option.map_eq_some_iff.mp found
  have taken := ends _ inner inside
  unfold afterByteMark at taken ⊢
  split at taken
  · rw [Nat.add_comm, List.take_succ_cons]
    exact taken.behind ['b']
  · rwa [Nat.zero_add]

theorem endsIn_through? {first second : Char} (ofSecond : closes second) : EndsIn closes (through? first second) := by
  intro input length found
  induction input generalizing length with
  | nil => cases found
  | cons one rest step =>
    cases rest with
    | nil => cases found
    | cons two rest =>
      rw [through?] at found
      split at found
      · rename_i both
        simp only [Bool.and_eq_true, decide_eq_true_eq] at both
        cases found
        exact ⟨[one], two, rfl, both.2 ▸ ofSecond⟩
      · obtain ⟨inner, inside, rfl⟩ := Option.map_eq_some_iff.mp found
        exact (step inner inside).behind [one]

theorem endsIn_throughQuote? (ofQuote : closes '"') : EndsIn closes throughQuote? := by
  intro input length found
  induction input generalizing length with
  | nil => cases found
  | cons first rest step =>
    rw [throughQuote?_cons] at found
    split at found
    · rename_i quote
      cases found
      exact ⟨[], first, rfl, quote ▸ ofQuote⟩
    · obtain ⟨inner, inside, rfl⟩ := Option.map_eq_some_iff.mp found
      exact (step inner inside).behind [first]

theorem endsIn_stringBody? (ofQuote : closes '"') : EndsIn closes stringBody? := by
  intro input length found
  fun_induction stringBody? input generalizing length with
  | case1 => cases found
  | case2 rest =>
    cases found
    exact ⟨[], '"', rfl, ofQuote⟩
  | case3 => cases found
  | case4 => cases found
  | case5 escaped rest proper step =>
    obtain ⟨inner, inside, rfl⟩ := Option.map_eq_some_iff.mp found
    exact (step inner inside).behind ['\\', escaped]
  | case6 first rest _ _ _ step =>
    obtain ⟨inner, inside, rfl⟩ := Option.map_eq_some_iff.mp found
    exact (step inner inside).behind [first]

theorem endsIn_charBody? (ofApostrophe : closes '\'') : EndsIn closes charBody? := by
  intro input length found
  have closed {inner : Nat} (closing : (if (input.drop inner).head? = some '\'' then some (inner + 1) else none) =
      some length) : EndsWith closes (input.take length) := by
    rw [Option.ite_none_right_eq_some, Option.some.injEq, List.head?_drop] at closing
    obtain ⟨quote, rfl⟩ := closing
    exact ⟨input.take inner, '\'', by rw [List.take_add_one, quote, Option.toList_some], ofApostrophe⟩
  rcases Option.or_eq_some_iff.mp found with escape | ⟨-, single⟩
  · obtain ⟨inner, -, closing⟩ := Option.bind_eq_some_iff.mp escape
    exact closed closing
  · split at single
    · exact closed (Option.ite_none_left_eq_some.mp single).2
    · exact closed (Option.ite_none_left_eq_some.mp single).2
    · cases single

theorem endsIn_rawString? (ofHash : closes '#') (ofQuote : closes '"') : EndsIn closes rawString? := by
  intro input length found
  rw [rawString?_eq] at found
  rcases Option.or_eq_some_iff.mp found with hashed | ⟨-, plain⟩
  · have ends : EndsIn closes (through? '"' '#') := endsIn_through? ofHash
    exact (((ends.opened '"').opened '#').opened 'r').marked input length hashed
  · exact (((endsIn_throughQuote? ofQuote).opened '"').opened 'r').marked input length plain

theorem endsIn_string? (ofQuote : closes '"') : EndsIn closes string? :=
  string?_eq ▸ ((endsIn_stringBody? ofQuote).opened '"').marked

theorem endsIn_char? (ofApostrophe : closes '\'') : EndsIn closes char? :=
  char?_eq ▸ ((endsIn_charBody? ofApostrophe).opened '\'').marked

theorem endsIn_blockComment? (ofSlash : closes '/') : EndsIn closes blockComment? := by
  have ends : EndsIn closes (through? '*' '/') := endsIn_through? ofSlash
  exact blockComment?_eq ▸ (ends.opened '*').opened '/'

end Endings

/-! Classes that end with a mark -/

/-- A text ends with a character of no word. -/
def EndsWithMark (text : List Char) : Prop := ∃ before last, text = before ++ [last] ∧ continuesIdent last = false

theorem EndsWithMark.behind {text : List Char} (ends : EndsWithMark text) (before : List Char) :
    EndsWithMark (before ++ text) := EndsWith.behind ends before

/-- What a class takes from a text ends with a character of no word. -/
def EndsInMark (class? : List Char → Option Nat) : Prop :=
  ∀ input length, class? input = some length → EndsWithMark (input.take length)

theorem endsInMark_rawString? : EndsInMark rawString? := endsIn_rawString? rfl rfl

theorem endsInMark_string? : EndsInMark string? := endsIn_string? rfl

theorem endsInMark_char? : EndsInMark char? := endsIn_char? rfl

theorem endsInMark_blockComment? : EndsInMark blockComment? := endsIn_blockComment? rfl

theorem endsInMark_blank? : EndsInMark blank? := by
  intro input length found
  simp only [blank?, Option.ite_none_right_eq_some, Option.some.injEq] at found
  obtain ⟨positive, rfl⟩ := found
  have inside := run_le isBlank input
  refine EndsWith.of_forall (List.ne_nil_of_length_pos (by rw [List.length_take]; omega)) fun char member => ?_
  have blank := mem_of_le_run Nat.le.refl char member
  simp only [isBlank, Bool.or_eq_true, decide_eq_true_eq] at blank
  rcases blank with (((rfl | rfl) | rfl) | rfl) | rfl <;> rfl

/-- No mark has a character of a word. -/
theorem endsWithMark_ofText? {input : List Char} {mark : Punctuation} (found : Punctuation.ofText? input = some mark) :
    EndsWithMark (input.take mark.text.length) := by
  obtain ⟨behind, rfl⟩ := ofText?_prefix found
  rw [← String.length_toList, List.take_left]
  have each : mark.text.toList.all (!continuesIdent ·) = true := by cases mark <;> rfl
  refine EndsWith.of_forall (by cases mark <;> exact List.cons_ne_nil _ _) fun char member => ?_
  simpa using List.all_eq_true.mp each char member

/-! Classes that take all that continues them -/

/-- A text begins with no word of more than one character: it begins with no character of a word, or has a closing quote
behind its first character. -/
def BeginsNoWord (text : List Char) : Prop :=
  (∀ char ∈ text.head?, continuesIdent char = false) ∨ ∃ first rest, text = first :: '\'' :: rest

theorem not_of_mem_head?_drop_run {kind : Char → Bool} {input : List Char} {char : Char}
    (head : char ∈ (input.drop (run kind input)).head?) : kind char = false := by
  have stopped := List.head?_dropWhile_not kind input
  rw [drop_run, Option.mem_def] at head
  rw [head] at stopped
  simpa using stopped

theorem not_of_mem_head?_drop_plainIdent? {input : List Char} {length : Nat} (found : plainIdent? input = some length) :
    ∀ char ∈ (input.drop length).head?, continuesIdent char = false := by
  intro char head
  match input with
  | first :: rest =>
    rw [plainIdent?, Option.ite_none_right_eq_some, Option.some.injEq] at found
    obtain ⟨-, rfl⟩ := found
    rw [Nat.add_comm, List.drop_succ_cons] at head
    exact not_of_mem_head?_drop_run head

/-- An identifier is not continued behind it. -/
theorem not_of_mem_head?_drop_ident? {input : List Char} {length : Nat} (found : ident? input = some length) :
    ∀ char ∈ (input.drop length).head?, continuesIdent char = false := by
  unfold ident? at found
  split at found
  · rcases Option.or_eq_some_iff.mp found with raw | ⟨-, plain⟩
    · obtain ⟨inner, plain, rfl⟩ := Option.map_eq_some_iff.mp raw
      rw [Nat.add_comm, List.drop_succ_cons, List.drop_succ_cons]
      exact not_of_mem_head?_drop_plainIdent? plain
    · exact not_of_mem_head?_drop_plainIdent? plain
  · exact not_of_mem_head?_drop_plainIdent? found

/-- A number is not continued behind it. -/
theorem not_of_mem_head?_drop_number? {input : List Char} {length : Nat} (found : number? input = some length) :
    ∀ char ∈ (input.drop length).head?, continuesIdent char = false := by
  intro char head
  rcases Option.or_eq_some_iff.mp found with radix | ⟨-, decimal⟩
  · unfold radixNumber? at radix
    split at radix
    · rw [Option.ite_none_right_eq_some, Option.some.injEq] at radix
      obtain ⟨-, rfl⟩ := radix
      rw [Nat.add_comm] at head
      exact not_of_mem_head?_drop_run head
    · cases radix
  · unfold decimalNumber? at decimal
    split at decimal
    · rw [Option.ite_none_right_eq_some, Option.some.injEq] at decimal
      obtain ⟨-, rfl⟩ := decimal
      rw [← List.drop_drop] at head
      exact not_of_mem_head?_drop_run head
    · cases decimal

/-- What a lifetime gives back is one character before a closing quote. -/
theorem beginsNoWord_of_lifetime? {input : List Char} {length : Nat} (found : lifetime? input = some length) :
    BeginsNoWord (input.drop length) := by
  unfold lifetime? at found
  split at found
  · rename_i rest
    obtain ⟨inner, plain, found⟩ := Option.bind_eq_some_iff.mp found
    split at found
    · rename_i quote
      rw [Option.ite_none_right_eq_some, Option.some.injEq] at found
      obtain ⟨several, rfl⟩ := found
      obtain ⟨less, rfl⟩ : ∃ less, inner = less + 1 := ⟨inner - 1, by omega⟩
      obtain ⟨others, behind⟩ := List.head?_eq_some_iff.mp quote
      have inside : less < rest.length := plainIdent?_le plain
      refine .inr ⟨rest[less], others, ?_⟩
      rw [List.drop_succ_cons, List.drop_eq_getElem_cons inside, behind]
    · cases found
      rw [Nat.add_comm, List.drop_succ_cons]
      exact .inl (not_of_mem_head?_drop_plainIdent? plain)
  · cases found

theorem beginsNoWord_of_lineEnd (rest : List Char) : BeginsNoWord (rest.drop (run (· ≠ '\n') rest)) := by
  refine .inl fun char head => ?_
  obtain rfl : char = '\n' := by simpa using not_of_mem_head?_drop_run head
  rfl

/-- A lexeme that does not end with a mark leaves no word of more than one character behind it. -/
theorem endsWithMark_or_beginsNoWord {input : List Char} {kind : LexemeClass} {length : Nat}
    (found : first? input = some (kind, length)) :
    EndsWithMark (input.take length) ∨ BeginsNoWord (input.drop length) := by
  obtain ⟨candidate, member, same⟩ := List.exists_of_findSome?_eq_some found
  simp only [classes, List.mem_cons, List.not_mem_nil, or_false] at member
  rcases member with rfl | rfl | rfl | rfl | rfl | rfl | rfl | rfl | rfl | rfl | rfl <;>
    (obtain ⟨size, ofClass, same⟩ := Option.map_eq_some_iff.mp same; cases same)
  · obtain ⟨rest, rfl, -, rfl⟩ := docComment?_eq_some.mp ofClass
    rw [Nat.add_comm]
    exact .inr (beginsNoWord_of_lineEnd rest)
  · exact .inl (endsInMark_rawString? _ _ ofClass)
  · exact .inl (endsInMark_string? _ _ ofClass)
  · exact .inl (endsInMark_char? _ _ ofClass)
  · exact .inr (.inl (not_of_mem_head?_drop_number? ofClass))
  · exact .inr (.inl (not_of_mem_head?_drop_ident? ofClass))
  · exact .inr (beginsNoWord_of_lifetime? ofClass)
  · obtain ⟨rest, rfl, -, rfl⟩ := lineComment?_eq_some.mp ofClass
    rw [Nat.add_comm]
    exact .inr (beginsNoWord_of_lineEnd rest)
  · exact .inl (endsInMark_blockComment? _ _ ofClass)
  · exact .inl (endsInMark_blank? _ _ ofClass)
  · exact .inl (endsWithMark_ofText? ofClass)

theorem BeginsNoWord.ident?_le {text : List Char} (noWord : BeginsNoWord text) {length : Nat}
    (found : ident? text = some length) : length ≤ 1 := by
  rcases noWord with begins | ⟨first, rest, rfl⟩
  · cases text with
    | nil => cases found
    | cons first rest =>
      have letter := continuesIdent_of_beginsIdent (beginsIdent_of_ident? found)
      exact absurd letter (by simp [begins first rfl])
  · rw [ident?_eq_plainIdent? (by simp), plainIdent?, Option.ite_none_right_eq_some, Option.some.injEq] at found
    obtain ⟨-, rfl⟩ := found
    simp [run_cons, show continuesIdent '\'' = false from rfl]

end Lexeme

/-! The words among the tokens -/

namespace Lexing

open Lexeme (EndsWithMark BeginsNoWord)

/-- A word of more than one character among the lexemes of a text is mentioned in the text. -/
theorem mentions_of_mem_scan {before : List Char} {inside : Nat} {position : Position} {rest : List Char}
    (apart : before ++ rest.take inside = [] ∨ EndsWithMark (before ++ rest.take inside) ∨ BeginsNoWord (rest.drop inside))
    {lexeme : Lexeme} (member : lexeme ∈ (scan inside position rest).lexemes) (isWord : lexeme.kind = some .ident)
    (several : 1 < lexeme.text.length) : Text.Mentions lexeme.text (before ++ rest) := by
  -- where a lexeme is read, the text before it ends with a mark, or no long word can begin behind it
  fun_induction scan inside position rest generalizing before with
  | case1 => cases member
  | case2 position inside passed rest step =>
    have later : Text.Mentions lexeme.text (before ++ [passed] ++ rest) := step (by simpa using apart) member
    rwa [List.append_assoc] at later
  | case3 position first rest kind inside found step =>
    rcases List.mem_cons.mp member with rfl | later
    · obtain rfl : kind = some .ident := isWord
      have ofWord := (Lexeme.first?_word found).1 rfl
      have ofBefore : before = [] ∨ EndsWithMark before := by
        rw [List.take_zero, List.append_nil, ← or_assoc] at apart
        refine apart.resolve_right fun noWord => ?_
        have := noWord.ident?_le ofWord
        rw [List.length_take] at several
        omega
      refine ⟨before, (first :: rest).drop (inside + 1), ?_, ?_, Lexeme.not_of_mem_head?_drop_ident? ofWord⟩
      · rw [List.append_assoc, List.take_append_drop]
      · rcases ofBefore with rfl | ⟨front, last, rfl, isMark⟩
        · simp
        · simpa using isMark
    · have behind := (Lexeme.endsWithMark_or_beginsNoWord found).imp_left fun ends => ends.behind before
      have later : Text.Mentions lexeme.text (before ++ [first] ++ rest) := step (.inr (by simpa using behind)) later
      rwa [List.append_assoc] at later
  | case4 => cases member

/-- A lexeme is what the text begins with where it is read. -/
theorem exists_first?_of_mem_scan {inside : Nat} {position : Position} {rest : List Char} {lexeme : Lexeme}
    (member : lexeme ∈ (scan inside position rest).lexemes) :
    ∃ input length, Lexeme.first? input = some (lexeme.kind, length + 1) ∧ lexeme.text = input.take (length + 1) := by
  fun_induction scan inside position rest with
  | case1 => cases member
  | case2 position inside passed rest step => exact step member
  | case3 position first rest kind inside found step =>
    rcases List.mem_cons.mp member with rfl | later
    · exact ⟨first :: rest, inside, found, rfl⟩
    · exact step later
  | case4 => cases member

end Lexing

end Exposure
