import Exposure.Proofs.Flattening
import Exposure.Proofs.Respelling

/-!
# Token trees written and read again

Token trees are written with blanks between words and behind commas, and with nothing between other tokens. What is written is
read as the same tokens exactly if no token is overrun by what stands behind it.
-/

namespace Exposure

open Lexeme

namespace Atom

/-! Where the text of a token begins and ends -/

/-- A text is not empty, and there are no blanks at its ends. -/
structure IsTrimmed (text : List Char) : Prop where
  begins : ∀ char ∈ text.head?, Text.isBlank char = false
  ends : EndsWith (fun char => Text.isBlank char = false) text

theorem IsTrimmed.of_forall {text : List Char} (proper : text ≠ []) (each : ∀ char ∈ text, Text.isBlank char = false) :
    IsTrimmed text := ⟨fun char head => each char (List.mem_of_mem_head? head), .of_forall proper each⟩

theorem IsTrimmed.append {one two : List Char} (ofOne : IsTrimmed one) (ofTwo : IsTrimmed two) (between : List Char) :
    IsTrimmed (one ++ (between ++ two)) := by
  refine ⟨fun char head => ofOne.begins char ?_, (ofTwo.ends.behind between).behind one⟩
  obtain ⟨before, last, rfl, -⟩ := ofOne.ends
  cases before <;> exact head

theorem isNameChar_of_lifetime? {rest : List Char} (found : lifetime? ('\'' :: rest) = some (rest.length + 1)) :
    ∀ char ∈ rest, isNameChar char = true := by
  obtain ⟨length, name, taken⟩ := Option.bind_eq_some_iff.mp found
  have fits : rest.length ≤ length := by
    split at taken
    · have := Option.some.inj (Option.ite_none_right_eq_some.mp taken).2
      omega
    · have := Option.some.inj taken
      omega
  have inside := mem_of_le_run (Nat.le_trans fits (plainIdent?_le_run name).2)
  rwa [List.take_length] at inside

theorem isBlank_of_isNameChar {char : Char} (ofName : isNameChar char = true) : Text.isBlank char = false := by
  simp only [isNameChar, Bool.or_eq_true, decide_eq_true_eq] at ofName
  rcases ofName with ofIdent | rfl
  · exact Text.isBlank_of_isWordChar (isWordChar_of_continuesIdent ofIdent)
  · rfl

theorem IsLexed.isTrimmed {atom : Atom} (lexed : atom.IsLexed) : IsTrimmed atom.2.toList := by
  obtain ⟨kind, text⟩ := atom
  have proper {class? : List Char → Option Nat} (nothing : class? [] = none)
      (found : class? text.toList = some text.length) : text.toList ≠ [] := by
    intro empty
    rw [empty, nothing] at found
    cases found
  have literal {class? : List Char → Option Nat} {marks : List Char} (noBlank : marks.all (!Text.isBlank ·) = true)
      (begins : ∀ first rest, first ∉ marks → class? (first :: rest) = none)
      (ends : EndsIn (fun char => Text.isBlank char = false) class?) (found : class? text.toList = some text.length) :
      IsTrimmed text.toList := by
    have ofEnd := ends _ _ found
    rw [← String.length_toList, List.take_length] at ofEnd
    refine ⟨fun first head => ?_, ofEnd⟩
    obtain ⟨rest, same⟩ := List.head?_eq_some_iff.mp head
    by_contra blank
    rw [same, begins first rest fun isMark => blank (by simpa using List.all_eq_true.mp noBlank first isMark)] at found
    cases found
  cases kind with
  | ident =>
    refine .of_forall (proper rfl lexed) fun char member => isBlank_of_isNameChar (isNameChar_of_ident? ?_ char member)
    rwa [String.length_toList]
  | number =>
    have inside := mem_of_le_run (number?_le_wordRun lexed).2
    rw [← String.length_toList, List.take_length] at inside
    exact .of_forall (proper rfl lexed) fun char member => Text.isBlank_of_isWordChar (inside char member)
  | string =>
    rcases lexed with raw | string
    · refine literal (rfl : ['b', 'r'].all _ = true) (fun first rest other => ?_) (endsIn_rawString? rfl rfl) raw
      simp only [List.mem_cons, List.not_mem_nil, or_false, not_or] at other
      exact rawString?_of_ne rest other.1 other.2
    · refine literal (rfl : ['b', '"'].all _ = true) (fun first rest other => ?_) (endsIn_string? rfl) string
      simp only [List.mem_cons, List.not_mem_nil, or_false, not_or] at other
      exact string?_of_ne rest other.1 other.2
  | char =>
    refine literal (rfl : ['b', '\''].all _ = true) (fun first rest other => ?_) (endsIn_char? rfl) lexed
    simp only [List.mem_cons, List.not_mem_nil, or_false, not_or] at other
    exact char?_of_ne rest other.1 other.2
  | lifetime =>
    have found : lifetime? text.toList = some text.toList.length := lexed.trans (by rw [String.length_toList])
    have proper := proper rfl lexed
    generalize text.toList = chars at found proper
    cases chars with
    | nil => exact absurd rfl proper
    | cons quote rest =>
      by_cases isQuote : quote = '\''
      · subst isQuote
        exact .of_forall proper (List.forall_mem_cons.mpr
          ⟨rfl, fun char member => isBlank_of_isNameChar (isNameChar_of_lifetime? found char member)⟩)
      · rw [lifetime?_of_ne _ isQuote] at found
        cases found
  | doc => exact lexed.elim
  | punctuation =>
    obtain ⟨mark, rfl⟩ := lexed
    have each : mark.text.toList.all (!Text.isBlank ·) = true := by cases mark <;> decide
    refine .of_forall (by cases mark <;> exact List.cons_ne_nil _ _) fun char member => ?_
    simpa using List.all_eq_true.mp each char member

/-! Tokens one behind another -/

/-- A blank stands between two words, and behind a comma unless a group closes there. -/
def gap (atom next : Atom) : List Char :=
  if atom.1.isWord && next.1.isWord || (atom.2 = Punctuation.comma.text && !next.isClosing) then [' '] else []

/-- The gap in front of what follows a token, if something does. -/
def gapBehind (atom : Atom) (rest : List Atom) : List Char := (rest.head?.map (gap atom)).getD []

/-- What is written for some tokens. -/
def written : List Atom → List Char
  | [] => []
  | atom :: rest => atom.2.toList ++ (gapBehind atom rest ++ written rest)

/-- One of some tokens is overrun by what is written behind it. -/
inductive Fuses : List Atom → Prop
  | here {atom : Atom} {rest : List Atom} (overruns : Overruns atom (gapBehind atom rest ++ written rest)) :
      Fuses (atom :: rest)
  | later {atom : Atom} {rest : List Atom} (fuses : Fuses rest) : Fuses (atom :: rest)

theorem fuses_cons {atom : Atom} {rest : List Atom} :
    Fuses (atom :: rest) ↔ Overruns atom (gapBehind atom rest ++ written rest) ∨ Fuses rest := by
  constructor
  · rintro (overruns | fuses)
    · exact .inl overruns
    · exact .inr fuses
  · rintro (overruns | fuses)
    · exact .here overruns
    · exact .later fuses

theorem gap_eq (atom next : Atom) : gap atom next = [] ∨ gap atom next = [' '] := by
  unfold gap
  split
  · exact .inr rfl
  · exact .inl rfl

theorem gapBehind_eq (atom : Atom) (rest : List Atom) : gapBehind atom rest = [] ∨ gapBehind atom rest = [' '] := by
  cases rest with
  | nil => exact .inl rfl
  | cons next rest => exact gap_eq atom next

theorem isTrimmed_written {atoms : List Atom} (proper : atoms ≠ []) (lexed : AllLexed atoms) : IsTrimmed (written atoms) := by
  induction atoms with
  | nil => exact absurd rfl proper
  | cons atom rest step =>
    obtain ⟨ofAtom, ofRest⟩ := List.forall_mem_cons.mp lexed
    cases rest with
    | nil => simpa [written, gapBehind] using ofAtom.isTrimmed
    | cons next rest => exact ofAtom.isTrimmed.append (step (List.cons_ne_nil _ _) ofRest) _

/-- What is written behind a word is detached from it. -/
theorem detached_behind {atom : Atom} {rest : List Atom} (isWord : atom.1.isWord = true) (lexed : AllLexed rest) :
    Detached (gapBehind atom rest ++ written rest) := by
  cases rest with
  | nil => exact nofun
  | cons next rest =>
    rcases gapBehind_eq atom (next :: rest) with none | blank
    · obtain ⟨ofNext, -⟩ := List.forall_mem_cons.mp lexed
      obtain ⟨kind, text⟩ := next
      have noWord : kind.isWord = false := by
        by_contra nextWord
        simp [gapBehind, gap, isWord, nextWord] at none
      obtain rfl : kind = .punctuation := by
        cases kind with
        | doc => exact ofNext.elim
        | punctuation => rfl
        | _ => cases noWord
      obtain ⟨mark, rfl⟩ := ofNext
      rw [none, List.nil_append, written]
      cases mark <;> (rintro char ⟨⟩; decide)
    · rw [blank]
      rintro char ⟨⟩
      decide

theorem written_append (one two : List Atom) :
    written (one ++ two) = written one ++ ((one.getLast?.map (gapBehind · two)).getD [] ++ written two) := by
  induction one with
  | nil => rfl
  | cons atom rest step =>
    cases rest with
    | nil => simp [written, gapBehind]
    | cons next rest =>
      have sameGap : gapBehind atom (next :: rest ++ two) = gapBehind atom (next :: rest) := rfl
      rw [List.cons_append, written, written, step, sameGap, List.getLast?_cons_cons]
      simp only [List.append_assoc]

/-- The text of no word is a comma. -/
theorem IsLexed.not_comma {atom : Atom} (lexed : atom.IsLexed) (isWord : atom.1.isWord = true) :
    atom.2 ≠ Punctuation.comma.text := by
  obtain ⟨kind, text⟩ := atom
  rintro rfl
  cases kind with
  | doc | punctuation => cases isWord
  | string => exact lexed.elim nofun nofun
  | _ => cases lexed

end Atom

open Atom

namespace TokenTree

theorem exists_head_atoms {tree : TokenTree} (balanced : tree.IsBalanced) :
    ∃ first others, tree.atoms = first :: others ∧ first.isClosing = false ∧ first.1.isWord = tree.isWord := by
  cases tree with
  | leaf token => exact ⟨_, _, rfl, balanced, (Bool.false_or _).symm⟩
  | group delimiter trees position => exact ⟨_, _, rfl, by cases delimiter <;> rfl, rfl⟩

theorem exists_last_atoms (tree : TokenTree) :
    ∃ before last, tree.atoms = before ++ [last] ∧ last.1.isWord = tree.isWord ∧
      decide (last.2 = Punctuation.comma.text) = tree.isComma := by
  cases tree with
  | leaf token => exact ⟨[], _, rfl, rfl, rfl⟩
  | group delimiter trees position =>
    refine ⟨_, _, (List.cons_append ..).symm, rfl, ?_⟩
    cases delimiter <;> rfl

/-! Writing token trees -/

/-- The blank in front of a word behind a word. -/
def leading (afterWord : Bool) (atoms : List Atom) : List Char :=
  if afterWord && atoms.head?.any (·.1.isWord) then [' '] else []

/-- The blank behind a comma at the end. -/
def trailing (atoms : List Atom) : List Char :=
  if atoms.getLast?.any (·.2 = Punctuation.comma.text) then [' '] else []

theorem leading_append {one : List Atom} {first : Atom} (begins : one.head? = some first) (afterWord : Bool) (two : List Atom) :
    leading afterWord (one ++ two) = if afterWord && first.1.isWord then [' '] else [] := by
  rw [leading, List.head?_append, begins, Option.some_or, Option.any_some]

/-- Between two tokens there is the blank behind a comma or the blank in front of a word. -/
theorem gapBehind_eq_append {atom next : Atom} (lexed : atom.IsLexed) (opens : next.isClosing = false) (rest : List Atom) :
    gapBehind atom (next :: rest) =
      (if decide (atom.2 = Punctuation.comma.text) then [' '] else []) ++ leading atom.1.isWord (next :: rest) := by
  by_cases isComma : atom.2 = Punctuation.comma.text
  · have noWord : atom.1.isWord = false := by
      by_contra isWord
      exact lexed.not_comma (Bool.not_eq_false _ ▸ isWord) isComma
    simp [gapBehind, gap, leading, isComma, noWord, opens]
  · simp [gapBehind, gap, leading, isComma]

theorem dropWhile_isBlank {text : List Char} (begins : ∀ char ∈ text.head?, Text.isBlank char = false) :
    text.dropWhile Text.isBlank = text := by
  cases text with
  | nil => rfl
  | cons first rest => rw [List.dropWhile_cons_of_neg (by simp [begins first rfl])]

theorem trimEnds_append {text blanks : List Char} (trimmed : IsTrimmed text) (blank : ∀ char ∈ blanks, Text.isBlank char = true) :
    Text.trimEnds Text.isBlank (text ++ blanks) = text := by
  obtain ⟨begins, before, last, rfl, ofLast⟩ := trimmed
  have front : ((before ++ [last]) ++ blanks).dropWhile Text.isBlank = (before ++ [last]) ++ blanks := by
    refine dropWhile_isBlank fun char head => begins char ?_
    cases before <;> exact head
  have back : (before ++ [last]).reverse.dropWhile Text.isBlank = (before ++ [last]).reverse := by
    refine dropWhile_isBlank ?_
    rw [List.reverse_append]
    rintro char ⟨⟩
    exact ofLast
  have inBlanks : ∀ char ∈ blanks.reverse, Text.isBlank char = true := fun char member =>
    blank char (List.mem_reverse.mp member)
  rw [Text.trimEnds, front, Text.dropTail, List.reverse_append, List.dropWhile_append_of_pos inBlanks, back,
    List.reverse_reverse]

/-- What is written for some tokens has no blanks at its ends but the one behind a comma. -/
theorem trim_eq {atoms : List Atom} (lexed : AllLexed atoms) {text : String}
    (same : text.toList = written atoms ++ trailing atoms) : (Text.trim text).toList = written atoms := by
  rw [Text.trim, String.toList_ofList, same]
  cases atoms with
  | nil => rfl
  | cons atom rest =>
    refine trimEnds_append (isTrimmed_written (List.cons_ne_nil _ _) lexed) ?_
    unfold trailing
    split
    · exact List.forall_mem_singleton.mpr rfl
    · exact List.forall_mem_nil _

theorem written_group (delimiter : Delimiter) (inside : List Atom) :
    written ((.punctuation, delimiter.opening.text) :: (inside ++ [(.punctuation, delimiter.closing.text)])) =
      delimiter.opening.text.toList ++ (written inside ++ delimiter.closing.text.toList) := by
  have closes : isClosing (.punctuation, delimiter.closing.text) = true := by cases delimiter <;> rfl
  have noGap (rest : List Atom) : gapBehind (.punctuation, delimiter.opening.text) rest = [] := by
    cases rest <;> cases delimiter <;> rfl
  have noLastGap (atom : Atom) : gapBehind atom [(.punctuation, delimiter.closing.text)] = [] := by
    simp [gapBehind, gap, closes, LeafKind.isWord]
  have noGaps : (inside.getLast?.map (gapBehind · [(.punctuation, delimiter.closing.text)])).getD [] = [] := by
    cases inside.getLast? with
    | none => rfl
    | some last => exact noLastGap last
  rw [written, noGap, written_append, noGaps]
  simp [written, gapBehind]

mutual

theorem render_eq : (tree : TokenTree) → tree.IsBalanced → AllLexed tree.atoms → tree.render.toList = written tree.atoms
  | leaf token, _, _ => by simp [render, atoms, written, gapBehind]
  | group delimiter trees position, balanced, lexed => by
    have ofInside : AllLexed (atomsOfAll trees) := fun atom member =>
      lexed atom (List.mem_cons_of_mem _ (List.mem_append_left _ member))
    have inside := renderFrom_eq trees balanced ofInside false
    rw [render, atoms, written_group, String.toList_append, String.toList_append, trim_eq ofInside inside, List.append_assoc]

theorem renderFrom_eq : (trees : List TokenTree) → AllBalanced trees → AllLexed (atomsOfAll trees) → ∀ afterWord,
    (renderFrom afterWord trees).toList =
      leading afterWord (atomsOfAll trees) ++ (written (atomsOfAll trees) ++ trailing (atomsOfAll trees))
  | [], _, _ => fun afterWord => by simp [renderFrom, atomsOfAll, leading, trailing, written]
  | first :: rest, balanced, lexed => fun afterWord => by
    have ⟨ofFirst, ofRest⟩ := List.forall_mem_append.mp lexed
    have firstWritten := render_eq first balanced.1 ofFirst
    have restWritten := renderFrom_eq rest balanced.2 ofRest first.isWord
    obtain ⟨head, others, begins, -, headWord⟩ := exists_head_atoms balanced.1
    obtain ⟨before, last, split, lastWord, lastComma⟩ := exists_last_atoms first
    have ofLast := ofFirst last (by rw [split]; simp)
    have ends : first.atoms.getLast? = some last := by rw [split, List.getLast?_concat]
    have perhaps (condition : Bool) : (if condition then " " else "").toList = if condition then [' '] else [] := by
      cases condition <;> rfl
    rw [renderFrom, String.toList_append, String.toList_append, String.toList_append, firstWritten, restWritten, atomsOfAll,
      leading_append (by rw [begins]; rfl), written_append, ends, headWord, ← lastWord, ← lastComma, perhaps, perhaps]
    cases rest with
    | nil =>
      have blankBehind : trailing first.atoms = if decide (last.2 = Punctuation.comma.text) then [' '] else [] := by
        rw [trailing, ends, Option.any_some]
      simp [atomsOfAll, written, leading, trailing, gapBehind, ends]
    | cons next rest =>
      obtain ⟨opening, others, begins, opens, -⟩ := exists_head_atoms balanced.2.1
      have behind : atomsOfAll (next :: rest) = opening :: (others ++ atomsOfAll rest) := by rw [atomsOfAll, begins]; rfl
      have sameEnd (others : List Atom) : trailing (first.atoms ++ opening :: others) = trailing (opening :: others) := by
        rw [trailing, List.getLast?_append_of_ne_nil _ (List.cons_ne_nil _ _), trailing]
      rw [behind, sameEnd, Option.map_some, Option.getD_some, gapBehind_eq_append ofLast opens]
      simp only [List.append_assoc]

end

/-- What is written for token trees is what is written for their tokens. -/
theorem renderAll_eq {trees : List TokenTree} (balanced : AllBalanced trees) (lexed : AllLexed (atomsOfAll trees)) :
    (renderAll trees).toList = written (atomsOfAll trees) :=
  trim_eq lexed (renderFrom_eq trees balanced lexed false)

end TokenTree

/-! Reading what is written -/

namespace Lexeme

/-- The tokens among some pieces. -/
def atomsOf (pieces : List Piece) : List Atom :=
  pieces.filterMap fun piece => piece.1.map fun terminal => (.ofTerminal terminal, String.ofList piece.2)

theorem atomsOf_none (text : List Char) (others : List Piece) : atomsOf ((none, text) :: others) = atomsOf others := rfl

theorem atomsOf_some (terminal : Terminal) (text : List Char) (others : List Piece) :
    atomsOf ((some terminal, text) :: others) = (.ofTerminal terminal, String.ofList text) :: atomsOf others := rfl

theorem map_atom_tokensFrom (position : Position) (pieces : List Piece) :
    (tokensFrom position pieces).map Token.atom = atomsOf pieces := by
  induction pieces generalizing position with
  | nil => rfl
  | cons first others step =>
    obtain ⟨kind, text⟩ := first
    rw [tokensFrom_cons, List.map_append, step]
    cases kind with
    | none => rfl
    | some terminal =>
      obtain ⟨token, found⟩ : ∃ token, token? ⟨some terminal, text, position⟩ = some token := ⟨_, rfl⟩
      obtain ⟨_, isTerminal, atom⟩ := atom_of_token? found
      cases isTerminal
      rw [found, atomsOf_some, ← atom]
      rfl

/-- Nothing but blanks stands between the tokens. -/
def SkipsBlanks (pieces : List Piece) : Prop :=
  ∀ piece ∈ pieces, piece.1 = none → ∀ char ∈ piece.2, Text.isBlank char = true

/-- The characters of some tokens that are no blanks. -/
def solidOf (atoms : List Atom) : List Char := atoms.flatMap fun atom => Text.solid atom.2

theorem solidOf_cons (atom : Atom) (atoms : List Atom) : solidOf (atom :: atoms) = Text.solid atom.2 ++ solidOf atoms := rfl

theorem solidOf_some (terminal : Terminal) (text : List Char) (others : List Piece) :
    solidOf (atomsOf ((some terminal, text) :: others)) = Text.solid (.ofList text) ++ solidOf (atomsOf others) := rfl

theorem solid_chars_cons (kind : Option Terminal) (text : List Char) (others : List Piece) :
    Text.solid (.ofList (chars ((kind, text) :: others))) =
      Text.solid (.ofList text) ++ Text.solid (.ofList (chars others)) := by
  rw [chars_cons, String.ofList_append, Text.solid_append]

theorem length_solidOf_le (pieces : List Piece) :
    (solidOf (atomsOf pieces)).length ≤ (Text.solid (.ofList (chars pieces))).length := by
  induction pieces with
  | nil => exact Nat.zero_le _
  | cons first others step =>
    obtain ⟨kind, text⟩ := first
    rw [solid_chars_cons, List.length_append]
    cases kind with
    | none =>
      rw [atomsOf_none]
      omega
    | some terminal =>
      rw [solidOf_some, List.length_append]
      omega

/-- Where no character is lost but blanks, only blanks are skipped. -/
theorem skipsBlanks_of_le {pieces : List Piece}
    (fits : (Text.solid (.ofList (chars pieces))).length ≤ (solidOf (atomsOf pieces)).length) : SkipsBlanks pieces := by
  induction pieces with
  | nil => exact List.forall_mem_nil _
  | cons first others step =>
    obtain ⟨kind, text⟩ := first
    rw [solid_chars_cons, List.length_append] at fits
    cases kind with
    | none =>
      rw [atomsOf_none] at fits
      have all := length_solidOf_le others
      have nothing : Text.solid (.ofList text) = [] := List.length_eq_zero_iff.mp (by omega)
      rw [Text.solid, String.toList_ofList] at nothing
      refine List.forall_mem_cons.mpr ⟨fun _ char member => ?_, step (by omega)⟩
      simpa using List.filter_eq_nil_iff.mp nothing char member
    | some terminal =>
      rw [solidOf_some, List.length_append] at fits
      refine List.forall_mem_cons.mpr ⟨fun isNone => ?_, step (by omega)⟩
      cases isNone

end Lexeme

namespace Atom

theorem solid_written (atoms : List Atom) : Text.solid (.ofList (written atoms)) = solidOf atoms := by
  induction atoms with
  | nil => rfl
  | cons atom rest step =>
    have noSolid : Text.solid (.ofList (gapBehind atom rest)) = [] := by
      rcases gapBehind_eq atom rest with none | blank
      · rw [none]
        rfl
      · rw [blank]
        rfl
    rw [written, String.ofList_append, String.ofList_append, Text.solid_append, Text.solid_append, step, noSolid,
      List.nil_append, String.ofList_toList, solidOf_cons]

/-- A text is read as some tokens with nothing but blanks between them. -/
def Reads (text : List Char) (atoms : List Atom) : Prop :=
  ∃ pieces, Pieces text pieces [] ∧ atomsOf pieces = atoms ∧ SkipsBlanks pieces

theorem run_isBlank_written {atoms : List Atom} (lexed : AllLexed atoms) : run isBlank (written atoms) = 0 := by
  refine run_append_of_not (fun char head => ?_) []
  cases atoms with
  | nil => cases head
  | cons atom rest =>
    have noBlank := (isTrimmed_written (List.cons_ne_nil _ _) lexed).begins char head
    by_contra blank
    simp only [isBlank, Bool.not_eq_false, Bool.or_eq_true, decide_eq_true_eq] at blank
    rcases blank with (((rfl | rfl) | rfl) | rfl) | rfl <;> cases noBlank

/-- The gap in front of some tokens is read as nothing. -/
theorem reads_gap_iff (atom : Atom) {rest : List Atom} (lexed : AllLexed rest) :
    Reads (gapBehind atom rest ++ written rest) rest ↔ Reads (written rest) rest := by
  rcases gapBehind_eq atom rest with none | blank
  · rw [none, List.nil_append]
  · have first := first?_blank (rfl : isBlank ' ' = true) (written rest)
    rw [run_isBlank_written lexed] at first
    rw [blank, List.singleton_append]
    constructor
    · rintro ⟨pieces, covers, atoms, skips⟩
      obtain _ | ⟨found, behind⟩ := covers
      cases first.symm.trans found
      exact ⟨_, behind, atoms, (List.forall_mem_cons.mp skips).2⟩
    · rintro ⟨pieces, covers, atoms, skips⟩
      refine ⟨(none, [' ']) :: pieces, .cons first covers, atoms, List.forall_mem_cons.mpr ⟨fun _ => ?_, skips⟩⟩
      exact List.forall_mem_singleton.mpr rfl

/-- The first of some tokens is read as it was written exactly if it is not overrun. -/
theorem reads_cons_iff {atom : Atom} {rest : List Atom} (lexed : AllLexed (atom :: rest)) :
    Reads (written (atom :: rest)) (atom :: rest) ↔
      ¬ Overruns atom (gapBehind atom rest ++ written rest) ∧ Reads (written rest) rest := by
  obtain ⟨ofAtom, ofRest⟩ := List.forall_mem_cons.mp lexed
  have apart : atom.1.isWord = true → Detached (gapBehind atom rest ++ written rest) := fun isWord =>
    detached_behind isWord ofRest
  rw [← reads_gap_iff atom ofRest, written]
  generalize gapBehind atom rest ++ written rest = more at apart ⊢
  obtain ⟨begin, others, written⟩ : ∃ begin others, atom.2.toList = begin :: others := by
    obtain ⟨before, last, split, -⟩ := ofAtom.isTrimmed.ends
    exact List.exists_cons_of_ne_nil (by simp [split])
  have noBlank := ofAtom.isTrimmed.begins begin (by rw [written]; rfl)
  constructor
  · rintro ⟨pieces, covers, atoms, skips⟩
    generalize whole : atom.2.toList ++ more = text at covers
    obtain _ | @⟨_, kind, length, others, _, first, behind⟩ := covers
    · simp [written] at whole
    · have size : (text.take (length + 1)).length = length + 1 := List.length_take_of_le (first?_le first)
      obtain ⟨ofFirst, ofOthers⟩ := List.forall_mem_cons.mp skips
      cases kind with
      -- what separates tokens does not begin like one
      | none =>
        have inside : begin ∈ text.take (length + 1) := by
          rw [← whole, written, List.cons_append, List.take_succ_cons]
          exact List.mem_cons_self
        exact Bool.noConfusion (noBlank.symm.trans (ofFirst rfl begin inside))
      | some terminal =>
        rw [atomsOf_some] at atoms
        obtain ⟨rfl, rfl⟩ := List.cons.inj atoms
        rw [String.toList_ofList] at whole
        have rest : text.drop (length + 1) = more := by
          have split := List.take_append_drop (length + 1) text
          exact (List.append_cancel_left (whole.trans split.symm)).symm
        rw [rest] at behind
        refine ⟨fun overruns => ?_, _, behind, rfl, ofOthers⟩
        obtain ⟨_, longer, found, short⟩ := overruns.exists_longer
        rw [String.toList_ofList, whole, first] at found
        cases found
        rw [String.length_ofList, size] at short
        exact Nat.lt_irrefl _ short
  · rintro ⟨free, pieces, covers, atoms, skips⟩
    obtain ⟨terminal, ofKind, found⟩ := ofAtom.first?_append apart free
    have proper : atom.2 ≠ "" := by
      intro empty
      rw [empty] at written
      cases written
    refine ⟨(some terminal, atom.2.toList) :: pieces, Lexes.cons_piece proper found covers, ?_,
      List.forall_mem_cons.mpr ⟨nofun, skips⟩⟩
    rw [atomsOf_some, atoms, ofKind, String.ofList_toList]

/-- Some tokens are read as they were written exactly if none of them is overrun. -/
theorem reads_iff {atoms : List Atom} (lexed : AllLexed atoms) : Reads (written atoms) atoms ↔ ¬ Fuses atoms := by
  induction atoms with
  | nil => exact iff_of_true ⟨[], .nil [], rfl, List.forall_mem_nil _⟩ nofun
  | cons atom rest step =>
    rw [reads_cons_iff lexed, step (List.forall_mem_cons.mp lexed).2, fuses_cons, not_or]

end Atom

namespace TokenTree

/-- What is written for some token trees is lexed as their tokens. -/
structure ReadBack (trees : List TokenTree) : Prop where
  complete : (Lexing.ofText (renderAll trees)).failure = none
  tokens : (Lexing.ofText (renderAll trees)).tokens.map Token.atom = atomsOfAll trees

theorem readBack_iff_reads {trees : List TokenTree} (balanced : AllBalanced trees) (lexed : AllLexed (atomsOfAll trees)) :
    ReadBack trees ↔ Reads (written (atomsOfAll trees)) (atomsOfAll trees) := by
  have text := renderAll_eq balanced lexed
  have ofPieces {pieces : List Piece} (covers : Pieces (written (atomsOfAll trees)) pieces []) :
      Lexing.ofText (renderAll trees) = ⟨place .start pieces, none⟩ := by
    rw [Lexing.ofText, text]
    exact scan_of_pieces covers .start
  constructor
  · rintro ⟨complete, tokens⟩
    obtain ⟨pieces, covers, -⟩ := exists_pieces complete
    rw [text] at covers
    rw [ofPieces covers] at tokens
    have atoms : atomsOf pieces = atomsOfAll trees := (map_atom_tokensFrom .start pieces).symm.trans tokens
    refine ⟨pieces, covers, atoms, skipsBlanks_of_le ?_⟩
    have whole := covers.eq_append
    rw [List.append_nil] at whole
    rw [← whole, solid_written, atoms]
  · rintro ⟨pieces, covers, atoms, -⟩
    refine ⟨by rw [ofPieces covers], ?_⟩
    rw [ofPieces covers, ← atoms]
    exact map_atom_tokensFrom .start pieces

/-- Token trees without documentation comments are written as a text that is lexed as their tokens, exactly if none of the
tokens is overrun by what is written behind it. -/
theorem readBack_iff {trees : List TokenTree} {text : String} (stand : StandIn trees text) (noDoc : HaveNoDoc trees) :
    ReadBack trees ↔ ¬ Fuses (atomsOfAll trees) := by
  obtain ⟨balanced, lexed⟩ := stand.atoms noDoc
  rw [readBack_iff_reads balanced lexed, reads_iff lexed]

/-- Marks of a raw string and of a comment that are not closed, a fraction behind a fraction and a comma at the end of a group
are no harm. -/
theorem readBack_iff_nearMisses : ∃ trees, StandIn trees "f(r # \"y\", [1 . . x, 1.5 .0, ], / * 'a' 'b)" ∧ HaveNoDoc trees ∧
    renderAll trees = "f(r#\"y\", [1..x, 1.5.0,], /*'a' 'b)" ∧ ReadBack trees ∧ ¬ Fuses (atomsOfAll trees) := by
  have read : (Rule.trees.read? (Lexing.ofText "f(r # \"y\", [1 . . x, 1.5 .0, ], / * 'a' 'b)").tokens).any (fun trees =>
      decide ((∀ atom ∈ atomsOfAll trees, atom.1 ≠ .doc) ∧ renderAll trees = "f(r#\"y\", [1..x, 1.5.0,], /*'a' 'b)" ∧
        (Lexing.ofText (renderAll trees)).failure = none ∧
        (Lexing.ofText (renderAll trees)).tokens.map Token.atom = atomsOfAll trees)) = true := by
    decide +kernel
  obtain ⟨trees, found, holds⟩ := (Option.any_eq_true _ _).mp read
  obtain ⟨noDoc, rendered, complete, tokens⟩ := of_decide_eq_true holds
  have whole : (Lexing.ofText "f(r # \"y\", [1 . . x, 1.5 .0, ], / * 'a' 'b)").failure = none := by decide +kernel
  have stand : StandIn trees "f(r # \"y\", [1 . . x, 1.5 .0, ], / * 'a' 'b)" := ⟨whole, _, List.infix_rfl, .inl found⟩
  have back : ReadBack trees := ⟨complete, tokens⟩
  exact ⟨trees, stand, noDoc, rendered, back, (readBack_iff stand noDoc).mp back⟩

/-- Two colons are written as the mark between the parts of a path. -/
theorem renderAll_fusesColons : ∃ trees, StandIn trees "a : : b" ∧ HaveNoDoc trees ∧ renderAll trees = "a::b" ∧
    ¬ ReadBack trees := by
  have read : (Rule.trees.read? (Lexing.ofText "a : : b").tokens).any (fun trees =>
      decide ((∀ atom ∈ atomsOfAll trees, atom.1 ≠ .doc) ∧ renderAll trees = "a::b" ∧
        (Lexing.ofText (renderAll trees)).tokens.map Token.atom ≠ atomsOfAll trees)) = true := by
    decide +kernel
  obtain ⟨trees, found, holds⟩ := (Option.any_eq_true _ _).mp read
  obtain ⟨noDoc, rendered, other⟩ := of_decide_eq_true holds
  have whole : (Lexing.ofText "a : : b").failure = none := by decide +kernel
  exact ⟨trees, ⟨whole, _, List.infix_rfl, .inl found⟩, noDoc, rendered, fun back => other back.tokens⟩

end TokenTree

end Exposure
