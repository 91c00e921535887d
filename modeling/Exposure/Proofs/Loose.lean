import Exposure.Proofs.Plain
import Exposure.Proofs.Succession
import Exposure.Text.Literal

/-!
Loose text: plain characters, string literals behind blanks or opening brackets, and brackets around more of it. Before
any bracket it is read as token trees.
-/

namespace Exposure

namespace Lexeme

/-! String literals -/

theorem stringBody?_escape {escaped : Char} (proper : escaped ≠ '\n') (rest : List Char) :
    stringBody? ('\\' :: escaped :: rest) = (stringBody? rest).map (· + 2) := by
  rw [stringBody?, if_neg proper]

/-- Characters that are neither quotes nor backslashes stand for themselves. -/
theorem stringBody?_append {front : List Char} (each : ∀ char ∈ front, char ≠ '"' ∧ char ≠ '\\') (rest : List Char) :
    stringBody? (front ++ rest) = (stringBody? rest).map (· + front.length) := by
  induction front with
  | nil => simp
  | cons first others step =>
    obtain ⟨⟨noQuote, noEscape⟩, ofOthers⟩ := List.forall_mem_cons.mp each
    rw [List.cons_append, stringBody?_plain noQuote noEscape, step ofOthers, Option.map_map]
    rfl

theorem hexText_plain {value : Nat} (small : value < 128) :
    ∀ char ∈ Literal.hexText value, char ≠ '"' ∧ char ≠ '\\' := by
  have every : ∀ value < 128, (Literal.hexText value).all (fun char => char != '"' && char != '\\') = true := by decide
  simpa using every value small

theorem stringBody?_encodeChar (char : Char) (rest : List Char) :
    stringBody? (Literal.encodeChar char ++ rest) = (stringBody? rest).map (· + (Literal.encodeChar char).length) := by
  unfold Literal.encodeChar
  split
  · exact stringBody?_escape (by decide) rest
  split
  · exact stringBody?_escape (by decide) rest
  split
  · exact stringBody?_escape (by decide) rest
  split
  · exact stringBody?_escape (by decide) rest
  split
  · exact stringBody?_escape (by decide) rest
  split
  · exact stringBody?_escape (by decide) rest
  split
  · rename_i control
    have small : char.toNat < 128 := by
      simp only [Bool.or_eq_true, decide_eq_true_eq] at control
      omega
    have braced : ∀ other ∈ '\x7b' :: Literal.hexText char.toNat ++ ['\x7d'], other ≠ '"' ∧ other ≠ '\\' := by
      intro other member
      simp only [List.cons_append, List.mem_cons, List.mem_append, List.not_mem_nil, or_false] at member
      rcases member with rfl | member | rfl
      · decide
      · exact hexText_plain small other member
      · decide
    have behind := stringBody?_append braced rest
    simp only [List.cons_append] at behind ⊢
    rw [stringBody?_escape (by decide), behind, Option.map_map]
    rfl
  · rename_i noEscape noQuote _ _ _ _ _
    have plain : ∀ other ∈ [char], other ≠ '"' ∧ other ≠ '\\' := by simp [noEscape, noQuote]
    exact stringBody?_append plain rest

theorem toList_encode (text : String) :
    (Literal.encode text).toList = '"' :: (text.toList.flatMap Literal.encodeChar ++ ['"']) := by
  rw [Literal.encode, String.toList_ofList]
  rfl

/-- A string literal is one lexeme, whatever follows it. -/
theorem first?_encode (text : String) (rest : List Char) :
    first? ((Literal.encode text).toList ++ rest) = some (some .string, (Literal.encode text).toList.length) := by
  have body (chars : List Char) :
      stringBody? (chars.flatMap Literal.encodeChar ++ '"' :: rest) =
        some ((chars.flatMap Literal.encodeChar).length + 1) := by
    induction chars with
    | nil => simp [stringBody?]
    | cons first others step =>
      rw [List.flatMap_cons, List.append_assoc, stringBody?_encodeChar, step, Option.map_some, List.length_append]
      exact congrArg some (by omega)
  rw [toList_encode, List.cons_append, List.append_assoc, List.singleton_append, first?_quote, body]
  simp [Nat.add_comm]

/-! Token trees -/

/-- The tokens of some pieces are token trees, wherever the pieces stand. -/
def AreTrees (pieces : List Piece) : Prop :=
  ∀ position, ∃ trees, Grammar.Parts Rule.rules Rule.tree (tokensFrom position pieces) trees

theorem AreTrees.nil : AreTrees [] := fun _ => ⟨[], .nil⟩

theorem AreTrees.append {one two : List Piece} (ofOne : AreTrees one) (ofTwo : AreTrees two) : AreTrees (one ++ two) := by
  intro position
  obtain ⟨first, ofFirst⟩ := ofOne position
  obtain ⟨second, ofSecond⟩ := ofTwo (position.past (chars one))
  rw [tokensFrom_append]
  exact ⟨first ++ second, ofFirst.append ofSecond⟩

/-- What the rule of trees accepts is a tree. -/
theorem parts_of_treeRule {tokens : List Token} (accepts : Rule.treeRule.Accepts tokens) (proper : tokens ≠ []) :
    ∃ trees, Grammar.Parts Rule.rules Rule.tree tokens trees := by
  obtain ⟨tree, read⟩ := Option.isSome_iff_exists.mp accepts
  have guarded : (Rule.rules .tree).isGuarded = true := rfl
  have notEmpty : (Rule.rules .tree).isNullable = false := rfl
  have readTree : Grammar.read? Rule.rules Rule.tree tokens = some tree :=
    (Grammar.read?_rule guarded notEmpty id tokens).trans (congrArg (Option.map id) read)
  have parts := Grammar.Parts.cons readTree proper .nil
  rw [List.append_nil] at parts
  exact ⟨[tree], parts⟩

/-- A piece that is no bracket is a tree or separates trees. -/
theorem AreTrees.single {kind : LexemeClass} (ofTree : IsTreeClass kind) (text : List Char) :
    AreTrees [(kind, text)] := by
  intro position
  have alone : tokensFrom position [(kind, text)] = (token? ⟨kind, text, position⟩).toList :=
    (tokensFrom_cons position kind text []).trans (List.append_nil _)
  rw [alone]
  cases found : token? ⟨kind, text, position⟩ with
  | none => exact ⟨[], .nil⟩
  | some token =>
    have leaf : token.terminal = .mark .semicolon ∨ Rule.isPlainLeaf token.terminal = true := by
      obtain ⟨terminal, rfl, rfl⟩ := Option.map_eq_some_iff.mp found
      cases terminal with
      | mark mark => exact ofTree.imp_left (congrArg Terminal.mark)
      | ident =>
        refine .inr ?_
        cases reserved : Keyword.ofText? (String.ofList text) <;> simp [reserved, Rule.isPlainLeaf]
      | _ => exact .inr rfl
    refine parts_of_treeRule ?_ (List.cons_ne_nil token [])
    rcases leaf with semicolon | plain
    · exact .ofSecond (.ofSecond (Rule.map_accepts (Rule.terminal_accepts semicolon)))
    · refine .ofSecond (.ofFirst (Rule.map_accepts ?_))
      rw [Rule.Accepts, Grammar.Accepts, Rule.satisfying, Option.toList_some, Grammar.read?_single]
      simp [plain]

/-- The piece of a mark. -/
def markPiece (mark : Punctuation) : Piece := (some (.mark mark), mark.text.toList)

theorem exists_token_of_markPiece (position : Position) (mark : Punctuation) :
    ∃ token, token.terminal = .mark mark ∧ tokensFrom position [markPiece mark] = [token] := ⟨_, rfl, rfl⟩

/-- A bracket is a lexeme of its own, whatever follows it. -/
theorem first?_bracket (delimiter : Delimiter) {mark : Punctuation} (isBracket : mark = delimiter.opening ∨ mark = delimiter.closing)
    (rest : List Char) : first? (mark.text.toList ++ rest) = some (some (.mark mark), 1) := by
  cases delimiter <;> rcases isBracket with rfl | rfl <;> rfl

theorem Pieces.bracket_append (delimiter : Delimiter) {mark : Punctuation}
    (isBracket : mark = delimiter.opening ∨ mark = delimiter.closing) {behind rest : List Char} {others : List Piece}
    (covers : Pieces behind others rest) : Pieces (mark.text.toList ++ behind) (markPiece mark :: others) rest := by
  refine .cons_append (first?_bracket delimiter isBracket behind) ?_ covers
  cases delimiter <;> rcases isBracket with rfl | rfl <;> rfl

/-- Trees between brackets are a tree. -/
theorem AreTrees.group (delimiter : Delimiter) {inside : List Piece} (ofInside : AreTrees inside) :
    AreTrees ([markPiece delimiter.opening] ++ (inside ++ [markPiece delimiter.closing])) := by
  intro position
  rw [tokensFrom_append, tokensFrom_append]
  obtain ⟨opening, opens, ofOpening⟩ := exists_token_of_markPiece position delimiter.opening
  generalize position.past (chars [markPiece delimiter.opening]) = behind
  obtain ⟨trees, ofTrees⟩ := ofInside behind
  obtain ⟨closing, closes, ofClosing⟩ := exists_token_of_markPiece (behind.past (chars inside)) delimiter.closing
  rw [ofOpening, ofClosing]
  have group : (Rule.group delimiter).Accepts ([opening] ++ (tokensFrom behind inside ++ [closing])) :=
    ((Rule.terminal_accepts opens).map _).sequence (ofTrees.accepts.sequence (Rule.terminal_accepts closes) _) _
  refine parts_of_treeRule ?_ (List.cons_ne_nil opening _)
  cases delimiter with
  | paren => exact .ofFirst (.ofFirst group)
  | bracket => exact .ofFirst (.ofSecond (.ofFirst group))
  | brace => exact .ofFirst (.ofSecond (.ofSecond group))

end Lexeme

/-- Loose text, which stands behind a blank or an opening bracket or may stand behind anything. -/
inductive Loose : Bool → List Char → Prop
  | nil {behindBlank : Bool} : Loose behindBlank []
  | plain {behindBlank : Bool} {first : Char} {rest : List Char} (ofFirst : Lexeme.isPlain first = true)
      (others : Loose (first = ' ') rest) : Loose behindBlank (first :: rest)
  | literal {text : String} {rest : List Char} (others : Loose false rest) :
      Loose true ((Literal.encode text).toList ++ rest)
  | group {behindBlank : Bool} (delimiter : Delimiter) {inside rest : List Char} (within : Loose true inside)
      (others : Loose false rest) :
      Loose behindBlank (delimiter.opening.text.toList ++ (inside ++ (delimiter.closing.text.toList ++ rest)))

/-- A text begins with a bracket. -/
def BeginsBracket (text : List Char) : Prop :=
  ∃ bracket rest, text = bracket :: rest ∧ bracket ∈ ['(', ')', '[', ']', '\x7b', '\x7d']

namespace Loose

open Lexeme

theorem weaken {behindBlank : Bool} {text : List Char} (loose : Loose false text) : Loose behindBlank text := by
  generalize anywhere : false = start at loose
  cases loose with
  | nil => exact .nil
  | plain ofFirst others => exact .plain ofFirst others
  | literal others => cases anywhere
  | group delimiter within others => exact .group delimiter within others

theorem append {behindBlank : Bool} {one two : List Char} (ofOne : Loose behindBlank one) (ofTwo : Loose false two) :
    Loose behindBlank (one ++ two) := by
  induction ofOne with
  | nil => exact ofTwo.weaken
  | plain ofFirst _ step => exact .plain ofFirst step
  | literal _ step =>
    rw [List.append_assoc]
    exact .literal step
  | group delimiter within _ _ step =>
    rw [List.append_assoc, List.append_assoc, List.append_assoc]
    exact .group delimiter within step

/-- Anything loose may stand behind a blank. -/
theorem append_blank {behindBlank : Bool} {one two : List Char} (ofOne : Loose behindBlank one) (ofTwo : Loose true two) :
    Loose behindBlank (one ++ ' ' :: two) := ofOne.append (.plain rfl ofTwo)

theorem ofPlain {behindBlank : Bool} {text : List Char} (each : ∀ char ∈ text, isPlain char = true) :
    Loose behindBlank text := by
  induction text generalizing behindBlank with
  | nil => exact .nil
  | cons first rest step =>
    obtain ⟨ofFirst, ofRest⟩ := List.forall_mem_cons.mp each
    exact .plain ofFirst (step ofRest)

/-! What loose text begins with -/

section Beginning

variable {behindBlank : Bool} {text rest : List Char}

theorem beginsBracket_opening (delimiter : Delimiter) (rest : List Char) :
    BeginsBracket (delimiter.opening.text.toList ++ rest) := by
  cases delimiter <;> exact ⟨_, rest, rfl, by decide⟩

theorem beginsBracket_closing (delimiter : Delimiter) (rest : List Char) :
    BeginsBracket (delimiter.closing.text.toList ++ rest) := by
  cases delimiter <;> exact ⟨_, rest, rfl, by decide⟩

/-- A bracket is no plain character and begins no literal. -/
theorem bracket_is_no_other {bracket : Char} (isBracket : bracket ∈ ['(', ')', '[', ']', '\x7b', '\x7d']) :
    isPlain bracket = false ∧ bracket ≠ '\'' ∧ bracket ≠ '"' := by
  have every : ['(', ')', '[', ']', '\x7b', '\x7d'].all
      (fun bracket => !isPlain bracket && bracket != '\'' && bracket != '"') = true := rfl
  simpa [and_assoc] using List.all_eq_true.mp every bracket isBracket

/-- Plain characters before a bracket are those of the loose text. -/
theorem run_append (begins : BeginsBracket rest) : run isPlain (text ++ rest) = run isPlain text := by
  obtain ⟨bracket, others, rfl, isBracket⟩ := begins
  exact run_append_cons (bracket_is_no_other isBracket).1 text others

/-- Behind some of the plain characters that it begins with, the text is loose. -/
theorem drop (loose : Loose behindBlank text) {length : Nat} (fits : length ≤ run isPlain text) :
    ∃ behindBlank', Loose behindBlank' (text.drop length) := by
  induction loose generalizing length with
  | nil => exact ⟨false, by rw [List.drop_nil]; exact .nil⟩
  | @plain behindBlank first rest ofFirst others step =>
    cases length with
    | zero => exact ⟨behindBlank, .plain ofFirst others⟩
    | succ length =>
      rw [run_cons_pos ofFirst] at fits
      exact step (Nat.le_of_succ_le_succ fits)
  | @literal text rest others =>
    have begins : run isPlain ((Literal.encode text).toList ++ rest) = 0 := by
      rw [toList_encode]
      rfl
    obtain rfl : length = 0 := by omega
    exact ⟨true, .literal others⟩
  | @group behindBlank delimiter inside rest within others =>
    have begins (behind : List Char) : run isPlain (delimiter.opening.text.toList ++ behind) = 0 :=
      (run_append (beginsBracket_opening delimiter behind) : run isPlain ([] ++ _) = run isPlain [])
    rw [begins] at fits
    obtain rfl : length = 0 := Nat.le_zero.mp fits
    exact ⟨behindBlank, .group delimiter within others⟩

/-- The first character of a text that begins with a bracket. -/
theorem first_of_beginsBracket {text : List Char} (begins : BeginsBracket text) {first : Char} {others : List Char}
    (same : text = first :: others) : isPlain first = false ∧ first ≠ '\'' ∧ first ≠ '"' := by
  obtain ⟨bracket, rest, rfl, isBracket⟩ := begins
  obtain ⟨rfl, -⟩ := List.cons.inj same
  exact bracket_is_no_other isBracket

/-- Loose text in front of a bracket that begins with a plain character goes on with loose text. -/
theorem exists_of_isPlain (loose : Loose behindBlank text) (fence : BeginsBracket rest) {first : Char}
    {others : List Char} (begins : text ++ rest = first :: others) (ofFirst : isPlain first = true) :
    ∃ behind, others = behind ++ rest ∧ Loose (first = ' ') behind := by
  cases loose with
  | nil => cases ofFirst.symm.trans (first_of_beginsBracket fence begins).1
  | @plain _ first' behind _ further =>
    obtain ⟨rfl, rfl⟩ := List.cons.inj begins
    exact ⟨behind, rfl, further⟩
  | literal _ =>
    rw [toList_encode] at begins
    obtain ⟨rfl, -⟩ := List.cons.inj begins
    cases ofFirst
  | group delimiter _ _ =>
    rw [List.append_assoc] at begins
    cases ofFirst.symm.trans (first_of_beginsBracket (beginsBracket_opening delimiter _) begins).1

/-- No apostrophe begins loose text in front of a bracket, and a quote begins it behind a blank only. -/
theorem begins_no_literal (loose : Loose behindBlank text) (fence : BeginsBracket rest) {first : Char}
    {others : List Char} (begins : text ++ rest = first :: others) :
    first ≠ '\'' ∧ (behindBlank = false → first ≠ '"') := by
  cases loose with
  | nil =>
    obtain ⟨-, noApostrophe, noQuote⟩ := first_of_beginsBracket fence begins
    exact ⟨noApostrophe, fun _ => noQuote⟩
  | plain ofFirst _ =>
    obtain ⟨rfl, -⟩ := List.cons.inj begins
    refine ⟨?_, fun _ => ?_⟩ <;> (rintro rfl; cases ofFirst)
  | literal _ =>
    rw [toList_encode] at begins
    obtain ⟨rfl, -⟩ := List.cons.inj begins
    exact ⟨by decide, nofun⟩
  | group delimiter _ _ =>
    rw [List.append_assoc] at begins
    obtain ⟨-, noApostrophe, noQuote⟩ := first_of_beginsBracket (beginsBracket_opening delimiter _) begins
    exact ⟨noApostrophe, fun _ => noQuote⟩

/-- Plain characters other than blanks keep a quote away. -/
theorem no_quote (loose : Loose false text) (fence : BeginsBracket rest) {front more : List Char}
    (ofFront : front.all (fun char => isPlain char && char != ' ') = true) (begins : text ++ rest = front ++ '"' :: more) :
    False := by
  induction front generalizing text with
  | nil => exact (loose.begins_no_literal fence begins).2 rfl rfl
  | cons first front step =>
    rw [List.all_cons, Bool.and_eq_true_iff, Bool.and_eq_true_iff, bne_iff_ne] at ofFront
    obtain ⟨⟨ofFirst, noBlank⟩, ofOthers⟩ := ofFront
    obtain ⟨behind, same, further⟩ := loose.exists_of_isPlain fence begins ofFirst
    rw [decide_eq_false noBlank] at further
    exact step further ofOthers same.symm

/-- A letter begins no literal in loose text. -/
theorem letter_begins_no_literal (loose : Loose behindBlank text) (fence : BeginsBracket rest) {first : Char}
    {others : List Char} (begins : text ++ rest = first :: others) (letter : beginsIdent first = true) :
    rawString? (first :: others) = none ∧ string? (first :: others) = none ∧ char? (first :: others) = none := by
  have noBlank : first ≠ ' ' := by
    rintro rfl
    cases letter
  obtain ⟨behind, rfl, further⟩ := loose.exists_of_isPlain fence begins (isPlain_of_beginsIdent letter)
  rw [decide_eq_false noBlank] at further
  have quoted (front : List Char) {more : List Char} (same : behind ++ rest = front ++ '"' :: more)
      (ofFront : front.all (fun char => isPlain char && char != ' ') = true) : False := further.no_quote fence ofFront same
  refine ⟨?_, ?_, ?_⟩
  · by_contra nothing
    have found := Option.isSome_iff_ne_none.mpr nothing
    rw [rawString?_eq, Option.isSome_or, Bool.or_eq_true] at found
    rcases found with found | found
    · obtain ⟨body, same, raw⟩ := exists_of_isSome_marked found
      obtain ⟨_, rfl, hash⟩ := exists_of_isSome_opened raw
      obtain ⟨_, rfl, quote⟩ := exists_of_isSome_opened hash
      obtain ⟨_, rfl, -⟩ := exists_of_isSome_opened quote
      rcases same with same | same
      · exact quoted ['#'] (List.cons.inj same).2 rfl
      · exact quoted ['r', '#'] (List.cons.inj same).2 rfl
    · obtain ⟨body, same, raw⟩ := exists_of_isSome_marked found
      obtain ⟨_, rfl, quote⟩ := exists_of_isSome_opened raw
      obtain ⟨_, rfl, -⟩ := exists_of_isSome_opened quote
      rcases same with same | same
      · exact quoted [] (List.cons.inj same).2 rfl
      · exact quoted ['r'] (List.cons.inj same).2 rfl
  · by_contra nothing
    have found := Option.isSome_iff_ne_none.mpr nothing
    rw [string?_eq] at found
    obtain ⟨body, same, quote⟩ := exists_of_isSome_marked found
    obtain ⟨_, rfl, -⟩ := exists_of_isSome_opened quote
    rcases same with same | same
    · obtain ⟨rfl, -⟩ := List.cons.inj same
      cases letter
    · exact quoted [] (List.cons.inj same).2 rfl
  · by_contra nothing
    have found := Option.isSome_iff_ne_none.mpr nothing
    rw [char?_eq] at found
    obtain ⟨body, same, quote⟩ := exists_of_isSome_marked found
    obtain ⟨_, rfl, -⟩ := exists_of_isSome_opened quote
    rcases same with same | same
    · obtain ⟨rfl, -⟩ := List.cons.inj same
      cases letter
    · exact (further.begins_no_literal fence (List.cons.inj same).2).1 rfl

end Beginning

/-- Before a bracket loose text is lexed as pieces whose tokens are token trees. -/
theorem exists_pieces {behindBlank : Bool} {text : List Char} (loose : Loose behindBlank text) {rest : List Char}
    (fence : BeginsBracket rest) : ∃ pieces, Pieces (text ++ rest) pieces rest ∧ AreTrees pieces := by
  induction measured : text.length using Nat.strongRecOn generalizing behindBlank text rest with
  | _ size again =>
    cases loose with
    | nil => exact ⟨[], .nil rest, .nil⟩
    | @plain _ first others ofFirst further =>
      have whole : Loose true (first :: others) := .plain ofFirst further
      obtain ⟨kind, length, found, fits, ofTree⟩ := exists_first?_of_isPlain ofFirst
        (letter_begins_no_literal whole fence rfl)
      have inText : length + 1 ≤ run isPlain (first :: others) := run_append fence ▸ fits
      have inside : length + 1 ≤ (first :: others).length := Nat.le_trans inText (run_le isPlain _)
      obtain ⟨_, behind⟩ := whole.drop inText
      have shorter : ((first :: others).drop (length + 1)).length < size := by
        rw [List.length_drop]
        omega
      obtain ⟨pieces, covers, trees⟩ := again _ shorter behind fence rfl
      have single := AreTrees.single ofTree ((first :: others).take (length + 1))
      have beginning : ((first :: others) ++ rest).take (length + 1) = (first :: others).take (length + 1) :=
        List.take_append_of_le_length inside
      rw [← List.drop_append_of_le_length inside] at covers
      rw [← beginning] at single
      exact ⟨_, .cons found covers, single.append trees⟩
    | @literal content others further =>
      obtain ⟨length, size_eq⟩ : ∃ length, (Literal.encode content).toList.length = length + 1 :=
        ⟨_, by rw [toList_encode, List.length_cons]⟩
      have shorter : others.length < size := by
        rw [List.length_append] at measured
        omega
      obtain ⟨pieces, covers, trees⟩ := again _ shorter further fence rfl
      have found := first?_encode content (others ++ rest)
      have string : IsTreeClass (some .string) := trivial
      rw [size_eq] at found
      rw [List.append_assoc]
      exact ⟨_, .cons_append found size_eq covers, (AreTrees.single string _).append trees⟩
    | @group _ delimiter inside others within further =>
      have sizes : inside.length < size ∧ others.length < size := by
        simp only [List.length_append, String.length_toList] at measured
        have one : delimiter.opening.text.length = 1 := by cases delimiter <;> rfl
        omega
      obtain ⟨inner, ofInside, innerTrees⟩ := again _ sizes.1 within (beginsBracket_closing delimiter _) rfl
      obtain ⟨outer, ofOthers, outerTrees⟩ := again _ sizes.2 further fence rfl
      have closing := Pieces.bracket_append delimiter (.inr rfl) ofOthers
      have opening := Pieces.bracket_append delimiter (.inl rfl) (Pieces.append_iff.mpr ⟨_, ofInside, closing⟩)
      refine ⟨_, ?_, (innerTrees.group delimiter).append outerTrees⟩
      simpa only [List.append_assoc, List.cons_append, List.nil_append] using opening

end Loose

end Exposure
