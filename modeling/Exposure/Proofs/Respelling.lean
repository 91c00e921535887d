import Exposure.Proofs.Rereading
import Exposure.Proofs.Spacing

/-!
# How rendering respells a type

The tokens of a type go into its tree and come back out of it when the tree is rendered. What is not kept is said here: a
comma behind the last member of a list, an empty list of arguments, the mark between a name and its arguments, the mark at
the root of a path, and the parentheses around a bound are left out, and a type alone in parentheses gets a comma.
-/

namespace Exposure

namespace Word

/-- A path may end with this word. -/
def endsPath (word : Word) : Bool :=
  match word.1 with
  | .ident => true
  | .mark .greater => true
  | .mark .closeParen => true
  | _ => false

/-- A bound stands behind this word. -/
def opensBound (word : Word) : Bool :=
  match word.1 with
  | .mark .plus => true
  | .word .implWord => true
  | .word .dynWord => true
  | _ => false

/-- A name, a reserved word or a number. -/
def isConstant (word : Word) : Bool :=
  match word.1 with
  | .ident => true
  | .number => true
  | .word _ => true
  | _ => false

/-- The last of some words, or else the word before them. -/
def lastOf (before : Option Word) (words : List Word) : Option Word := words.foldl (fun _ word => some word) before

theorem lastOf_append (before : Option Word) (words words' : List Word) :
    lastOf before (words ++ words') = lastOf (lastOf before words) words' := List.foldl_append

/-- A word stands behind a name. -/
def isBehindName (before : Option Word) : Bool := before.any fun word => word.1 = .ident

/-- A path may begin behind a word, or at the beginning of a text. -/
def startsPath (before : Option Word) : Bool := before.all fun word => !word.endsPath

/-- A type may begin behind a word, or at the beginning of a text. -/
def startsType (before : Option Word) : Bool := before.all fun word => !word.endsPath && !word.opensBound

/-- A bound may begin behind a word. -/
def startsBound (before : Option Word) : Bool := before.any opensBound

theorem startsPath_of_startsType {before : Option Word} (starts : startsType before = true) : startsPath before = true := by
  cases before with
  | none => rfl
  | some word =>
    simp only [startsType, startsPath, Option.all_some, Bool.and_eq_true] at starts ⊢
    exact starts.1

theorem startsPath_of_startsBound {before : Option Word} (starts : startsBound before = true) : startsPath before = true := by
  cases before with
  | none => rfl
  | some word =>
    simp only [startsBound, startsPath, Option.any_some, Option.all_some, opensBound, endsPath] at starts ⊢
    split at starts <;> simp_all

end Word

open Word

/-- How the words of a type are respelled behind another word. -/
inductive Respells : Option Word → List Word → List Word → Prop
  | nil (before : Option Word) : Respells before [] []
  | keep (before : Option Word) (word : Word) {words kept : List Word} (behind : Respells (some word) words kept) :
      Respells before (word :: words) (word :: kept)
  /-- The mark between a name and its arguments is left out. -/
  | turbofish (before : Option Word) {words kept : List Word}
      (behind : Respells (some (mark .pathSeparator)) (mark .less :: words) kept) :
      Respells before (mark .pathSeparator :: mark .less :: words) kept
  /-- An empty list of arguments is left out. -/
  | noArguments (before : Option Word) {words kept : List Word} (behind : Respells (some (mark .greater)) words kept) :
      Respells before (mark .less :: mark .greater :: words) kept
  /-- A comma behind the last argument is left out. -/
  | lastArgument (before : Option Word) {words kept : List Word}
      (behind : Respells (some (mark .comma)) (mark .greater :: words) kept) :
      Respells before (mark .comma :: mark .greater :: words) kept
  /-- A comma behind the last of the inputs of a call, or of several elements of a tuple, is left out. -/
  | lastElement {before : Option Word} {inner inside words kept : List Word} {types : List TypeExpr}
      (isList : Writes (.items .types) inner types) (optional : isBehindName before = true ∨ 1 < types.length)
      (ofInner : Respells (some (mark .openParen)) inner inside) (behind : Respells (some (mark .closeParen)) words kept) :
      Respells before (mark .openParen :: (inner ++ mark .comma :: mark .closeParen :: words))
        (mark .openParen :: (inside ++ mark .closeParen :: kept))
  /-- The mark at the root of a path is left out. -/
  | root {before : Option Word} (starts : startsPath before = true) {words kept : List Word}
      (behind : Respells (some (mark .pathSeparator)) words kept) : Respells before (mark .pathSeparator :: words) kept
  /-- A type alone in parentheses gets a comma. -/
  | lone {before : Option Word} (starts : startsType before = true) {inner inside words kept : List Word} {type : TypeExpr}
      (isType : Writes (.item .types) inner type) (ofInner : Respells (some (mark .openParen)) inner inside)
      (behind : Respells (some (mark .closeParen)) words kept) :
      Respells before (mark .openParen :: (inner ++ mark .closeParen :: words))
        (mark .openParen :: (inside ++ mark .comma :: mark .closeParen :: kept))
  /-- The parentheses around a bound are left out. -/
  | bound {before : Option Word} (starts : startsBound before = true) {inner inside words kept : List Word}
      {spine : Spine TypeExpr} (isPath : Writes .path inner spine)
      (ofInner : Respells (some (mark .openParen)) inner inside) (behind : Respells (some (mark .closeParen)) words kept) :
      Respells before (mark .openParen :: (inner ++ mark .closeParen :: words)) (inside ++ kept)

namespace Respells

variable {before : Option Word} {words words' kept kept' : List Word}

theorem append (first : Respells before words kept) (second : Respells (lastOf before words) words' kept') :
    Respells before (words ++ words') (kept ++ kept') := by
  have last (inner between words : List Word) (closing : Word) (before : Option Word) :
      lastOf before (inner ++ between ++ closing :: words) = lastOf (some closing) words := lastOf_append ..
  induction first with
  | nil => exact second
  | keep before word _ step => exact .keep before word (step second)
  | turbofish before _ step => exact .turbofish before (step second)
  | noArguments before _ step => exact .noArguments before (step second)
  | lastArgument before _ step => exact .lastArgument before (step second)
  | @lastElement before inner inside words kept types isList optional ofInner _ _ step =>
    have behind := step (by rw [← last (mark .openParen :: inner) [mark .comma] words _ before]; simpa using second)
    simpa using lastElement isList optional ofInner behind
  | root starts _ step => exact .root starts (step second)
  | @lone before starts inner inside words kept type isType ofInner _ _ step =>
    have behind := step (by rw [← last (mark .openParen :: inner) [] words _ before]; simpa using second)
    simpa using lone starts isType ofInner behind
  | @bound before starts inner inside words kept spine isPath ofInner _ _ step =>
    have behind := step (by rw [← last (mark .openParen :: inner) [] words _ before]; simpa using second)
    simpa using bound starts isPath ofInner behind

/-- Any words may be kept. -/
theorem keepAll (before : Option Word) (words : List Word) : Respells before words words := by
  induction words generalizing before with
  | nil => exact .nil before
  | cons first rest step => exact .keep before first (step _)

/-- What is respelled with words of the language is still. -/
theorem allGenuine (respells : Respells before words kept) (genuine : AllGenuine words) : AllGenuine kept := by
  induction respells <;> simp_all

end Respells

/-! Constants -/

/-- Every array length among some words is a name, a reserved word or a number, and there are no blocks. -/
structure HasPlainConstants (words : List Word) : Prop where
  noBlock : mark .openBrace ∉ words
  lengths : ∀ tail ∈ words.tails, tail.head? = some (mark .semicolon) →
    tail[1]?.all isConstant = true ∧ tail[2]?.all (· = mark .closeBracket) = true

instance (words : List Word) : Decidable (HasPlainConstants words) :=
  decidable_of_iff (mark .openBrace ∉ words ∧ ∀ tail ∈ words.tails, tail.head? = some (mark .semicolon) →
      tail[1]?.all isConstant = true ∧ tail[2]?.all (· = mark .closeBracket) = true)
    ⟨fun ⟨noBlock, lengths⟩ => ⟨noBlock, lengths⟩, fun ⟨noBlock, lengths⟩ => ⟨noBlock, lengths⟩⟩

/-- Words of the language with plain constants. -/
structure IsSimple (words : List Word) : Prop where
  genuine : AllGenuine words
  constants : HasPlainConstants words

/-- A stretch of simple words is simple. -/
theorem IsSimple.stretch {words inner : List Word} (simple : IsSimple words) (inside : inner <:+: words) : IsSimple inner := by
  obtain ⟨front, back, rfl⟩ := inside
  have within : inner ⊆ front ++ inner ++ back := List.subset_append_of_subset_left _ (List.subset_append_right _ _)
  refine ⟨fun word member => simple.genuine word (within member), fun block => simple.constants.noBlock (within block), ?_⟩
  intro tail isTail begins
  obtain ⟨before, rfl⟩ := (List.mem_tails _ _).mp isTail
  have longer : tail ++ back ∈ (front ++ (before ++ tail) ++ back).tails :=
    (List.mem_tails _ _).mpr ⟨front ++ before, by simp⟩
  have shorter {index : Nat} {test : Word → Bool} (all : (tail ++ back)[index]?.all test = true) :
      tail[index]?.all test = true := by
    rw [Option.all_eq_true] at all ⊢
    exact fun word found => all word (by rw [List.getElem?_append_left (List.getElem?_eq_some_iff.mp found).1, found])
  obtain ⟨ofLength, ofClosing⟩ := simple.constants.lengths _ longer (by rw [List.head?_append, begins, Option.some_or])
  exact ⟨shorter ofLength, shorter ofClosing⟩

namespace Text

theorem trim_eq_self {text : String} (noBlank : ∀ char ∈ text.toList, isBlank char = false) : trim text = text := by
  have kept {chars : List Char} (noBlank : ∀ char ∈ chars, isBlank char = false) : chars.dropWhile isBlank = chars := by
    cases chars with
    | nil => rfl
    | cons first rest => rw [List.dropWhile_cons_of_neg (by simp [noBlank first List.mem_cons_self])]
  have keptBehind : dropTail isBlank text.toList = text.toList := by
    rw [dropTail, kept fun char member => noBlank char (List.mem_reverse.mp member), List.reverse_reverse]
  rw [trim, trimEnds, kept noBlank, keptBehind, String.ofList_toList]

theorem isBlank_of_isWordChar {char : Char} (ofWord : Lexeme.isWordChar char = true) : isBlank char = false := by
  have visible : 33 ≤ char.toNat ∧ char.toNat ≤ 122 := by
    simp only [Lexeme.isWordChar, Lexeme.continuesIdent, Lexeme.wordMarks, Bool.or_eq_true, decide_eq_true_eq,
      List.contains_iff_mem, List.mem_cons, List.not_mem_nil, or_false] at ofWord
    rcases ofWord with (ofWord | rfl) | rfl | rfl | rfl | rfl
    · delta Char.isAlphanum Char.isAlpha Char.isUpper Char.isLower Char.isDigit at ofWord
      simp [UInt32.le_iff_toNat_le] at ofWord
      have same : char.toNat = char.val.toNat := rfl
      omega
    all_goals decide
  simp only [isBlank, Bool.or_eq_false_iff, Bool.and_eq_false_iff, decide_eq_false_iff_not]
  omega

end Text

namespace Word

open Lexeme

theorem solid_constant (text : String) : solid [constant text] = Text.solid text := by
  rw [solid_cons, solid_nil, List.append_nil, constant_text]

/-- A constant of the language is an identifier or a number from end to end. -/
theorem class?_of_isConstant {word : Word} (genuine : word.IsGenuine) (isConstant : word.isConstant = true) :
    (ident? word.2.toList = some word.2.length ∧ word = name word.2) ∨
      (number? word.2.toList = some word.2.length ∧ word = number word.2) := by
  obtain ⟨terminal, text⟩ := word
  cases terminal with
  | ident =>
    obtain ⟨isIdent, free⟩ := genuine
    exact .inl ⟨isIdent, by simp [name, free, ident]⟩
  | number => exact .inr ⟨genuine, rfl⟩
  | word keyword =>
    obtain rfl : text = keyword.text := genuine
    exact .inl (by cases keyword <;> exact ⟨rfl, rfl⟩)
  | _ => cases isConstant

/-- A constant of the language is found again in its text. -/
theorem constant_of_isConstant {word : Word} (genuine : word.IsGenuine) (isConstant : word.isConstant = true) :
    constant word.2 = word := by
  rcases class?_of_isConstant genuine isConstant with ⟨isIdent, same⟩ | ⟨isNumber, same⟩
  · rw [constant, number?_of_ident? isIdent, Option.isSome_none, if_neg Bool.false_ne_true, ← same]
  · rw [constant, isNumber, Option.isSome_some, if_pos rfl, ← same]

/-- There are only characters of words in a constant of the language. -/
theorem isWordChar_of_isConstant {word : Word} (genuine : word.IsGenuine) (isConstant : word.isConstant = true) :
    ∀ char ∈ word.2.toList, isWordChar char = true := by
  have whole : word.2.toList.take word.2.length = word.2.toList :=
    List.take_of_length_le (Nat.le_of_eq word.2.length_toList)
  rw [← whole]
  refine mem_of_le_run ?_
  rcases class?_of_isConstant genuine isConstant with ⟨isIdent, -⟩ | ⟨isNumber, -⟩
  · refine Nat.le_trans (ident?_le_run isIdent).2 (run_le_run (fun char ofName => ?_) _)
    simp only [isNameChar, Bool.or_eq_true, decide_eq_true_eq] at ofName
    rcases ofName with ofName | rfl
    · exact isWordChar_of_continuesIdent ofName
    · rfl
  · exact (number?_le_wordRun isNumber).2

/-- A constant of the language is written as it is. -/
theorem renderAll_of_isConstant {word : Word} (genuine : word.IsGenuine) (isConstant : word.isConstant = true) {leaf : Leaf}
    (text : leaf.text = word.2) : TokenTree.renderAll [.leaf leaf] = word.2 := by
  have chars := isWordChar_of_isConstant genuine isConstant
  have noComma : TokenTree.isComma (.leaf leaf) = false := by
    by_contra comma
    have isComma : word.2 = Punctuation.comma.text := by simpa [TokenTree.isComma, TokenTree.leaf?, text] using comma
    have ofComma := chars ',' (by rw [isComma]; exact List.mem_singleton_self _)
    cases ofComma
  have written : TokenTree.renderFrom false [.leaf leaf] = word.2 := by
    simp [TokenTree.renderFrom, TokenTree.render, noComma, text]
  rw [TokenTree.renderAll, written]
  exact Text.trim_eq_self fun char member => Text.isBlank_of_isWordChar (chars char member)

end Word

/-- What begins a list of token trees, and is behind its first. -/
theorem Writes.exists_of_trees {words : List Word} {trees : List TokenTree} (writes : Writes .trees words trees) :
    (words = [] ∧ trees = []) ∨
      (∃ word rest leaf others, words = word :: rest ∧ trees = .leaf leaf :: others ∧ leaf.text = word.2 ∧
        word ≠ mark .closeBracket ∧ Writes .trees rest others) ∨
      ∃ delimiter rest, words = mark (Delimiter.opening delimiter) :: rest := by
  cases writes with
  | noTrees => exact .inl ⟨rfl, rfl⟩
  | moreTrees ofFirst ofRest =>
    cases ofFirst with
    | leaf isLeaf text =>
      refine .inr (.inl ⟨_, _, _, _, rfl, rfl, text, ?_, ofRest⟩)
      rintro rfl
      simp [Word.mark, Rule.isPlainLeaf, Rule.structuralMarks] at isLeaf
    | group delimiter position _ => exact .inr (.inr ⟨delimiter, _, rfl⟩)

/-- The length of an array of simple words is one constant. -/
theorem Writes.eq_constant {length : List Word} {tree : TokenTree} {trees : List TokenTree}
    (writes : Writes .trees length (tree :: trees))
    (simple : IsSimple (mark .semicolon :: (length ++ [mark .closeBracket]))) :
    length = [constant (TokenTree.renderAll (tree :: trees))] := by
  obtain ⟨ofLength, ofClosing⟩ := simple.constants.lengths _ ((List.mem_tails _ _).mpr List.suffix_rfl) rfl
  rcases writes.exists_of_trees with ⟨-, nothing⟩ | ⟨word, rest, leaf, others, rfl, same, text, -, behind⟩ | ⟨delimiter, rest, rfl⟩
  · cases nothing
  · obtain ⟨rfl, rfl⟩ := List.cons.inj same
    have isConstant : word.isConstant = true := by simpa using ofLength
    have genuine : word.IsGenuine := simple.genuine word (by simp)
    rcases behind.exists_of_trees with ⟨rfl, rfl⟩ | ⟨second, _, _, _, rfl, -, -, noClosing, -⟩ | ⟨delimiter, _, rfl⟩
    · rw [renderAll_of_isConstant genuine isConstant text, constant_of_isConstant genuine isConstant]
    · exact absurd (by simpa using ofClosing) noClosing
    · cases delimiter <;> simp [Word.mark, Delimiter.opening] at ofClosing
  · cases delimiter <;> simp [Word.mark, Delimiter.opening, isConstant] at ofLength

/-! Parts -/

/-- Some words are respelled as those that something is rendered with: character for character, and where the words are
simple, word for word. -/
def Renders (before : Option Word) (words written : List Word) : Prop :=
  ∃ kept, Respells before words kept ∧ Word.solid kept = Word.solid written ∧ (IsSimple words → kept = written)

namespace Renders

variable {before before' : Option Word} {words words' written written' : List Word}

theorem keepAll (before : Option Word) (words : List Word) : Renders before words words :=
  ⟨words, .keepAll before words, rfl, fun _ => rfl⟩

theorem append (ofOne : Renders before words written) (ofTwo : Renders (lastOf before words) words' written') :
    Renders before (words ++ words') (written ++ written') := by
  obtain ⟨kept, respells, same, exact⟩ := ofOne
  obtain ⟨kept', respells', same', exact'⟩ := ofTwo
  refine ⟨kept ++ kept', respells.append respells', by rw [solid_append, same, same', solid_append], fun simple => ?_⟩
  rw [exact (simple.stretch (List.prefix_append _ _).isInfix), exact' (simple.stretch (List.suffix_append _ _).isInfix)]

/-- Words are kept in front of others. -/
theorem behind (front : List Word) (rest : Renders (lastOf before front) words written) :
    Renders before (front ++ words) (front ++ written) := (keepAll before front).append rest

/-- One word is kept in front of others. -/
theorem cons (word : Word) (rest : Renders (some word) words written) : Renders before (word :: words) (word :: written) :=
  behind [word] rest

/-- What some words are respelled as stands inside of what more words are respelled as. -/
theorem respelled (front back : List Word)
    (respells : ∀ kept, Respells before words kept → Respells before' words' (front ++ (kept ++ back)))
    (inside : words <:+: words') (renders : Renders before words written) :
    Renders before' words' (front ++ (written ++ back)) := by
  obtain ⟨kept, ofWords, same, exact⟩ := renders
  refine ⟨_, respells kept ofWords, by simp only [solid_append, same], fun simple => ?_⟩
  rw [exact (simple.stretch inside)]

/-- The length of an array behind its semicolon. -/
theorem arrayLength {length : List Word} {tree : TokenTree} {trees : List TokenTree}
    (ofLength : Writes .trees length (tree :: trees)) (before : Option Word) :
    Renders before (mark .semicolon :: (length ++ [mark .closeBracket]))
      [mark .semicolon, constant (TokenTree.renderAll (tree :: trees)), mark .closeBracket] := by
  refine ⟨_, .keepAll before _, ?_, fun simple => by rw [ofLength.eq_constant simple]; rfl⟩
  have spelled := (TokenTree.renderAll_spells ofLength).symm.trans (solid_constant _).symm
  rw [solid_cons, solid_append, spelled, ← solid_append, ← solid_cons]
  rfl

end Renders

namespace Part

/-- Where a part may begin. -/
def begins : Part → Option Word → Bool
  | type, before => startsType before
  | path, before => startsPath before
  | bound, before => startsBound before
  | item _, before => startsType before
  | items _, before => startsType before
  | _, _ => true

end Part

/-- The words of a list are respelled as it is rendered, but for a comma behind its last member: whether that is kept
depends on what stands around the list. -/
structure RespellsItems (kind : ListKind) (words : List Word) (types : List TypeExpr) (core : List Word) (trailing : Bool) :
    Prop where
  split : words = core ++ perhaps trailing (mark .comma)
  empty : types = [] → words = []
  isList : Writes (.items kind) core types
  only : ∀ type, types = [type] → Writes (.item kind) core type
  renders : ∀ before, startsType before = true → Renders before core (joined .comma (types.map TypeExpr.words))

namespace RespellsItems

variable {kind : ListKind} {words core : List Word} {types : List TypeExpr} {trailing : Bool} {before : Option Word}

theorem trailing_of_nil (items : RespellsItems kind words [] core trailing) : core = [] ∧ trailing = false := by
  have nothing := items.split.symm.trans (items.empty rfl)
  cases trailing with
  | false => simpa [perhaps] using nothing
  | true => simp [perhaps] at nothing

/-- The arguments behind a name. -/
theorem arguments (items : RespellsItems .arguments words types core trailing) (name : String) (before : Option Word) :
    Renders before (mark .less :: (words ++ [mark .greater])) (PathSegment.plain name types).words.tail := by
  cases types with
  | nil =>
    rw [items.empty rfl]
    exact (Renders.keepAll _ []).respelled [] [] (fun kept ofNothing => by simpa using Respells.noArguments before ofNothing)
      List.nil_infix
  | cons first rest =>
    have ofCore := items.renders (some (mark .less)) rfl
    rw [PathSegment.words_plain (List.cons_ne_nil _ _), List.tail_cons, items.split]
    cases trailing with
    | false => simpa [perhaps] using (ofCore.append (.keepAll _ [mark .greater])).cons (mark .less)
    | true =>
      have ofComma : Renders (lastOf (some (mark .less)) core) [mark .comma, mark .greater] [mark .greater] :=
        (Renders.keepAll (some (mark .comma)) [mark .greater]).respelled [] []
          (fun kept ofRest => by simpa using Respells.lastArgument _ ofRest) (List.suffix_cons _ _).isInfix
      simpa [perhaps] using (ofCore.append ofComma).cons (mark .less)

/-- A name with its arguments, perhaps with a mark between them. -/
theorem generic (items : RespellsItems .arguments words types core trailing) (name : String) (separated : Bool)
    (before : Option Word) :
    Renders before (ident name :: (perhaps separated (mark .pathSeparator) ++ mark .less :: (words ++ [mark .greater])))
      (PathSegment.plain name types).words := by
  have written : (PathSegment.plain name types).words = ident name :: (PathSegment.plain name types).words.tail := by
    cases types <;> rfl
  rw [written]
  refine Renders.cons (ident name) ?_
  cases separated with
  | false => exact items.arguments name _
  | true =>
    have ofRest := (items.arguments name (some (mark .pathSeparator))).respelled [] []
      (fun kept ofRest => by simpa using Respells.turbofish (some (ident name)) ofRest)
      (List.suffix_cons (mark .pathSeparator) _).isInfix
    simpa [perhaps] using ofRest

/-- A list in parentheses that keeps its last comma if it has one. -/
theorem kept (items : RespellsItems kind words types core trailing) (before : Option Word) :
    Renders before (mark .openParen :: (words ++ [mark .closeParen]))
      (mark .openParen :: (joined .comma (types.map TypeExpr.words) ++ perhaps trailing (mark .comma) ++
        [mark .closeParen])) := by
  have ofCore := items.renders (some (mark .openParen)) rfl
  have whole : Renders before _ _ :=
    (ofCore.append (.keepAll _ (perhaps trailing (mark .comma) ++ [mark .closeParen]))).cons (mark .openParen)
  rw [items.split]
  simpa using whole

/-- A list in parentheses that loses its last comma. -/
theorem dropped (items : RespellsItems .types words types core true)
    (optional : isBehindName before = true ∨ 1 < types.length) :
    Renders before (mark .openParen :: (words ++ [mark .closeParen]))
      (mark .openParen :: (joined .comma (types.map TypeExpr.words) ++ [mark .closeParen])) := by
  have ofCore := items.renders (some (mark .openParen)) rfl
  rw [items.split]
  have inside : core <:+: mark .openParen :: (core ++ perhaps true (mark .comma) ++ [mark .closeParen]) :=
    ⟨[mark .openParen], [mark .comma, mark .closeParen], by simp [perhaps]⟩
  refine ofCore.respelled [mark .openParen] [mark .closeParen] (fun kept ofInner => ?_) inside
  simpa [perhaps] using Respells.lastElement items.isList optional ofInner (.nil _)

/-- The inputs of a call. -/
theorem inputs (items : RespellsItems .types words types core trailing) (behindName : isBehindName before = true) :
    Renders before (mark .openParen :: (words ++ [mark .closeParen]))
      (mark .openParen :: (joined .comma (types.map TypeExpr.words) ++ [mark .closeParen])) := by
  cases trailing with
  | true => exact items.dropped (.inl behindName)
  | false => simpa [perhaps] using items.kept before

/-- The elements of a tuple. -/
theorem elements (items : RespellsItems .types words types core trailing) (starts : startsType before = true) :
    Renders before (mark .openParen :: (words ++ [mark .closeParen])) (TypeExpr.tuple types).words := by
  rw [TypeExpr.words_tuple]
  rcases types with _ | ⟨first, _ | ⟨second, rest⟩⟩
  · obtain ⟨-, rfl⟩ := items.trailing_of_nil
    simpa [perhaps] using items.kept before
  · cases trailing with
    | true => simpa [perhaps] using items.kept before
    | false =>
      have ofCore := items.renders (some (mark .openParen)) rfl
      have inside : core <:+: mark .openParen :: (words ++ [mark .closeParen]) :=
        ⟨[mark .openParen], [mark .closeParen], by simp [items.split, perhaps]⟩
      have whole : Renders before _ _ := ofCore.respelled [mark .openParen] [mark .comma, mark .closeParen]
        (fun kept ofInner => by simpa [items.split, perhaps] using Respells.lone starts (items.only first rfl) ofInner (.nil _))
        inside
      simpa [perhaps] using whole
  · cases trailing with
    | true =>
      have whole : Renders before _ _ := items.dropped (.inr (by simp))
      simpa [perhaps] using whole
    | false => simpa [perhaps] using items.kept before

end RespellsItems

/-- The words of a part are respelled as it is rendered. -/
def Part.IsRespelled : (part : Part) → List Word → part.Meaning → Prop
  | tree, _, _ => True
  | trees, _, _ => True
  | items kind, words, types => ∃ core trailing, RespellsItems kind words types core trailing
  | part, words, found => ∀ before, part.begins before = true → Renders before words (part.words found)

namespace Writes

theorem isRespelled {part : Part} {words : List Word} {found : part.Meaning} (writes : Writes part words found) :
    part.IsRespelled words found := by
  induction writes with
  | path _ step => exact fun before starts => step before (startsPath_of_startsType starts)
  | @reference life mutable words target _ step =>
    intro before _
    have ofLife : startsType (lastOf (some (mark .ampersand)) (ofLife life ++ perhaps mutable (reserved .mutWord))) = true := by
      cases life <;> cases mutable <;> rfl
    have rest := Renders.behind _ (step _ ofLife)
    simpa [Part.words, Spine.map, TypeExpr.words_reference] using rest.cons (mark .ampersand)
  | @pointer mutable words target _ step =>
    intro before _
    have starts : startsType (some (ofPointer mutable)) = true := by cases mutable <;> rfl
    exact ((step _ starts).cons (ofPointer mutable)).cons (mark .star)
  | @tuple words elements ofElements step =>
    intro before starts
    obtain ⟨core, trailing, items⟩ := step
    simpa [Part.words, Spine.single] using items.elements starts
  | @slice words element _ step =>
    intro before _
    have ofElement := step (some (mark .openBracket)) rfl
    have whole : Renders before _ _ := (ofElement.append (.keepAll _ [mark .closeBracket])).cons (mark .openBracket)
    simpa [Part.words, Spine.single, TypeExpr.words] using whole
  | @array words length element tree trees _ ofLength step _ =>
    intro before _
    have ofElement := (step (some (mark .openBracket)) rfl).append (.arrayLength ofLength _)
    simpa [Part.words, Spine.single, TypeExpr.words] using ofElement.cons (mark .openBracket)
  | @bounded kind words words' first rest _ _ ofFirst ofRest =>
    intro before _
    have starts : startsBound (some (reserved kind.keyword)) = true := by cases kind <;> rfl
    have whole : Renders before _ _ := ((ofFirst _ starts).append (ofRest _ rfl)).cons (reserved kind.keyword)
    simpa [Part.words, Spine.map, Spine.append, TypeExpr.words_bounded, joined] using whole
  | never => exact fun before _ => .keepAll before _
  | @segments rooted words words' first rest _ _ ofFirst ofRest =>
    intro before starts
    have whole (before : Option Word) : Renders before (words ++ words')
        (Part.words .path ((first.map fun segment => .path [segment]).append rest)) := by
      simpa [Part.words, Spine.map, Spine.append, TypeExpr.words_path, joined] using (ofFirst before rfl).append (ofRest _ rfl)
    cases rooted with
    | false => exact whole before
    | true =>
      have ofRoot := (whole (some (mark .pathSeparator))).respelled [] []
        (fun kept ofRest => by simpa using Respells.root starts ofRest) (List.suffix_cons (mark .pathSeparator) _).isInfix
      simpa [perhaps] using ofRoot
  | plain name => exact fun before _ => .keepAll before _
  | @generic name separated words arguments _ step =>
    intro before _
    obtain ⟨core, trailing, items⟩ := step
    simpa [Part.words, Spine.single] using items.generic name separated before
  | @call name words inputs _ step =>
    intro before _
    obtain ⟨core, trailing, items⟩ := step
    have whole : Renders before _ _ := (items.inputs rfl).cons (ident name)
    simpa [Part.words, Spine.single, PathSegment.words_call, PathSegment.wordsOfOutput] using whole
  | @output name words words' inputs output _ _ ofInputs ofOutput =>
    intro before _
    obtain ⟨core, trailing, items⟩ := ofInputs
    have ofArrow : Renders (some (mark .closeParen)) (mark .arrow :: words') (mark .arrow :: Part.words .type output) :=
      (ofOutput (some (mark .arrow)) rfl).cons (mark .arrow)
    have ofList : Renders (some (ident name)) _ _ := items.inputs rfl
    have last : lastOf (some (ident name)) (mark .openParen :: (words ++ [mark .closeParen])) = some (mark .closeParen) :=
      lastOf_append ..
    have whole : Renders before _ _ := (ofList.append (last ▸ ofArrow)).cons (ident name)
    simpa [Part.words, Spine.map, PathSegment.words_call, PathSegment.wordsOfOutput] using whole
  | pathBound _ step => exact fun before starts => step before (startsPath_of_startsBound starts)
  | lifetimeBound name => exact fun before _ => .keepAll before _
  | @maybe words spine _ step => exact fun before _ => (step (some (mark .question)) rfl).cons (mark .question)
  | @grouped words spine ofPath step =>
    intro before starts
    have ofSpine := step (some (mark .openParen)) rfl
    have written : spine.settle.words = Part.words .path spine := ofPath.sound.words_settle
    have inside : words <:+: mark .openParen :: (words ++ [mark .closeParen]) :=
      ⟨[mark .openParen], [mark .closeParen], rfl⟩
    have whole : Renders before _ _ := ofSpine.respelled [] []
      (fun kept ofInner => by simpa using Respells.bound starts ofPath ofInner (.nil _)) inside
    simpa [Part.words, Spine.single, TypeExpr.words, written] using whole
  | @settled kind words spine ofType step =>
    intro before starts
    have ofSpine := step before starts
    simp only [Part.words] at ofSpine ⊢
    rwa [ofType.sound.words_settle]
  | lifetime name => exact fun before _ => .keepAll before _
  | @binding name words value _ step =>
    exact fun before _ => ((step (some (mark .equals)) rfl).cons (mark .equals)).cons (Word.ident name)
  | @number text isNumber =>
    intro before _
    rw [Part.words, TypeExpr.words, isNumber]
    exact .keepAll before _
  | @block words trees position ofTrees =>
    intro before _
    have ofBlock : Spells (TokenTree.group .brace trees position).render _ :=
      TokenTree.isSpelled_of_writes (.group .brace position ofTrees)
    refine ⟨_, .keepAll before _, ?_, fun simple => absurd List.mem_cons_self simple.constants.noBlock⟩
    exact ofBlock.symm.trans (solid_constant _).symm
  | noItems kind =>
    have noneAlone : ∀ type, [] = [type] → Writes (.item kind) [] type := fun type same => by cases same
    exact ⟨[], false, rfl, fun _ => rfl, .noItems kind, noneAlone, fun before _ => .keepAll before []⟩
  | @someItems kind trailing words words' first rest ofFirst ofRest stepFirst stepRest =>
    refine ⟨words ++ words', trailing, rfl, fun nothing => (by cases nothing), ?_, ?_, fun before starts => ?_⟩
    · have isList := Writes.someItems false ofFirst ofRest
      rwa [perhaps, if_neg Bool.false_ne_true, List.append_nil] at isList
    · intro only same
      obtain ⟨rfl, rfl⟩ := List.cons.inj same
      cases ofRest
      rwa [List.append_nil]
    · have ofRest := stepRest (lastOf before words) rfl
      simpa [Part.words, joined, List.flatMap_map] using (stepFirst before starts).append ofRest
  | noItemsBehind kind => exact fun before _ => .keepAll before []
  | moreItems _ _ ofFirst ofRest =>
    intro before _
    have whole : Renders before _ _ := ((ofFirst (some (mark .comma)) rfl).append (ofRest _ rfl)).cons (mark .comma)
    simpa [Part.words] using whole
  | noLinks kind => exact fun before _ => .keepAll before []
  | moreSegments _ _ ofFirst ofRest =>
    intro before _
    have whole : Renders before _ _ :=
      ((ofFirst (some (mark .pathSeparator)) rfl).append (ofRest _ rfl)).cons (mark .pathSeparator)
    simpa [Part.words, Spine.toSuffixes, Suffix.words] using whole
  | moreBounds _ _ ofFirst ofRest =>
    intro before _
    have whole : Renders before _ _ := ((ofFirst (some (mark .plus)) rfl).append (ofRest _ rfl)).cons (mark .plus)
    simpa [Part.words, Spine.toSuffixes, Suffix.words] using whole
  | leaf => trivial
  | group => trivial
  | noTrees => trivial
  | moreTrees => trivial

end Writes

/-! Types -/

/-- The words of a text. -/
def Lexing.words (text : String) : List Word := (ofText text).tokens.map Token.word

namespace TypeExpr

/-- The tokens of a type that is rendered are those that it was read from, respelled; and they are lexed as such where the
constants are plain. -/
theorem render_respells {text : String} {type : TypeExpr} (accepted : ofText? text = some type) :
    ∃ kept, Respells none (Lexing.words text) kept ∧ Text.solid type.render = Word.solid kept ∧
      (HasPlainConstants (Lexing.words text) →
        (Lexing.ofText type.render).failure = none ∧ Lexing.words type.render = kept) := by
  unfold ofText? at accepted
  split at accepted
  case isFalse => cases accepted
  case isTrue complete =>
    have genuine : ∀ token ∈ (Lexing.ofText text).tokens, token.word.IsGenuine :=
      Lexing.isGenuine_of_mem (Option.isNone_iff_eq_none.mp complete)
    have allGenuine : AllGenuine (Lexing.words text) := List.forall_mem_map.mpr genuine
    obtain ⟨kept, respells, same, exact⟩ := (Rule.writes_of_read? genuine accepted).isRespelled none rfl
    refine ⟨kept, respells, (render_spells type).trans same.symm, fun constants => ?_⟩
    obtain rfl := exact ⟨allGenuine, constants⟩
    exact (render_lexes type (respells.allGenuine allGenuine)).ofText

/-- Everything that may be left out is, and the array length is plain. -/
theorem render_respells_everyComma : ∃ type, ofText? "Fn(A<>, dyn (B),) -> ::C::<(D, E,), (F,), [u8; 4],>" = some type ∧
    type.render = "Fn(A, dyn B) -> C<(D, E), (F,), [u8; 4]>" ∧
      ∃ kept, Respells none (Lexing.words "Fn(A<>, dyn (B),) -> ::C::<(D, E,), (F,), [u8; 4],>") kept ∧
        (Lexing.ofText type.render).failure = none ∧ Lexing.words type.render = kept := by
  have read : (ofText? "Fn(A<>, dyn (B),) -> ::C::<(D, E,), (F,), [u8; 4],>").any (fun type =>
      type.render = "Fn(A, dyn B) -> C<(D, E), (F,), [u8; 4]>") = true := by
    decide +kernel
  obtain ⟨type, accepted, rendered⟩ := (Option.any_eq_true _ _).mp read
  obtain ⟨kept, respells, -, lexed⟩ := render_respells accepted
  exact ⟨type, accepted, of_decide_eq_true rendered, kept, respells, lexed (by decide +kernel)⟩

/-- The parentheses around the target of a reference come out as those of a tuple. -/
theorem render_comma_ofGrouping : ∃ type, ofText? "&(dyn A + B)" = some type ∧ type.render = "&(dyn A + B,)" ∧
    mark .comma ∉ Lexing.words "&(dyn A + B)" ∧ mark .comma ∈ Lexing.words type.render := by
  have read : (ofText? "&(dyn A + B)").any (fun type => decide (type.render = "&(dyn A + B,)" ∧
      mark .comma ∉ Lexing.words "&(dyn A + B)" ∧ mark .comma ∈ Lexing.words type.render)) = true := by
    decide +kernel
  obtain ⟨type, accepted, holds⟩ := (Option.any_eq_true _ _).mp read
  exact ⟨type, accepted, of_decide_eq_true holds⟩

end TypeExpr

end Exposure
