import Exposure.Proofs.Emission

/-!
The code that registers a descriptor is one call of a code generator: whatever text follows it, it is lexed as the same
pieces, and wherever these stand, their tokens are read as one item of no interest.
-/

namespace Exposure

/-- A text is one identifier that is no reserved word. -/
structure IsIdentifier (text : String) : Prop where
  lexeme : Lexeme.first? text.toList = some (some .ident, text.length)
  unreserved : Keyword.ofText? text = none

/-- A text is a path of identifiers. -/
def IsIdentifierPath (text : String) : Prop :=
  ∃ first others, text = "::".intercalate (first :: others) ∧ ∀ name ∈ first :: others, IsIdentifier name

namespace IsIdentifierPath

theorem append {path name : String} (isPath : IsIdentifierPath path) (isIdentifier : IsIdentifier name) :
    IsIdentifierPath (path ++ "::" ++ name) := by
  obtain ⟨first, others, rfl, each⟩ := isPath
  refine ⟨first, others ++ [name], ?_, ?_⟩
  · clear each
    induction others generalizing first with
    | nil => rfl
    | cons second others step =>
      rw [List.cons_append, String.intercalate_cons_cons, String.intercalate_cons_cons, ← step]
      simp only [String.append_assoc]
  · rw [← List.cons_append]
    exact List.forall_mem_append.mpr ⟨each, List.forall_mem_singleton.mpr isIdentifier⟩

end IsIdentifierPath

theorem IsIdentifier.isLoose {name : String} (isIdentifier : IsIdentifier name) : IsLoose name :=
  .ofConstant (.inl isIdentifier.lexeme)

theorem IsLoose.ofPath {names : List String} (each : ∀ name ∈ names, IsIdentifier name) :
    IsLoose ("::".intercalate names) :=
  .intercalate (.ofPlain rfl) fun name member => (each name member).isLoose

theorem IsIdentifierPath.isLoose {path : String} (isPath : IsIdentifierPath path) : IsLoose path := by
  obtain ⟨first, others, rfl, each⟩ := isPath
  exact .ofPath each

namespace Lexeme

/-! Texts that stand alone -/

/-- A text is lexed in one way. -/
theorem Pieces.unique {text : List Char} {one two : List Piece} (ofOne : Pieces text one []) (ofTwo : Pieces text two []) :
    one = two := by
  generalize ended : ([] : List Char) = rest at ofOne
  induction ofOne generalizing two with
  | nil rest =>
    subst ended
    obtain _ | ⟨found, -⟩ := ofTwo
    · rfl
    · cases found
  | cons first behind step =>
    subst ended
    obtain _ | ⟨found, others⟩ := ofTwo
    · cases first
    · cases first.symm.trans found
      rw [step others rfl]

/-- A text that ends with a stop is lexed alone as it is in front of another text. -/
theorem Pieces.alone {text after : List Char} {inside : List Piece} {terminal : Terminal} {last : List Char}
    (closes : terminal.closesItem = true) (covers : Pieces (text ++ after) (inside ++ [(some terminal, last)]) after) :
    Pieces text (inside ++ [(some terminal, last)]) [] := by
  obtain ⟨before, stop, -, same, alone⟩ := covers.cut closes
  rwa [List.append_cancel_right covers.eq_append, same]

/-- A text that is lexed as the same pieces whatever follows it, of which the first is a token. -/
structure StandsAlone (text : List Char) (pieces : List Piece) : Prop where
  covers : ∀ after, Pieces (text ++ after) pieces after
  begins : BeginsToken pieces

/-- Blanks in front of a text that stands alone are a piece of their own. -/
theorem StandsAlone.behind_blanks {text : List Char} {pieces : List Piece} (alone : StandsAlone text pieces)
    {first : Char} {blanks : List Char} (blank : ∀ char ∈ first :: blanks, isBlank char = true) (after : List Char) :
    Pieces (first :: blanks ++ (text ++ after)) ((none, first :: blanks) :: pieces) after := by
  obtain ⟨terminal, front, others, rfl⟩ := alone.begins
  have covers := alone.covers after
  refine .cons_append ?_ rfl covers
  obtain _ | ⟨found, -⟩ := covers
  generalize text ++ after = behind at found
  cases behind with
  | nil => cases found
  | cons next behind =>
    have noBlank : isBlank next = false := by
      by_contra isBlank
      rw [first?_blank (Bool.of_not_eq_false isBlank)] at found
      cases found
    obtain ⟨ofFirst, ofBlanks⟩ := List.forall_mem_cons.mp blank
    rw [List.cons_append, first?_blank ofFirst, run_of_forall noBlank ofBlanks]

/-! Paths -/

/-- The piece of an identifier. -/
def namePiece (name : String) : Piece := (some .ident, name.toList)

/-- The pieces of a path of identifiers. -/
def pathPieces (first : String) (others : List String) : List Piece :=
  namePiece first :: others.flatMap fun name => [markPiece .pathSeparator, namePiece name]

theorem pathPieces_cons (first second : String) (others : List String) :
    pathPieces first (second :: others) = namePiece first :: markPiece .pathSeparator :: pathPieces second others := rfl

/-- An identifier in front of a character that continues none is a lexeme where loose text begins with it. -/
theorem Pieces.name_append {name : String} (isIdentifier : IsIdentifier name) {stop : Char} {tail front rest : List Char}
    (stops : continuesIdent stop = false) (noHash : stop ≠ '#') (split : stop :: tail = front ++ rest)
    (loose : Loose false (name.toList ++ front)) (fence : BeginsBracket rest) {others : List Piece} {after : List Char}
    (covers : Pieces (stop :: tail) others after) :
    Pieces (name.toList ++ stop :: tail) (namePiece name :: others) after := by
  have found : ident? name.toList = some name.length := (first?_word isIdentifier.lexeme).1 rfl
  have begins_no_literal := @Loose.letter_begins_no_literal false _ rest loose fence
  have size : name.toList.length = name.length := name.length_toList
  unfold namePiece
  generalize name.toList = chars at found begins_no_literal size ⊢
  cases chars with
  | nil => cases found
  | cons first inside =>
    have letter := beginsIdent_of_ident? found
    have whole : (first :: inside ++ front) ++ rest = first :: (inside ++ stop :: tail) := by
      rw [List.append_assoc, ← split, List.cons_append]
    obtain ⟨noRaw, noString, noChar⟩ := begins_no_literal whole letter
    rw [← ident?_append_cons stops (first :: inside) tail fun _ => noHash] at found
    have lexeme := first?_letter letter noRaw noString noChar found
    rw [← size] at lexeme
    exact .cons_append lexeme rfl covers

/-- A path in front of a call is lexed as its names and separators. -/
theorem pieces_of_path {first : String} {others : List String} (each : ∀ name ∈ first :: others, IsIdentifier name)
    {rest : List Char} (fence : BeginsBracket rest) :
    Pieces (("::".intercalate (first :: others)).toList ++ ('!' :: ' ' :: rest))
      (pathPieces first others ++ [markPiece .bang, (none, [' '])]) rest := by
  have loose {names : List String} (each : ∀ name ∈ names, IsIdentifier name) :
      Loose false (("::".intercalate names).toList ++ ['!', ' ']) :=
    Loose.append (IsLoose.ofPath each) (.plain rfl (.plain rfl .nil))
  induction others generalizing first with
  | nil =>
    have ofFirst := each first (List.mem_singleton.mpr rfl)
    have ofLoose := loose each
    rw [String.intercalate_singleton] at ofLoose ⊢
    have blank : Pieces ([' '] ++ rest) [(none, [' '])] rest := by
      obtain ⟨bracket, behind, rfl, isBracket⟩ := fence
      have noBlank : isBlank bracket = false := by
        simp only [List.mem_cons, List.not_mem_nil, or_false] at isBracket
        rcases isBracket with rfl | rfl | rfl | rfl | rfl | rfl <;> rfl
      refine .cons_append ?_ rfl (.nil _)
      rw [List.singleton_append, first?_blank rfl, run_cons, noBlank]
      rfl
    have bang : Pieces (Punctuation.bang.text.toList ++ ([' '] ++ rest)) [markPiece .bang, (none, [' '])] rest :=
      .cons_append rfl rfl blank
    exact .name_append ofFirst rfl (by decide) rfl ofLoose fence bang
  | cons second others step =>
    obtain ⟨ofFirst, ofOthers⟩ := List.forall_mem_cons.mp each
    have behind := step ofOthers
    have ofLoose := loose each
    rw [String.intercalate_cons_cons, String.toList_append, String.toList_append] at ofLoose ⊢
    generalize ("::".intercalate (second :: others)).toList = path at behind ofLoose ⊢
    have separator : Pieces (Punctuation.pathSeparator.text.toList ++ (path ++ ('!' :: ' ' :: rest)))
        (markPiece .pathSeparator :: (pathPieces second others ++ [markPiece .bang, (none, [' '])])) rest :=
      .cons_append rfl rfl behind
    have split : ':' :: ':' :: (path ++ ('!' :: ' ' :: rest)) = (':' :: ':' :: (path ++ ['!', ' '])) ++ rest := by simp
    have named := Pieces.name_append ofFirst rfl (by decide) split (by simpa using ofLoose) fence separator
    rw [pathPieces_cons]
    simpa using named

/-- The tokens of a path are a path, and the first of them is an identifier. -/
theorem exists_path_tokens {first : String} {others : List String} (each : ∀ name ∈ first :: others, IsIdentifier name)
    (position : Position) :
    ∃ head rest, tokensFrom position (pathPieces first others) = head :: rest ∧ head.terminal = .ident ∧
      Rule.identPath.Accepts (head :: rest) := by
  have ofName {name : String} (isIdentifier : IsIdentifier name) (position : Position) :
      ∃ token, tokensFrom position [namePiece name] = [token] ∧ token.terminal = .ident := by
    refine ⟨_, rfl, ?_⟩
    simp [String.ofList_toList, isIdentifier.unreserved]
  obtain ⟨ofFirst, ofOthers⟩ := List.forall_mem_cons.mp each
  obtain ⟨head, ofHead, isIdent⟩ := ofName ofFirst position
  have pairs (position : Position) : ∃ pairs : List (Token × Token),
      tokensFrom position (others.flatMap fun name => [markPiece .pathSeparator, namePiece name]) =
        (pairs.flatMap fun pair => [pair.1, pair.2]) ∧
      ∀ pair ∈ pairs, pair.1.terminal = .mark .pathSeparator ∧ pair.2.terminal = .ident := by
    clear ofFirst each
    induction others generalizing position with
    | nil => exact ⟨[], rfl, List.forall_mem_nil _⟩
    | cons name others step =>
      obtain ⟨ofName', ofOthers⟩ := List.forall_mem_cons.mp ofOthers
      obtain ⟨separator, isSeparator, ofSeparator⟩ := exists_token_of_markPiece position .pathSeparator
      obtain ⟨token, ofToken, isName⟩ := ofName ofName' (position.past (chars [markPiece .pathSeparator]))
      obtain ⟨pairs, ofPairs, each⟩ := step ofOthers
        ((position.past (chars [markPiece .pathSeparator])).past (chars [namePiece name]))
      refine ⟨(separator, token) :: pairs, ?_, List.forall_mem_cons.mpr ⟨⟨isSeparator, isName⟩, each⟩⟩
      have split : (name :: others).flatMap (fun name => [markPiece .pathSeparator, namePiece name]) =
          [markPiece .pathSeparator] ++ ([namePiece name] ++
            others.flatMap fun name => [markPiece .pathSeparator, namePiece name]) := rfl
      rw [split, tokensFrom_append, tokensFrom_append, ofSeparator, ofToken, ofPairs]
      rfl
  obtain ⟨pairs, ofPairs, eachPair⟩ := pairs (position.past (chars [namePiece first]))
  refine ⟨head, _, ?_, isIdent, Rule.identPath_accepts isIdent eachPair⟩
  have split : pathPieces first others =
      [namePiece first] ++ others.flatMap fun name => [markPiece .pathSeparator, namePiece name] := rfl
  rw [split, tokensFrom_append, ofHead, ofPairs]
  rfl

/-! Calls of code generators -/

/-- The pieces of a call of a code generator, given those of its path and those in its braces. -/
def callPieces (path inside : List Piece) : List Piece :=
  path ++ [markPiece .bang, (none, [' '])] ++ [markPiece .openBrace] ++ inside ++ [markPiece .closeBrace]

section Call

variable {first : String} {others : List String} (each : ∀ name ∈ first :: others, IsIdentifier name)

include each

/-- A path and loose text in braces are lexed as a call. -/
theorem exists_pieces_of_call {inside : List Char} (loose : Loose true inside) (after : List Char) :
    ∃ pieces, AreTrees pieces ∧
      Pieces (("::".intercalate (first :: others)).toList ++ ('!' :: ' ' :: '\x7b' :: (inside ++ ['\x7d'])) ++ after)
        (callPieces (pathPieces first others) pieces) after := by
  obtain ⟨pieces, ofInside, areTrees⟩ := loose.exists_pieces (Loose.beginsBracket_closing .brace after)
  have closing : Pieces (Punctuation.closeBrace.text.toList ++ after) [markPiece .closeBrace] after :=
    .bracket_append .brace (.inr rfl) (.nil after)
  have opening : Pieces (Punctuation.openBrace.text.toList ++ (inside ++ (Punctuation.closeBrace.text.toList ++ after)))
      (markPiece .openBrace :: (pieces ++ [markPiece .closeBrace])) after :=
    .bracket_append .brace (.inl rfl) (Pieces.append_iff.mpr ⟨_, ofInside, closing⟩)
  have ofPath := pieces_of_path each (Loose.beginsBracket_opening .brace
    (inside ++ (Punctuation.closeBrace.text.toList ++ after)))
  have braces : ('!' :: ' ' :: '\x7b' :: (inside ++ ['\x7d'])) ++ after = '!' :: ' ' ::
      (Punctuation.openBrace.text.toList ++ (inside ++ (Punctuation.closeBrace.text.toList ++ after))) := by
    simp only [List.cons_append, List.append_assoc]
    rfl
  refine ⟨pieces, areTrees, ?_⟩
  rw [List.append_assoc, braces, callPieces, List.append_assoc, List.append_assoc]
  exact Pieces.append_iff.mpr ⟨_, ofPath, opening⟩

/-- A path and loose text in braces stand alone. -/
theorem exists_standsAlone_of_call {inside : List Char} (loose : Loose true inside) :
    ∃ pieces, AreTrees pieces ∧
      StandsAlone (("::".intercalate (first :: others)).toList ++ ('!' :: ' ' :: '\x7b' :: (inside ++ ['\x7d'])))
        (callPieces (pathPieces first others) pieces) := by
  obtain ⟨pieces, areTrees, covers⟩ := exists_pieces_of_call each loose []
  refine ⟨pieces, areTrees, fun after => ?_, .ident, first.toList, _, rfl⟩
  -- the pieces in front of another text end with the brace, and so they are those of the call alone
  obtain ⟨pieces', -, covers'⟩ := exists_pieces_of_call each loose after
  have same : callPieces (pathPieces first others) pieces = callPieces (pathPieces first others) pieces' :=
    (Pieces.alone rfl covers).unique (Pieces.alone rfl covers')
  rwa [same]

/-- Wherever it stands, a call is read as an item of no interest. -/
theorem read?_item_of_call {pieces : List Piece} (areTrees : AreTrees pieces) (position : Position) :
    Rule.item.read? (tokensFrom position (callPieces (pathPieces first others) pieces)) = some none := by
  obtain ⟨head, rest, ofPath, isIdent, accepts⟩ := exists_path_tokens each position
  have ofBang (position : Position) : ∃ token, tokensFrom position [markPiece .bang, (none, [' '])] = [token] ∧
      token.terminal = .mark .bang := ⟨_, rfl, rfl⟩
  rw [callPieces, tokensFrom_append, tokensFrom_append, tokensFrom_append, tokensFrom_append, ofPath]
  obtain ⟨bang, bang_eq, isBang⟩ := ofBang (position.past (chars (pathPieces first others)))
  rw [bang_eq]
  generalize position.past (chars (pathPieces first others ++ [markPiece .bang, (none, [' '])])) = behind
  obtain ⟨opening, opens, opening_eq⟩ := exists_token_of_markPiece behind .openBrace
  rw [opening_eq]
  generalize position.past (chars (pathPieces first others ++ [markPiece .bang, (none, [' '])] ++
    [markPiece .openBrace])) = behind'
  obtain ⟨trees, parts⟩ := areTrees behind'
  generalize position.past (chars (pathPieces first others ++ [markPiece .bang, (none, [' '])] ++
    [markPiece .openBrace] ++ pieces)) = last
  obtain ⟨closing, closes, closing_eq⟩ := exists_token_of_markPiece last .closeBrace
  rw [closing_eq]
  have call := Rule.invocation_accepts accepts isBang opens parts.accepts closes
  have read := Rule.read?_item_of_invocation isIdent call
  simpa using read

end Call

end Lexeme

namespace Fragment

open Lexeme

/-- The record of a descriptor, which stands in the braces of the call. -/
def recordOf (runtime : String) (descriptor : Descriptor) : Layout :=
  .block (runtime ++ "::" ++ recordName descriptor ++ " \x7b") (fields runtime descriptor) "\x7d"

theorem recordOf_isLoose {runtime : String} (ofRuntime : IsLoose runtime) {descriptor : Descriptor}
    (ofTypes : ∀ text ∈ descriptor.typeTexts, IsLoose text) : (recordOf runtime descriptor).IsLoose := by
  have ofName : IsLoose (recordName descriptor) := by
    cases descriptor with
    | ofClass _ => exact (.ofPlain rfl : IsLoose "PyClassInfo")
    | ofEnum _ => exact (.ofPlain rfl : IsLoose "PyEnumInfo")
    | ofMethods _ => exact (.ofPlain rfl : IsLoose "PyMethodsInfo")
    | ofFunction _ => exact (.ofPlain rfl : IsLoose "PyFunctionInfo")
  have before := ((ofRuntime.append (.ofPlain rfl : IsLoose "::")).append ofName).append (.ofPlain rfl : IsLoose " ")
  have braces := encloses .brace before (.ofPlain rfl : IsLoose "")
  rw [String.append_assoc] at braces
  exact ⟨braces, fields_isLoose ofRuntime ofTypes⟩

/-- What stands in the braces of the call. -/
def inside (runtime : String) (descriptor : Descriptor) : List Char :=
  Layout.spread "    ".toList (recordOf runtime descriptor).lines ++ ['\n']

/-- The call is a path, and loose text in braces behind it. -/
theorem toList_ofDescriptor (runtime : String) (descriptor : Descriptor) :
    (ofDescriptor runtime descriptor).toList =
      (runtime ++ "::inventory::submit").toList ++
        ('!' :: ' ' :: '\x7b' :: (inside runtime descriptor ++ ['\x7d'])) ++ ['\n'] := by
  have lines : (layout runtime descriptor).lines = (runtime ++ "::inventory::submit! \x7b") ::
      ((recordOf runtime descriptor).lines.map Layout.indent ++ ["\x7d"]) := by
    rw [layout, ← recordOf, Layout.lines, Layout.linesOfAll, Layout.linesOfAll, List.append_nil, List.cons_append]
  rw [ofDescriptor, Layout.text, lines, String.toList_append, Layout.toList_intercalate_cons, Layout.spread_append,
    Layout.spread_indent, inside]
  simp [Layout.spread]

/-- The code that registers a descriptor stands alone up to its last line end, and is read as an item of no interest. -/
theorem exists_standsAlone {runtime : String} (isPath : IsIdentifierPath runtime) {descriptor : Descriptor}
    (ofTypes : ∀ text ∈ descriptor.typeTexts, IsLoose text) :
    ∃ text pieces, (ofDescriptor runtime descriptor).toList = text ++ ['\n'] ∧ StandsAlone text pieces ∧
      ∀ position, Rule.item.read? (tokensFrom position pieces) = some none := by
  have ofRecord := recordOf_isLoose isPath.isLoose ofTypes
  have ofInside : Loose true (inside runtime descriptor) := by
    have isMargin : Layout.IsMargin (List.replicate 4 ' ') := ⟨List.cons_ne_nil _ _, fun _ => List.eq_of_mem_replicate⟩
    have lines := Layout.spread_lines isMargin (recordOf runtime descriptor) ofRecord
    exact (lines.append (.plain rfl .nil)).weaken
  have ofCall := (isPath.append (⟨rfl, rfl⟩ : IsIdentifier "inventory")).append (⟨rfl, rfl⟩ : IsIdentifier "submit")
  have joined : runtime ++ "::" ++ "inventory" ++ "::" ++ "submit" = runtime ++ "::inventory::submit" := by
    simp only [String.append_assoc]
    rfl
  obtain ⟨first, others, path, each⟩ := ofCall
  obtain ⟨pieces, areTrees, alone⟩ := exists_standsAlone_of_call each ofInside
  refine ⟨_, _, ?_, alone, read?_item_of_call each areTrees⟩
  rw [toList_ofDescriptor, ← joined, path]

end Fragment

end Exposure
