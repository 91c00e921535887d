import Exposure.Proofs.Continuation
import Exposure.Proofs.Enclosure
import Exposure.Proofs.Literals
import Exposure.Proofs.Relocation
import Exposure.Proofs.Source

/-!
# Ways of documenting an item

The documentation of an item is written in comments, in one attribute for each line, or in one attribute for all lines. Other
attributes may stand between. In front of an item all of these are attributes that come before its own ones. Each gives its
lines without one leading blank, so that the text is the same whichever way is taken.
-/

namespace Exposure

namespace Item

theorem attributes_decorate (item : Item) (attributes : List Attribute) (isPublic : Bool) (span : Span) :
    (item.decorate attributes isPublic span).attributes = attributes := by cases item <;> rfl

end Item

/-! ## Attributes in front of an item -/

namespace Rule

/-- A visibility begins with its word. -/
theorem eq_pubWord_of_accepts_isVisible {next : Token} {rest : List Token} (accepts : isVisible.Accepts (next :: rest)) :
    next.terminal = .word .pubWord := by
  have begins := mayBegin_of_accepts accepts
  obtain ⟨terminal, text, start, stop⟩ := next
  cases terminal with
  | word keyword => cases keyword <;> first | rfl | cases begins
  | mark punctuation => cases punctuation <;> cases begins
  | _ => cases begins

/-- Attributes do not go on with a visibility. -/
theorem read?_outerAttributes_visible {front : List Token} (accepts : outerAttributes.Accepts front) {next : Token}
    (isVisible : next.terminal = .word .pubWord) (rest : List Token) :
    outerAttributes.read? (front ++ next :: rest) = none := by
  by_contra found
  let mayStand : Terminal → Bool := fun terminal => terminal = .mark .hash || terminal = .docComment
  have nests : outerAttributes.Nests mayStand (some 0) (some 0) := outerAttributes_nests rfl rfl
  have spoiled : (nesting mayStand).move (some 0) next = none := by
    simp only [nesting, isVisible]
    rfl
  have behind := nests.foldl (Option.isSome_iff_ne_none.mpr found)
  rw [List.foldl_append, nests.foldl accepts, List.foldl_cons, spoiled, foldl_nesting_none] at behind
  cases behind

/-- Attributes in front of the beginning of an item come before those of the beginning. -/
theorem read?_beginning_behind_attributes {front start : List Token} {attributes own : List Attribute} {isPublic : Bool}
    (ofFront : outerAttributes.read? front = some attributes)
    (ofStart : beginning.read? start = some fun item => (own, isPublic, item)) :
    beginning.read? (front ++ start) = some fun item => (attributes ++ own, isPublic, item) := by
  obtain ⟨ofOwn, ofVisible, _, isPublic', rfl, readFirst, readVisible, same⟩ := Grammar.exists_of_read?_sequence ofStart
  obtain ⟨own', readOwn, rfl⟩ := Grammar.exists_of_read?_map readFirst
  obtain ⟨rfl, rfl⟩ : own' = own ∧ isPublic' = isPublic := by simpa using congrFun same none
  have together := read?_outerAttributes_append ofFront readOwn
  let make (attributes : List Attribute) (isPublic : Bool) (item : Option Item) := (attributes, isPublic, item)
  have first : Grammar.read? rules (make <$> outerAttributes) (front ++ ofOwn) = some (make (attributes ++ own')) :=
    (Grammar.read?_map make _ _).trans (congrArg (Option.map make) together)
  rw [← List.append_assoc]
  refine Grammar.read?_sequence_eq_some first readVisible fun added left proper joined => .inl ?_
  obtain ⟨next, others, rfl⟩ := List.exists_cons_of_ne_nil proper
  subst joined
  have isWord := eq_pubWord_of_accepts_isVisible (Option.isSome_of_eq_some readVisible)
  have stuck := read?_outerAttributes_visible (Option.isSome_of_eq_some together) isWord others
  exact (Grammar.read?_map make _ _).trans (congrArg (Option.map make) stuck)

/-- Attributes in front of an item come before its own attributes. -/
theorem exists_item_behind_attributes {front tokens : List Token} {attributes : List Attribute} {found : Item}
    (ofFront : outerAttributes.read? front = some attributes) (read : item.read? tokens = some (some found)) :
    ∃ found', item.read? (front ++ tokens) = some (some found') ∧ found'.attributes = attributes ++ found.attributes := by
  rw [read?_item, Rule.read?, itemRule, Grammar.read?_witnessed] at read
  obtain ⟨_, readParts, made⟩ := Option.map_eq_some_iff.mp read
  obtain ⟨start, declared, _, _, rfl, readStart, readDeclared, rfl⟩ := Grammar.exists_of_read?_sequence readParts
  obtain ⟨_, _, _, isPublic, -, readAttributes, -, rfl⟩ := Grammar.exists_of_read?_sequence readStart
  obtain ⟨own, -, rfl⟩ := Grammar.exists_of_read?_map readAttributes
  obtain ⟨given, rfl, rfl⟩ := Option.map_eq_some_iff.mp made
  rw [← List.append_assoc, read?_item_of_beginning (read?_beginning_behind_attributes ofFront readStart) readDeclared]
  exact ⟨_, rfl, by rw [Item.attributes_decorate, Item.attributes_decorate]⟩

theorem read?_outerAttributes_of_comment {comment : Token} (isComment : comment.terminal = .docComment) :
    outerAttributes.read? [comment] = some [.ofDocComment comment] := by
  obtain ⟨_, text, start, stop⟩ := comment
  obtain rfl := isComment
  rfl

theorem read?_outerAttributes_of_content {hash opening closing : Token} (isHash : hash.terminal = .mark .hash)
    (opens : opening.terminal = .mark .openBracket) (closes : closing.terminal = .mark .closeBracket) {inside : List Token}
    {attr : Attribute} (read : attributeContent.read? inside = some attr) :
    outerAttributes.read? (hash :: (opening :: inside ++ [closing])) = some [attr] := by
  have content : (within .bracket attributeContent).read? (opening :: inside ++ [closing]) = some attr :=
    read?_within opens closes read
  have bracketed : bracketAttribute.read? ([hash] ++ (opening :: inside ++ [closing])) = some attr :=
    Grammar.read?_sequence_eq_some (read?_terminal isHash) content fun added _ proper _ =>
      .inl (read?_terminal_append proper)
  exact Grammar.read?_many_of_read? (read?_orElse_of_some bracketed) (List.cons_ne_nil _ _)

theorem read?_attributeContent_of_value {name equals value : Token} (isIdent : name.terminal = .ident)
    (isEquals : equals.terminal = .mark .equals) (isString : value.terminal = .string) :
    attributeContent.read? [name, equals, value] = some ⟨[name.text], .value (.leaf (.ofToken value)), name.start⟩ := by
  let make (path : List String × Position) (input : Option AttributeInput) : Attribute :=
    ⟨path.1, input.getD .absent, path.2⟩
  have path : Grammar.read? rules (make <$> identPath) [name] = some (make ([name.text], name.start)) := by
    obtain ⟨_, _, _, _⟩ := name
    obtain rfl := isIdent
    rfl
  have input : Grammar.read? rules (Grammar.optional attributeInput) [equals, value] =
      some (some (.value (.leaf (.ofToken value)))) := by
    obtain ⟨_, _, _, _⟩ := equals
    obtain ⟨_, _, _, _⟩ := value
    obtain rfl := isEquals
    obtain rfl := isString
    rfl
  refine Grammar.read?_sequence_eq_some path input fun added left proper joined => .inl ?_
  -- no path goes on with the mark in front of the value
  obtain ⟨next, others, rfl⟩ := List.exists_cons_of_ne_nil proper
  obtain ⟨rfl, -⟩ := List.cons_eq_cons.mp joined
  obtain ⟨_, _, _, _⟩ := name
  obtain ⟨_, _, _, _⟩ := equals
  obtain rfl := isIdent
  obtain rfl := isEquals
  rw [List.singleton_append, Grammar.read?_cons, Grammar.read?_cons]
  exact Grammar.read?_void others

end Rule

/-! ## The lines that attributes add -/

namespace Documentation

/-- The lines that attributes add to the documentation, one after another. -/
def linesOfAll (attributes : List Attribute) : Outcome (List String) := List.flatten <$> attributes.mapM linesOf

theorem ofAttributes_eq (attributes : List Attribute) :
    ofAttributes attributes = "\n".intercalate <$> linesOfAll attributes := by
  rw [ofAttributes, linesOfAll]
  cases attributes.mapM linesOf <;> rfl

theorem linesOfAll_append {one : List Attribute} {lines : List String} (ofOne : linesOfAll one = .ok lines)
    (two : List Attribute) : linesOfAll (one ++ two) = (lines ++ ·) <$> linesOfAll two := by
  rw [linesOfAll, List.mapM_append]
  obtain ⟨each, ofEach, rfl⟩ : ∃ each, one.mapM linesOf = .ok each ∧ each.flatten = lines := by
    rw [linesOfAll] at ofOne
    cases ofEach : one.mapM linesOf with
    | ok each => exact ⟨each, rfl, by rw [ofEach] at ofOne; exact Except.ok.inj ofOne⟩
    | error => rw [ofEach] at ofOne; cases ofOne
  rw [linesOfAll, ofEach]
  cases two.mapM linesOf with
  | ok others => exact congrArg Except.ok List.flatten_append
  | error => rfl

theorem linesOfAll_singleton {attr : Attribute} {lines : List String} (ofAttr : linesOf attr = .ok lines) :
    linesOfAll [attr] = .ok lines := by
  rw [linesOfAll, List.mapM_cons, ofAttr]
  exact congrArg Except.ok (List.append_nil lines)

theorem linesOfAll_of_others {attributes : List Attribute}
    (others : ∀ attr ∈ attributes, attr.name ≠ "doc" ∨ attr.value? = none) : linesOfAll attributes = .ok [] := by
  induction attributes with
  | nil => rfl
  | cons first rest step =>
    obtain ⟨ofFirst, ofRest⟩ := List.forall_mem_cons.mp others
    have nothing : linesOf first = .ok [] := by
      unfold linesOf
      split
      · rename_i valued
        rcases ofFirst with other | empty
        · rw [if_pos other]
        · rw [empty] at valued
          cases valued
      · rfl
    rw [← List.singleton_append, linesOfAll_append (linesOfAll_singleton nothing), step ofRest]
    rfl

theorem linesOfAll_unplaced (attributes : List Attribute) : linesOfAll (unplaced attributes) = linesOfAll attributes := by
  rw [linesOfAll, mapM_linesOf_unplaced, linesOfAll]

theorem linesOfAll_of_sameButPlaces {one two : Item} (same : SameButPlaces one two) :
    linesOfAll one.attributes = linesOfAll two.attributes := by
  have carried (item : Item) : (unplaced item).attributes = unplaced item.attributes := by cases item <;> rfl
  rw [← linesOfAll_unplaced, ← carried, show unplaced one = unplaced two from same, carried, linesOfAll_unplaced]

/-! ## Attributes and items in a text -/

/-- A text is lexed as attributes in front of another text, wherever it stands, and these add some lines. -/
def Adds (text behind : List Char) (lines : List String) : Prop :=
  ∃ pieces, Lexeme.Pieces (text ++ behind) pieces behind ∧
    ∀ position, ∃ attributes, Rule.outerAttributes.read? (Lexeme.tokensFrom position pieces) = some attributes ∧
      linesOfAll attributes = .ok lines

/-- A text is an item, wherever it stands, whose attributes amount to some lines. -/
def Amounts (text : List Char) (lines : Outcome (List String)) : Prop :=
  ∃ pieces, Lexeme.Pieces text pieces [] ∧
    ∀ position, ∃ found, Rule.item.read? (Lexeme.tokensFrom position pieces) = some (some found) ∧
      linesOfAll found.attributes = lines

namespace Amounts

variable {text : List Char} {lines : Outcome (List String)}

/-- Attributes in front of an item add their lines to those of the item. -/
theorem behind_attributes (amounts : Amounts text lines) {part : List Char} {added : List String}
    (adds : Adds part text added) : Amounts (part ++ text) ((added ++ ·) <$> lines) := by
  obtain ⟨front, ofFront, read⟩ := adds
  obtain ⟨pieces, covers, readItem⟩ := amounts
  refine ⟨front ++ pieces, Lexeme.Pieces.append_iff.mpr ⟨text, ofFront, covers⟩, fun position => ?_⟩
  obtain ⟨attributes, readFront, ofAttributes⟩ := read position
  obtain ⟨found, readFound, same⟩ := readItem (position.past (Lexeme.chars front))
  obtain ⟨found', readBoth, together⟩ := Rule.exists_item_behind_attributes readFront readFound
  exact ⟨found', by rwa [Lexeme.tokensFrom_append], by rw [together, linesOfAll_append ofAttributes, same]⟩

theorem behind_feed (amounts : Amounts text lines) : Amounts ('\n' :: text) lines := by
  obtain ⟨pieces, covers, readItem⟩ := amounts
  have blank : ∀ char ∈ ['\n'], Lexeme.isBlank char = true := List.forall_mem_singleton.mpr rfl
  obtain ⟨joined, coversBoth, tokens⟩ := covers.behind_blanks (List.cons_ne_nil '\n' []) blank
  exact ⟨joined, coversBoth, fun position => tokens position ▸ readItem _⟩

/-- The text is read as the one item that it is. -/
theorem exists_parseItem (amounts : Amounts text lines) :
    ∃ found, parseItem (String.ofList text) = .ok found ∧ linesOfAll found.attributes = lines := by
  obtain ⟨pieces, covers, readItem⟩ := amounts
  obtain ⟨found, read, same⟩ := readItem .start
  obtain ⟨items, parsed, alike⟩ := parse_of_pieces covers (Rule.read?_moduleItems_of_item read)
  obtain _ | ⟨ofHead, _ | _⟩ := SameButPlaces.iff_forall₂.mp alike
  rename_i again
  exact ⟨again, by rw [parseItem, parsed]; rfl, (linesOfAll_of_sameButPlaces ofHead).trans same⟩

/-- The own text of an item that is read amounts to the lines of its attributes. -/
theorem of_parseItem {text : String} {item : Item} (accepted : parseItem text = .ok item) (whole : item.source text = text) :
    Amounts text.toList (linesOfAll item.attributes) := by
  obtain ⟨items, parsed, chosen⟩ := Outcome.bind_eq_ok.mp accepted
  obtain ⟨only, rfl⟩ : ∃ only, items = [only] := by
    match items, chosen with
    | [only], _ => exact ⟨only, rfl⟩
  obtain rfl := Except.ok.inj chosen
  obtain ⟨pieces, covers, read⟩ := exists_of_parse parsed
  obtain ⟨before, stretch, after, split, readItem⟩ :=
    (Rule.members_of_moduleItems read).exists_of_mem List.mem_cons_self
  obtain ⟨pre, core, terminal, last, post, rfl, closes, -, readCore, slice⟩ := exists_pieces_of_item covers split readItem
  rw [List.append_assoc, Lexeme.Pieces.append_iff] at covers
  obtain ⟨middle, -, covers⟩ := covers
  obtain ⟨rest, ofCore, -⟩ := Lexeme.Pieces.append_iff.mp covers
  obtain ⟨front, mark, -, sameChars, cut⟩ := ofCore.cut closes
  have characters : text.toList = front ++ [mark] := by rw [← whole, slice, String.toList_ofList, sameChars]
  refine ⟨_, characters ▸ cut, fun position => ?_⟩
  obtain ⟨found?, readAgain, alike⟩ := Rule.exists_of_sameButPlaces (fun _ => Rule.item_moves)
    (Lexeme.tokensFrom_sameButPlaces position _ _) readCore
  cases found? with
  | none => cases alike
  | some found => exact ⟨found, readAgain, linesOfAll_of_sameButPlaces (SameButPlaces.iff_some.mp alike)⟩

end Amounts

/-! ## Documentation in a text -/

/-- The comment that holds a line as documentation. -/
def commentOf (line : String) : List Char := '/' :: '/' :: '/' :: line.toList

theorem docText_commentOf (line : String) : Attribute.docText (String.ofList (commentOf line)) = dropBlank line := by
  have kept : String.ofList line.toList = line := String.ofList_toList
  rw [Attribute.docText, String.toList_ofList, dropBlank, show (commentOf line).drop 3 = line.toList from rfl]
  cases written : line.toList with
  | nil =>
    rw [written] at kept
    exact kept
  | cons first rest =>
    rw [written] at kept
    by_cases isBlank : first = ' '
    · rw [isBlank]
      rfl
    · simp [isBlank, kept]

theorem linesOf_ofDocComment (comment : Token) : linesOf (.ofDocComment comment) = .ok [Attribute.docText comment.text] := rfl

/-- A comment reaches up to the end of its line. -/
theorem first?_commentOf {line : String} (noFeed : '\n' ∉ line.toList) (noSlash : line.toList.head? ≠ some '/')
    (behind : List Char) :
    Lexeme.first? (commentOf line ++ '\n' :: behind) = some (some .docComment, 2 + line.toList.length + 1) := by
  have inLine : ∀ char ∈ line.toList, decide (char ≠ '\n') = true := fun char written =>
    decide_eq_true fun same => noFeed (same ▸ written)
  have counted : Lexeme.run (· ≠ '\n') (line.toList ++ '\n' :: behind) = line.toList.length := by
    rw [Lexeme.run_append_of_forall inLine]
    rfl
  have proper : (line.toList ++ '\n' :: behind).head? ≠ some '/' := by
    cases written : line.toList with
    | nil => simp
    | cons first rest => simpa [written] using noSlash
  have doc : Lexeme.docComment? (commentOf line ++ '\n' :: behind) = some (2 + line.toList.length + 1) := by
    rw [commentOf, List.cons_append, List.cons_append, List.cons_append, Lexeme.docComment?, if_neg proper, counted]
    exact congrArg some (by omega)
  rw [Lexeme.first?, Lexeme.classes, doc]
  rfl

/-- A comment adds its line. -/
theorem adds_comment {line : String} (noFeed : '\n' ∉ line.toList) (noSlash : line.toList.head? ≠ some '/')
    (behind : List Char) : Adds (commentOf line) ('\n' :: behind) [dropBlank line] := by
  have size : (commentOf line).length = 2 + line.toList.length + 1 := by
    simp only [commentOf, List.length_cons]
    omega
  refine ⟨[(some .docComment, commentOf line)], .cons_append (first?_commentOf noFeed noSlash behind) size (.nil _),
    fun position => ?_⟩
  obtain ⟨comment, tokens, isComment, text⟩ : ∃ comment : Token,
      Lexeme.tokensFrom position [(some .docComment, commentOf line)] = [comment] ∧ comment.terminal = .docComment ∧
        comment.text = String.ofList (commentOf line) := ⟨_, rfl, rfl, rfl⟩
  have lines : linesOf (.ofDocComment comment) = .ok [dropBlank line] := by
    rw [linesOf_ofDocComment, text, docText_commentOf]
  exact ⟨_, tokens ▸ Rule.read?_outerAttributes_of_comment isComment, linesOfAll_singleton lines⟩

/-- The attribute that holds a text as documentation. -/
def attributeOf (text : String) : List Char :=
  ['#', '[', 'd', 'o', 'c', ' ', '=', ' '] ++ ((Literal.encode text).toList ++ [']'])

/-- The pieces of the attribute that holds a literal. -/
def attributePieces (literal : List Char) : List Piece :=
  [Lexeme.markPiece .hash, Lexeme.markPiece .openBracket, (some .ident, ['d', 'o', 'c']), (none, [' ']),
    Lexeme.markPiece .equals, (none, [' ']), (some .string, literal), Lexeme.markPiece .closeBracket]

theorem pieces_attributeOf (text : String) (behind : List Char) :
    Lexeme.Pieces (attributeOf text ++ '\n' :: behind) (attributePieces (Literal.encode text).toList) ('\n' :: behind) := by
  have size : (Literal.encode text).toList.length = (text.toList.flatMap Literal.encodeChar ++ ['"']).length + 1 := by
    rw [Lexeme.toList_encode, List.length_cons]
  have closing : Lexeme.Pieces ([']'] ++ '\n' :: behind) [Lexeme.markPiece .closeBracket] ('\n' :: behind) :=
    .cons_append rfl rfl (.nil _)
  have string : Lexeme.Pieces ((Literal.encode text).toList ++ ([']'] ++ '\n' :: behind))
      [(some .string, (Literal.encode text).toList), Lexeme.markPiece .closeBracket] ('\n' :: behind) :=
    .cons_append (size ▸ Lexeme.first?_encode text _) size closing
  have blank : Lexeme.first? ([' '] ++ ((Literal.encode text).toList ++ ([']'] ++ '\n' :: behind))) = some (none, 1) := by
    rw [Lexeme.toList_encode]
    rfl
  have spelled : attributeOf text ++ '\n' :: behind = ['#'] ++ (['['] ++ (['d', 'o', 'c'] ++ ([' '] ++ (['='] ++ ([' '] ++
      ((Literal.encode text).toList ++ ([']'] ++ '\n' :: behind))))))) := by
    rw [attributeOf, List.append_assoc, List.append_assoc]
    rfl
  rw [spelled]
  generalize (Literal.encode text).toList ++ ([']'] ++ '\n' :: behind) = value at string blank
  exact .cons_append rfl rfl (.cons_append rfl rfl (.cons_append rfl rfl (.cons_append rfl rfl (.cons_append rfl rfl
    (.cons_append blank rfl string)))))

theorem linesOf_value {value : Token} (isString : value.terminal = .string) {text : String}
    (denotes : Literal.decode value.text = .ok text) {name : String} (named : name = "doc") (position : Position) :
    linesOf ⟨[name], .value (.leaf (.ofToken value)), position⟩ = .ok ((Text.splitAt '\n' text).map dropBlank) := by
  have ofName : Attribute.name ⟨[name], .value (.leaf (.ofToken value)), position⟩ = "doc" := named
  have kind : (Leaf.ofToken value).kind = .string := by
    rw [Leaf.ofToken, isString]
    rfl
  have ofText : (Leaf.ofToken value).text = value.text := rfl
  simp only [linesOf, Attribute.value?, ofName, kind, ofText, denotes, ne_eq, not_true_eq_false, if_false, reduceCtorEq,
    if_true]
  rfl

theorem exists_tokens_of_attributePieces (literal : List Char) (position : Position) :
    ∃ hash opening name equals value closing : Token,
      Lexeme.tokensFrom position (attributePieces literal) = hash :: (opening :: [name, equals, value] ++ [closing]) ∧
        hash.terminal = .mark .hash ∧ opening.terminal = .mark .openBracket ∧ name.terminal = .ident ∧
        equals.terminal = .mark .equals ∧ value.terminal = .string ∧ closing.terminal = .mark .closeBracket ∧
        name.text = "doc" ∧ value.text = String.ofList literal := by
  have unreserved : Keyword.ofText? (String.ofList ['d', 'o', 'c']) = none := by decide
  have spelled : String.ofList ['d', 'o', 'c'] = "doc" := by decide
  refine ⟨_, _, _, _, _, _, rfl, rfl, rfl, ?_, rfl, rfl, rfl, spelled, rfl⟩
  simp [unreserved]

/-- An attribute adds the lines of its text. -/
theorem adds_attribute (text : String) (behind : List Char) :
    Adds (attributeOf text) ('\n' :: behind) ((Text.splitAt '\n' text).map dropBlank) := by
  refine ⟨_, pieces_attributeOf text behind, fun position => ?_⟩
  obtain ⟨hash, opening, name, equals, value, closing, tokens, isHash, opens, isIdent, isEquals, isString, closes, named,
    literal⟩ := exists_tokens_of_attributePieces (Literal.encode text).toList position
  have denotes : Literal.decode value.text = .ok text := by rw [literal, String.ofList_toList, Literal.decode_encode]
  have content := Rule.read?_attributeContent_of_value isIdent isEquals isString
  rw [tokens]
  exact ⟨_, Rule.read?_outerAttributes_of_content isHash opens closes content,
    linesOfAll_singleton (linesOf_value isString denotes named name.start)⟩

/-- A text is attributes that hold no documentation, where it stands. -/
def AreOthers (text behind : List Char) : Prop :=
  ∃ pieces attributes, Lexeme.Pieces (text ++ behind) pieces behind ∧
    Rule.outerAttributes.read? (Lexeme.tokensFrom .start pieces) = some attributes ∧
      ∀ attr ∈ attributes, attr.name ≠ "doc" ∨ attr.value? = none

theorem AreOthers.adds {text behind : List Char} (others : AreOthers text behind) : Adds text behind [] := by
  obtain ⟨pieces, attributes, covers, read, each⟩ := others
  refine ⟨pieces, covers, fun position => ?_⟩
  obtain ⟨attributes', readAgain, alike⟩ := Rule.exists_of_sameButPlaces (fun _ => Rule.outerAttributes_moves)
    (Lexeme.tokensFrom_sameButPlaces position .start pieces) read
  refine ⟨attributes', readAgain, ?_⟩
  rw [← linesOfAll_unplaced, show unplaced attributes' = unplaced attributes from alike, linesOfAll_unplaced,
    linesOfAll_of_others each]

/-- How documentation is written: a comment for each line, an attribute for each line, or one attribute for all lines. -/
inductive Style where
  | lineComments | lineAttributes | oneAttribute

/-- The comments or attributes that hold some lines. -/
def Style.write (lines : List String) : Style → List (List Char)
  | lineComments => lines.map commentOf
  | lineAttributes => lines.map attributeOf
  | oneAttribute => [attributeOf ("\n".intercalate lines)]

/-- A text is that of an item behind comments or attributes in their order, each on a line of its own, with other attributes
between them, in front of them or behind them. -/
inductive Documented (item : List Char) : List (List Char) → List Char → Prop
  | bare : Documented item [] item
  | documentation (first : List Char) {others : List (List Char)} {rest : List Char} (behind : Documented item others rest) :
      Documented item (first :: others) (first ++ '\n' :: rest)
  | other {part : List Char} {texts : List (List Char)} {rest : List Char} (others : AreOthers part rest)
      (behind : Documented item texts rest) : Documented item texts (part ++ rest)

/-- Each of some texts adds its lines in front of the end of its line. -/
abbrev AddsEach (texts : List (List Char)) (added : List (List String)) : Prop :=
  List.Forall₂ (fun text lines => ∀ behind, Adds text ('\n' :: behind) lines) texts added

theorem Documented.amounts {item whole : List Char} {texts : List (List Char)} (documented : Documented item texts whole)
    {added : List (List String)} (each : AddsEach texts added) {lines : Outcome (List String)} (amounts : Amounts item lines) :
    Amounts whole ((added.flatten ++ ·) <$> lines) := by
  induction documented generalizing added with
  | bare =>
    cases each
    have same : (([] : List String) ++ ·) <$> lines = lines := id_map lines
    rwa [List.flatten_nil, same]
  | documentation first behind step =>
    obtain _ | ⟨adds, each⟩ := each
    have further := (step each).behind_feed.behind_attributes (adds _)
    rw [Functor.map_map] at further
    simpa [Function.comp_def] using further
  | other others behind step =>
    have further := (step each).behind_attributes others.adds
    rw [Functor.map_map] at further
    simpa using further

/-- Lines that are joined are found again. -/
theorem splitAt_intercalate {lines : List String} (nonempty : lines ≠ []) (noFeed : ∀ line ∈ lines, '\n' ∉ line.toList) :
    Text.splitAt '\n' ("\n".intercalate lines) = lines := by
  have apart : ∀ chars ∈ lines.map String.toList, '\n' ∉ chars := by simpa using noFeed
  have proper : lines.map String.toList ≠ [] := by simpa using nonempty
  have feed : "\n".toList = ['\n'] := by decide
  rw [Text.splitAt, String.toList_intercalate, feed, List.splitOn_intercalate '\n' apart proper, List.map_map]
  simp [Function.comp_def]

/-- In every style the lines are added without one leading blank. -/
theorem exists_addsEach (style : Style) {lines : List String} (nonempty : lines ≠ [])
    (each : ∀ line ∈ lines, '\n' ∉ line.toList ∧ line.toList.head? ≠ some '/') :
    ∃ added, AddsEach (style.write lines) added ∧ added.flatten = lines.map dropBlank := by
  have apart : (lines.map fun line => [dropBlank line]).flatten = lines.map dropBlank := by
    rw [← List.flatMap_def, List.map_eq_flatMap]
  cases style with
  | lineComments =>
    refine ⟨_, List.forall₂_map_left_iff.mpr (List.forall₂_map_right_iff.mpr (List.forall₂_same.mpr ?_)), apart⟩
    exact fun line member => adds_comment (each line member).1 (each line member).2
  | lineAttributes =>
    refine ⟨_, List.forall₂_map_left_iff.mpr (List.forall₂_map_right_iff.mpr (List.forall₂_same.mpr ?_)), apart⟩
    intro line member behind
    have single := splitAt_intercalate (List.cons_ne_nil line []) (by simpa using (each line member).1)
    rw [String.intercalate_singleton] at single
    have adds := adds_attribute line behind
    rwa [single] at adds
  | oneAttribute =>
    refine ⟨[lines.map dropBlank], .cons (fun behind => ?_) .nil, by simp⟩
    have adds := adds_attribute ("\n".intercalate lines) behind
    rwa [splitAt_intercalate nonempty fun line member => (each line member).1] at adds

/-- The documentation of an item does not depend on the style in which it is written, nor on other attributes around it: it is
the lines without one leading blank each, and then what the item has of its own. -/
theorem style_isIrrelevant {lines : List String} (nonempty : lines ≠ [])
    (each : ∀ line ∈ lines, '\n' ∉ line.toList ∧ line.toList.head? ≠ some '/') {text : String} {item : Item}
    (accepted : parseItem text = .ok item) (isWhole : item.source text = text) (style : Style) {whole : String}
    (documented : Documented text.toList (style.write lines) whole.toList) :
    ∃ found, parseItem whole = .ok found ∧
      ofAttributes found.attributes =
        (fun own => "\n".intercalate (lines.map dropBlank ++ own)) <$> linesOfAll item.attributes := by
  obtain ⟨added, adds, same⟩ := exists_addsEach style nonempty each
  obtain ⟨found, parsed, ofFound⟩ := (documented.amounts adds (.of_parseItem accepted isWhole)).exists_parseItem
  rw [String.ofList_toList] at parsed
  refine ⟨found, parsed, ?_⟩
  rw [ofAttributes_eq, ofFound, Functor.map_map, same]

/-- Two comments with another attribute between them. -/
theorem style_isIrrelevant_interleaved :
    ∃ found, parseItem "///a\n#[x]\n/// \"b\nstruct S;" = .ok found ∧ ofAttributes found.attributes = .ok "a\n\"b" := by
  have accepted : (parseItem "struct S;").toOption.any
      (fun item => item.source "struct S;" = "struct S;" && item.attributes.isEmpty) = true := by decide +kernel
  obtain ⟨item, accepted, properties⟩ := (Option.any_eq_true _ _).mp accepted
  obtain ⟨isWhole, undocumented⟩ : item.source "struct S;" = "struct S;" ∧ item.attributes = [] := by simpa using properties
  -- the line of the other attribute, and what stands behind it
  let other : List Char := ['#', '[', 'x', ']', '\n']
  let rest : List Char := commentOf " \"b" ++ '\n' :: "struct S;".toList
  have others : AreOthers other rest := by
    let pieces : List Piece := [Lexeme.markPiece .hash, Lexeme.markPiece .openBracket, (some .ident, ['x']),
      Lexeme.markPiece .closeBracket, (none, ['\n'])]
    have covers : Lexeme.Pieces (['#'] ++ (['['] ++ (['x'] ++ ([']'] ++ (['\n'] ++ rest))))) pieces rest :=
      .cons_append rfl rfl (.cons_append rfl rfl (.cons_append rfl rfl (.cons_append rfl rfl (.cons_append rfl rfl
        (.nil rest)))))
    have read : (Rule.outerAttributes.read? (Lexeme.tokensFrom .start pieces)).any
        (fun attributes => attributes.all fun attr => attr.name ≠ "doc") = true := by decide +kernel
    obtain ⟨attributes, read, each⟩ := (Option.any_eq_true _ _).mp read
    exact ⟨pieces, attributes, covers, read, fun attr member => .inl (by simpa using List.all_eq_true.mp each attr member)⟩
  have documented : Documented "struct S;".toList (Style.lineComments.write ["a", " \"b"])
      "///a\n#[x]\n/// \"b\nstruct S;".toList := by
    have spelled : "///a\n#[x]\n/// \"b\nstruct S;".toList = commentOf "a" ++ '\n' :: (other ++ rest) := by decide
    rw [spelled]
    exact .documentation _ (.other others (.documentation _ .bare))
  have each : ∀ line ∈ ["a", " \"b"], '\n' ∉ line.toList ∧ line.toList.head? ≠ some '/' := by decide
  obtain ⟨found, parsed, same⟩ := style_isIrrelevant (List.cons_ne_nil _ _) each (Outcome.toOption_eq_some.mp accepted) isWhole
    .lineComments documented
  refine ⟨found, parsed, same.trans ?_⟩
  rw [undocumented]
  decide

end Documentation

end Exposure
