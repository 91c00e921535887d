import Exposure.Grammar
import Exposure.Syntax.Item
import Exposure.Syntax.TypeExpr.Spine

namespace Exposure

/-- The recursive rules of the declaration language. -/
inductive RuleName where
  | tree | type | item
  deriving DecidableEq, Repr

namespace RuleName

/-- What each rule reads; an item of no interest reads as none. -/
def Meaning : RuleName → Type
  | tree => TokenTree
  | type => Spine TypeExpr
  | item => Option Item

end RuleName

/-- A grammar of the declaration language. -/
abbrev Rule : Type → Type 1 := Grammar Token RuleName.Meaning

namespace Rule

/-- One token of a given class. -/
def terminal (wanted : Terminal) : Rule Token := .single (fun token => token.terminal = wanted) id

/-- One token of any class that satisfies a condition. -/
def satisfying (wanted : Terminal → Bool) : Rule Token := .single (fun token => wanted token.terminal) id

/-- A reserved word. -/
def word (keyword : Keyword) : Rule Token := terminal (.word keyword)

/-- A punctuation mark. -/
def mark (punctuation : Punctuation) : Rule Token := terminal (.mark punctuation)

/-- An identifier. -/
def ident : Rule Token := terminal .ident

/-- A grammar of which the value is of no interest. -/
def skip {value : Type} (rule : Rule value) : Rule Unit := (fun _ => ()) <$> rule

/-- Members of a grammar between brackets. -/
def within {value : Type} (delimiter : Delimiter) (rule : Rule value) : Rule value :=
  mark delimiter.opening *> rule <* mark delimiter.closing

/-- Members of a grammar separated by commas, with a comma allowed behind the last. -/
def commaList {value : Type} (rule : Rule value) : Rule (List value) :=
  Grammar.separated (mark .comma) rule

/-! Token trees -/

/-- The brackets and the semicolon, which may not stand anywhere in a token tree. -/
def structuralMarks : List Punctuation :=
  [.openParen, .closeParen, .openBracket, .closeBracket, .openBrace, .closeBrace, .semicolon]

/-- Every other token may stand anywhere in a token tree. -/
def isPlainLeaf : Terminal → Bool
  | .mark punctuation => !structuralMarks.contains punctuation
  | _ => true

/-- A token that may stand anywhere in a token tree. -/
def plainLeaf : Rule TokenTree := (.leaf ∘ Leaf.ofToken) <$> satisfying isPlainLeaf

/-- Any token tree. -/
def tree : Rule TokenTree := .rule .tree id

/-- Any list of token trees. -/
def trees : Rule (List TokenTree) := Grammar.many tree

/-- A bracketed list of token trees. -/
def group (delimiter : Delimiter) : Rule TokenTree :=
  (fun (opening : Token) inside => .group delimiter inside opening.start) <$> mark delimiter.opening <*>
    (trees <* mark delimiter.closing)

/-- A list of token trees in any brackets. -/
def anyGroup : Rule TokenTree := group .paren <|> group .bracket <|> group .brace

/-- A token tree that is no semicolon. -/
def treeInStatement : Rule TokenTree := anyGroup <|> plainLeaf

/-- The rule of token trees. -/
def treeRule : Rule TokenTree := anyGroup <|> plainLeaf <|> (.leaf ∘ Leaf.ofToken) <$> mark .semicolon

/-! Attributes -/

/-- A path of identifiers, with the position of the first. -/
def identPath : Rule (List String × Position) :=
  (fun (first, rest) => ((first :: rest).map Token.text, first.start)) <$> Grammar.joined (mark .pathSeparator) ident

/-- The arguments or the value of an attribute. -/
def attributeInput : Rule AttributeInput :=
  .arguments <$> within .paren trees <|> .value <$> (mark .equals *> tree)

/-- An attribute in brackets. -/
def bracketAttribute : Rule Attribute :=
  mark .hash *> within .bracket
    ((fun (path, position) input => ⟨path, input.getD .absent, position⟩) <$> identPath <*>
      Grammar.optional attributeInput)

/-- An attribute or a documentation comment before what it belongs to. -/
def outerAttribute : Rule Attribute := bracketAttribute <|> Attribute.ofDocComment <$> terminal .docComment

/-- Any number of attributes. -/
def outerAttributes : Rule (List Attribute) := Grammar.many outerAttribute

/-- An attribute of what surrounds it, which is of no interest. -/
def innerAttribute : Rule Unit := mark .hash *> mark .bang *> skip (within .bracket trees)

/-- A visibility, perhaps restricted. -/
def visibility : Rule Unit := word .pubWord *> skip (Grammar.optional (within .paren trees))

/-- Whether a visibility is written. -/
def isVisible : Rule Bool := Option.isSome <$> Grammar.optional visibility

/-! Types -/

/-- A type with the suffixes that may belong to chains inside it. -/
def openType : Rule (Spine TypeExpr) := .rule .type id

/-- A whole type. -/
def typeExpr : Rule TypeExpr := Spine.settle <$> openType

/-- A type behind an arrow. -/
def output : Rule (Spine TypeExpr) := mark .arrow *> openType

/-- A lifetime in the place of a type. -/
def lifetimeExpr : Rule TypeExpr := (TypeExpr.lifetime ∘ Token.text) <$> terminal .lifetime

/-- A type argument. -/
def typeArgument : Rule TypeExpr :=
  typeExpr <|> lifetimeExpr <|>
    (fun (name : Token) value => .binding name.text value) <$> ident <*> (mark .equals *> typeExpr) <|>
    (TypeExpr.const ∘ Token.text) <$> terminal .number <|>
    (fun block => .const block.render) <$> group .brace

/-- The type arguments of a path segment. -/
def typeArguments : Rule (List TypeExpr) :=
  Grammar.optional (mark .pathSeparator) *> (mark .less *> commaList typeArgument <* mark .greater)

/-- The segment of a call, which ends with its output if it has one. -/
def callSegment (name : Token) (inputs : List TypeExpr) : Option (Spine TypeExpr) → Spine PathSegment
  | none => .single (.call name.text inputs none)
  | some output => output.map fun type => .call name.text inputs (some type)

/-- A path segment. -/
def pathSegment : Rule (Spine PathSegment) :=
  (fun (name : Token) arguments => .single (.plain name.text (arguments.getD []))) <$> ident <*>
      Grammar.optional typeArguments <|>
    callSegment <$> ident <*> within .paren (commaList typeExpr) <*> Grammar.optional output

/-- A path in the place of a type. -/
def pathType : Rule (Spine TypeExpr) :=
  (fun (first, rest) =>
      (first.map fun segment => .path [segment]).append (rest.flatMap (Spine.toSuffixes Suffix.segment))) <$>
    (Grammar.optional (mark .pathSeparator) *> Grammar.joined (mark .pathSeparator) pathSegment)

/-- A bound on a type. -/
def bound : Rule (Spine TypeExpr) :=
  pathType <|> Spine.single <$> lifetimeExpr <|> Spine.map TypeExpr.maybe <$> (mark .question *> pathType) <|>
    (Spine.single ∘ TypeExpr.grouped ∘ Spine.settle) <$> within .paren pathType

/-- A list of bounds. -/
def bounds : Rule (Spine TypeExpr × List (Spine TypeExpr)) := Grammar.joined (mark .plus) bound

/-- A list of bounds in the place of a type. -/
def boundedType (kind : BoundedKind) (keyword : Keyword) : Rule (Spine TypeExpr) :=
  (fun (first, rest) =>
      (first.map fun bound => .bounded kind [bound]).append (rest.flatMap (Spine.toSuffixes Suffix.bound))) <$>
    (word keyword *> bounds)

/-- A reference to a type. -/
def referenceType : Rule (Spine TypeExpr) :=
  (fun (life : Option Token) (mutable : Option Token) target =>
      Spine.map (.reference (life.map Token.text) mutable.isSome) target) <$>
    (mark .ampersand *> Grammar.optional (terminal .lifetime)) <*> Grammar.optional (word .mutWord) <*> openType

/-- A raw pointer to a type. -/
def pointerType : Rule (Spine TypeExpr) :=
  (fun mutable target => Spine.map (.pointer mutable) target) <$>
    (mark .star *> ((fun _ => false) <$> word .constWord <|> (fun _ => true) <$> word .mutWord)) <*> openType

/-- A slice, or an array with its length. -/
def sequenceType : Rule TypeExpr :=
  within .bracket
    ((fun element (length : Option (List TokenTree)) =>
        match length with
        | some trees => .array element (TokenTree.renderAll trees)
        | none => .slice element) <$> typeExpr <*>
      Grammar.optional (mark .semicolon *> Grammar.several treeInStatement))

/-- The rule of types. -/
def typeRule : Rule (Spine TypeExpr) :=
  pathType <|> referenceType <|> pointerType <|>
    Spine.single <$> (TypeExpr.tuple <$> within .paren (commaList typeExpr)) <|> Spine.single <$> sequenceType <|>
    boundedType .impl .implWord <|> boundedType .dyn .dynWord <|>
    (fun _ => Spine.single TypeExpr.never) <$> mark .bang

/-! Generics -/

/-- A lifetime with the lifetimes that it outlives. -/
def outlives : Rule Unit :=
  mark .colon *> skip (Grammar.joined (mark .plus) (terminal .lifetime))

/-- A parameter of a generic item. -/
def genericParameter : Rule Unit :=
  outerAttributes *>
    (terminal .lifetime *> skip (Grammar.optional outlives) <|>
      word .constWord *> ident *> mark .colon *> typeExpr *>
        skip (Grammar.optional (mark .equals *> treeInStatement)) <|>
      ident *> Grammar.optional (mark .colon *> Grammar.optional bounds) *>
        skip (Grammar.optional (mark .equals *> typeExpr)))

/-- The parameters of a generic item. -/
def generics : Rule Unit := mark .less *> skip (commaList genericParameter) <* mark .greater

/-- Perhaps the parameters of a generic item. -/
def maybeGenerics : Rule Unit := skip (Grammar.optional generics)

/-- One condition of a where clause. -/
def whereCondition : Rule Unit :=
  typeExpr *> mark .colon *> skip (Grammar.optional bounds) <|> terminal .lifetime *> outlives

/-- Perhaps a where clause. -/
def maybeWhere : Rule Unit := skip (Grammar.optional (word .whereWord *> commaList whereCondition))

/-! Structures and enumerations -/

/-- A named field, whose type may be missing. -/
def namedField : Rule Field :=
  (fun attributes _ (name : Token) type => ⟨name.text, type, attributes, .point name.start⟩) <$> outerAttributes <*>
    isVisible <*> ident <*> Grammar.optional (mark .colon *> typeExpr)

/-- The fields of a structure in braces. -/
def namedFields : Rule (List Field) := within .brace (commaList namedField)

/-- An unnamed field, which is found on the line of its first attribute. -/
def tupleField : Rule Field :=
  (fun attributes _ type =>
      ⟨"", some type, attributes, (attributes.head?.map fun first => Place.line first.position).getD .unknown⟩) <$>
    outerAttributes <*> isVisible <*> typeExpr

/-- The fields of a structure in parentheses, named by their indices. -/
def tupleFields : Rule (List Field) :=
  (fun fields => fields.mapIdx fun index field => { field with name := toString index }) <$>
    within .paren (commaList tupleField)

/-- A structure. -/
def structDeclaration : Rule Item :=
  (fun (name : Token) fields => .structItem ⟨.bare name.start, name.text, fields⟩) <$>
    (word .structWord *> ident <* maybeGenerics) <*>
    (maybeWhere *> (namedFields <|> (fun _ => []) <$> mark .semicolon) <|>
      tupleFields <* maybeWhere <* mark .semicolon)

/-- The tokens that an explicit discriminant may contain outside brackets. -/
def isDiscriminantLeaf : Terminal → Bool
  | .ident => true
  | .number => true
  | .char => true
  | .string => true
  | .mark punctuation =>
    [Punctuation.pathSeparator, .minus, .plus, .star, .slash, .less, .greater, .bar, .ampersand, .caret, .bang,
      .percent, .dot].contains punctuation
  | _ => false

/-- An explicit discriminant. -/
def discriminant : Rule (List TokenTree) :=
  mark .equals *> Grammar.several (anyGroup <|> (.leaf ∘ Leaf.ofToken) <$> satisfying isDiscriminantLeaf)

/-- A variant of an enumeration. -/
def variant : Rule Variant :=
  (fun attributes _ (name : Token) payload value =>
      ⟨name.text, payload.getD .absent, value, attributes, name.start⟩) <$>
    outerAttributes <*> isVisible <*> ident <*>
    Grammar.optional (Payload.record <$> namedFields <|> Payload.tuple <$> tupleFields) <*>
    Grammar.optional discriminant

/-- An enumeration. -/
def enumDeclaration : Rule Item :=
  (fun (name : Token) variants => .enumItem ⟨.bare name.start, name.text, variants⟩) <$>
    (word .enumWord *> ident <* maybeGenerics <* maybeWhere) <*> within .brace (commaList variant)

/-! Functions and blocks of functions -/

/-- A word before the name of a function. -/
def functionQualifier : Rule Unit :=
  skip (word .constWord) <|> skip (word .asyncWord) <|> skip (word .unsafeWord) <|>
    word .externWord *> skip (Grammar.optional (terminal .string))

/-- A parameter of a function: a receiver by reference, or a name that may have a type. -/
def parameter : Rule Parameter :=
  (fun attributes (name, type) => ⟨(name : Token).text, type, attributes, name.start⟩) <$> outerAttributes <*>
    ((·, none) <$> (mark .ampersand *> Grammar.optional (terminal .lifetime) *> Grammar.optional (word .mutWord) *>
        ident) <|>
      Prod.mk <$> (Grammar.optional (word .mutWord) *> ident) <*> Grammar.optional (mark .colon *> typeExpr))

/-- A function with a body or without one. -/
def functionDeclaration : Rule Item :=
  (fun (name : Token) parameters returnType =>
      .functionItem ⟨.bare name.start, name.text, parameters, returnType⟩) <$>
    (Grammar.many functionQualifier *> word .fnWord *> ident <* maybeGenerics) <*>
    within .paren (commaList parameter) <*>
    (Grammar.optional (mark .arrow *> typeExpr) <* maybeWhere <*
      (skip (within .brace trees) <|> skip (mark .semicolon)))

/-- Any item. -/
def item : Rule (Option Item) := .rule .item id

/-- The items of interest in a list. -/
def items : Rule (List Item) := (List.filterMap id) <$> Grammar.many item

/-- The type of a block of functions, and the trait that it implements. -/
def implHead : Rule (TypeExpr × Option TypeExpr) :=
  (fun (type : TypeExpr) (target : Option TypeExpr) =>
      match target with
      | some selfType => (selfType, some type)
      | none => (type, none)) <$> typeExpr <*> Grammar.optional (word .forWord *> typeExpr) <|>
    (fun trait selfType => (selfType, some trait)) <$> (mark .bang *> typeExpr) <*> (word .forWord *> typeExpr)

/-- A block of functions. -/
def implDeclaration : Rule Item :=
  (fun (hazard : Option Token) (first : Token) (selfType, trait) functions =>
      .implItem (.bare (hazard.getD first).start) selfType trait functions) <$>
    Grammar.optional (word .unsafeWord) <*> (word .implWord <* maybeGenerics) <*> (implHead <* maybeWhere) <*>
    within .brace (Grammar.many innerAttribute *> items)

/-! Modules and the other items -/

/-- The items of a module or of a whole text. -/
def moduleItems : Rule (List Item) :=
  (List.filterMap id) <$> Grammar.many (item <|> (fun _ => none) <$> innerAttribute)

/-- A module, perhaps in another file. -/
def moduleDeclaration : Rule Item :=
  (fun (name : Token) inside => .moduleItem (.bare name.start) name.text inside) <$> (word .modWord *> ident) <*>
    ((fun _ => []) <$> mark .semicolon <|> within .brace moduleItems)

/-- The tokens of an import. -/
def isImportToken : Terminal → Bool
  | .ident => true
  | .mark punctuation =>
    [Punctuation.pathSeparator, .star, .comma, .openBrace, .closeBrace].contains punctuation
  | _ => false

/-- An import. -/
def importDeclaration : Rule Unit :=
  word .useWord *> skip (Grammar.several (satisfying isImportToken)) <* mark .semicolon

/-- A constant. -/
def constantDeclaration : Rule Unit :=
  (skip (word .constWord) <|> word .staticWord *> skip (Grammar.optional (word .mutWord))) *> ident *> mark .colon *>
    typeExpr *> mark .equals *> skip (Grammar.several treeInStatement) <* mark .semicolon

/-- A name for a type. -/
def aliasDeclaration : Rule Unit :=
  word .typeWord *> ident *> maybeGenerics *> Grammar.optional (mark .colon *> bounds) *>
    skip (Grammar.optional (mark .equals *> typeExpr)) <* mark .semicolon

/-- A trait. -/
def traitDeclaration : Rule Unit :=
  Grammar.optional (word .unsafeWord) *> word .traitWord *> ident *>
    Grammar.many (plainLeaf <|> group .paren <|> group .bracket) *> skip (within .brace trees)

/-- A call of a code generator in the place of an item. -/
def invocation : Rule Unit :=
  identPath *> mark .bang *>
    (within .paren trees *> skip (mark .semicolon) <|> within .bracket trees *> skip (mark .semicolon) <|>
      within .brace trees *> skip (Grammar.optional (mark .semicolon)) <|> ident *> skip (within .brace trees))

/-- A use of another library. -/
def externDeclaration : Rule Unit :=
  word .externWord *> ident *> ident *> skip (mark .semicolon)

/-- What stands behind the attributes and the visibility of an item. -/
def declaration : Rule (Option Item) :=
  some <$> structDeclaration <|> some <$> enumDeclaration <|> some <$> implDeclaration <|>
    some <$> functionDeclaration <|> some <$> moduleDeclaration <|>
    (fun _ => none) <$> (importDeclaration <|> constantDeclaration <|> aliasDeclaration <|> traitDeclaration <|>
      invocation <|> externDeclaration)

/-- The rule of items, each with the stretch of its tokens. -/
def itemRule : Rule (Option Item) :=
  .witnessed ((fun attributes isPublic item => (attributes, isPublic, item)) <$> outerAttributes <*> isVisible <*>
      declaration)
    fun tokens (attributes, isPublic, item) =>
      item.map fun found => found.decorate attributes isPublic (.ofTokens tokens)

/-- The rules of the declaration language. -/
def rules : (which : RuleName) → Rule which.Meaning
  | .tree => treeRule
  | .type => typeRule
  | .item => itemRule

end Rule

end Exposure
