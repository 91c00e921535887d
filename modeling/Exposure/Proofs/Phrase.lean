import Exposure.Proofs.Acceptance
import Exposure.Token

/-!
The declaration language by its productions: every kind of phrase with the form that its token lists have, and which
token lists a form derives.
-/

namespace Exposure

open Computability

/-- The kinds of phrase of the declaration language. -/
inductive Phrase where
  | text | moduleItem | innerAttribute | item | declaration
  | outerAttribute | bracketAttribute | attributeInput | path | visibility
  | tree | treeInStatement | group | leaf | semicolon
  | structDeclaration | namedFields | tupleFields | namedField | tupleField
  | enumDeclaration | variant | discriminant | discriminantTree | discriminantLeaf
  | implDeclaration | implHead | functionDeclaration | functionQualifier | parameters | parameter | output | block
  | moduleDeclaration | importDeclaration | importToken | constantDeclaration | aliasDeclaration | traitDeclaration
  | traitHeadTree | invocation | externDeclaration
  | generics | genericParameter | whereClause | whereCondition
  | type | pathType | pathSegment | typeArguments | typeArgument | referenceType | pointerType | tupleType | sliceType
  | arrayType | implType | dynType | neverType | bounds | bound
  deriving DecidableEq, Repr

/-- The form of a phrase. -/
inductive Form where
  | empty
  | anyOf (classes : List Terminal)
  | phrase (which : Phrase)
  | sequence (first second : Form)
  | choice (first second : Form)
  | repeated (body : Form)
  deriving Repr

namespace Form

/-- A form and then another. -/
instance : AndThen Form where
  andThen first second := sequence first (second ())

/-- A form or another. -/
instance : OrElse Form where
  orElse first second := choice first (second ())

/-- One token of a class. -/
def terminal (wanted : Terminal) : Form := anyOf [wanted]

/-- A reserved word. -/
def word (keyword : Keyword) : Form := terminal (.word keyword)

/-- A punctuation mark. -/
def mark (punctuation : Punctuation) : Form := terminal (.mark punctuation)

/-- An identifier. -/
def ident : Form := terminal .ident

/-- A form or nothing. -/
def optional (body : Form) : Form := body <|> empty

/-- A form once or more often. -/
def several (body : Form) : Form := body >> repeated body

/-- A form once or more often with a mark between neighbours. -/
def joined (separator : Punctuation) (body : Form) : Form := body >> repeated (mark separator >> body)

/-- Forms with a comma between neighbours and perhaps one at the end. -/
def commaSeries (body : Form) : Form := joined .comma body >> optional (mark .comma)

/-- Perhaps forms with a comma between neighbours and perhaps one at the end. -/
def commaList (body : Form) : Form := optional (commaSeries body)

/-- A form in parentheses. -/
def inParens (body : Form) : Form := mark .openParen >> body >> mark .closeParen

/-- A form in square brackets. -/
def inBrackets (body : Form) : Form := mark .openBracket >> body >> mark .closeBracket

/-- A form in braces. -/
def inBraces (body : Form) : Form := mark .openBrace >> body >> mark .closeBrace

/-- A form in angle brackets. -/
def inAngles (body : Form) : Form := mark .less >> body >> mark .greater

end Form

namespace Phrase

open Form

/-- Any number of token trees. -/
def trees : Form := repeated (phrase tree)

/-- The classes of the tokens that stand for themselves in a token tree. -/
def leafClasses : List Terminal :=
  [.ident, .number, .string, .rawString, .char, .lifetime, .docComment] ++
    [Keyword.structWord, .enumWord, .implWord, .fnWord, .pubWord, .forWord, .mutWord, .dynWord, .constWord, .unsafeWord,
      .asyncWord, .externWord, .whereWord, .useWord, .modWord, .traitWord, .typeWord, .staticWord].map Terminal.word ++
    [Punctuation.pathSeparator, .arrow, .hash, .bang, .less, .greater, .comma, .colon, .equals, .ampersand, .star, .slash,
      .plus, .minus, .dot, .question, .atSign, .bar, .caret, .percent, .dollar, .tilde].map Terminal.mark

/-- The classes of the tokens that stand for themselves in a discriminant. -/
def discriminantClasses : List Terminal :=
  [.ident, .number, .char, .string] ++
    [Punctuation.pathSeparator, .minus, .plus, .star, .slash, .less, .greater, .bar, .ampersand, .caret, .bang, .percent,
      .dot].map Terminal.mark

/-- The classes of the tokens of an import. -/
def importClasses : List Terminal :=
  .ident :: [Punctuation.pathSeparator, .star, .comma, .openBrace, .closeBrace].map Terminal.mark

/-- The form of every kind of phrase. -/
@[simp] def production : Phrase → Form
  | text => repeated (phrase moduleItem)
  | moduleItem => phrase item <|> phrase innerAttribute
  | innerAttribute => mark .hash >> mark .bang >> inBrackets trees
  | item => repeated (phrase outerAttribute) >> optional (phrase visibility) >> phrase declaration
  | declaration =>
    phrase structDeclaration <|> phrase enumDeclaration <|> phrase implDeclaration <|> phrase functionDeclaration <|>
      phrase moduleDeclaration <|> phrase importDeclaration <|> phrase constantDeclaration <|>
      phrase aliasDeclaration <|> phrase traitDeclaration <|> phrase invocation <|> phrase externDeclaration
  -- attributes
  | outerAttribute => phrase bracketAttribute <|> terminal .docComment
  | bracketAttribute => mark .hash >> inBrackets (phrase path >> optional (phrase attributeInput))
  | attributeInput => inParens trees <|> mark .equals >> phrase tree
  | path => joined .pathSeparator ident
  | visibility => word .pubWord >> optional (inParens trees)
  -- token trees
  | tree => phrase group <|> phrase leaf <|> phrase semicolon
  | treeInStatement => phrase group <|> phrase leaf
  | group => inParens trees <|> inBrackets trees <|> inBraces trees
  | leaf => anyOf leafClasses
  | semicolon => mark .semicolon
  -- structures and enumerations
  | structDeclaration =>
    word .structWord >> ident >> optional (phrase generics) >> optional (phrase whereClause) >> phrase namedFields <|>
      word .structWord >> ident >> optional (phrase generics) >> phrase tupleFields >> optional (phrase whereClause) >>
        mark .semicolon <|>
      word .structWord >> ident >> optional (phrase generics) >> optional (phrase whereClause) >> mark .semicolon
  | namedFields => inBraces (commaList (phrase namedField))
  | tupleFields => inParens (commaList (phrase tupleField))
  | namedField =>
    repeated (phrase outerAttribute) >> optional (phrase visibility) >> ident >> optional (mark .colon >> phrase type)
  | tupleField => repeated (phrase outerAttribute) >> optional (phrase visibility) >> phrase type
  | enumDeclaration =>
    word .enumWord >> ident >> optional (phrase generics) >> optional (phrase whereClause) >>
      inBraces (commaList (phrase variant))
  | variant =>
    repeated (phrase outerAttribute) >> optional (phrase visibility) >> ident >>
      optional (phrase namedFields <|> phrase tupleFields) >> optional (phrase discriminant)
  | discriminant => mark .equals >> several (phrase discriminantTree)
  | discriminantTree => phrase group <|> phrase discriminantLeaf
  | discriminantLeaf => anyOf discriminantClasses
  -- functions and blocks of functions
  | implDeclaration =>
    optional (word .unsafeWord) >> word .implWord >> optional (phrase generics) >> phrase implHead >>
      optional (phrase whereClause) >> inBraces (repeated (phrase innerAttribute) >> repeated (phrase item))
  | implHead => phrase type <|> optional (mark .bang) >> phrase type >> word .forWord >> phrase type
  | functionDeclaration =>
    repeated (phrase functionQualifier) >> word .fnWord >> ident >> optional (phrase generics) >>
      inParens (optional (phrase parameters)) >> optional (phrase output) >> optional (phrase whereClause) >>
      (phrase block <|> mark .semicolon)
  | functionQualifier =>
    word .constWord <|> word .asyncWord <|> word .unsafeWord <|> word .externWord >> optional (terminal .string)
  | parameters => commaSeries (phrase parameter)
  | parameter =>
    repeated (phrase outerAttribute) >> mark .ampersand >> optional (terminal .lifetime) >>
        optional (word .mutWord) >> ident <|>
      repeated (phrase outerAttribute) >> optional (word .mutWord) >> ident >> mark .colon >> phrase type <|>
      repeated (phrase outerAttribute) >> optional (word .mutWord) >> ident
  | output => mark .arrow >> phrase type
  | block => inBraces trees
  -- modules and the other items
  | moduleDeclaration =>
    word .modWord >> ident >> mark .semicolon <|>
      word .modWord >> ident >> inBraces (repeated (phrase moduleItem))
  | importDeclaration => word .useWord >> several (phrase importToken) >> mark .semicolon
  | importToken => anyOf importClasses
  | constantDeclaration =>
    word .constWord >> ident >> mark .colon >> phrase type >> mark .equals >> several (phrase treeInStatement) >>
        mark .semicolon <|>
      word .staticWord >> optional (word .mutWord) >> ident >> mark .colon >> phrase type >> mark .equals >>
        several (phrase treeInStatement) >> mark .semicolon
  | aliasDeclaration =>
    word .typeWord >> ident >> optional (phrase generics) >> optional (mark .colon >> phrase bounds) >>
      optional (mark .equals >> phrase type) >> mark .semicolon
  | traitDeclaration =>
    optional (word .unsafeWord) >> word .traitWord >> ident >> repeated (phrase traitHeadTree) >> inBraces trees
  | traitHeadTree => phrase leaf <|> inParens trees <|> inBrackets trees
  | invocation =>
    phrase path >> mark .bang >> inParens trees >> mark .semicolon <|>
      phrase path >> mark .bang >> inBrackets trees >> mark .semicolon <|>
      phrase path >> mark .bang >> inBraces trees >> optional (mark .semicolon) <|>
      phrase path >> mark .bang >> ident >> inBraces trees
  | externDeclaration => word .externWord >> ident >> ident >> mark .semicolon
  -- generics
  | generics => inAngles (commaList (phrase genericParameter))
  | genericParameter =>
    repeated (phrase outerAttribute) >> terminal .lifetime >>
        optional (mark .colon >> joined .plus (terminal .lifetime)) <|>
      repeated (phrase outerAttribute) >> word .constWord >> ident >> mark .colon >> phrase type >>
        optional (mark .equals >> phrase treeInStatement) <|>
      repeated (phrase outerAttribute) >> ident >> optional (mark .colon >> optional (phrase bounds)) >>
        optional (mark .equals >> phrase type)
  | whereClause => word .whereWord >> commaList (phrase whereCondition)
  | whereCondition =>
    phrase type >> mark .colon >> optional (phrase bounds) <|>
      terminal .lifetime >> mark .colon >> joined .plus (terminal .lifetime)
  -- types
  | type =>
    phrase pathType <|> phrase referenceType <|> phrase pointerType <|> phrase tupleType <|> phrase sliceType <|>
      phrase arrayType <|> phrase implType <|> phrase dynType <|> phrase neverType
  | pathType => optional (mark .pathSeparator) >> joined .pathSeparator (phrase pathSegment)
  | pathSegment =>
    ident >> optional (phrase typeArguments) <|>
      ident >> inParens (commaList (phrase type)) >> optional (phrase output)
  | typeArguments => optional (mark .pathSeparator) >> inAngles (commaList (phrase typeArgument))
  | typeArgument =>
    phrase type <|> terminal .lifetime <|> ident >> mark .equals >> phrase type <|> terminal .number <|> inBraces trees
  | referenceType =>
    mark .ampersand >> optional (terminal .lifetime) >> optional (word .mutWord) >> phrase type
  | pointerType => mark .star >> word .constWord >> phrase type <|> mark .star >> word .mutWord >> phrase type
  | tupleType => inParens (commaList (phrase type))
  | sliceType => inBrackets (phrase type)
  | arrayType => inBrackets (phrase type >> mark .semicolon >> several (phrase treeInStatement))
  | implType => word .implWord >> phrase bounds
  | dynType => word .dynWord >> phrase bounds
  | neverType => mark .bang
  | bounds => joined .plus (phrase bound)
  | bound =>
    phrase pathType <|> terminal .lifetime <|> mark .question >> phrase pathType <|> inParens (phrase pathType)

end Phrase

namespace Form

/-- A form derives a token list. -/
inductive Derives : Form → List Token → Prop
  | empty : Derives empty []
  | token {classes : List Terminal} {token : Token} (isWanted : token.terminal ∈ classes) :
      Derives (anyOf classes) [token]
  | phrase {which : Phrase} {tokens : List Token} (body : Derives which.production tokens) :
      Derives (phrase which) tokens
  | sequence {first second : Form} {beginning rest : List Token} (ofFirst : Derives first beginning)
      (ofSecond : Derives second rest) : Derives (sequence first second) (beginning ++ rest)
  | ofFirst {first second : Form} {tokens : List Token} (chosen : Derives first tokens) :
      Derives (choice first second) tokens
  | ofSecond {first second : Form} {tokens : List Token} (chosen : Derives second tokens) :
      Derives (choice first second) tokens
  | done {body : Form} : Derives (repeated body) []
  | again {body : Form} {beginning rest : List Token} (once : Derives body beginning)
      (others : Derives (repeated body) rest) : Derives (repeated body) (beginning ++ rest)

/-- The token lists that a form derives. -/
def language (form : Form) : Language Token := {tokens | form.Derives tokens}

theorem language_empty : empty.language = 1 := by
  ext tokens
  constructor
  · intro derives
    cases derives
    rfl
  · rintro rfl
    exact .empty

theorem language_anyOf (classes : List Terminal) :
    (anyOf classes).language = Grammar.letters fun token => token.terminal ∈ classes := by
  ext tokens
  constructor
  · intro derives
    cases derives with
    | token isWanted => exact ⟨_, rfl, isWanted⟩
  · rintro ⟨token, rfl, isWanted⟩
    exact .token isWanted

theorem language_phrase (which : Phrase) : (phrase which).language = which.production.language := by
  ext tokens
  constructor
  · intro derives
    cases derives with
    | phrase body => exact body
  · exact .phrase

theorem language_sequence (first second : Form) :
    (sequence first second).language = first.language * second.language := by
  ext tokens
  rw [Language.mem_mul]
  constructor
  · intro derives
    cases derives with
    | sequence ofFirst ofSecond => exact ⟨_, ofFirst, _, ofSecond, rfl⟩
  · rintro ⟨beginning, ofFirst, rest, ofSecond, rfl⟩
    exact .sequence ofFirst ofSecond

theorem language_choice (first second : Form) :
    (choice first second).language = first.language + second.language := by
  ext tokens
  rw [Language.mem_add]
  constructor
  · intro derives
    cases derives with
    | ofFirst chosen => exact .inl chosen
    | ofSecond chosen => exact .inr chosen
  · exact Or.rec .ofFirst .ofSecond

theorem language_repeated (body : Form) : (repeated body).language = body.language∗ := by
  ext tokens
  constructor
  · intro derives
    generalize form : repeated body = whole at derives
    induction derives with
    | done => exact Language.nil_mem_kstar _
    | again once _ _ others =>
      cases form
      rw [← Language.one_add_self_mul_kstar_eq_kstar]
      exact .inr (Language.append_mem_mul once (others rfl))
    | _ => cases form
  · rintro ⟨parts, rfl, each⟩
    induction parts with
    | nil => exact .done
    | cons part parts again =>
      obtain ⟨ofPart, ofParts⟩ := List.forall_mem_cons.mp each
      exact .again ofPart (again ofParts)

end Form

end Exposure
