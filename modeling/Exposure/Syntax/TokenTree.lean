import Exposure.Token
import Exposure.Text.Blank

namespace Exposure

/-- The kind of a token inside an attribute or an expression; reserved words count as identifiers there. -/
inductive LeafKind where
  | ident | number | string | char | lifetime | doc | punctuation
  deriving DecidableEq, Repr

namespace LeafKind

/-- Every token class belongs to one kind. -/
def ofTerminal : Terminal → LeafKind
  | .ident => ident
  | .number => number
  | .string => string
  | .rawString => string
  | .char => char
  | .lifetime => lifetime
  | .docComment => doc
  | .word _ => ident
  | .mark _ => punctuation

/-- Two neighbours of these kinds need a blank between them. -/
def isWord : LeafKind → Bool
  | ident => true
  | number => true
  | string => true
  | char => true
  | lifetime => true
  | doc => false
  | punctuation => false

end LeafKind

/-- A token inside an attribute or an expression. -/
structure Leaf where
  kind : LeafKind
  text : String
  position : Position
  deriving DecidableEq, Repr

namespace Leaf

/-- The leaf that a token becomes. -/
def ofToken (token : Token) : Leaf := ⟨.ofTerminal token.terminal, token.text, token.start⟩

/-- A leaf is a given punctuation mark. -/
def isMark (leaf : Leaf) (mark : Punctuation) : Bool := leaf.kind = .punctuation && leaf.text = mark.text

end Leaf

/-- The three pairs of brackets. -/
inductive Delimiter where
  | paren | bracket | brace
  deriving DecidableEq, Repr

namespace Delimiter

/-- The opening bracket. -/
def opening : Delimiter → Punctuation
  | paren => .openParen
  | bracket => .openBracket
  | brace => .openBrace

/-- The closing bracket. -/
def closing : Delimiter → Punctuation
  | paren => .closeParen
  | bracket => .closeBracket
  | brace => .closeBrace

end Delimiter

/-- A token or a bracketed list of token trees. -/
inductive TokenTree where
  | leaf (leaf : Leaf)
  | group (delimiter : Delimiter) (trees : List TokenTree) (position : Position)
  deriving Repr

namespace TokenTree

/-- Where a tree begins. -/
def position : TokenTree → Position
  | leaf token => token.position
  | group _ _ position => position

/-- The token that a tree consists of. -/
def leaf? : TokenTree → Option Leaf
  | leaf token => some token
  | group .. => none

/-- A tree is a token that needs a blank beside its like. -/
def isWord (tree : TokenTree) : Bool := tree.leaf?.any (·.kind.isWord)

/-- A tree is a comma. -/
def isComma (tree : TokenTree) : Bool := tree.leaf?.any (·.text = Punctuation.comma.text)

/-- A tree is a given punctuation mark. -/
def isMark (tree : TokenTree) (mark : Punctuation) : Bool := tree.leaf?.any (·.isMark mark)

mutual

/-- Write a token tree compactly. -/
def render : TokenTree → String
  | leaf token => token.text
  | group delimiter trees _ => delimiter.opening.text ++ Text.trim (renderFrom false trees) ++ delimiter.closing.text

/-- Write token trees with a blank between words and behind commas, knowing whether a word stands before them. -/
def renderFrom (afterWord : Bool) : List TokenTree → String
  | [] => ""
  | tree :: rest =>
    (if afterWord && tree.isWord then " " else "") ++ tree.render ++ (if tree.isComma then " " else "") ++
      renderFrom tree.isWord rest

end

/-- Write a list of token trees compactly, without blanks at either end. -/
def renderAll (trees : List TokenTree) : String := Text.trim (renderFrom false trees)

/-- Split token trees at their commas, dropping every empty piece. -/
def splitAtCommas (trees : List TokenTree) : List (List TokenTree) :=
  (trees.splitOnP isComma).filter (!·.isEmpty)

end TokenTree

end Exposure
