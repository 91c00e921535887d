import Exposure.Diagnostic

namespace Exposure

/-- One element of a signature: a marker, a variadic parameter, or a parameter that may have a default. -/
inductive EntryForm where
  | positionalMarker
  | keywordMarker
  | variadicPositional (name : String)
  | variadicKeyword (name : String)
  | named (name : String) (default : Option (List TokenTree))
  deriving Repr

/-- An element of a signature and its position. -/
structure SignatureEntry where
  form : EntryForm
  position : Position
  deriving Repr

namespace SignatureEntry

/-- The parameter that an element names. -/
def name? (entry : SignatureEntry) : Option String :=
  match entry.form with
  | .positionalMarker => none
  | .keywordMarker => none
  | .variadicPositional name => some name
  | .variadicKeyword name => some name
  | .named name _ => some name

/-- What a diagnostic calls an element. -/
def label (entry : SignatureEntry) : String :=
  match entry.form with
  | .positionalMarker => "/"
  | .keywordMarker => "*"
  | .variadicPositional name => name
  | .variadicKeyword name => name
  | .named name _ => name

/-- The identifier that a tree consists of. -/
def ident? (tree : TokenTree) : Option Leaf :=
  tree.leaf?.filter fun leaf => leaf.kind = .ident

/-- The form of the element that is written between two commas. -/
def form? (piece : List TokenTree) : Option EntryForm :=
  match piece with
  | [only] =>
    if only.isMark .slash then some .positionalMarker
    else if only.isMark .star then some .keywordMarker
    else (ident? only).map fun leaf => .named leaf.text none
  | [star, last] => if star.isMark .star then (ident? last).map fun leaf => .variadicPositional leaf.text else none
  | first :: second :: third :: rest =>
    if first.isMark .star && second.isMark .star && rest.isEmpty then
      (ident? third).map fun leaf => .variadicKeyword leaf.text
    else if second.isMark .equals then
      (ident? first).map fun leaf => .named leaf.text (some (third :: rest))
    else none
  | [] => none

/-- Read the element that is written between two commas. -/
def ofPiece (key : String) (piece : List TokenTree) : Outcome SignatureEntry :=
  let position := (piece.head?.map TokenTree.position).getD .start
  match form? piece with
  | some form => .ok ⟨form, position⟩
  | none => Outcome.report (.point position) (.malformedEntry key (TokenTree.renderAll piece))

/-- Read the elements of a signature in parentheses. -/
def ofTree (key : String) (tree : TokenTree) : Outcome (List SignatureEntry) :=
  match tree with
  | .group .paren inside _ => (TokenTree.splitAtCommas inside).mapM (ofPiece key)
  | other => Outcome.report (.point other.position) (.malformedValue key)

end SignatureEntry

end Exposure
