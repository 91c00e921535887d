import Exposure.Proofs.Source
import Exposure.Proofs.Whereabouts

/-!
Where the parts of items come from: every position in an item is that of a token, every name is spelled by the token at
its position, and every tree of an attribute is made of tokens.
-/

namespace Exposure

section Origins

variable (tokens : List Token)

/-- A token of a list begins at a position. -/
def Position.IsIn (position : Position) : Prop := ∃ token ∈ tokens, token.start = position

/-- A token of a list begins at a position and spells a word. -/
def Position.Spells (position : Position) (word : String) : Prop :=
  ∃ token ∈ tokens, token.text = word ∧ token.start = position

/-- A leaf is that of a token of a list, or the text of a documentation comment that begins with one. -/
inductive Leaf.IsIn : Leaf → Prop
  | ofToken {token : Token} (member : token ∈ tokens) : IsIn (.ofToken token)
  | ofComment {token : Token} (member : token ∈ tokens) (text : String) : IsIn ⟨.doc, text, token.start⟩

namespace TokenTree

mutual

/-- A token tree is made of tokens of a list. -/
def IsIn : TokenTree → Prop
  | leaf token => token.IsIn tokens
  | group _ trees position => position.IsIn tokens ∧ AllIn trees

/-- Every token tree is made of tokens of a list. -/
def AllIn : List TokenTree → Prop
  | [] => True
  | first :: rest => first.IsIn ∧ AllIn rest

end

end TokenTree

/-- What follows the path of an attribute is made of tokens of a list. -/
def AttributeInput.IsIn : AttributeInput → Prop
  | absent => True
  | arguments trees => ∀ tree ∈ trees, tree.IsIn tokens
  | value tree => tree.IsIn tokens

/-- An attribute is made of tokens of a list. -/
structure Attribute.IsIn (attr : Attribute) : Prop where
  position : attr.position.IsIn tokens
  input : attr.input.IsIn tokens

/-- A field that has an index for a name, as those in parentheses have. -/
def Field.IsUnnamed (field : Field) : Prop := ∃ index : Nat, field.name = toString index

/-- Where a field without a name is found: on the line of its first attribute, if it has any. -/
def Field.outset (field : Field) : Place :=
  (field.attributes.head?.map fun first => Place.line first.position).getD .unknown

/-- A field is made of tokens of a list and found at its name, if it has one. -/
structure Field.IsIn (field : Field) : Prop where
  place : (∃ position, field.place = .point position ∧ position.Spells tokens field.name) ∨
    field.IsUnnamed ∧ field.place = field.outset
  attributes : ∀ attr ∈ field.attributes, attr.IsIn tokens

/-- A parameter is made of tokens of a list. -/
structure Parameter.IsIn (parameter : Parameter) : Prop where
  name : parameter.position.Spells tokens parameter.name
  attributes : ∀ attr ∈ parameter.attributes, attr.IsIn tokens

/-- A variant is made of tokens of a list. -/
structure Variant.IsIn (variant : Variant) : Prop where
  name : variant.position.Spells tokens variant.name
  attributes : ∀ attr ∈ variant.attributes, attr.IsIn tokens

/-- A header is made of tokens of a list. -/
structure Header.IsIn (header : Header) : Prop where
  position : header.position.IsIn tokens
  attributes : ∀ attr ∈ header.attributes, attr.IsIn tokens

/-- A structure is made of tokens of a list. -/
structure StructItem.IsIn (item : StructItem) : Prop where
  header : item.header.IsIn tokens
  name : item.header.position.Spells tokens item.name
  fields : ∀ field ∈ item.fields, field.IsIn tokens

/-- An enumeration is made of tokens of a list. -/
structure EnumItem.IsIn (item : EnumItem) : Prop where
  header : item.header.IsIn tokens
  name : item.header.position.Spells tokens item.name
  variants : ∀ variant ∈ item.variants, variant.IsIn tokens

/-- A function is made of tokens of a list. -/
structure FunctionItem.IsIn (function : FunctionItem) : Prop where
  header : function.header.IsIn tokens
  name : function.header.position.Spells tokens function.name
  parameters : ∀ parameter ∈ function.parameters, parameter.IsIn tokens

namespace Item

mutual

/-- An item is made of tokens of a list. -/
def IsIn : Item → Prop
  | structItem item => item.IsIn tokens
  | enumItem item => item.IsIn tokens
  | functionItem item => item.IsIn tokens
  | implItem header _ _ items => header.IsIn tokens ∧ AllIn items
  | moduleItem header _ items => header.IsIn tokens ∧ AllIn items

/-- Every item is made of tokens of a list. -/
def AllIn : List Item → Prop
  | [] => True
  | first :: rest => first.IsIn ∧ AllIn rest

end

end Item

end Origins

variable {tokens : List Token}

theorem Position.Spells.isIn {position : Position} {word : String} (spells : position.Spells tokens word) :
    position.IsIn tokens := by
  obtain ⟨token, member, -, start⟩ := spells
  exact ⟨token, member, start⟩

theorem Leaf.IsIn.position {leaf : Leaf} (isIn : leaf.IsIn tokens) : leaf.position.IsIn tokens := by
  cases isIn with
  | ofToken member => exact ⟨_, member, rfl⟩
  | ofComment member => exact ⟨_, member, rfl⟩

namespace TokenTree

theorem allIn_iff {trees : List TokenTree} : AllIn tokens trees ↔ ∀ tree ∈ trees, tree.IsIn tokens := by
  induction trees with
  | nil => simp [AllIn]
  | cons first rest step => simp [AllIn, step]

theorem IsIn.position {tree : TokenTree} (isIn : tree.IsIn tokens) : tree.position.IsIn tokens := by
  cases tree with
  | leaf leaf => exact Leaf.IsIn.position isIn
  | group delimiter trees position => exact isIn.1

end TokenTree

theorem Attribute.IsIn.arguments {attr : Attribute} (isIn : attr.IsIn tokens) :
    ∀ tree ∈ attr.arguments, tree.IsIn tokens := by
  have input := isIn.input
  cases given : attr.input <;> simp [given, Attribute.arguments, Attribute.arguments?, AttributeInput.IsIn] at input ⊢
  exact input

namespace Item

theorem allIn_iff {items : List Item} : AllIn tokens items ↔ ∀ item ∈ items, item.IsIn tokens := by
  induction items with
  | nil => simp [AllIn]
  | cons first rest step => simp [AllIn, step]

theorem IsIn.header {item : Item} (isIn : item.IsIn tokens) : item.header.IsIn tokens := by
  cases item with
  | structItem item => exact StructItem.IsIn.header isIn
  | enumItem item => exact EnumItem.IsIn.header isIn
  | functionItem item => exact FunctionItem.IsIn.header isIn
  | implItem => exact isIn.1
  | moduleItem => exact isIn.1

theorem IsIn.decorate {item : Item} (isIn : item.IsIn tokens) {attributes : List Attribute}
    (ofAttributes : ∀ attr ∈ attributes, attr.IsIn tokens) (isPublic : Bool) (span : Span) :
    (item.decorate attributes isPublic span).IsIn tokens := by
  have decorated : (item.header.decorate attributes isPublic span).IsIn tokens := ⟨isIn.header.position, ofAttributes⟩
  cases item with
  | structItem item =>
    obtain ⟨-, name, fields⟩ : item.IsIn tokens := isIn
    exact ⟨decorated, name, fields⟩
  | enumItem item =>
    obtain ⟨-, name, variants⟩ : item.IsIn tokens := isIn
    exact ⟨decorated, name, variants⟩
  | functionItem item =>
    obtain ⟨-, name, parameters⟩ : item.IsIn tokens := isIn
    exact ⟨decorated, name, parameters⟩
  | implItem => exact ⟨decorated, isIn.2⟩
  | moduleItem => exact ⟨decorated, isIn.2⟩

mutual

/-- The items inside and outside modules are made of the tokens of their modules. -/
theorem IsIn.flatten : {item : Item} → item.IsIn tokens → AllIn tokens item.flatten
  | structItem _, isIn => ⟨isIn, trivial⟩
  | enumItem _, isIn => ⟨isIn, trivial⟩
  | functionItem _, isIn => ⟨isIn, trivial⟩
  | implItem .., isIn => ⟨isIn, trivial⟩
  | moduleItem .., isIn => AllIn.flattenAll isIn.2

theorem AllIn.flattenAll : {items : List Item} → AllIn tokens items → AllIn tokens (flattenAll items)
  | [], _ => trivial
  | _ :: _, allIn =>
    allIn_iff.mpr fun item member => (List.mem_append.mp member).elim (allIn_iff.mp (IsIn.flatten allIn.1) item)
      (allIn_iff.mp (AllIn.flattenAll allIn.2) item)

end

end Item

theorem ImplItem.functions_isIn {item : Item} (isIn : item.IsIn tokens) {block : ImplItem}
    (isBlock : item.impl? = some block) : ∀ function ∈ block.functions, function.IsIn tokens := by
  cases item with
  | implItem header selfType trait items =>
    cases isBlock
    intro function member
    obtain ⟨inner, inside, same⟩ := List.mem_filterMap.mp member
    have ofInner := Item.allIn_iff.mp isIn.2 inner inside
    cases inner <;> cases same
    exact ofInner
  | _ => cases isBlock

end Exposure
