import Exposure.Syntax.Attribute
import Exposure.Syntax.TypeExpr

namespace Exposure

/-- The place that a report points at: nowhere, a line, or a position. -/
inductive Place where
  | unknown
  | line (position : Position)
  | point (position : Position)
  deriving DecidableEq, Repr

namespace Place

/-- The line of a place, zero when unknown. -/
def lineNumber : Place → Nat
  | unknown => 0
  | line position => position.line
  | point position => position.line

/-- The column of a place, zero when unknown. -/
def columnNumber : Place → Nat
  | unknown => 0
  | line _ => 0
  | point position => position.column

end Place

/-- A stretch of the source text. -/
structure Span where
  start : Position
  stop : Position
  deriving DecidableEq, Repr

namespace Span

/-- The stretch that a list of tokens covers. -/
def ofTokens (tokens : List Token) : Span :=
  ⟨(tokens.head?.map (·.start)).getD .start, (tokens.getLast?.map (·.stop)).getD .start⟩

/-- The text of a stretch. -/
def slice (span : Span) (text : String) : String :=
  String.ofList ((text.toList.drop span.start.offset).take (span.stop.offset - span.start.offset))

end Span

/-- A field of a structure or of a variant; a field of a tuple is named by its index. -/
structure Field where
  name : String
  type : Option TypeExpr
  attributes : List Attribute
  place : Place
  deriving Repr

/-- A parameter of a function; a receiver may lack a type. -/
structure Parameter where
  name : String
  type : Option TypeExpr
  attributes : List Attribute
  position : Position
  deriving Repr

namespace Parameter

/-- The receiver is the parameter of that reserved name. -/
def isReceiver (parameter : Parameter) : Bool := parameter.name = "self"

end Parameter

/-- What a variant carries. -/
inductive Payload where
  | absent
  | tuple (fields : List Field)
  | record (fields : List Field)
  deriving Repr

namespace Payload

/-- The fields of a payload. -/
def fields : Payload → List Field
  | absent => []
  | tuple fields => fields
  | record fields => fields

end Payload

/-- A variant of an enumeration. -/
structure Variant where
  name : String
  payload : Payload
  discriminant : Option (List TokenTree)
  attributes : List Attribute
  position : Position
  deriving Repr

/-- What every item has: its attributes, its visibility, the stretch that it covers and its own position. -/
structure Header where
  attributes : List Attribute
  isPublic : Bool
  span : Span
  position : Position
  deriving Repr

namespace Header

/-- A header that only knows a position. -/
def bare (position : Position) : Header := ⟨[], false, ⟨position, position⟩, position⟩

/-- Give a header its attributes, its visibility and its stretch. -/
def decorate (attributes : List Attribute) (isPublic : Bool) (span : Span) (header : Header) : Header :=
  ⟨attributes, isPublic, span, header.position⟩

end Header

/-- A structure. -/
structure StructItem where
  header : Header
  name : String
  fields : List Field
  deriving Repr

/-- An enumeration. -/
structure EnumItem where
  header : Header
  name : String
  variants : List Variant
  deriving Repr

/-- A function, of which only the head is kept. -/
structure FunctionItem where
  header : Header
  name : String
  parameters : List Parameter
  returnType : Option TypeExpr
  deriving Repr

/-- An item that the program can describe or look into. -/
inductive Item where
  | structItem (item : StructItem)
  | enumItem (item : EnumItem)
  | functionItem (item : FunctionItem)
  | implItem (header : Header) (selfType : TypeExpr) (trait : Option TypeExpr) (items : List Item)
  | moduleItem (header : Header) (name : String) (items : List Item)
  deriving Repr

/-- A block of functions for a type, perhaps of a trait. -/
structure ImplItem where
  header : Header
  selfType : TypeExpr
  trait : Option TypeExpr
  functions : List FunctionItem
  deriving Repr

namespace Item

/-- The header of an item. -/
def header : Item → Header
  | structItem item => item.header
  | enumItem item => item.header
  | functionItem item => item.header
  | implItem header _ _ _ => header
  | moduleItem header _ _ => header

/-- The attributes of an item. -/
def attributes (item : Item) : List Attribute := item.header.attributes

/-- The name of an item; a block of functions has that of its type. -/
def name : Item → String
  | structItem item => item.name
  | enumItem item => item.name
  | functionItem item => item.name
  | implItem _ selfType _ _ => selfType.render
  | moduleItem _ name _ => name

/-- The word for the kind of an item. -/
def kindWord : Item → String
  | structItem _ => "struct"
  | enumItem _ => "enum"
  | functionItem _ => "fn"
  | implItem .. => "impl"
  | moduleItem .. => "mod"

/-- Give an item its attributes, its visibility and its stretch. -/
def decorate (attributes : List Attribute) (isPublic : Bool) (span : Span) : Item → Item
  | structItem item => structItem { item with header := item.header.decorate attributes isPublic span }
  | enumItem item => enumItem { item with header := item.header.decorate attributes isPublic span }
  | functionItem item => functionItem { item with header := item.header.decorate attributes isPublic span }
  | implItem header selfType trait items =>
    implItem (header.decorate attributes isPublic span) selfType trait items
  | moduleItem header name items => moduleItem (header.decorate attributes isPublic span) name items

/-- An item that is a function. -/
def function? : Item → Option FunctionItem
  | functionItem item => some item
  | _ => none

/-- An item that is a block of functions, with the functions in it. -/
def impl? : Item → Option ImplItem
  | implItem header selfType trait items => some ⟨header, selfType, trait, items.filterMap function?⟩
  | _ => none

/-- The text of an item. -/
def source (item : Item) (text : String) : String := item.header.span.slice text

mutual

/-- The items of a module at any depth, or the item itself. -/
def flatten : Item → List Item
  | moduleItem _ _ items => flattenAll items
  | item => [item]

/-- The items of a list outside and inside its modules, in source order. -/
def flattenAll : List Item → List Item
  | [] => []
  | first :: rest => first.flatten ++ flattenAll rest

end

end Item

end Exposure
