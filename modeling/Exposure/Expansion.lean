import Exposure.Item.Class
import Exposure.Item.Enumeration
import Exposure.Item.Function
import Exposure.Item.Methods
import Exposure.Syntax.Parse

namespace Exposure

/-- An exposed item with its descriptor and its text. -/
structure Expansion where
  item : Item
  descriptor : Descriptor
  source : String
  deriving Repr

namespace Expansion

/-- The tags that expose an item. -/
def tags : List String := ["pyclass", "pymethods", "pyfunction"]

/-- Report that a tag stands before an item that it cannot describe. -/
def reportMisplaced {value : Type} (tag : String) (item : Item) : Outcome value :=
  Outcome.report (.point item.header.position) (.misplacedTag tag item.kindWord item.name)

/-- Describe a structure or an enumeration, whose options may be split between its tag and further attributes. -/
def ofClassTag (tag : Attribute) (item : Item) (associated : List FunctionItem) : Outcome Descriptor := do
  let options ← Options.ofAttributes .ofClass "pyo3" item.attributes [tag.arguments]
  match item with
  | .structItem declared => Descriptor.ofClass <$> ClassDescriptor.ofStruct declared options associated
  | .enumItem declared => Descriptor.ofEnum <$> EnumDescriptor.ofEnum declared options
  | other => reportMisplaced "pyclass" other

/-- Describe a block of methods, whose tag takes no options. -/
def ofMethodsTag (tag : Attribute) (item : Item) : Outcome Descriptor := do
  let _ ← Options.ofLists .ofMethodsTag [tag.arguments]
  match item.impl? with
  | some block => Descriptor.ofMethods <$> MethodsDescriptor.ofImpl block
  | none => reportMisplaced "pymethods" item

/-- Describe a function. -/
def ofFunctionTag (tag : Attribute) (item : Item) : Outcome Descriptor := do
  let options ← Options.ofLists .ofFunctionTag [tag.arguments]
  match item.function? with
  | some function => Descriptor.ofFunction <$> FunctionDescriptor.ofFunction function options
  | none => reportMisplaced "pyfunction" item

/-- The tag of an item; it may have one at most. -/
def tag? (item : Item) : Outcome (Option Attribute) :=
  match item.attributes.filter fun attr => tags.contains attr.name with
  | [] => .ok none
  | [only] => .ok (some only)
  | first :: second :: _ => Outcome.report (.point second.position) (.conflictingTags first.name second.name)

/-- Describe an item, unless it has no tag. -/
def describe? (associated : List FunctionItem) (item : Item) : Outcome (Option Descriptor) := do
  match ← tag? item with
  | none => return none
  | some tag =>
    if tag.name = "pyclass" then some <$> ofClassTag tag item associated
    else if tag.name = "pymethods" then some <$> ofMethodsTag tag item
    else some <$> ofFunctionTag tag item

/-- The functions of the exposed blocks for a type. -/
def functionsFor (items : List Item) (name : String) : List FunctionItem :=
  items.flatMap fun item =>
    match item.impl? with
    | some block =>
      if block.targetName = name && (block.header.attributes.any fun attr => attr.name = "pymethods") then
        block.functions
      else []
    | none => []

/-- The functions that belong to the type of an item, if it is a structure. -/
def associated (items : List Item) : Item → List FunctionItem
  | .structItem item => functionsFor items item.name
  | _ => []

/-- Expand an item of a text, unless it has no tag. -/
def ofItem? (text : String) (items : List Item) (item : Item) : Outcome (Option Expansion) := do
  return (← describe? (associated items item) item).map fun descriptor => ⟨item, descriptor, item.source text⟩

/-- Expand every exposed item of a list, in that order; the first fault is the result. -/
def ofItems (text : String) (items : List Item) : Outcome (List Expansion) := do
  return (← items.mapM (ofItem? text items)).filterMap id

/-- Expand every exposed item of a text, outside and inside its modules, in source order. -/
def ofText (text : String) : Outcome (List Expansion) := do
  ofItems text (Item.flattenAll (← parse text))

end Expansion

end Exposure
