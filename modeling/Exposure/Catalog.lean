import Exposure.Descriptor

namespace Exposure

/-- What no two descriptors of a catalog share: the source type, or the module and the name of a function. -/
inductive Identity where
  | ofType (name : String)
  | ofFunction (module : Option String) (name : String)
  deriving DecidableEq, Repr

namespace Identity

/-- The text of an identity. -/
def text : Identity → String
  | ofType name => name
  | ofFunction module name => module.getD "" ++ "::" ++ name

/-- The message about an identity that is registered twice. -/
def message (identity : Identity) : String := "Descriptor already registered: " ++ identity.text

end Identity

namespace Descriptor

/-- The module of a descriptor, if it has one of its own. -/
def module? : Descriptor → Option (Option String)
  | ofClass item => some item.module
  | ofEnum item => some item.module
  | ofMethods _ => none
  | ofFunction item => some item.module

end Descriptor

/-- What a catalog is asked to register: a descriptor, or another value, of which only the text is known. -/
inductive Offer where
  | ofDescriptor (descriptor : Descriptor)
  | ofValue (text : String)
  deriving Repr

/-- Why a catalog refuses what it is offered. -/
inductive Refusal where
  | repeated (identity : Identity)
  | noDescriptor (text : String)
  deriving DecidableEq, Repr

namespace Refusal

/-- The message about a refusal. -/
def message : Refusal → String
  | repeated identity => identity.message
  | noDescriptor text => "Not a descriptor: " ++ text

end Refusal

/-- What is registered so far: types by source identity, functions by module and name, and blocks of methods by
target. Every table keeps its keys in the order in which they came. -/
structure Catalog where
  typeTable : List (String × Descriptor)
  functionTable : List ((Option String × String) × FunctionDescriptor)
  methodTable : List (String × List MethodsDescriptor)
  deriving DecidableEq, Repr

namespace Catalog

/-- The catalog without descriptors. -/
def empty : Catalog := ⟨[], [], []⟩

/-- A table with a block of methods behind the others of its target. -/
def withBlock (block : MethodsDescriptor) :
    List (String × List MethodsDescriptor) → List (String × List MethodsDescriptor)
  | [] => [(block.targetIdentity, [block])]
  | (target, blocks) :: rest =>
    if target = block.targetIdentity then (target, blocks ++ [block]) :: rest
    else (target, blocks) :: withBlock block rest

/-- Register a class or an enumeration under its source identity, unless that is in use. -/
def registerType (catalog : Catalog) (name : String) (descriptor : Descriptor) : Catalog × Option Refusal :=
  if name ∈ catalog.typeTable.map Prod.fst then (catalog, some (.repeated (.ofType name)))
  else ({ catalog with typeTable := catalog.typeTable ++ [(name, descriptor)] }, none)

/-- Register a function under its module and its name, unless these are in use. -/
def registerFunction (catalog : Catalog) (function : FunctionDescriptor) : Catalog × Option Refusal :=
  let key := (function.module, function.callable.name)
  if key ∈ catalog.functionTable.map Prod.fst then (catalog, some (.repeated (.ofFunction key.1 key.2)))
  else ({ catalog with functionTable := catalog.functionTable ++ [(key, function)] }, none)

/-- Register what is offered: the catalog behind the call, and why the call is refused, if it is. -/
def register (catalog : Catalog) : Offer → Catalog × Option Refusal
  | .ofDescriptor (.ofClass item) => catalog.registerType item.sourceIdentity (.ofClass item)
  | .ofDescriptor (.ofEnum item) => catalog.registerType item.sourceIdentity (.ofEnum item)
  | .ofDescriptor (.ofFunction item) => catalog.registerFunction item
  | .ofDescriptor (.ofMethods block) => ({ catalog with methodTable := withBlock block catalog.methodTable }, none)
  | .ofValue text => (catalog, some (.noDescriptor text))

/-- Register one offer after the other, up to the first that is refused; those before it stay. -/
def registerAll (catalog : Catalog) : List Offer → Catalog × Option Refusal
  | [] => (catalog, none)
  | offer :: rest =>
    match catalog.register offer with
    | (behind, some refusal) => (behind, some refusal)
    | (behind, none) => behind.registerAll rest

/-- The registered classes and enumerations. -/
def types (catalog : Catalog) : List Descriptor := catalog.typeTable.map Prod.snd

/-- The registered functions. -/
def functions (catalog : Catalog) : List FunctionDescriptor := catalog.functionTable.map Prod.snd

/-- A module comes before another: none first, and then by name. -/
def precedes : Option String → Option String → Bool
  | none, _ => true
  | some _, none => false
  | some first, some second => first ≤ second

/-- Put a module into a sorted list, unless it is there. -/
def insertModule (module : Option String) (modules : List (Option String)) : List (Option String) :=
  if modules.contains module then modules else modules.takeWhile (precedes · module) ++
    module :: modules.dropWhile (precedes · module)

/-- Every module that has a type or a function, sorted and without repetition. -/
def modules (catalog : Catalog) : List (Option String) :=
  (catalog.types.filterMap Descriptor.module? ++ catalog.functionTable.map fun entry => entry.1.1).foldr insertModule []

/-- The classes and enumerations of a module. -/
def typesIn (catalog : Catalog) (module : Option String) : List Descriptor :=
  catalog.types.filter fun entry => entry.module? = some module

/-- The functions of a module. -/
def functionsIn (catalog : Catalog) (module : Option String) : List FunctionDescriptor :=
  (catalog.functionTable.filter fun entry => entry.1.1 = module).map Prod.snd

/-- The blocks of methods of a type. -/
def methodsOf (catalog : Catalog) (identity : String) : List MethodsDescriptor :=
  (catalog.methodTable.lookup identity).getD []

/-- The types that have blocks of methods, in the order of the first of them. -/
def methodTargets (catalog : Catalog) : List String := catalog.methodTable.map Prod.fst

end Catalog

end Exposure
