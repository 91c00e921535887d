import Exposure.Options.Entry
import Exposure.Text.Literal
import Exposure.Text.Rename

namespace Exposure

/-- A switch that an option list may turn on. -/
inductive Flag where
  | mapping | sequence | frozen | getAll | setAll | eq | ord | hash | str | constructor | subclass | weakref | dict
  | unsendable | eqInt | get | set | passModule | skip
  deriving DecidableEq, Repr

namespace Flag

/-- The spelling of a switch. -/
def text : Flag → String
  | mapping => "mapping"
  | sequence => "sequence"
  | frozen => "frozen"
  | getAll => "get_all"
  | setAll => "set_all"
  | eq => "eq"
  | ord => "ord"
  | hash => "hash"
  | str => "str"
  | constructor => "constructor"
  | subclass => "subclass"
  | weakref => "weakref"
  | dict => "dict"
  | unsendable => "unsendable"
  | eqInt => "eq_int"
  | get => "get"
  | set => "set"
  | passModule => "pass_module"
  | skip => "skip"

/-- Every switch, in the order of its spelling. -/
def sorted : List Flag :=
  [constructor, dict, eq, eqInt, frozen, get, getAll, hash, mapping, ord, passModule, sequence, set, setAll, skip,
    str, subclass, unsendable, weakref]

end Flag

/-- A key of an option list. -/
inductive OptionKey where
  | name | module | base | renameAll | signature | default
  | flag (flag : Flag)
  deriving DecidableEq, Repr

namespace OptionKey

/-- The spelling of a key. -/
def text : OptionKey → String
  | name => "name"
  | module => "module"
  | base => "extends"
  | renameAll => "rename_all"
  | signature => "signature"
  | default => "default"
  | flag switch => switch.text

end OptionKey

/-- The keys that an option list may use. -/
abbrev Vocabulary : Type := List OptionKey

namespace Vocabulary

/-- The key of a given spelling. -/
def find? (vocabulary : Vocabulary) (text : String) : Option OptionKey :=
  List.find? (fun key => key.text = text) vocabulary

/-- The options of a class. -/
def ofClass : Vocabulary :=
  [.name, .module, .base, .renameAll, .flag .mapping, .flag .sequence, .flag .frozen, .flag .getAll, .flag .setAll,
    .flag .eq, .flag .ord, .flag .hash, .flag .str, .flag .constructor, .flag .subclass, .flag .weakref, .flag .dict,
    .flag .unsendable, .flag .eqInt]

/-- The options of the tag of a function. -/
def ofFunctionTag : Vocabulary := [.name, .module, .signature]

/-- The options that a function has beside its tag. -/
def ofFunction : Vocabulary := [.name, .signature, .flag .passModule]

/-- The options of a field. -/
def ofField : Vocabulary := [.flag .get, .flag .set, .name]

/-- The options of a variant. -/
def ofVariant : Vocabulary := [.name]

/-- The options of the tag of a block of methods. -/
def ofMethodsTag : Vocabulary := []

/-- The stub options of a parameter. -/
def ofStubParameter : Vocabulary := [.default]

/-- The stub options of a method. -/
def ofStubMethod : Vocabulary := [.flag .skip]

end Vocabulary

/-- The value of a key. -/
inductive OptionValue where
  | present
  | text (text : String)
  | entries (entries : List SignatureEntry)
  deriving Repr

/-- The options of an item. -/
structure Options where
  name : Option String
  module : Option String
  flags : List Flag
  signature : Option (List SignatureEntry)
  base : Option String
  renameAll : Option RenameRule
  defaults : List (String × String)
  deriving Repr

namespace Options

/-- No options. -/
def empty : Options := ⟨none, none, [], none, none, none, []⟩

/-- A switch is on. -/
def has (options : Options) (flag : Flag) : Bool := options.flags.contains flag

/-- The recorded default text of a parameter. -/
def defaultFor? (options : Options) (name : String) : Option String := options.defaults.lookup name

/-- The name that the options give, unless it is missing or empty. -/
def nameOr (options : Options) (fallback : String) : String :=
  match options.name with
  | some name => if name.isEmpty then fallback else name
  | none => fallback

end Options

/-- The key and value pairs of the option lists read so far. -/
abbrev OptionPairs : Type := List (OptionKey × OptionValue)

namespace OptionPairs

/-- The text of a key. -/
def text? (pairs : OptionPairs) (key : OptionKey) : Option String :=
  match pairs.lookup key with
  | some (.text text) => some text
  | _ => none

/-- The elements of the signature. -/
def entries? (pairs : OptionPairs) : Option (List SignatureEntry) :=
  match pairs.lookup .signature with
  | some (.entries entries) => some entries
  | _ => none

/-- The switches that are on, sorted by spelling. -/
def flags (pairs : OptionPairs) : List Flag :=
  Flag.sorted.filter fun flag => pairs.any fun pair => pair.1 = .flag flag

/-- The key at the beginning of a piece of an option list. -/
def keyOfPiece (vocabulary : Vocabulary) (first : TokenTree) (piece : List TokenTree) : Outcome (OptionKey × Leaf) :=
  match SignatureEntry.ident? first with
  | none => Outcome.report (.point first.position) (.notAnOption (TokenTree.renderAll piece))
  | some leaf =>
    match vocabulary.find? leaf.text with
    | none => Outcome.report (.point leaf.position) (.unknownOption leaf.text)
    | some key => .ok (key, leaf)

/-- The text of a string literal that a value consists of. -/
def stringLiteral? : List TokenTree → Option String
  | [.leaf leaf] => if leaf.kind = .string then some leaf.text else none
  | _ => none

/-- The value of a key from what stands behind it. -/
def valueOfPiece (key : OptionKey) (leaf : Leaf) (rest : List TokenTree) : Outcome OptionValue :=
  let report {value : Type} (cause : Cause) : Outcome value := Outcome.report (.point leaf.position) cause
  match key, rest with
  | .flag _, [] => .ok .present
  | .flag _, _ => report (.needlessValue leaf.text)
  | other, equals :: first :: others =>
    if equals.isMark .equals then
      match other, stringLiteral? (first :: others) with
      | .signature, _ =>
        if others.isEmpty then OptionValue.entries <$> SignatureEntry.ofTree leaf.text first
        else report (.malformedValue leaf.text)
      | .base, none => .ok (.text (TokenTree.renderAll (first :: others)))
      | _, some literal => OptionValue.text <$> Literal.decode literal
      | _, none => report (.notAString leaf.text)
    else report (.missingValue leaf.text)
  | _, _ => report (.missingValue leaf.text)

/-- Read one more piece; a key may be written once only. -/
def addPiece (vocabulary : Vocabulary) (pairs : OptionPairs) (piece : List TokenTree) : Outcome OptionPairs :=
  match piece with
  | [] => .ok pairs
  | first :: rest => do
    let (key, leaf) ← keyOfPiece vocabulary first piece
    if pairs.any fun pair => pair.1 = key then Outcome.report (.point leaf.position) (.repeatedOption leaf.text)
    else
      let value ← valueOfPiece key leaf rest
      return pairs ++ [(key, value)]

/-- Read one more option list. -/
def addList (vocabulary : Vocabulary) (pairs : OptionPairs) (trees : List TokenTree) : Outcome OptionPairs :=
  (TokenTree.splitAtCommas trees).foldlM (addPiece vocabulary) pairs

/-- Read option lists. -/
def ofLists (vocabulary : Vocabulary) (lists : List (List TokenTree)) : Outcome OptionPairs :=
  lists.foldlM (addList vocabulary) []

/-- The options that the pairs amount to. -/
def build (pairs : OptionPairs) : Outcome Options := do
  let renameAll ← match pairs.text? .renameAll with
    | none => pure none
    | some text =>
      match RenameRule.ofText? text with
      | some rule => pure (some rule)
      | none => Outcome.report .unknown (.unknownRule text)
  return ⟨pairs.text? .name, pairs.text? .module, pairs.flags, pairs.entries?, pairs.text? .base, renameAll, []⟩

end OptionPairs

namespace Options

/-- Read the options of one or more argument lists; a key may be written once in all of them. -/
def ofLists (vocabulary : Vocabulary) (lists : List (List TokenTree)) : Outcome Options := do
  (← OptionPairs.ofLists vocabulary lists).build

/-- Read the options of further argument lists and of every attribute of a given name. -/
def ofAttributes (vocabulary : Vocabulary) (name : String) (attributes : List Attribute)
    (further : List (List TokenTree)) : Outcome Options :=
  ofLists vocabulary (further ++ (Attribute.withName name attributes).map Attribute.arguments)

/-- The name in the argument list of a marker, if there is one. -/
def markerArgument (marker : Attribute) : Outcome (Option String) :=
  if marker.arguments.isEmpty then .ok none
  else
    match TokenTree.splitAtCommas marker.arguments with
    | [[.leaf leaf]] => if leaf.kind = .string then some <$> Literal.decode leaf.text else .ok (some leaf.text)
    | _ => Outcome.report (.point marker.position) (.notASingleName marker.name)

/-- The default text that the stub attributes of a parameter record. -/
def stubDefault? (attributes : List Attribute) : Outcome (Option String) := do
  let lists := (Attribute.withName "gen_stub" attributes).map Attribute.arguments
  let pairs ← OptionPairs.ofLists .ofStubParameter lists
  return pairs.text? .default

/-- The default texts that the stub attributes of parameters record. -/
def stubDefaults (parameters : List Parameter) : Outcome (List (String × String)) := do
  let found ← parameters.mapM fun parameter => do
    return (← stubDefault? parameter.attributes).map (parameter.name, ·)
  return found.filterMap id

end Options

end Exposure
