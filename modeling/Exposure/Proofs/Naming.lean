import Exposure.Proofs.Diagnosis
import Exposure.Proofs.Makings

/-!
# Names that are exposed

A name comes from a token of the text, from a rule that renames such a token, from a literal, or from what is left of the
name of an accessor behind its prefix. A token is not empty; what the others can make empty is said here for each of them,
and so for every name of a descriptor.
-/

namespace Exposure

namespace Text.LetterCase

variable {char : Char}

/-- What an expansion consists of, in a table where every expansion has a character. -/
theorem map_ofNat_ne_nil {expansions : List (Nat × List Nat)}
    (proper : (expansions.all fun entry => !entry.2.isEmpty) = true) {code : Nat} {codes : List Nat}
    (found : expansions.lookup code = some codes) : codes.map Char.ofNat ≠ [] := by
  obtain ⟨before, behind, same, -⟩ := List.lookup_eq_some_iff.mp found
  have member : (code, codes) ∈ expansions := same ▸ List.mem_append_right _ List.mem_cons_self
  simpa using List.all_eq_true.mp proper (code, codes) member

theorem convert_ne_nil {expansions : List (Nat × List Nat)} {ranges : List (Nat × Nat × Nat × Int)}
    (proper : (expansions.all fun entry => !entry.2.isEmpty) = true) : convert expansions ranges char ≠ [] := by
  unfold convert
  split
  case h_1 codes found => exact map_ofNat_ne_nil proper found
  case h_2 => exact List.cons_ne_nil _ _

/-- A character has an upper case. -/
theorem upperChar_ne_nil : upperChar char ≠ [] := by
  unfold upperChar
  split
  · exact List.cons_ne_nil _ _
  · exact convert_ne_nil (by rfl)

/-- A character has a form at the beginning of a word. -/
theorem titleChar_ne_nil : titleChar char ≠ [] := by
  unfold titleChar
  split
  · exact List.cons_ne_nil _ _
  · split
    case h_1 codes found => exact map_ofNat_ne_nil (by rfl) found
    case h_2 => exact upperChar_ne_nil

/-- A character has a lower case. -/
theorem lowerChar_ne_nil {before behind : List Char} : lowerChar before char behind ≠ [] := by
  unfold lowerChar
  split
  · exact List.cons_ne_nil _ _
  · split
    · split <;> exact List.cons_ne_nil _ _
    · exact convert_ne_nil (by rfl)

theorem lower_ne_nil {text : List Char} (proper : text ≠ []) : lower text ≠ [] := by
  cases text with
  | nil => exact absurd rfl proper
  | cons first rest => exact fun empty => lowerChar_ne_nil (List.append_eq_nil_iff.mp empty).1

theorem upper_eq_nil {text : List Char} : upper text = [] ↔ text = [] := by
  cases text with
  | nil => exact Iff.rfl
  | cons first rest => simp [upper, upperChar_ne_nil]

theorem capitalize_ne_nil {text : List Char} (proper : text ≠ []) : capitalize text ≠ [] := by
  cases text with
  | nil => exact absurd rfl proper
  | cons first rest => exact fun empty => titleChar_ne_nil (List.append_eq_nil_iff.mp empty).1

end Text.LetterCase

namespace RenameRule

/-- Only a text of separators is cut into nothing but empty parts. -/
theorem splitOnP_all_nil {text : List Char} :
    (∀ part ∈ text.splitOnP isSeparator, part = []) ↔ ∀ char ∈ text, isSeparator char = true := by
  induction text with
  | nil => simp
  | cons first rest step =>
    rw [List.splitOnP_cons_eq_if_modifyHead, List.forall_mem_cons]
    split
    case isTrue separates => simp [separates, step]
    case isFalse inside =>
      obtain ⟨head, tail, parts⟩ := List.exists_cons_of_ne_nil (List.splitOnP_ne_nil isSeparator rest)
      simp [parts, inside]

/-- The marks at the boundaries are separators, and everything else stays. -/
theorem markBoundaries_all {text : List Char} :
    (∀ char ∈ markBoundaries text, isSeparator char = true) ↔ ∀ char ∈ text, isSeparator char = true := by
  fun_induction markBoundaries text with
  | case1 first second rest boundary step => simp [step, show isSeparator '_' = true from rfl]
  | case2 first second rest inside step => simp [step]
  | case3 => exact Iff.rfl

/-- A name has no words exactly when it has separators only. -/
theorem words_eq_nil {name : List Char} : words name = [] ↔ ∀ char ∈ name, isSeparator char = true := by
  rw [words, List.map_eq_nil_iff, List.filter_eq_nil_iff, ← markBoundaries_all, ← splitOnP_all_nil]
  simp

/-- Every word has a character. -/
theorem ne_nil_of_mem_words {name word : List Char} (member : word ∈ words name) : word ≠ [] := by
  obtain ⟨part, inside, rfl⟩ := List.mem_map.mp member
  refine Text.LetterCase.lower_ne_nil ?_
  simpa using (List.mem_filter.mp inside).2

/-- Parts that are not empty are joined to nothing only if there is none. -/
theorem intercalate_eq_nil {separator : List Char} {parts : List (List Char)} (proper : ∀ part ∈ parts, part ≠ []) :
    separator.intercalate parts = [] ↔ parts = [] := by
  cases parts with
  | nil => exact iff_of_true rfl rfl
  | cons first rest =>
    refine iff_of_false (fun empty => ?_) (List.cons_ne_nil _ _)
    cases rest with
    | nil => exact proper first List.mem_cons_self (by simpa [List.intercalate] using empty)
    | cons second others => exact proper first List.mem_cons_self (by simp_all [List.intercalate])

/-- A rule makes nothing of a name exactly when the name has separators only, except in camel case. -/
theorem applyTo_eq_nil {rule : RenameRule} {name : List Char} (proper : name ≠ []) :
    rule.applyTo name = [] ↔ rule ≠ camel ∧ ∀ char ∈ name, isSeparator char = true := by
  rw [← words_eq_nil]
  have ofWords : ∀ part ∈ words name, part ≠ [] := fun part member => ne_nil_of_mem_words member
  have flat : (words name).flatten = [] ↔ words name = [] := by
    rw [List.flatten_eq_nil_iff]
    exact ⟨fun all => List.eq_nil_iff_forall_not_mem.mpr fun part member => ofWords part member (all part member),
      fun none part member => by rw [none] at member; cases member⟩
  cases rule with
  | camel =>
    simp only [applyTo]
    split
    case h_1 => simpa using proper
    case h_2 first rest parts => simp [ofWords first (parts ▸ List.mem_cons_self)]
  | pascal =>
    have titled : ((words name).map Text.LetterCase.capitalize).flatten = [] ↔ words name = [] := by
      rw [List.flatten_eq_nil_iff, List.forall_mem_map]
      exact ⟨fun all => List.eq_nil_iff_forall_not_mem.mpr fun part member =>
        Text.LetterCase.capitalize_ne_nil (ofWords part member) (all part member),
        fun none part member => by rw [none] at member; cases member⟩
    simpa [applyTo] using titled
  | snake => simpa [applyTo] using intercalate_eq_nil ofWords
  | screamingSnake => simpa [applyTo, Text.LetterCase.upper_eq_nil] using intercalate_eq_nil ofWords
  | kebab => simpa [applyTo] using intercalate_eq_nil ofWords
  | screamingKebab => simpa [applyTo, Text.LetterCase.upper_eq_nil] using intercalate_eq_nil ofWords
  | lower => simpa [applyTo] using flat
  | upper => simpa [applyTo, Text.LetterCase.upper_eq_nil] using flat

/-- A rule erases a name: the name has separators only, and the rule is not that of camel case. -/
def Erases (rule : Option RenameRule) (name : String) : Prop :=
  ∃ given, rule = some given ∧ given ≠ camel ∧ ∀ char ∈ name.toList, isSeparator char = true

theorem rename_eq_empty {rule : Option RenameRule} {name : String} (proper : name ≠ "") :
    rename rule name = "" ↔ Erases rule name := by
  cases rule with
  | none => simp [rename, Erases, proper]
  | some given =>
    have same := @applyTo_eq_nil given name.toList (by simpa using proper)
    simpa [rename, Erases] using same

end RenameRule

/-! The names of descriptors -/

namespace Options

/-- The options give no name, or an empty one. -/
def IsUnnamed (options : Options) : Prop := options.name.getD "" = ""

theorem nameOr_eq_empty {options : Options} {fallback : String} :
    options.nameOr fallback = "" ↔ options.IsUnnamed ∧ fallback = "" := by
  unfold nameOr IsUnnamed
  split
  case h_1 name given => by_cases empty : name = "" <;> simp [given, empty]
  case h_2 none => simp [none]

end Options

namespace Accessor

/-- The marker of an accessor gives no name, or an empty one. -/
def IsUnmarked (marker : String) (function : FunctionItem) : Prop :=
  ∀ first ∈ (Attribute.withName marker function.header.attributes).head?,
    ∃ given, Options.markerArgument first = .ok given ∧ given.getD "" = ""

/-- Nothing is left of a name behind a prefix exactly when the name is that prefix. -/
theorem shortened_eq_empty {beginning name : String} (proper : name ≠ "") :
    propertyName.shortened beginning name = "" ↔ name = beginning := by
  unfold propertyName.shortened
  split
  case isTrue begins =>
    obtain ⟨rest, same⟩ := List.isPrefixOf_iff_prefix.mp begins
    have dropped : name.toList.drop beginning.length = rest := by
      rw [← same, ← String.length_toList, List.drop_left]
    rw [dropped, ← String.toList_inj, ← String.toList_inj, ← same]
    simp
  case isFalse other =>
    refine iff_of_false proper ?_
    rintro rfl
    exact other (by simp)

/-- An accessor has no name exactly when nothing is left of the name of its function and nothing else names it. -/
theorem propertyName_eq_empty {function : FunctionItem} {marker beginning name : String} {options : Options}
    (proper : function.name ≠ "") (run : propertyName function marker beginning options = .ok name) :
    name = "" ↔ function.name = beginning ∧ options.IsUnnamed ∧ IsUnmarked marker function := by
  have unnamed : options.nameOr (propertyName.shortened beginning function.name) = "" ↔
      function.name = beginning ∧ options.IsUnnamed := by
    rw [Options.nameOr_eq_empty, shortened_eq_empty proper, and_comm]
  rw [← and_assoc, ← unnamed, IsUnmarked]
  simp only [propertyName] at run
  split at run
  case h_1 missing =>
    simp only [Outcome.bind_eq_ok, Outcome.pure_eq_ok, exists_eq_left'] at run
    simp [missing, ← run]
  case h_2 first others several =>
    simp only [Outcome.bind_eq_ok] at run
    obtain ⟨given, found, run⟩ := run
    rw [several]
    cases given with
    | none => simp [found, ← Outcome.pure_eq_ok.mp run]
    | some text =>
      simp only [String.isEmpty_iff] at run
      split at run
      case isTrue empty => simp [found, empty, ← Outcome.pure_eq_ok.mp run]
      case isFalse proper => simp [found, proper, ← Outcome.pure_eq_ok.mp run]

end Accessor

namespace CallableDescriptor

/-- The names of a callable: its own and those of its parameters. -/
def exposedNames (callable : CallableDescriptor) : List String := callable.name :: callable.parameters.map (·.name)

end CallableDescriptor

/-- The names that a descriptor exposes, and those of the parameters of what it exposes. -/
def Descriptor.exposedNames : Descriptor → List String
  | ofClass item => item.exposedName ::
      (item.members.map (·.name) ++ item.constructor.toList.flatMap CallableDescriptor.exposedNames)
  | ofEnum item => item.exposedName :: item.variants.map (·.name)
  | ofMethods block =>
    block.methods.flatMap (·.callable.exposedNames) ++ (block.properties ++ block.classAttributes).map (·.name)
  | ofFunction item => item.callable.exposedNames

open Expansion (HasClassOptions HasFunctionOptions)

/-- An item leaves a name empty: of a field or a variant without a name of its own, which the rule of its type erases; of a
function, whose tag says so; or of a getter, whose name is its prefix and which nothing else names. -/
inductive Item.LeavesEmpty : Item → Prop
  | field {item : StructItem} {options own : Options} {field : Field}
      (given : HasClassOptions (.structItem item) options) (member : field ∈ item.fields)
      (ofOwn : Options.ofAttributes .ofField "pyo3" field.attributes [] = .ok own)
      (visible : ((own.has .get || options.has .getAll) || (own.has .set || options.has .setAll)) = true)
      (unnamed : own.IsUnnamed) (erased : RenameRule.Erases options.renameAll field.name) :
      LeavesEmpty (.structItem item)
  | variant {item : EnumItem} {options own : Options} {variant : Variant}
      (given : HasClassOptions (.enumItem item) options) (member : variant ∈ item.variants)
      (ofOwn : Options.ofAttributes .ofVariant "pyo3" variant.attributes [] = .ok own)
      (unnamed : own.IsUnnamed) (erased : RenameRule.Erases options.renameAll variant.name) :
      LeavesEmpty (.enumItem item)
  | function {item : Item} {function : FunctionItem} {options : Options} (isFunction : item.function? = some function)
      (given : HasFunctionOptions item options) (empty : options.name = some "") : LeavesEmpty item
  | getter {item : Item} {block : ImplItem} {function : FunctionItem} {options : Options}
      (isBlock : item.impl? = some block) (member : function ∈ block.functions)
      (isGetter : function.kind? = some .getter) (bare : function.name = "get_")
      (ofOptions : CallableDescriptor.optionsOf function = .ok options) (unnamed : options.IsUnnamed)
      (unmarked : Accessor.IsUnmarked "getter" function) : LeavesEmpty item

section Names

variable {text : String}

theorem Position.Spells.ne_empty {position : Position} {word : String}
    (spells : position.Spells (Lexing.ofText text).tokens word) : word ≠ "" := by
  obtain ⟨token, member, rfl, -⟩ := spells
  exact Lexing.text_ne_empty_of_mem member

theorem Field.IsIn.name_ne_empty {field : Field} (isIn : field.IsIn (Lexing.ofText text).tokens) : field.name ≠ "" := by
  obtain ⟨position, -, spells⟩ | ⟨⟨index, same⟩, -⟩ := isIn.place
  · exact spells.ne_empty
  · rw [same, Nat.toString_eq_repr]
    exact Nat.repr_ne_empty

/-- The described parameters of a function have names. -/
theorem FunctionItem.IsIn.parameterName_ne_empty {function : FunctionItem}
    (isIn : function.IsIn (Lexing.ofText text).tokens) {owner : Option String} {parameters : List ParameterDescriptor}
    (describes : ∀ parameter ∈ parameters, ∃ declared ∈ function.parameters,
      Signature.Describes owner declared parameter) : "" ∉ parameters.map (·.name) := by
  intro empty
  obtain ⟨parameter, member, nameless⟩ := List.mem_map.mp empty
  obtain ⟨declared, listed, same, -⟩ := describes parameter member
  exact (isIn.parameters declared listed).name.ne_empty (same ▸ nameless)

/-- A method has a name, and its parameters too. -/
theorem CallableDescriptor.exposedNames_of_ofMethod {owner : String} {kind : MethodKind} {function : FunctionItem}
    (isIn : function.IsIn (Lexing.ofText text).tokens) {callable : CallableDescriptor}
    (run : ofMethod owner kind function = .ok callable) : "" ∉ callable.exposedNames := by
  obtain ⟨options, -, named, -, describes⟩ := ofMethod_eq_ok run
  refine List.not_mem_cons_of_ne_of_not_mem ?_ (isIn.parameterName_ne_empty describes)
  rw [named]
  split
  · decide
  · exact fun empty => isIn.name.ne_empty (Options.nameOr_eq_empty.mp empty.symm).2

end Names

/-- The members of a class have a name each, unless its rule erases that of a visible field without a name of its own. -/
theorem MemberDescriptor.hasEmptyName_iff {options : Options} {owner : String} {fields : List Field}
    {members : List MemberDescriptor} (run : ofFields options owner fields = .ok members)
    (named : ∀ field ∈ fields, field.name ≠ "") : "" ∈ members.map (·.name) ↔
      ∃ field ∈ fields, ∃ own, Options.ofAttributes .ofField "pyo3" field.attributes [] = .ok own ∧
        ((own.has .get || options.has .getAll) || (own.has .set || options.has .setAll)) = true ∧ own.IsUnnamed ∧
        RenameRule.Erases options.renameAll field.name := by
  obtain ⟨found, each, rfl⟩ := ofFields_eq_ok run
  constructor
  · intro empty
    obtain ⟨member, listed, nameless⟩ := List.mem_map.mp empty
    obtain ⟨maybe, inside, rfl⟩ := List.mem_filterMap.mp listed
    obtain ⟨field, given, described⟩ := Outcome.exists_of_forall₂ each inside
    obtain ⟨own, ofOwn, visible, name, -⟩ := ofField?_eq_some described
    obtain ⟨unnamed, erased⟩ := Options.nameOr_eq_empty.mp (name.symm.trans nameless)
    exact ⟨field, given, own, ofOwn, visible, unnamed, (RenameRule.rename_eq_empty (named field given)).mp erased⟩
  · rintro ⟨field, given, own, ofOwn, visible, unnamed, erased⟩
    obtain ⟨maybe, inside, described⟩ := Outcome.exists_of_forall₂ each.flip given
    cases maybe with
    | none => exact absurd (visible.symm.trans (ofField?_eq_none ofOwn described)) (by decide)
    | some member =>
      obtain ⟨other, ofOther, -, name, -⟩ := ofField?_eq_some described
      obtain rfl := Except.ok.inj (ofOther.symm.trans ofOwn)
      refine List.mem_map.mpr ⟨member, List.mem_filterMap.mpr ⟨_, inside, rfl⟩, ?_⟩
      rw [name]
      exact Options.nameOr_eq_empty.mpr ⟨unnamed, (RenameRule.rename_eq_empty (named field given)).mpr erased⟩

/-- The variants of an enumeration have a name each, unless its rule erases that of one without a name of its own. -/
theorem EnumDescriptor.hasEmptyName_iff {renameAll : Option RenameRule} {variants : List Variant}
    {described : List VariantDescriptor} (each : List.Forall₂ (Describes renameAll) variants described)
    (named : ∀ variant ∈ variants, variant.name ≠ "") : "" ∈ described.map (·.name) ↔
      ∃ variant ∈ variants, ∃ own, Options.ofAttributes .ofVariant "pyo3" variant.attributes [] = .ok own ∧
        own.IsUnnamed ∧ RenameRule.Erases renameAll variant.name := by
  constructor
  · intro empty
    obtain ⟨found, listed, nameless⟩ := List.mem_map.mp empty
    obtain ⟨variant, given, own, ofOwn, name⟩ := Outcome.exists_of_forall₂ each listed
    obtain ⟨unnamed, erased⟩ := Options.nameOr_eq_empty.mp (name.symm.trans nameless)
    exact ⟨variant, given, own, ofOwn, unnamed, (RenameRule.rename_eq_empty (named variant given)).mp erased⟩
  · rintro ⟨variant, given, own, ofOwn, unnamed, erased⟩
    obtain ⟨found, listed, other, ofOther, name⟩ := Outcome.exists_of_forall₂ each.flip given
    obtain rfl := Except.ok.inj (ofOther.symm.trans ofOwn)
    refine List.mem_map.mpr ⟨found, listed, ?_⟩
    rw [name]
    exact Options.nameOr_eq_empty.mpr ⟨unnamed, (RenameRule.rename_eq_empty (named variant given)).mpr erased⟩

/-- The properties of a block have a name each, unless nothing names a getter. -/
theorem MethodsDescriptor.Accounts.hasEmptyName_iff {functions : List FunctionItem} {block : MethodsDescriptor}
    (accounts : block.Accounts functions) (named : ∀ function ∈ functions, function.name ≠ "") :
    "" ∈ block.properties.map (·.name) ↔ ∃ function ∈ functions, function.kind? = some .getter ∧
      function.name = "get_" ∧ Accessor.IsUnmarked "getter" function ∧
      ∃ options, CallableDescriptor.optionsOf function = .ok options ∧ options.IsUnnamed := by
  have ofGetter {function : FunctionItem} (listed : function ∈ functions) {getter : Accessor}
      (found : Accessor.ofGetter block.targetIdentity function = .ok getter) :
      ∃ options, CallableDescriptor.optionsOf function = .ok options ∧ (getter.name = "" ↔
        function.name = "get_" ∧ options.IsUnnamed ∧ Accessor.IsUnmarked "getter" function) := by
    simp only [Accessor.ofGetter, Outcome.bind_eq_ok, Outcome.pure_eq_ok] at found
    obtain ⟨options, ofOptions, name, named', doc, -, rfl⟩ := found
    exact ⟨options, ofOptions, Accessor.propertyName_eq_empty (named function listed) named'⟩
  constructor
  · intro empty
    obtain ⟨property, member, nameless⟩ := List.mem_map.mp empty
    obtain ⟨function, listed, known, getter, found, sameName, -⟩ := accounts.exists_getter member
    obtain ⟨options, ofOptions, iff⟩ := ofGetter listed found
    obtain ⟨bare, unnamed, unmarked⟩ := iff.mp (sameName.symm.trans nameless)
    exact ⟨function, listed, known, bare, unmarked, options, ofOptions, unnamed⟩
  · rintro ⟨function, listed, known, bare, unmarked, options, ofOptions, unnamed⟩
    obtain ⟨accessors, halves, merges⟩ := accounts.properties
    have kept : function ∈ functions.filter fun function => function.kind?.any MethodKind.isAccessor :=
      List.mem_filter.mpr ⟨listed, by rw [known]; rfl⟩
    obtain ⟨getter, inside, found⟩ := Outcome.exists_of_forall₂ halves.flip kept
    have found : Accessor.ofGetter block.targetIdentity function = .ok getter := by
      rw [← found, Accessor.ofFunction, if_pos known]
    obtain ⟨same, ofSame, iff⟩ := ofGetter listed found
    obtain rfl := Except.ok.inj (ofSame.symm.trans ofOptions)
    have isGetter : getter.isGetter = true := by simp [Accessor.isGetter, Accessor.ofGetter_function found, known]
    rw [← iff.mpr ⟨bare, unnamed, unmarked⟩, ← merges.getters.mem_iff]
    exact List.mem_map_of_mem (List.mem_filter.mpr ⟨inside, isGetter⟩)

namespace Expansion

theorem HasClassOptions.unique {item : Item} {options other : Options} (given : HasClassOptions item options)
    (again : HasClassOptions item other) : options = other := by
  obtain ⟨tag, tagged, read⟩ := given
  obtain ⟨same, taggedSame, readSame⟩ := again
  obtain rfl := Option.some.inj (Except.ok.inj (tagged.symm.trans taggedSame))
  exact Except.ok.inj (read.symm.trans readSame)

theorem HasFunctionOptions.unique {item : Item} {options other : Options} (given : HasFunctionOptions item options)
    (again : HasFunctionOptions item other) : options = other := by
  obtain ⟨tag, tagged, read⟩ := given
  obtain ⟨same, taggedSame, readSame⟩ := again
  obtain rfl := Option.some.inj (Except.ok.inj (tagged.symm.trans taggedSame))
  exact Except.ok.inj (read.symm.trans readSame)

/-- A descriptor of an item of a text exposes an empty name exactly when the item leaves a name empty. -/
theorem Describes.hasEmptyName_iff {text : String} {associated : List FunctionItem} {item : Item} {descriptor : Descriptor}
    (describes : Describes associated item descriptor) (isIn : item.IsIn (Lexing.ofText text).tokens)
    (ofAssociated : ∀ function ∈ associated, function.IsIn (Lexing.ofText text).tokens) :
    "" ∈ descriptor.exposedNames ↔ item.LeavesEmpty := by
  cases describes with
  | @ofStruct declared options descriptor described given =>
    have isIn : declared.IsIn (Lexing.ofText text).tokens := isIn
    obtain ⟨-, exposed, ofMembers, constructed⟩ := ClassDescriptor.ofStruct_eq_ok described
    have ofClass : "" ≠ descriptor.exposedName := fun empty =>
      isIn.name.ne_empty (Options.nameOr_eq_empty.mp (exposed.symm.trans empty.symm)).2
    have ofConstructor : "" ∉ descriptor.constructor.toList.flatMap CallableDescriptor.exposedNames := by
      intro empty
      obtain ⟨callable, isConstructor, inside⟩ := List.mem_flatMap.mp empty
      rw [Option.mem_toList.mp isConstructor] at constructed
      obtain ⟨function, listed, described⟩ := CallableDescriptor.ofConstructor?_eq_some constructed
      exact CallableDescriptor.exposedNames_of_ofMethod (ofAssociated function listed) described inside
    simp only [Descriptor.exposedNames, List.mem_cons, ofClass, List.mem_append, ofConstructor, false_or, or_false]
    rw [MemberDescriptor.hasEmptyName_iff ofMembers fun field member => (isIn.fields field member).name_ne_empty]
    constructor
    · rintro ⟨field, member, own, ofOwn, visible, unnamed, erased⟩
      exact .field given member ofOwn visible unnamed erased
    · intro leaves
      cases leaves with
      | field again member ofOwn visible unnamed erased =>
        obtain rfl := given.unique again
        exact ⟨_, member, _, ofOwn, visible, unnamed, erased⟩
      | function isFunction => cases isFunction
      | getter isBlock => cases isBlock
  | @ofEnum declared options descriptor described given =>
    have isIn : declared.IsIn (Lexing.ofText text).tokens := isIn
    obtain ⟨-, exposed, each⟩ := EnumDescriptor.ofEnum_eq_ok described
    have ofEnum : "" ≠ descriptor.exposedName := fun empty =>
      isIn.name.ne_empty (Options.nameOr_eq_empty.mp (exposed.symm.trans empty.symm)).2
    simp only [Descriptor.exposedNames, List.mem_cons, ofEnum, false_or]
    rw [EnumDescriptor.hasEmptyName_iff each fun variant member => (isIn.variants variant member).name.ne_empty]
    constructor
    · rintro ⟨variant, member, own, ofOwn, unnamed, erased⟩
      exact .variant given member ofOwn unnamed erased
    · intro leaves
      cases leaves with
      | variant again member ofOwn unnamed erased =>
        obtain rfl := given.unique again
        exact ⟨_, member, _, ofOwn, unnamed, erased⟩
      | function isFunction => cases isFunction
      | getter isBlock => cases isBlock
  | @ofImpl item block descriptor isBlock tagged described =>
    have ofFunctions := ImplItem.functions_isIn isIn isBlock
    obtain ⟨-, accounts⟩ := MethodsDescriptor.ofImpl_accounts described
    have ofMethods : "" ∉ descriptor.methods.flatMap (·.callable.exposedNames) := by
      intro empty
      obtain ⟨method, member, inside⟩ := List.mem_flatMap.mp empty
      obtain ⟨function, listed, -, -, described⟩ := accounts.methods.exists_of_mem member
      exact CallableDescriptor.exposedNames_of_ofMethod (ofFunctions function listed) described inside
    have ofAttributes : "" ∉ descriptor.classAttributes.map (·.name) := by
      intro empty
      obtain ⟨constant, member, nameless⟩ := List.mem_map.mp empty
      obtain ⟨function, listed, -, options, doc, -, -, rfl⟩ := accounts.classAttributes.exists_of_mem member
      exact (ofFunctions function listed).name.ne_empty (Options.nameOr_eq_empty.mp nameless).2
    simp only [Descriptor.exposedNames, List.map_append, List.mem_append, ofMethods, ofAttributes, false_or, or_false]
    rw [accounts.hasEmptyName_iff fun function listed => (ofFunctions function listed).name.ne_empty]
    constructor
    · rintro ⟨function, listed, known, bare, unmarked, options, ofOptions, unnamed⟩
      exact .getter isBlock listed known bare ofOptions unnamed unmarked
    · intro leaves
      cases leaves with
      | field => cases isBlock
      | variant => cases isBlock
      | function isFunction =>
        cases item <;> cases isBlock
        cases isFunction
      | getter again listed known bare ofOptions unnamed unmarked =>
        obtain rfl := Option.some.inj (isBlock.symm.trans again)
        exact ⟨_, listed, known, bare, unmarked, _, ofOptions, unnamed⟩
  | @ofFunction item function options descriptor isFunction described given =>
    have isIn : function.IsIn (Lexing.ofText text).tokens := by
      cases item <;> cases isFunction
      exact isIn
    obtain ⟨own, -, named, -, ofParameters⟩ := FunctionDescriptor.ofFunction_eq_ok described
    have proper : own.nameOr function.name ≠ "" := fun empty =>
      isIn.name.ne_empty (Options.nameOr_eq_empty.mp empty).2
    have ofNames := isIn.parameterName_ne_empty ofParameters
    simp only [Descriptor.exposedNames, CallableDescriptor.exposedNames, List.mem_cons, ofNames, or_false, named]
    constructor
    · intro empty
      refine .function isFunction given ?_
      cases isName : options.name with
      | none => simp [isName, proper.symm] at empty
      | some name => simp_all
    · intro leaves
      cases leaves with
      | field => cases isFunction
      | variant => cases isFunction
      | getter isBlock =>
        cases item <;> cases isBlock
        cases isFunction
      | function _ again empty =>
        obtain rfl := given.unique again
        simp [empty]

/-- In an accepted text, what an item is described by exposes an empty name exactly when the item leaves a name empty. -/
theorem emptyName_iff {text : String} {expansions : List Expansion} (run : ofText text = .ok expansions)
    {expansion : Expansion} (member : expansion ∈ expansions) :
    "" ∈ expansion.descriptor.exposedNames ↔ expansion.item.LeavesEmpty := by
  simp only [ofText, Outcome.bind_eq_ok] at run
  obtain ⟨items, parsed, run⟩ := run
  obtain ⟨listed, described, -⟩ := exists_item_of_mem run member
  have isIn := isIn_of_parse parsed
  exact (describes_of_describe described).hasEmptyName_iff (isIn _ listed) (associated_isIn isIn _)

/-- Camel case keeps the name of a field that has no words. -/
theorem emptyName_iff_camelCase :
    ∃ expansions, ofText "#[pyclass(get_all, rename_all = \"camelCase\")] struct A \x7b _: u8 \x7d" = .ok expansions ∧
      ∃ expansion ∈ expansions, expansion.descriptor.exposedNames = ["A", "_"] ∧
        ("" ∈ expansion.descriptor.exposedNames ↔ expansion.item.LeavesEmpty) := by
  have passed : (ofText
      "#[pyclass(get_all, rename_all = \"camelCase\")] struct A \x7b _: u8 \x7d").toOption.any (fun expansions =>
        expansions.any fun expansion => expansion.descriptor.exposedNames = ["A", "_"]) = true := by
    decide +kernel
  simp only [Option.any_eq_true, List.any_eq_true, Outcome.toOption_eq_some, decide_eq_true_eq] at passed
  obtain ⟨expansions, run, expansion, member, names⟩ := passed
  exact ⟨expansions, run, expansion, member, names, emptyName_iff run member⟩

/-- A function whose tag gives an empty name is exposed under it. -/
theorem exposedNames_of_emptyTag :
    ∃ expansions, ofText "#[pyfunction(name = \"\")] fn f();" = .ok expansions ∧
      ∃ expansion ∈ expansions, "" ∈ expansion.descriptor.exposedNames := by
  have passed : (ofText "#[pyfunction(name = \"\")] fn f();").toOption.any (fun expansions =>
      expansions.any fun expansion => decide ("" ∈ expansion.descriptor.exposedNames)) = true := by
    decide +kernel
  simp only [Option.any_eq_true, List.any_eq_true, Outcome.toOption_eq_some, decide_eq_true_eq] at passed
  exact passed

end Expansion

end Exposure
