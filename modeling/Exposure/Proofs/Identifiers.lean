import Exposure.Proofs.Naming
import Exposure.Proofs.Rereading

/-!
# Names that are taken over

The name of a parameter, of a function and of a method is the text of an identifier of the source, unless an option gives
another. Such a text is an identifier to its end, or one behind the raw mark, which stays in front of the name.
-/

namespace Exposure

/-- A letter or an underscore, and then letters, digits and underscores. -/
def isIdentifier : List Char → Bool
  | [] => false
  | first :: rest => Lexeme.beginsIdent first && rest.all Lexeme.continuesIdent

/-- An identifier behind the raw mark. -/
def isRawIdentifier : List Char → Bool
  | 'r' :: '#' :: plain => isIdentifier plain
  | _ => false

/-- A name is an identifier or a raw one. -/
def IsWrittenName (name : String) : Prop := isIdentifier name.toList = true ∨ isRawIdentifier name.toList = true

theorem not_isIdentifier_of_isRaw {name : List Char} (raw : isRawIdentifier name = true) : isIdentifier name = false := by
  unfold isRawIdentifier at raw
  split at raw
  · rfl
  · cases raw

theorem isRaw_of_isIdentifier {name : List Char} (identifier : isIdentifier name = true) :
    isRawIdentifier name = false := by
  by_contra raw
  rw [Bool.not_eq_false] at raw
  exact Bool.noConfusion (identifier.symm.trans (not_isIdentifier_of_isRaw raw))

/-- A written name is an identifier exactly if it is not raw. -/
theorem IsWrittenName.isIdentifier_iff {name : String} (written : IsWrittenName name) :
    isIdentifier name.toList = true ↔ isRawIdentifier name.toList = false :=
  ⟨isRaw_of_isIdentifier, fun plain => written.resolve_right (by rw [plain]; decide)⟩

theorem continuesIdent_of_isIdentifier {name : List Char} (identifier : isIdentifier name = true) :
    ∀ char ∈ name, Lexeme.continuesIdent char = true := by
  cases name with
  | nil => cases identifier
  | cons first rest =>
    rw [isIdentifier, Bool.and_eq_true, List.all_eq_true] at identifier
    refine List.forall_mem_cons.mpr ⟨?_, identifier.2⟩
    have begins := identifier.1
    simp only [Lexeme.beginsIdent, Lexeme.continuesIdent, Char.isAlphanum, Bool.or_eq_true] at begins ⊢
    tauto

/-- The end of an identifier is one if it begins like one. -/
theorem isIdentifier_of_suffix {name rest : List Char} (identifier : isIdentifier name = true) (suffix : rest <:+ name)
    (begins : rest.head?.any Lexeme.beginsIdent = true) : isIdentifier rest = true := by
  have continues := fun char member => continuesIdent_of_isIdentifier identifier char (suffix.subset member)
  cases rest with
  | nil => cases begins
  | cons first rest =>
    rw [isIdentifier, Bool.and_eq_true, List.all_eq_true]
    exact ⟨begins, (List.forall_mem_cons.mp continues).2⟩

/-- The end of a written name is an identifier exactly if it is not raw and begins like one. -/
theorem IsWrittenName.isIdentifier_suffix {name : String} (written : IsWrittenName name) {rest : List Char}
    (suffix : rest <:+ name.toList) :
    isIdentifier rest = true ↔ isRawIdentifier rest = false ∧ rest.head?.any Lexeme.beginsIdent = true := by
  constructor
  · intro identifier
    refine ⟨isRaw_of_isIdentifier identifier, ?_⟩
    cases rest with
    | nil => cases identifier
    | cons first rest => exact (Bool.and_eq_true_iff.mp identifier).1
  · rintro ⟨plain, begins⟩
    obtain identifier | raw := written
    · exact isIdentifier_of_suffix identifier suffix begins
    · unfold isRawIdentifier at raw
      split at raw
      case h_1 chars body same =>
        rw [same, List.suffix_cons_iff, List.suffix_cons_iff] at suffix
        obtain rfl | rfl | inside := suffix
        · exact Bool.noConfusion (plain.symm.trans raw)
        · cases begins
        · exact isIdentifier_of_suffix raw inside begins
      case h_2 => cases raw

namespace Lexeme

/-- A text that an identifier takes to its end is an identifier. -/
theorem isIdentifier_of_plainIdent? {text : List Char} (whole : plainIdent? text = some text.length) :
    isIdentifier text = true := by
  cases text with
  | nil => cases whole
  | cons first rest =>
    rw [plainIdent?] at whole
    split at whole
    case isTrue begins =>
      have all : run continuesIdent rest = rest.length := by
        have lengths := Option.some.inj whole
        rw [List.length_cons] at lengths
        omega
      rw [isIdentifier, begins, Bool.true_and, List.all_eq_true]
      have inside := mem_of_le_run all.ge
      rwa [List.take_length] at inside
    case isFalse => cases whole

theorem isWrittenName_of_ident? {text : String} (whole : ident? text.toList = some text.length) : IsWrittenName text := by
  rw [← String.length_toList] at whole
  unfold IsWrittenName
  generalize text.toList = chars at whole ⊢
  unfold ident? at whole
  split at whole
  case h_1 rest =>
    rcases Option.or_eq_some_iff.mp whole with raw | ⟨-, plain⟩
    · obtain ⟨length, ofRest, same⟩ := Option.map_eq_some_iff.mp raw
      have whole : length = rest.length := by
        simp only [List.length_cons] at same
        omega
      exact .inr (isIdentifier_of_plainIdent? (whole ▸ ofRest))
    · exact .inl (isIdentifier_of_plainIdent? plain)
  case h_2 => exact .inl (isIdentifier_of_plainIdent? whole)

end Lexeme

/-! The names of functions -/

section Named

variable (property : String → Prop)

/-- A function and its parameters have names with a property. -/
structure FunctionItem.IsNamed (function : FunctionItem) : Prop where
  name : property function.name
  parameters : ∀ parameter ∈ function.parameters, property parameter.name

namespace Item

mutual

/-- The functions in an item have names with a property. -/
def IsNamed : Item → Prop
  | functionItem function => function.IsNamed property
  | implItem _ _ _ items => AllNamed items
  | moduleItem _ _ items => AllNamed items
  | _ => True

/-- The functions in every item of a list have names with a property. -/
def AllNamed : List Item → Prop
  | [] => True
  | first :: rest => first.IsNamed ∧ AllNamed rest

end

end Item

end Named

variable {property : String → Prop}

namespace Item

theorem allNamed_iff {items : List Item} : AllNamed property items ↔ ∀ item ∈ items, item.IsNamed property := by
  induction items with
  | nil => simp [AllNamed]
  | cons first rest step => simp [AllNamed, step]

theorem IsNamed.decorate {item : Item} (named : item.IsNamed property) (attributes : List Attribute) (isPublic : Bool)
    (span : Span) : (item.decorate attributes isPublic span).IsNamed property := by
  cases item with
  | functionItem function =>
    have ofFunction : function.IsNamed property := named
    exact FunctionItem.IsNamed.mk ofFunction.name ofFunction.parameters
  | _ => exact named

mutual

theorem IsNamed.flatten : {item : Item} → item.IsNamed property → AllNamed property item.flatten
  | structItem _, named => ⟨named, trivial⟩
  | enumItem _, named => ⟨named, trivial⟩
  | functionItem _, named => ⟨named, trivial⟩
  | implItem .., named => ⟨named, trivial⟩
  | moduleItem .., named => AllNamed.flattenAll named

theorem AllNamed.flattenAll : {items : List Item} → AllNamed property items → AllNamed property (flattenAll items)
  | [], _ => trivial
  | _ :: _, named =>
    allNamed_iff.mpr fun item member => (List.mem_append.mp member).elim (allNamed_iff.mp (IsNamed.flatten named.1) item)
      (allNamed_iff.mp (AllNamed.flattenAll named.2) item)

end

end Item

theorem ImplItem.functions_isNamed {item : Item} (named : item.IsNamed property) {block : ImplItem}
    (isBlock : item.impl? = some block) : ∀ function ∈ block.functions, function.IsNamed property := by
  cases item with
  | implItem header selfType trait items =>
    cases isBlock
    intro function member
    obtain ⟨inner, inside, same⟩ := List.mem_filterMap.mp member
    have ofInner := Item.allNamed_iff.mp named inner inside
    cases inner <;> cases same
    exact ofInner
  | _ => cases isBlock

namespace Rule

open Grammar.Contract

variable (property) in
/-- What is relied on of each rule: where the identifiers have a property, the names of functions have it. -/
def naming : Grammar.Contract Token Unit RuleName.Meaning where
  admits token := token.terminal = .ident → property token.text
  move _ _ := ()
  begins _ _ := True
  promises
    | .item, _, _, found => ∀ item, found = some item → item.IsNamed property
    | _, _, _, _ => True

variable {value : Type}

variable (property) in
/-- From identifiers with a property, a rule gives values of another. -/
abbrev Names (rule : Rule value) (gives : value → Prop) : Prop := (naming property).Leads rule () () gives

theorem names_any (rule : Rule value) : Names property rule fun _ => True :=
  Ensures.ofForall (fun _ _ => trivial) (fun _ _ => ⟨rfl, trivial⟩) ()

theorem ident_names : Names property ident fun name => property name.text :=
  fun _ admitted isIdent => ⟨rfl, admitted (of_decide_eq_true isIdent)⟩

theorem within_names {rule : Rule value} {gives : value → Prop} (given : Names property rule gives)
    (delimiter : Delimiter) : Names property (within delimiter rule) gives :=
  .seqLeft (.seqRight (names_any _) given) (names_any _)

theorem parameter_names : Names property parameter fun found => property found.name := by
  have named : Names property ((·, none) <$> (mark .ampersand *> Grammar.optional (terminal .lifetime) *>
        Grammar.optional (word .mutWord) *> ident) <|>
      Prod.mk <$> (Grammar.optional (word .mutWord) *> ident) <*> Grammar.optional (mark .colon *> typeExpr))
      fun found => property found.1.text :=
    .orElse (Leads.map (.seqRight (names_any _) ident_names) fun _ given => given)
      (.seq (Leads.map (.seqRight (names_any _) ident_names) fun _ given _ _ => given) (names_any _))
  exact .seq ((names_any _).map fun _ _ _ given => given) named

theorem functionDeclaration_names : Names property functionDeclaration (·.IsNamed property) :=
  .seq (.seq (Leads.map (.seqLeft (.seqRight (names_any _) ident_names) (names_any _)) fun _ given _ parameters _ _ =>
      FunctionItem.IsNamed.mk given parameters)
    (within_names (parameter_names.separated (names_any _)) _)) (names_any _)

/-- The items of interest in a list. -/
theorem allNamed_filterMap {found : List (Option Item)}
    (named : ∀ each ∈ found, ∀ item, each = some item → item.IsNamed property) :
    Item.AllNamed property (found.filterMap id) := by
  refine Item.allNamed_iff.mpr fun item member => ?_
  obtain ⟨each, inside, same⟩ := List.mem_filterMap.mp member
  exact named each inside item same

theorem item_names : Names property item fun found => ∀ item, found = some item → item.IsNamed property :=
  ⟨trivial, fun _ _ given => ⟨rfl, given⟩⟩

theorem implDeclaration_names : Names property implDeclaration (·.IsNamed property) :=
  .seq (.seq (.seq ((names_any _).map fun _ _ _ _ _ _ _ inside => inside) (names_any _)) (names_any _))
    (within_names (.seqRight (names_any _) (item_names.many.map fun _ => allNamed_filterMap)) _)

theorem moduleItems_names : Names property moduleItems (Item.AllNamed property) := by
  have member : Names property (item <|> (fun _ => none) <$> innerAttribute) fun found =>
      ∀ item, found = some item → item.IsNamed property :=
    .orElse item_names ((names_any _).map fun _ _ => nofun)
  exact member.many.map fun _ => allNamed_filterMap

theorem moduleDeclaration_names : Names property moduleDeclaration (·.IsNamed property) :=
  .seq ((names_any _).map fun _ _ _ inside => inside)
    (.orElse ((names_any _).map fun _ _ => trivial) (within_names moduleItems_names _))

theorem declaration_names :
    Names property declaration fun found => ∀ item, found = some item → item.IsNamed property := by
  have kept {rule : Rule Item} (given : Names property rule (·.IsNamed property)) :
      Names property (some <$> rule) fun found => ∀ item, found = some item → item.IsNamed property :=
    given.map fun _ named _ same => Option.some.inj same ▸ named
  have ofStructure : Names property structDeclaration (·.IsNamed property) :=
    .seq ((names_any _).map fun _ _ _ _ => trivial) (names_any _)
  have ofEnumeration : Names property enumDeclaration (·.IsNamed property) :=
    .seq ((names_any _).map fun _ _ _ _ => trivial) (names_any _)
  exact .orElse (kept ofStructure) (.orElse (kept ofEnumeration) (.orElse (kept implDeclaration_names)
    (.orElse (kept functionDeclaration_names) (.orElse (kept moduleDeclaration_names)
      ((names_any _).map fun _ _ => nofun)))))

theorem itemRule_names : Names property itemRule fun found => ∀ item, found = some item → item.IsNamed property := by
  have parts : Names property ((fun attributes isPublic item => (attributes, isPublic, item)) <$> outerAttributes <*>
      isVisible <*> declaration) fun found => ∀ item, found.2.2 = some item → item.IsNamed property :=
    .seq (.seq ((names_any _).map fun _ _ _ _ _ named => named) (names_any _)) declaration_names
  refine parts.witnessed ?_
  rintro _ ⟨attributes, isPublic, found⟩ named item same
  obtain ⟨declared, rfl, rfl⟩ := Option.map_eq_some_iff.mp same
  exact (named declared rfl).decorate attributes isPublic _

theorem rules_keep_naming : (naming property).KeptBy rules := by
  intro which _ _
  cases which with
  | item => exact itemRule_names.mono fun _ _ given => given.2
  | _ => exact (names_any _).mono fun _ _ given => given.2

end Rule

/-- The functions of an accepted text and their parameters have written names. -/
theorem isNamed_of_parse {text : String} {items : List Item} (accepted : parse text = .ok items) :
    ∀ item ∈ Item.flattenAll items, item.IsNamed IsWrittenName := by
  obtain ⟨complete, read⟩ := parse_eq_ok.mp accepted
  have admitted : ∀ token ∈ (Lexing.ofText text).tokens, (Rule.naming IsWrittenName).admits token := by
    intro token member isIdent
    have genuine := Lexing.isGenuine_of_mem complete token member
    rw [Token.word, isIdent] at genuine
    exact Lexeme.isWrittenName_of_ident? genuine.1
  exact Item.allNamed_iff.mp (Rule.moduleItems_names.sound Rule.rules_keep_naming admitted read).2.flattenAll

/-! The names of descriptors -/

theorem Options.nameOr_of_isUnnamed {options : Options} (unnamed : options.IsUnnamed) (fallback : String) :
    options.nameOr fallback = fallback := by
  unfold IsUnnamed at unnamed
  unfold nameOr
  split
  case h_1 name given =>
    have empty : name.isEmpty = true := by simpa [given] using unnamed
    rw [if_pos empty]
  case h_2 => rfl

namespace Accessor

/-- What is left of a name behind a prefix is its end. -/
theorem shortened_suffix (beginning name : String) : (propertyName.shortened beginning name).toList <:+ name.toList := by
  unfold propertyName.shortened
  split
  case isTrue =>
    rw [String.toList_ofList]
    exact List.drop_suffix _ _
  case isFalse => exact List.suffix_rfl

/-- A property that nothing names has what is left of the name of its accessor. -/
theorem propertyName_of_isUnmarked {function : FunctionItem} {marker beginning name : String} {options : Options}
    (run : propertyName function marker beginning options = .ok name) (unmarked : IsUnmarked marker function)
    (unnamed : options.IsUnnamed) : name = propertyName.shortened beginning function.name := by
  have fallback := Options.nameOr_of_isUnnamed unnamed (propertyName.shortened beginning function.name)
  simp only [propertyName] at run
  split at run
  case h_1 =>
    simp only [Outcome.bind_eq_ok, Outcome.pure_eq_ok, exists_eq_left'] at run
    exact run.symm.trans fallback
  case h_2 first others several =>
    obtain ⟨given, found, empty⟩ := unmarked first (by rw [several]; rfl)
    simp only [found, Outcome.bind_eq_ok, Except.ok.injEq, exists_eq_left'] at run
    cases given with
    | none => exact (Outcome.pure_eq_ok.mp run).symm.trans fallback
    | some text =>
      obtain rfl : text = "" := empty
      exact (Outcome.pure_eq_ok.mp run).symm.trans fallback

end Accessor

/-- The names of the properties and class attributes that the functions of a block amount to. -/
def Descriptor.labels : Descriptor → List String
  | ofMethods block => (block.properties ++ block.classAttributes).map (·.name)
  | _ => []

/-- No option beside a function or in its tag gives it a name. -/
structure Item.LeavesUnnamed (item : Item) (function : FunctionItem) : Prop where
  own : ∀ options, CallableDescriptor.optionsOf function = .ok options → options.IsUnnamed
  tag : item.function? = some function → ∀ options, Expansion.HasFunctionOptions item options → options.name = none

namespace Expansion

/-- A callable is described from a function of an item, or from a function associated with it. -/
inductive Stems (associated : List FunctionItem) (item : Item) (callable : CallableDescriptor)
    (function : FunctionItem) : Prop
  | method {owner : String} {kind : MethodKind}
      (listed : function ∈ associated ∨ ∃ block, item.impl? = some block ∧ function ∈ block.functions)
      (described : CallableDescriptor.ofMethod owner kind function = .ok callable)
  | function {options : Options} {descriptor : FunctionDescriptor} (isFunction : item.function? = some function)
      (given : HasFunctionOptions item options)
      (described : FunctionDescriptor.ofFunction function options = .ok descriptor) (same : descriptor.callable = callable)

variable {associated : List FunctionItem} {item : Item}

/-- Every callable of a descriptor stems from a function of its item or associated with it. -/
theorem Describes.stems {descriptor : Descriptor} (describes : Describes associated item descriptor) :
    ∀ callable ∈ descriptor.callables, ∃ function, Stems associated item callable function := by
  intro callable member
  cases describes with
  | @ofStruct declared options descriptor described =>
    obtain ⟨-, -, -, constructed⟩ := ClassDescriptor.ofStruct_eq_ok described
    rw [Option.mem_toList.mp member] at constructed
    obtain ⟨function, listed, made⟩ := CallableDescriptor.ofConstructor?_eq_some constructed
    exact ⟨function, .method (.inl listed) made⟩
  | ofEnum => cases member
  | @ofImpl item block descriptor isBlock tagged described =>
    obtain ⟨-, accounts⟩ := MethodsDescriptor.ofImpl_accounts described
    obtain ⟨method, inside, rfl⟩ := List.mem_map.mp member
    obtain ⟨function, listed, -, -, made⟩ := accounts.methods.exists_of_mem inside
    exact ⟨function, .method (.inr ⟨block, isBlock, listed⟩) made⟩
  | @ofFunction item function options descriptor isFunction described given =>
    exact ⟨function, .function isFunction given described (List.mem_singleton.mp member).symm⟩

/-- A callable that no option gives a name has that of its function, or that of constructors; its parameters have the names
of parameters of the function. -/
theorem Stems.names {callable : CallableDescriptor} {function : FunctionItem}
    (stems : Stems associated item callable function) :
    (item.LeavesUnnamed function →
      callable.name = function.name ∨ callable.name = CallableDescriptor.constructorName) ∧
      ∀ parameter ∈ callable.parameters, ∃ declared ∈ function.parameters, parameter.name = declared.name := by
  cases stems with
  | method listed described =>
    obtain ⟨options, ofOptions, named, -, ofParameters⟩ := CallableDescriptor.ofMethod_eq_ok described
    refine ⟨fun unnamed => ?_, fun parameter member => ?_⟩
    · rw [named, Options.nameOr_of_isUnnamed (unnamed.own options ofOptions)]
      split
      · exact .inr rfl
      · exact .inl rfl
    · obtain ⟨declared, inside, same, -⟩ := ofParameters parameter member
      exact ⟨declared, inside, same⟩
  | @function options descriptor isFunction given described same =>
    obtain ⟨own, ofOwn, named, -, ofParameters⟩ := FunctionDescriptor.ofFunction_eq_ok described
    rw [same] at named ofParameters
    refine ⟨fun unnamed => ?_, fun parameter member => ?_⟩
    · rw [named, unnamed.tag isFunction options given, Option.getD_none,
        Options.nameOr_of_isUnnamed (unnamed.own own ofOwn)]
      exact .inl rfl
    · obtain ⟨declared, inside, same, -⟩ := ofParameters parameter member
      exact ⟨declared, inside, same⟩

theorem associated_isNamed {property : String → Prop} {items : List Item}
    (named : ∀ item ∈ items, item.IsNamed property) (item : Item) :
    ∀ function ∈ Expansion.associated items item, function.IsNamed property := by
  intro function member
  unfold Expansion.associated at member
  split at member
  case h_1 =>
    obtain ⟨holder, inside, member⟩ := List.mem_flatMap.mp member
    split at member
    case h_1 block isBlock =>
      split at member
      · exact ImplItem.functions_isNamed (named holder inside) isBlock function member
      · cases member
    case h_2 => cases member
  case h_2 => cases member

/-- What a callable of named items stems from has names. -/
theorem Stems.isNamed {property : String → Prop} {callable : CallableDescriptor} {function : FunctionItem}
    (stems : Stems associated item callable function) (named : item.IsNamed property)
    (ofAssociated : ∀ function ∈ associated, function.IsNamed property) : function.IsNamed property := by
  cases stems with
  | method listed =>
    obtain inside | ⟨block, isBlock, inside⟩ := listed
    · exact ofAssociated function inside
    · exact ImplItem.functions_isNamed named isBlock function inside
  | function isFunction =>
    cases item <;> cases isFunction
    exact named

/-- A label is that of a function of the block, or what is left of its name behind the prefix of getters, unless an option
or the marker of the getter gives another. -/
theorem Describes.labels {descriptor : Descriptor} (describes : Describes associated item descriptor) :
    ∀ label ∈ descriptor.labels, ∃ block, item.impl? = some block ∧ ∃ function ∈ block.functions,
      item.LeavesUnnamed function → Accessor.IsUnmarked "getter" function →
        label = function.name ∨ label = Accessor.propertyName.shortened "get_" function.name := by
  intro label member
  cases describes with
  | @ofImpl item block descriptor isBlock tagged described =>
    obtain ⟨-, accounts⟩ := MethodsDescriptor.ofImpl_accounts described
    obtain ⟨described, inside, rfl⟩ := List.mem_map.mp member
    refine ⟨block, isBlock, ?_⟩
    obtain isProperty | isConstant := List.mem_append.mp inside
    · obtain ⟨function, listed, -, getter, found, same, -⟩ := accounts.exists_getter isProperty
      refine ⟨function, listed, fun unnamed unmarked => .inr ?_⟩
      simp only [Accessor.ofGetter, Outcome.bind_eq_ok, Outcome.pure_eq_ok] at found
      obtain ⟨options, ofOptions, name, named, doc, -, rfl⟩ := found
      rw [same]
      exact Accessor.propertyName_of_isUnmarked named unmarked (unnamed.own options ofOptions)
    · obtain ⟨function, listed, -, options, doc, ofOptions, -, rfl⟩ := accounts.classAttributes.exists_of_mem isConstant
      exact ⟨function, listed, fun unnamed _ => .inl (Options.nameOr_of_isUnnamed (unnamed.own options ofOptions) _)⟩
  | _ => cases member

/-- In an accepted text, the name of a parameter of a callable is an identifier exactly if it is not written with the raw
mark, and so is the name of a callable that no option gives a name; a property or class attribute that no option names is
called by an identifier exactly if its name is not raw and does not begin with a digit or not at all. -/
theorem takenNames_iff {text : String} {expansions : List Expansion} (run : ofText text = .ok expansions)
    {expansion : Expansion} (member : expansion ∈ expansions) :
    ∃ items, parse text = .ok items ∧
      (∀ callable ∈ expansion.descriptor.callables, ∃ function,
        Stems (Expansion.associated (Item.flattenAll items) expansion.item) expansion.item callable function ∧
        (expansion.item.LeavesUnnamed function →
          (isIdentifier callable.name.toList = true ↔ isRawIdentifier callable.name.toList = false)) ∧
        ∀ parameter ∈ callable.parameters,
          (isIdentifier parameter.name.toList = true ↔ isRawIdentifier parameter.name.toList = false)) ∧
      ∀ label ∈ expansion.descriptor.labels, ∃ block, expansion.item.impl? = some block ∧ ∃ function ∈ block.functions,
        expansion.item.LeavesUnnamed function → Accessor.IsUnmarked "getter" function →
          (isIdentifier label.toList = true ↔
            isRawIdentifier label.toList = false ∧ label.toList.head?.any Lexeme.beginsIdent = true) := by
  simp only [ofText, Outcome.bind_eq_ok] at run
  obtain ⟨items, parsed, run⟩ := run
  obtain ⟨listed, described, -⟩ := exists_item_of_mem run member
  have describes := describes_of_describe described
  have named := isNamed_of_parse parsed
  refine ⟨items, parsed, fun callable inside => ?_, fun label inside => ?_⟩
  · obtain ⟨function, stems⟩ := describes.stems callable inside
    obtain ⟨ofName, ofParameters⟩ := stems.isNamed (named _ listed) (associated_isNamed named _)
    obtain ⟨sameName, sameParameters⟩ := stems.names
    refine ⟨function, stems, fun unnamed => ?_, fun parameter ofCallable => ?_⟩
    · obtain same | same := sameName unnamed
      · exact (same ▸ ofName).isIdentifier_iff
      · rw [same]
        decide
    · obtain ⟨declared, ofFunction, same⟩ := sameParameters parameter ofCallable
      exact (same ▸ ofParameters declared ofFunction).isIdentifier_iff
  · obtain ⟨block, isBlock, function, ofBlock, label⟩ := describes.labels label inside
    have written := (ImplItem.functions_isNamed (named _ listed) isBlock function ofBlock).name
    refine ⟨block, isBlock, function, ofBlock, fun unnamed unmarked => ?_⟩
    obtain same | same := label unnamed unmarked
    · exact written.isIdentifier_suffix (same ▸ List.suffix_rfl)
    · exact written.isIdentifier_suffix (same ▸ Accessor.shortened_suffix _ _)

/-- A parameter with the raw mark beside one without. -/
theorem takenNames_iff_bothForms :
    ∃ expansions, ofText "#[pyfunction] fn f(a: u8, r#in: u8);" = .ok expansions ∧
      ∃ expansion ∈ expansions, expansion.descriptor.callables.map CallableDescriptor.exposedNames = [["f", "a", "r#in"]] ∧
        ∃ items, ∀ callable ∈ expansion.descriptor.callables, ∃ function,
          Stems (Expansion.associated (Item.flattenAll items) expansion.item) expansion.item callable function ∧
          (expansion.item.LeavesUnnamed function →
            (isIdentifier callable.name.toList = true ↔ isRawIdentifier callable.name.toList = false)) ∧
          ∀ parameter ∈ callable.parameters,
            (isIdentifier parameter.name.toList = true ↔ isRawIdentifier parameter.name.toList = false) := by
  have passed : (ofText "#[pyfunction] fn f(a: u8, r#in: u8);").toOption.any (fun expansions =>
      expansions.any fun expansion =>
        expansion.descriptor.callables.map CallableDescriptor.exposedNames = [["f", "a", "r#in"]]) = true := by
    decide +kernel
  simp only [Option.any_eq_true, List.any_eq_true, Outcome.toOption_eq_some, decide_eq_true_eq] at passed
  obtain ⟨expansions, run, expansion, member, names⟩ := passed
  obtain ⟨items, -, ofCallables, -⟩ := takenNames_iff run member
  exact ⟨expansions, run, expansion, member, names, items, ofCallables⟩

/-- The raw mark of a parameter stays in front of its name. -/
theorem parameterName_of_rawMark :
    ∃ expansions, ofText "#[pyfunction] fn f(r#match: i32) \x7b\x7d" = .ok expansions ∧
      ∃ expansion ∈ expansions, ∃ callable ∈ expansion.descriptor.callables, ∃ parameter ∈ callable.parameters,
        parameter.name = "r#match" ∧ isIdentifier parameter.name.toList = false := by
  have passed : (ofText "#[pyfunction] fn f(r#match: i32) \x7b\x7d").toOption.any (fun expansions =>
      expansions.any fun expansion => decide (∃ callable ∈ expansion.descriptor.callables,
        ∃ parameter ∈ callable.parameters,
          parameter.name = "r#match" ∧ isIdentifier parameter.name.toList = false)) = true := by
    decide +kernel
  simp only [Option.any_eq_true, List.any_eq_true, Outcome.toOption_eq_some, decide_eq_true_eq] at passed
  exact passed

end Expansion

end Exposure
