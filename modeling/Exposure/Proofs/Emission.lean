import Exposure.Fragment
import Exposure.Proofs.TypeTexts

/-!
The code that registers a descriptor is read as one call of a code generator: its lines are loose text between brackets,
whatever texts the descriptor has, as long as its type texts are loose.
-/

namespace Exposure

/-! Values -/

namespace IsValue

theorem ofEncode (text : String) : IsValue (Literal.encode text) := by
  have literal : Loose true ((Literal.encode text).toList ++ []) := .literal .nil
  rwa [List.append_nil] at literal

theorem append {one two : String} (ofOne : IsValue one) (ofTwo : IsLoose two) : IsValue (one ++ two) := by
  rw [IsValue, String.toList_append]
  exact Loose.append ofOne ofTwo

/-- Values may be listed behind commas. -/
theorem commaList {texts : List String} (each : ∀ text ∈ texts, IsValue text) : IsValue (", ".intercalate texts) := by
  induction texts with
  | nil => exact .nil
  | cons first rest step =>
    obtain ⟨ofFirst, ofRest⟩ := List.forall_mem_cons.mp each
    cases rest with
    | nil =>
      rw [String.intercalate_singleton]
      exact ofFirst
    | cons second others =>
      have comma : Loose false [','] := .plain rfl .nil
      have listed := (Loose.append ofFirst comma).append_blank (step ofRest)
      have separator : ", ".toList = [','] ++ [' '] := rfl
      rw [String.intercalate_cons_cons, IsValue, String.toList_append, String.toList_append, separator]
      simpa only [List.append_assoc, List.cons_append, List.nil_append] using listed

theorem ofEncodeOption (text : Option String) : IsValue (Literal.encodeOption text) := by
  cases text with
  | none => exact (IsLoose.ofPlain rfl).isValue
  | some text =>
    have called := (IsLoose.ofPlain rfl : IsLoose "Some").append (.within .paren (ofEncode text))
    rw [← String.append_assoc, ← String.append_assoc] at called
    exact called.isValue

end IsValue

namespace Fragment

/-! Layouts -/

namespace Layout

/-- An opening and a closing line keep what stands between them loose. -/
def Encloses (opening closing : String) : Prop :=
  ∀ inside, Loose true inside → Loose true (opening.toList ++ (inside ++ closing.toList))

mutual

/-- Every line of a layout is loose, and its blocks are brackets around loose text. -/
def IsLoose : Layout → Prop
  | line text => IsValue text
  | block opening inside closing => Encloses opening closing ∧ AllLoose inside

/-- Every layout of a list is loose. -/
def AllLoose : List Layout → Prop
  | [] => True
  | first :: rest => first.IsLoose ∧ AllLoose rest

end

theorem allLoose_iff {layouts : List Layout} : AllLoose layouts ↔ ∀ layout ∈ layouts, layout.IsLoose := by
  induction layouts with
  | nil => simp [AllLoose]
  | cons first rest step => simp [AllLoose, step]

theorem AllLoose.append {one two : List Layout} (ofOne : AllLoose one) (ofTwo : AllLoose two) :
    AllLoose (one ++ two) :=
  allLoose_iff.mpr (List.forall_mem_append.mpr ⟨allLoose_iff.mp ofOne, allLoose_iff.mp ofTwo⟩)

/-- Lines behind each other, each on a line of its own behind blanks. -/
def spread (margin : List Char) (lines : List String) : List Char :=
  lines.flatMap fun line => '\n' :: (margin ++ line.toList)

theorem spread_append (margin : List Char) (one two : List String) :
    spread margin (one ++ two) = spread margin one ++ spread margin two := List.flatMap_append

/-- Indented lines stand behind a wider margin. -/
theorem spread_indent (margin : List Char) (lines : List String) :
    spread margin (lines.map indent) = spread (margin ++ "    ".toList) lines := by
  rw [spread, spread, List.flatMap_map]
  refine List.flatMap_congr fun line _ => ?_
  rw [indent, String.toList_append, List.append_assoc]

/-- A margin of blanks. -/
def IsMargin (margin : List Char) : Prop := margin ≠ [] ∧ ∀ char ∈ margin, char = ' '

theorem IsMargin.widen {margin : List Char} (isMargin : IsMargin margin) : IsMargin (margin ++ "    ".toList) := by
  have blanks : "    ".toList = List.replicate 4 ' ' := rfl
  rw [blanks]
  exact ⟨List.append_ne_nil_of_left_ne_nil isMargin.1 _,
    List.forall_mem_append.mpr ⟨isMargin.2, fun _ => List.eq_of_mem_replicate⟩⟩

theorem loose_behind_margin {margin : List Char} (isMargin : IsMargin margin) {text : List Char}
    (value : Loose true text) : Loose false (margin ++ text) := by
  obtain ⟨proper, blanks⟩ := isMargin
  induction margin with
  | nil => exact absurd rfl proper
  | cons first rest step =>
    obtain ⟨rfl, ofRest⟩ := List.forall_mem_cons.mp blanks
    cases rest with
    | nil => exact .plain rfl value
    | cons second others => exact .plain rfl (Loose.weaken (step (List.cons_ne_nil second others) ofRest))

mutual

/-- The lines of a loose layout are loose text behind any margin. -/
theorem spread_lines {margin : List Char} (isMargin : IsMargin margin) :
    (layout : Layout) → layout.IsLoose → Loose false (spread margin layout.lines)
  | line text, value => by
    have behind : Loose false (margin ++ text.toList) := loose_behind_margin isMargin value
    have alone : spread margin (lines (line text)) = '\n' :: (margin ++ text.toList) := List.append_nil _
    rw [alone]
    exact .plain rfl behind
  | block opening inside closing, loose => by
    have ofInside := spread_linesOfAll isMargin.widen inside loose.2
    have ofMargin : Loose false ('\n' :: margin) := by
      refine Loose.ofPlain (List.forall_mem_cons.mpr ⟨rfl, fun char member => ?_⟩)
      rw [isMargin.2 char member]
      rfl
    have enclosed := loose.1 _ (Loose.weaken (ofInside.append ofMargin))
    have whole : spread margin (lines (block opening inside closing)) =
        '\n' :: (margin ++ (opening.toList ++ ((spread (margin ++ "    ".toList) (linesOfAll inside) ++ '\n' :: margin) ++
          closing.toList))) := by
      rw [lines, List.cons_append, spread, List.flatMap_cons, ← spread, spread_append, spread_indent]
      simp [spread]
    rw [whole]
    exact .plain rfl (loose_behind_margin isMargin enclosed)

theorem spread_linesOfAll {margin : List Char} (isMargin : IsMargin margin) :
    (layouts : List Layout) → AllLoose layouts → Loose false (spread margin (linesOfAll layouts))
  | [], _ => .nil
  | first :: rest, loose => by
    rw [linesOfAll, spread_append]
    exact (spread_lines isMargin first loose.1).append (spread_linesOfAll isMargin rest loose.2)

end

/-- The first of some lines, and the others on lines of their own behind it. -/
theorem toList_intercalate_cons (first : String) (rest : List String) :
    ("\n".intercalate (first :: rest)).toList = first.toList ++ spread [] rest := by
  induction rest generalizing first with
  | nil => rw [String.intercalate_singleton, spread, List.flatMap_nil, List.append_nil]
  | cons second others step =>
    rw [String.intercalate_cons_cons, String.toList_append, String.toList_append, step, spread, spread,
      List.flatMap_cons, List.append_assoc]
    rfl

end Layout

/-! Fields -/

section Fields

variable {runtime : String} (ofRuntime : IsLoose runtime)

open Layout (Encloses AllLoose allLoose_iff)

/-- A line that gives a field a value. -/
theorem assign_isLoose {name value : String} (ofName : IsLoose name) (ofValue : IsValue value) :
    (assign name value).IsLoose := by
  have before := ofName.append (.ofPlain rfl : IsLoose ":")
  have after := ofValue.append (.ofPlain rfl : IsLoose ",")
  have given := Loose.append_blank before.isValue after
  have same : (name ++ ": " ++ value ++ ",").toList = (name ++ ":").toList ++ ' ' :: (value ++ ",").toList := by
    simp [String.toList_append]
  rw [assign, Layout.IsLoose, IsValue, same]
  exact given

/-- Lines enclose what stands between the bracket that the first ends with and the bracket that the last begins with. -/
theorem encloses {before after : String} (delimiter : Delimiter) (ofBefore : IsLoose before)
    (ofAfter : IsLoose after) : Encloses (before ++ delimiter.opening.text) (delimiter.closing.text ++ after) := by
  intro inside value
  rw [String.toList_append, String.toList_append, List.append_assoc]
  exact Loose.append ofBefore.isValue (.group delimiter value ofAfter)

theorem listField_isLoose {name : String} (ofName : IsLoose name) {elements : List Layout}
    (each : AllLoose elements) : (listField name elements).IsLoose := by
  have brackets := encloses .bracket (ofName.append (.ofPlain rfl : IsLoose ": &"))
    (.ofPlain rfl : IsLoose ",")
  rw [String.append_assoc] at brackets
  exact ⟨brackets, each⟩

theorem truth_isLoose (value : Bool) : IsLoose (truth value) := .ofPlain (by cases value <;> rfl)

theorem typeFields_isLoose {key identity : String} (ofKey : IsLoose key) (ofIdentity : IsLoose identity) (name : String)
    (module : Option String) (doc : String) : AllLoose (typeFields key identity name module doc) := by
  have ofType : IsLoose (typeIdentity identity) :=
    ((IsLoose.ofPlain rfl).append ofIdentity).append (.ofPlain rfl)
  exact ⟨assign_isLoose ofKey ofType.isValue, assign_isLoose (.ofPlain rfl) (.ofEncode _),
    assign_isLoose (.ofPlain rfl) (.ofEncodeOption _), assign_isLoose (.ofPlain rfl) (.ofEncode _), trivial⟩

theorem ofVariant_isLoose (variant : VariantDescriptor) : (ofVariant variant).IsLoose := by
  have listed : IsValue (", ".intercalate [Literal.encode variant.name, Literal.encode variant.value,
      Literal.encode variant.doc]) := by
    refine IsValue.commaList ?_
    simp only [List.mem_cons, List.not_mem_nil, or_false, forall_eq_or_imp, forall_eq]
    exact ⟨.ofEncode _, .ofEncode _, .ofEncode _⟩
  have after : IsLoose "," := .ofPlain rfl
  have tuple := (IsLoose.within .paren listed).append after
  rw [String.append_assoc] at tuple
  exact tuple.isValue

include ofRuntime

/-- A record of the runtime is loose where its fields are. -/
theorem record_isLoose {name : String} (ofName : IsLoose name) {fields : List Layout}
    (each : AllLoose fields) : (record runtime name fields).IsLoose := by
  have before := ((ofRuntime.append (.ofPlain rfl : IsLoose "::")).append ofName).append
    (.ofPlain rfl : IsLoose " ")
  have braces := encloses .brace before (.ofPlain rfl : IsLoose ",")
  rw [String.append_assoc] at braces
  exact ⟨braces, each⟩

theorem variantPath_isLoose {enumeration value : String} (ofEnumeration : IsLoose enumeration)
    (ofValue : IsLoose (RenameRule.rename (some .pascal) value)) : IsLoose (variantPath runtime enumeration value) :=
  (((ofRuntime.append (.ofPlain rfl)).append ofEnumeration).append (.ofPlain rfl)).append ofValue

theorem typeOutput_isLoose {signature : String} (ofSignature : IsLoose signature) :
    IsLoose (typeOutput runtime signature) := by
  unfold typeOutput
  split
  · exact ofRuntime.append (.ofPlain rfl)
  · split
    · exact ofRuntime.append (.ofPlain rfl)
    · exact ((((IsLoose.ofPlain rfl).append ofSignature).append (.ofPlain rfl)).append ofRuntime).append
        (.ofPlain rfl)

/-! Descriptors -/

theorem ofParameter_isLoose {parameter : ParameterDescriptor} (ofType : IsLoose parameter.typeSignature) :
    (ofParameter runtime parameter).IsLoose := by
  have ofKind : IsLoose (RenameRule.rename (some .pascal) parameter.passing.text) :=
    .ofPlain (by cases parameter.passing <;> rfl)
  refine record_isLoose ofRuntime (.ofPlain rfl) ?_
  exact ⟨assign_isLoose (.ofPlain rfl) (.ofEncode _),
    assign_isLoose (.ofPlain rfl) (variantPath_isLoose ofRuntime (.ofPlain rfl) ofKind).isValue,
    assign_isLoose (.ofPlain rfl) (typeOutput_isLoose ofRuntime ofType).isValue,
    assign_isLoose (.ofPlain rfl) (.ofEncodeOption _), trivial⟩

theorem callableFields_isLoose {callable : CallableDescriptor} (ofTypes : ∀ text ∈ callable.typeTexts, IsLoose text) :
    AllLoose (callableFields runtime callable) := by
  obtain ⟨ofReturn, ofParameters⟩ := List.forall_mem_cons.mp ofTypes
  have ofShape : IsLoose (RenameRule.rename (some .pascal) callable.shape.text) :=
    .ofPlain (by cases callable.shape <;> rfl)
  have listed : (listField "parameters" (callable.parameters.map (ofParameter runtime))).IsLoose :=
    listField_isLoose (.ofPlain rfl) (allLoose_iff.mpr (List.forall_mem_map.mpr fun parameter member =>
      ofParameter_isLoose ofRuntime (ofParameters _ (List.mem_map_of_mem member))))
  exact ⟨assign_isLoose (.ofPlain rfl) (.ofEncode _), listed,
    assign_isLoose (.ofPlain rfl) (typeOutput_isLoose ofRuntime ofReturn).isValue,
    assign_isLoose (.ofPlain rfl) (variantPath_isLoose ofRuntime (.ofPlain rfl) ofShape).isValue,
    assign_isLoose (.ofPlain rfl) (.ofEncode _), trivial⟩

theorem methodFields_isLoose (kind : MethodKind) {callable : CallableDescriptor}
    (ofTypes : ∀ text ∈ callable.typeTexts, IsLoose text) :
    AllLoose (methodFields runtime kind callable) := by
  have ofKind : IsLoose (RenameRule.rename (some .pascal) kind.text) := .ofPlain (by cases kind <;> rfl)
  refine (callableFields_isLoose ofRuntime ofTypes).append ⟨?_, trivial⟩
  exact assign_isLoose (.ofPlain rfl) (variantPath_isLoose ofRuntime (.ofPlain rfl) ofKind).isValue

theorem ofMethod_isLoose {method : MethodDescriptor} (ofTypes : ∀ text ∈ method.callable.typeTexts, IsLoose text) :
    (ofMethod runtime method).IsLoose :=
  record_isLoose ofRuntime (.ofPlain rfl) (methodFields_isLoose ofRuntime method.kind ofTypes)

theorem ofMember_isLoose {member : MemberDescriptor} (ofType : IsLoose member.typeSignature) :
    (ofMember runtime member).IsLoose := by
  refine record_isLoose ofRuntime (.ofPlain rfl) ?_
  exact ⟨assign_isLoose (.ofPlain rfl) (.ofEncode _),
    assign_isLoose (.ofPlain rfl) (typeOutput_isLoose ofRuntime ofType).isValue,
    assign_isLoose (.ofPlain rfl) (truth_isLoose member.readable).isValue,
    assign_isLoose (.ofPlain rfl) (truth_isLoose member.writable).isValue,
    assign_isLoose (.ofPlain rfl) (.ofEncode _), trivial⟩

theorem constructorField_isLoose {constructor : Option CallableDescriptor}
    (ofTypes : ∀ text ∈ constructor.toList.flatMap CallableDescriptor.typeTexts, IsLoose text) :
    (constructorField runtime constructor).IsLoose := by
  cases constructor with
  | none => exact assign_isLoose (.ofPlain rfl) (IsLoose.ofPlain rfl).isValue
  | some callable =>
    rw [Option.toList_some, List.flatMap_singleton] at ofTypes
    refine ⟨fun inside value => ?_, methodFields_isLoose ofRuntime .constructor ofTypes⟩
    -- the braces of the record stand between the parentheses of its option
    have ofName : IsLoose (runtime ++ "::MethodInfo ") := ofRuntime.append (.ofPlain rfl)
    have braces : Loose true ((runtime ++ "::MethodInfo \x7b").toList ++ (inside ++ "\x7d".toList)) := by
      have record := encloses .brace ofName (.ofPlain rfl : IsLoose "") inside value
      rw [String.append_assoc] at record
      exact record
    have before : IsLoose "constructor: Some" := .ofPlain rfl
    have after : IsLoose "," := .ofPlain rfl
    have parens := encloses .paren before after _ braces
    have opening : "constructor: Some(" ++ runtime ++ "::MethodInfo \x7b" =
        ("constructor: Some" ++ Delimiter.paren.opening.text) ++ (runtime ++ "::MethodInfo \x7b") := String.append_assoc
    have closing : "\x7d),".toList = "\x7d".toList ++ (Delimiter.paren.closing.text ++ ",").toList := rfl
    rw [opening, closing, String.toList_append]
    simpa only [List.append_assoc] using parens

/-- The record of a descriptor with loose type texts has loose fields. -/
theorem fields_isLoose {descriptor : Descriptor} (ofTypes : ∀ text ∈ descriptor.typeTexts, IsLoose text) :
    AllLoose (fields runtime descriptor) := by
  have members {listed : List MemberDescriptor} (each : ∀ member ∈ listed, IsLoose member.typeSignature) :
      AllLoose (listed.map (ofMember runtime)) :=
    allLoose_iff.mpr (List.forall_mem_map.mpr fun member inside => ofMember_isLoose ofRuntime (each member inside))
  cases descriptor with
  | ofClass item =>
    obtain ⟨ofIdentity, ofRest⟩ := List.forall_mem_cons.mp ofTypes
    obtain ⟨ofMembers, ofConstructor⟩ := List.forall_mem_append.mp ofRest
    have flags : IsValue ("&[" ++ ", ".intercalate (item.flags.map Literal.encode) ++ "]") := by
      have listed : IsValue (", ".intercalate (item.flags.map Literal.encode)) :=
        IsValue.commaList (List.forall_mem_map.mpr fun _ _ => .ofEncode _)
      have before : IsLoose "&" := .ofPlain rfl
      have list := before.append (.within .bracket listed)
      rw [← String.append_assoc, ← String.append_assoc] at list
      exact list.isValue
    refine (typeFields_isLoose (.ofPlain rfl) ofIdentity _ _ _).append ?_
    exact ⟨assign_isLoose (.ofPlain rfl) (.ofEncodeOption _),
      listField_isLoose (.ofPlain rfl) (members (List.forall_mem_map.mp ofMembers)),
      constructorField_isLoose ofRuntime ofConstructor, assign_isLoose (.ofPlain rfl) flags, trivial⟩
  | ofEnum item =>
    have ofIdentity : IsLoose item.sourceIdentity := ofTypes _ (List.mem_singleton.mpr rfl)
    have variants : AllLoose (item.variants.map ofVariant) :=
      allLoose_iff.mpr (List.forall_mem_map.mpr fun variant _ => ofVariant_isLoose variant)
    refine (typeFields_isLoose (.ofPlain rfl) ofIdentity _ _ _).append ?_
    exact ⟨listField_isLoose (.ofPlain rfl) variants, trivial⟩
  | ofMethods block =>
    obtain ⟨ofIdentity, ofRest⟩ := List.forall_mem_cons.mp ofTypes
    obtain ⟨ofMethods, ofMembers⟩ := List.forall_mem_append.mp ofRest
    obtain ⟨ofProperties, ofAttributes⟩ := List.forall_mem_append.mp (List.forall_mem_map.mp ofMembers)
    have ofType : IsLoose (typeIdentity block.targetIdentity) :=
      ((IsLoose.ofPlain rfl).append ofIdentity).append (.ofPlain rfl)
    have methods : AllLoose (block.methods.map (ofMethod runtime)) :=
      allLoose_iff.mpr (List.forall_mem_map.mpr fun method inside =>
        ofMethod_isLoose ofRuntime fun text member => ofMethods text (List.mem_flatMap.mpr ⟨method, inside, member⟩))
    exact ⟨assign_isLoose (.ofPlain rfl) ofType.isValue, listField_isLoose (.ofPlain rfl) methods,
      listField_isLoose (.ofPlain rfl) (members ofProperties),
      listField_isLoose (.ofPlain rfl) (members ofAttributes), trivial⟩
  | ofFunction item =>
    refine (callableFields_isLoose ofRuntime ofTypes).append ?_
    exact ⟨assign_isLoose (.ofPlain rfl) (.ofEncodeOption _), trivial⟩

end Fields

end Fragment

end Exposure
