import Exposure.Proofs.Merging
import Exposure.Proofs.Relocation

/-!
# Where the options of a function are written

The name and the signature of a function may be written in its tag or beside it. `Vocabulary.shared` are these two options,
and `FunctionItem.Extends` says that a function is another one with further options in its tag and beside it. The function is
described as its options of both places together ask, so it does not matter which of the two places an option stands in.
-/

namespace Exposure

open OptionPairs (keyOf? Reads)

/-! The options of both places -/

/-- The options that may stand in the tag of a function and beside it. -/
def Vocabulary.shared : Vocabulary := [.name, .signature]

/-- A piece begins with a key that may stand in the tag of a function and beside it. -/
def IsShared (piece : List TokenTree) : Prop := ∃ key ∈ Vocabulary.shared, keyOf? piece = some key.text

/-- A piece writes a signature or a name, but not the empty name. -/
def IsMovable (piece : List TokenTree) : Prop := IsShared piece ∧ ¬ Reads .shared piece .name (.text "")

namespace Vocabulary

variable {vocabulary : Vocabulary} {pieces pieces' : List (List TokenTree)} {options : Options}

theorem mem_shared (key : OptionKey) : key ∈ shared ↔ key = .name ∨ key = .signature := by simp [shared]

/-- The keys of shared pieces are shared. -/
theorem mem_shared_of_mem (only : ∀ piece ∈ pieces, IsShared piece) {key : OptionKey}
    (member : some key.text ∈ pieces.map keyOf?) : key ∈ shared := by
  obtain ⟨piece, inside, keyed⟩ := List.mem_map.mp member
  obtain ⟨other, isShared, keyed'⟩ := only piece inside
  exact OptionKey.some_text_injective (keyed.symm.trans keyed') ▸ isShared

/-- Shared pieces give nothing but a name and a signature. -/
theorem Gives.holds_of_shared (gives : vocabulary.Gives pieces options) (only : ∀ piece ∈ pieces, IsShared piece)
    {key : OptionKey} (isKept : key ≠ .default) (other : key ∉ shared) : options.holds key = false := by
  rw [Bool.eq_false_iff]
  exact fun holds => other (mem_shared_of_mem only ((gives.holds_iff isKept).mp holds))

theorem ne_default_of_mem_shared {key : OptionKey} (isShared : key ∈ shared) : key ≠ .default := by
  rintro rfl
  simp [shared] at isShared

/-- Other pieces give neither a name nor a signature. -/
theorem Gives.holds_of_free (gives : vocabulary.Gives pieces options) (free : ∀ piece ∈ pieces, ¬ IsShared piece)
    {key : OptionKey} (isShared : key ∈ shared) : options.holds key = false := by
  rw [Bool.eq_false_iff]
  intro holds
  obtain ⟨piece, inside, keyed⟩ := List.mem_map.mp ((gives.holds_iff (ne_default_of_mem_shared isShared)).mp holds)
  exact free piece inside ⟨key, isShared, keyed⟩

/-- Options that give no name and no signature leave those of others. -/
theorem Gives.merge_of_free (gives : vocabulary.Gives pieces options) (free : ∀ piece ∈ pieces, ¬ IsShared piece)
    (other : Options) : (options.merge other).name = other.name ∧ (options.merge other).signature = other.signature := by
  have noName : options.holds .name = false := gives.holds_of_free free (by decide)
  have noSignature : options.holds .signature = false := gives.holds_of_free free (by decide)
  simp only [Options.holds, Option.isSome_eq_false_iff, Option.isNone_iff_eq_none] at noName noSignature
  simp [noName, noSignature]

/-- Shared pieces leave the module and the switches of others. -/
theorem Gives.merge_of_shared (gives : vocabulary.Gives pieces options) (only : ∀ piece ∈ pieces, IsShared piece)
    (other : Options) :
    (other.merge options).module = other.module ∧ ∀ flag, (other.merge options).has flag = other.has flag := by
  have noModule : options.holds .module = false := gives.holds_of_shared only (by decide) (by decide)
  have noFlag (flag : Flag) : options.holds (.flag flag) = false :=
    gives.holds_of_shared only (by simp) (by simp [shared])
  simp only [Options.holds, Option.isSome_eq_false_iff, Option.isNone_iff_eq_none] at noModule noFlag
  simp [noModule, noFlag]

/-- Behind pieces that are not shared, shared ones add what they give by themselves. -/
theorem gives_append_shared_iff (wide : ∀ key ∈ shared, vocabulary.find? key.text = shared.find? key.text)
    (free : ∀ piece ∈ pieces, ¬ IsShared piece) (only : ∀ piece ∈ pieces', IsShared piece) :
    vocabulary.Gives (pieces ++ pieces') options ↔
      ∃ one other, vocabulary.Gives pieces one ∧ shared.Gives pieces' other ∧ options = one.merge other := by
  have same : ∀ piece ∈ pieces', ∀ text, keyOf? piece = some text → vocabulary.find? text = shared.find? text := by
    intro piece inside text keyed
    obtain ⟨key, isShared, keyed'⟩ := only piece inside
    obtain rfl := Option.some.inj (keyed'.symm.trans keyed)
    exact wide key isShared
  have apart : (pieces.map keyOf?).Disjoint (pieces'.map keyOf?) := by
    intro key ofOne ofOther
    obtain ⟨piece, inside, rfl⟩ := List.mem_map.mp ofOne
    obtain ⟨piece', inside', keyed⟩ := List.mem_map.mp ofOther
    obtain ⟨key, isShared, keyed'⟩ := only piece' inside'
    exact free piece inside ⟨key, isShared, keyed ▸ keyed'⟩
  rw [gives_append_iff]
  refine exists_congr fun one => exists_congr fun other => and_congr_right fun _ => ?_
  constructor
  · rintro ⟨gives, -, merged⟩
    exact ⟨gives.congr same, merged⟩
  · rintro ⟨gives, merged⟩
    exact ⟨gives.congr fun piece inside text keyed => (same piece inside text keyed).symm, apart, merged⟩

/-- Shared pieces of two places give their options together if neither key is written in both. -/
theorem shared_gives_append_iff (only : ∀ piece ∈ pieces, IsShared piece) :
    shared.Gives (pieces ++ pieces') options ↔
      ∃ one other, shared.Gives pieces one ∧ shared.Gives pieces' other ∧
        (one.name.isSome && other.name.isSome) = false ∧ (one.signature.isSome && other.signature.isSome) = false ∧
        options = one.merge other := by
  rw [gives_append_iff]
  refine exists_congr fun one => exists_congr fun other => and_congr_right fun ofOne => and_congr_right fun ofOther => ?_
  rw [← and_assoc]
  refine and_congr_left fun _ => ?_
  have holds (key : OptionKey) (isShared : key ∈ shared) : (one.holds key && other.holds key) = true ↔
      some key.text ∈ pieces.map keyOf? ∧ some key.text ∈ pieces'.map keyOf? := by
    have isKept := ne_default_of_mem_shared isShared
    rw [Bool.and_eq_true, ofOne.holds_iff isKept, ofOther.holds_iff isKept]
  constructor
  · intro apart
    have none (key : OptionKey) (isShared : key ∈ shared) : (one.holds key && other.holds key) = false := by
      rw [Bool.eq_false_iff, ne_eq, holds key isShared]
      exact fun both => apart both.1 both.2
    exact ⟨none .name (by simp [shared]), none .signature (by simp [shared])⟩
  · rintro ⟨names, signatures⟩ written ofPieces ofOthers
    obtain ⟨piece, inside, keyed⟩ := List.mem_map.mp ofPieces
    obtain ⟨key, isShared, keyed'⟩ := only piece inside
    obtain rfl := keyed.symm.trans keyed'
    have both := (holds key isShared).mpr ⟨ofPieces, ofOthers⟩
    rcases (mem_shared key).mp isShared with rfl | rfl
    · exact Bool.false_ne_true (names.symm.trans both)
    · exact Bool.false_ne_true (signatures.symm.trans both)

end Vocabulary

/-! Attributes of a function -/

namespace Attribute

/-- The pieces of all attributes of a name. -/
def piecesOf (name : String) (attributes : List Attribute) : List (List TokenTree) :=
  (withName name attributes).flatMap fun attr => TokenTree.splitAtCommas attr.arguments

/-- An attribute does not hold options of a function. -/
def isOther (attr : Attribute) : Bool := attr.name ≠ "pyfunction" && attr.name ≠ "pyo3"

/-- The attributes that do not hold options of a function. -/
def others (attributes : List Attribute) : List Attribute := attributes.filter isOther

theorem piecesOf_unplaced (name : String) (attributes : List Attribute) :
    piecesOf name (unplaced attributes) = unplaced (piecesOf name attributes) := by
  rw [piecesOf, withName_unplaced]
  show List.flatMap _ (List.map unplaced _) = List.map unplaced (List.flatMap _ _)
  rw [List.flatMap_map, List.map_flatMap]
  refine List.flatMap_congr fun attr _ => ?_
  rw [arguments_unplaced, TokenTree.splitAtCommas_unplaced]
  rfl

theorem others_unplaced (attributes : List Attribute) : others (unplaced attributes) = unplaced (others attributes) :=
  filter_unplaced (fun _ => rfl) attributes

end Attribute

namespace Documentation

/-- Attributes that add no lines may be left out. -/
theorem ofAttributes_filter {keeps : Attribute → Bool} (silent : ∀ attr, keeps attr = false → linesOf attr = .ok [])
    (attributes : List Attribute) : ofAttributes (attributes.filter keeps) = ofAttributes attributes := by
  have lines : List.flatten <$> (attributes.filter keeps).mapM linesOf = List.flatten <$> attributes.mapM linesOf := by
    induction attributes with
    | nil => rfl
    | cons first rest again =>
      have step (others : List Attribute) : List.flatten <$> (first :: others).mapM linesOf =
          linesOf first >>= fun one => (one ++ ·) <$> (List.flatten <$> others.mapM linesOf) := by
        simp
      cases kept : keeps first with
      | true => rw [List.filter_cons_of_pos kept, step, step, again]
      | false =>
        rw [List.filter_cons_of_neg (by simp [kept]), step, silent first kept, again]
        exact (id_map' (List.flatten <$> rest.mapM linesOf)).symm
  have joined (attributes : List Attribute) :
      ofAttributes attributes = "\n".intercalate <$> (List.flatten <$> attributes.mapM linesOf) := by
    rw [ofAttributes, ← comp_map, ← bind_pure_comp]
    rfl
  rw [joined, joined, lines]

theorem ofAttributes_others (attributes : List Attribute) :
    ofAttributes (Attribute.others attributes) = ofAttributes attributes := by
  refine ofAttributes_filter (fun attr noOther => ?_) attributes
  have noDoc : attr.name ≠ "doc" := by
    intro same
    simp [Attribute.isOther, same] at noOther
  unfold linesOf
  split
  · rw [if_pos noDoc]
  · rfl

end Documentation

namespace Signature

/-- An analysis asks the options for the override and for the recorded default texts only. -/
theorem analyze_congr {parameters : List Parameter} {one other : Options} {owner : Option String}
    (signatures : one.signature = other.signature) (defaults : one.defaults = other.defaults) :
    analyze parameters one owner = analyze parameters other owner := by
  obtain ⟨name, module, flags, signature, base, renameAll, texts⟩ := one
  obtain ⟨name', module', flags', signature', base', renameAll', texts'⟩ := other
  obtain rfl : signature = signature' := signatures
  obtain rfl : texts = texts' := defaults
  -- The recorded texts are those of the options and the stub attributes, so they are read before the sides can be compared.
  simp only [analyze, withStubDefaults, bind_assoc, pure_bind]
  cases signature with
  | none => rfl
  | some entries => rfl

end Signature

namespace Expansion

variable {function : FunctionItem} {tag : Attribute}

/-- The tag of a function is the only one, if no other attribute is a tag. -/
theorem tag?_function_eq_ok_iff (oneTag : Attribute.withName "pyfunction" function.header.attributes = [tag])
    {found : Option Attribute} :
    tag? (.functionItem function) = .ok found ↔
      (∀ attr ∈ Attribute.others function.header.attributes, attr.name ∉ tags) ∧ found = some tag := by
  have listed : tag ∈ Attribute.withName "pyfunction" function.header.attributes := oneTag ▸ List.mem_singleton_self tag
  obtain ⟨inside, named⟩ := List.mem_filter.mp listed
  rw [decide_eq_true_eq] at named
  have isTag : tag ∈ function.header.attributes.filter fun attr => tags.contains attr.name :=
    List.mem_filter.mpr ⟨inside, named ▸ by decide⟩
  constructor
  · intro run
    cases found with
    | none => exact absurd (tag?_eq_none run ▸ isTag) List.not_mem_nil
    | some only =>
      have alone : function.header.attributes.filter (fun attr => tags.contains attr.name) = [only] := tag?_eq_some run
      obtain rfl : tag = only := List.mem_singleton.mp (alone ▸ isTag)
      refine ⟨fun attr member isTag' => ?_, rfl⟩
      obtain ⟨inside', isOther⟩ := List.mem_filter.mp member
      have again : attr ∈ function.header.attributes.filter fun attr => tags.contains attr.name :=
        List.mem_filter.mpr ⟨inside', List.contains_iff_mem.mpr isTag'⟩
      obtain rfl : attr = tag := List.mem_singleton.mp (alone ▸ again)
      simp [Attribute.isOther, named] at isOther
  · rintro ⟨apart, rfl⟩
    have alone : function.header.attributes.filter (fun attr => tags.contains attr.name) = [tag] := by
      rw [← oneTag]
      refine List.filter_congr fun attr inside => ?_
      by_cases isFunction : attr.name = "pyfunction"
      · simp [isFunction, tags]
      · by_cases isOther : attr.name = "pyo3"
        · simp [isOther, tags]
        · have noTag := apart attr (List.mem_filter.mpr ⟨inside, by simp [Attribute.isOther, isFunction, isOther]⟩)
          simpa [isFunction] using noTag
    have attributes : (Item.functionItem function).attributes = function.header.attributes := rfl
    rw [tag?, attributes, alone]

theorem describe?_function_eq_ok_iff {associated : List FunctionItem}
    (oneTag : Attribute.withName "pyfunction" function.header.attributes = [tag]) {found : Option Descriptor} :
    describe? associated (.functionItem function) = .ok found ↔
      (∀ attr ∈ Attribute.others function.header.attributes, attr.name ∉ tags) ∧ ∃ options descriptor,
        Options.ofLists .ofFunctionTag [tag.arguments] = .ok options ∧
          FunctionDescriptor.ofFunction function options = .ok descriptor ∧ some (.ofFunction descriptor) = found := by
  have named : tag.name = "pyfunction" := by
    simpa using (List.mem_filter.mp (oneTag ▸ List.mem_singleton_self tag :
      tag ∈ Attribute.withName "pyfunction" function.header.attributes)).2
  simp only [describe?, Outcome.bind_eq_ok, tag?_function_eq_ok_iff oneTag]
  constructor
  · rintro ⟨_, ⟨apart, rfl⟩, run⟩
    simp only [named, String.reduceEq, if_false, Outcome.map_eq_ok, ofFunctionTag, Outcome.bind_eq_ok,
      Item.function?] at run
    obtain ⟨_, ⟨options, read, descriptor, described, rfl⟩, rfl⟩ := run
    exact ⟨apart, options, descriptor, read, described, rfl⟩
  · rintro ⟨apart, options, descriptor, read, described, rfl⟩
    refine ⟨some tag, ⟨apart, rfl⟩, ?_⟩
    simp only [named, String.reduceEq, if_false, Outcome.map_eq_ok, ofFunctionTag, Outcome.bind_eq_ok, Item.function?]
    exact ⟨_, ⟨options, read, descriptor, described, rfl⟩, rfl⟩

end Expansion

/-! Descriptions of functions -/

/-- The description of a function under a name and a module, with or without an override; the first of its parameters may
stand for the module. -/
def FunctionItem.IsDescribed (function : FunctionItem) (name : String) (module : Option String) (passModule : Bool)
    (override : Option (List SignatureEntry)) (descriptor : FunctionDescriptor) : Prop :=
  ∃ signature, Signature.analyze
      (if passModule then CallableDescriptor.dropFirstVisible function.parameters else function.parameters)
      { Options.empty with signature := override } none = .ok signature ∧
    ∃ doc, Documentation.ofAttributes (Attribute.others function.header.attributes) = .ok doc ∧
      ⟨⟨name, signature.parameters, CallableDescriptor.returnSignature none function, doc, signature.shape⟩, module,
        function.name⟩ = descriptor

theorem FunctionItem.IsDescribed.congr {one two : FunctionItem} {name : String} {module : Option String}
    {passModule : Bool} {override : Option (List SignatureEntry)} {descriptor : FunctionDescriptor}
    (described : one.IsDescribed name module passModule override descriptor) (names : one.name = two.name)
    (parameters : one.parameters = two.parameters) (returnTypes : one.returnType = two.returnType)
    (others : Attribute.others one.header.attributes = Attribute.others two.header.attributes) :
    two.IsDescribed name module passModule override descriptor := by
  obtain ⟨signature, analysed, doc, documented, rfl⟩ := described
  refine ⟨signature, parameters ▸ analysed, doc, others ▸ documented, ?_⟩
  rw [CallableDescriptor.returnSignature, CallableDescriptor.returnSignature, names, returnTypes]

namespace FunctionDescriptor

variable {function : FunctionItem} {tag : Attribute} {descriptor : FunctionDescriptor}

/-- A function is described under the options of its tag and those beside it, if these repeat neither the name nor the
signature. -/
theorem ofFunction_iff_isDescribed {options : Options} :
    ofFunction function options = .ok descriptor ↔
      ∃ own, Vocabulary.ofFunction.Gives (Attribute.piecesOf "pyo3" function.header.attributes) own ∧
        (options.name.isSome && own.name.isSome) = false ∧
        (options.signature.isSome && own.signature.isSome) = false ∧
        function.IsDescribed (options.name.getD (own.nameOr function.name)) options.module (own.has .passModule)
          (options.signature.or own.signature) descriptor := by
  have given (own : Options) : CallableDescriptor.optionsOf function = .ok own ↔
      Vocabulary.ofFunction.Gives (Attribute.piecesOf "pyo3" function.header.attributes) own := by
    rw [CallableDescriptor.optionsOf, Options.ofAttributes, Options.ofLists_eq_ok_iff, List.nil_append, List.flatMap_map]
    rfl
  rw [ofFunction_eq_ok_iff]
  simp only [given]
  refine exists_congr fun own => and_congr_right fun gives => and_congr_right fun _ => and_congr_right fun _ => ?_
  have analysed (parameters : List Parameter) :
      Signature.analyze parameters { own with signature := options.signature.or own.signature } none =
        Signature.analyze parameters { Options.empty with signature := options.signature.or own.signature } none :=
    Signature.analyze_congr rfl gives.defaults_eq
  simp only [analysed, FunctionItem.IsDescribed, Documentation.ofAttributes_others]

end FunctionDescriptor

/-- The first name of two counts, unless the second is empty. -/
theorem Options.getD_nameOr {name : Option String} {own : Options} (proper : own.name ≠ some "") (fallback : String) :
    name.getD (own.nameOr fallback) = (name.or own.name).getD fallback := by
  cases name with
  | some name => rfl
  | none =>
    cases named : own.name with
    | none => simp [nameOr, named]
    | some name =>
      have nonempty : name ≠ "" := fun same => proper (named.trans (congrArg some same))
      simp [nameOr, named, nonempty]

namespace Expansion

variable {function : FunctionItem} {tag : Attribute} {associated : List FunctionItem}
  {ofTag own inTag beside : List (List TokenTree)}

/-- Options of both places ask what the shared ones among them ask together. -/
theorem isDescribed_merge_iff {one two first second : Options} {descriptor : FunctionDescriptor}
    (ofOne : Vocabulary.ofFunctionTag.Gives ofTag one) (ofTwo : Vocabulary.ofFunction.Gives own two)
    (ofFirst : Vocabulary.shared.Gives inTag first) (ofSecond : Vocabulary.shared.Gives beside second)
    (free : ∀ piece ∈ ofTag ++ own, ¬ IsShared piece) (movable : ∀ piece ∈ inTag ++ beside, IsMovable piece) :
    ((one.merge first).name.isSome && (two.merge second).name.isSome) = false ∧
        ((one.merge first).signature.isSome && (two.merge second).signature.isSome) = false ∧
        function.IsDescribed ((one.merge first).name.getD ((two.merge second).nameOr function.name))
          (one.merge first).module ((two.merge second).has .passModule)
          ((one.merge first).signature.or (two.merge second).signature) descriptor ↔
      (first.name.isSome && second.name.isSome) = false ∧ (first.signature.isSome && second.signature.isSome) = false ∧
        function.IsDescribed ((first.merge second).name.getD function.name) one.module (two.has .passModule)
          (first.merge second).signature descriptor := by
  obtain ⟨freeTag, freeOwn⟩ := List.forall_mem_append.mp free
  obtain ⟨onlyTag, onlyBeside⟩ := List.forall_mem_append.mp fun piece member => (movable piece member).1
  obtain ⟨nameTag, signatureTag⟩ := ofOne.merge_of_free freeTag first
  obtain ⟨nameOwn, signatureOwn⟩ := ofTwo.merge_of_free freeOwn second
  have named : (two.merge second).name ≠ some "" := by
    intro empty
    obtain ⟨piece, inside, reads⟩ := ofSecond.exists_reads_name (nameOwn ▸ empty)
    exact (movable piece (List.mem_append_right _ inside)).2 reads
  -- The options of one place only hold no name and no signature, and the shared ones nothing else.
  rw [Options.getD_nameOr named, nameTag, nameOwn, signatureTag, signatureOwn,
    (ofFirst.merge_of_shared onlyTag one).1, (ofSecond.merge_of_shared onlyBeside two).2, Options.merge_name,
    Options.merge_signature]

/-- A function is described as the options of both places together ask: those of the tag only, those beside it only, and
those that may stand in either place. -/
theorem describe?_together_iff (oneTag : Attribute.withName "pyfunction" function.header.attributes = [tag])
    (tagged : (ofTag ++ inTag).Perm (Attribute.piecesOf "pyfunction" function.header.attributes))
    (owned : (own ++ beside).Perm (Attribute.piecesOf "pyo3" function.header.attributes))
    (free : ∀ piece ∈ ofTag ++ own, ¬ IsShared piece) (movable : ∀ piece ∈ inTag ++ beside, IsMovable piece)
    {found : Option Descriptor} :
    describe? associated (.functionItem function) = .ok found ↔
      (∀ attr ∈ Attribute.others function.header.attributes, attr.name ∉ tags) ∧ ∃ one two both descriptor,
        Vocabulary.ofFunctionTag.Gives ofTag one ∧ Vocabulary.ofFunction.Gives own two ∧
          Vocabulary.shared.Gives (inTag ++ beside) both ∧
          function.IsDescribed (both.name.getD function.name) one.module (two.has .passModule) both.signature descriptor ∧
          some (.ofFunction descriptor) = found := by
  obtain ⟨freeTag, freeOwn⟩ := List.forall_mem_append.mp free
  obtain ⟨onlyTag, onlyBeside⟩ := List.forall_mem_append.mp fun piece member => (movable piece member).1
  have read (options : Options) : Options.ofLists .ofFunctionTag [tag.arguments] = .ok options ↔
      ∃ one first, Vocabulary.ofFunctionTag.Gives ofTag one ∧ Vocabulary.shared.Gives inTag first ∧
        options = one.merge first := by
    have whole : Attribute.piecesOf "pyfunction" function.header.attributes =
        [tag.arguments].flatMap TokenTree.splitAtCommas := by
      rw [Attribute.piecesOf, oneTag]
      rfl
    rw [Options.ofLists_eq_ok_iff, ← whole, ← Vocabulary.gives_append_shared_iff (by decide) freeTag onlyTag]
    exact ⟨fun gives => gives.perm tagged.symm, fun gives => gives.perm tagged⟩
  have readOwn (options : Options) :
      Vocabulary.ofFunction.Gives (Attribute.piecesOf "pyo3" function.header.attributes) options ↔
        ∃ two second, Vocabulary.ofFunction.Gives own two ∧ Vocabulary.shared.Gives beside second ∧
          options = two.merge second := by
    rw [← Vocabulary.gives_append_shared_iff (by decide) freeOwn onlyBeside]
    exact ⟨fun gives => gives.perm owned.symm, fun gives => gives.perm owned⟩
  rw [describe?_function_eq_ok_iff oneTag]
  refine and_congr_right fun _ => ?_
  simp only [read, readOwn, FunctionDescriptor.ofFunction_iff_isDescribed, Vocabulary.shared_gives_append_iff onlyTag]
  constructor
  · rintro ⟨_, descriptor, ⟨one, first, ofOne, ofFirst, rfl⟩, ⟨_, ⟨two, second, ofTwo, ofSecond, rfl⟩, asked⟩, rfl⟩
    obtain ⟨names, signatures, described⟩ :=
      (isDescribed_merge_iff ofOne ofTwo ofFirst ofSecond free movable).mp asked
    exact ⟨one, two, _, descriptor, ofOne, ofTwo, ⟨first, second, ofFirst, ofSecond, names, signatures, rfl⟩, described,
      rfl⟩
  · rintro ⟨one, two, _, descriptor, ofOne, ofTwo, ⟨first, second, ofFirst, ofSecond, names, signatures, rfl⟩, described,
      rfl⟩
    have asked := (isDescribed_merge_iff ofOne ofTwo ofFirst ofSecond free movable).mpr ⟨names, signatures, described⟩
    exact ⟨_, descriptor, ⟨one, first, ofOne, ofFirst, rfl⟩, ⟨_, ⟨two, second, ofTwo, ofSecond, rfl⟩, asked⟩, rfl⟩

/-- A function with a key in both places is at fault. -/
theorem describe?_of_twice (oneTag : Attribute.withName "pyfunction" function.header.attributes = [tag]) {key : OptionKey}
    (isShared : key ∈ Vocabulary.shared)
    (tagged : some key.text ∈ (Attribute.piecesOf "pyfunction" function.header.attributes).map keyOf?)
    (owned : some key.text ∈ (Attribute.piecesOf "pyo3" function.header.attributes).map keyOf?) :
    (describe? associated (.functionItem function)).toOption = none := by
  rw [Option.eq_none_iff_forall_ne_some]
  intro found run
  rw [Outcome.toOption_eq_some, describe?_function_eq_ok_iff oneTag] at run
  obtain ⟨-, options, descriptor, read, described, -⟩ := run
  obtain ⟨own, ofOwn, names, signatures, -⟩ := FunctionDescriptor.ofFunction_iff_isDescribed.mp described
  have ofTag : Vocabulary.ofFunctionTag.Gives (Attribute.piecesOf "pyfunction" function.header.attributes) options := by
    rw [Attribute.piecesOf, oneTag]
    exact Options.ofLists_eq_ok_iff.mp read
  have isKept := Vocabulary.ne_default_of_mem_shared isShared
  have both : (options.holds key && own.holds key) = true := by
    rw [(ofTag.holds_iff isKept).mpr tagged, (ofOwn.holds_iff isKept).mpr owned, Bool.and_self]
  rcases (Vocabulary.mem_shared key).mp isShared with rfl | rfl
  · exact Bool.false_ne_true (names.symm.trans both)
  · exact Bool.false_ne_true (signatures.symm.trans both)

end Expansion

/-! Moving options -/

namespace OptionPairs

theorem keyOf?_unplaced (piece : List TokenTree) : keyOf? (unplaced piece) = keyOf? piece := by
  cases piece with
  | nil => rfl
  | cons first rest =>
    show (SignatureEntry.ident? (unplaced first)).map (·.text) = (SignatureEntry.ident? first).map (·.text)
    rw [SignatureEntry.ident?_unplaced, Option.map_map]
    rfl

theorem reads_of_unplaced {vocabulary : Vocabulary} {piece : List TokenTree} {key : OptionKey} {text : String}
    (reads : Reads vocabulary (unplaced piece) key (.text text)) : Reads vocabulary piece key (.text text) := by
  cases piece with
  | nil => cases reads
  | cons first rest =>
    have added : addPiece vocabulary [] (unplaced (first :: rest)) = .ok [(key, .text text)] :=
      (addPiece_eq_ok_iff (List.cons_ne_nil _ _)).mpr ⟨(key, .text text), reads, List.not_mem_nil, rfl⟩
    obtain ⟨pairs, run, same⟩ := (addPiece_carries vocabulary [] (first :: rest)).exists_of_eq_ok added
    obtain ⟨⟨key', value⟩, reads', -, rfl⟩ := (addPiece_eq_ok_iff (List.cons_ne_nil _ _)).mp run
    obtain ⟨rfl, given⟩ := Prod.mk.inj (show (key, .text text) = (key', unplaced value) from List.singleton_inj.mp same)
    cases value with
    | text text' => exact given ▸ reads'
    | _ => cases given

end OptionPairs

theorem isShared_unplaced (piece : List TokenTree) : IsShared (unplaced piece) ↔ IsShared piece := by
  rw [IsShared, OptionPairs.keyOf?_unplaced, IsShared]

theorem IsMovable.unplaced {piece : List TokenTree} (movable : IsMovable piece) : IsMovable (unplaced piece) :=
  ⟨(isShared_unplaced piece).mpr movable.1, mt OptionPairs.reads_of_unplaced movable.2⟩

/-- The same pieces, but for their places and their order. -/
def SamePieces (pieces pieces' : List (List TokenTree)) : Prop := (unplaced pieces).Perm (unplaced pieces')

theorem SamePieces.keys {pieces pieces' : List (List TokenTree)} (same : SamePieces pieces pieces') :
    (pieces.map keyOf?).Perm (pieces'.map keyOf?) := by
  have keys (pieces : List (List TokenTree)) : (unplaced pieces).map keyOf? = pieces.map keyOf? := by
    show (pieces.map unplaced).map keyOf? = _
    rw [List.map_map]
    exact List.map_congr_left fun piece _ => OptionPairs.keyOf?_unplaced piece
  exact keys pieces ▸ keys pieces' ▸ same.map keyOf?

namespace FunctionItem

/-- A function has none of the options that may stand in its tag and beside it. -/
def IsBare (function : FunctionItem) : Prop :=
  ∀ piece ∈ Attribute.piecesOf "pyfunction" function.header.attributes ++
    Attribute.piecesOf "pyo3" function.header.attributes, ¬ IsShared piece

/-- A function with a tag is another one, but for places and for further pieces in its tag and beside it. -/
structure Extends (function base : FunctionItem) (inTag beside : List (List TokenTree)) : Prop where
  oneTag : ∃ tag, Attribute.withName "pyfunction" function.header.attributes = [tag]
  tagged : SamePieces (Attribute.piecesOf "pyfunction" base.header.attributes ++ inTag)
    (Attribute.piecesOf "pyfunction" function.header.attributes)
  owned : SamePieces (Attribute.piecesOf "pyo3" base.header.attributes ++ beside)
    (Attribute.piecesOf "pyo3" function.header.attributes)
  others : SameButPlaces (Attribute.others base.header.attributes) (Attribute.others function.header.attributes)
  name : base.name = function.name
  parameters : SameButPlaces base.parameters function.parameters
  returnType : base.returnType = function.returnType

end FunctionItem

namespace Expansion

variable {base one two : FunctionItem} {inTag beside inTag' beside' : List (List TokenTree)}
  {associated : List FunctionItem}

theorem toOption_describe?_unplaced (associated : List FunctionItem) (item : Item) :
    (describe? (unplaced associated) (unplaced item)).toOption = (describe? associated item).toOption := by
  apply Option.ext
  intro found
  rw [Outcome.toOption_eq_some, Outcome.toOption_eq_some]
  constructor
  · intro run
    obtain ⟨found', run', rfl⟩ := (describe?_carries associated item).exists_of_eq_ok run
    exact run'
  · exact (describe?_carries associated item).eq_ok

/-- The places of a function and of its further pieces may be left out. -/
theorem describe?_extends_iff (extended : one.Extends base inTag beside) (bare : base.IsBare)
    (movable : ∀ piece ∈ inTag ++ beside, IsMovable piece) {found : Option Descriptor} :
    describe? (unplaced associated) (unplaced (Item.functionItem one)) = .ok found ↔
      (∀ attr ∈ Attribute.others (unplaced base.header.attributes), attr.name ∉ tags) ∧ ∃ first second both descriptor,
        Vocabulary.ofFunctionTag.Gives (unplaced (Attribute.piecesOf "pyfunction" base.header.attributes)) first ∧
          Vocabulary.ofFunction.Gives (unplaced (Attribute.piecesOf "pyo3" base.header.attributes)) second ∧
          Vocabulary.shared.Gives (unplaced (inTag ++ beside)) both ∧
          (unplaced base).IsDescribed (both.name.getD base.name) first.module (second.has .passModule) both.signature
            descriptor ∧
          some (.ofFunction descriptor) = found := by
  obtain ⟨⟨tag, oneTag⟩, tagged, owned, others, name, parameters, returnType⟩ := extended
  have oneTag' : Attribute.withName "pyfunction" (unplaced one.header.attributes) = [unplaced tag] := by
    rw [Attribute.withName_unplaced, oneTag]
    rfl
  have piecesOf (name : String) := Attribute.piecesOf_unplaced name one.header.attributes
  have tagged' : (unplaced (Attribute.piecesOf "pyfunction" base.header.attributes) ++ unplaced inTag).Perm
      (Attribute.piecesOf "pyfunction" (unplaced one.header.attributes)) := by
    rw [← unplaced_append, piecesOf]
    exact tagged
  have owned' : (unplaced (Attribute.piecesOf "pyo3" base.header.attributes) ++ unplaced beside).Perm
      (Attribute.piecesOf "pyo3" (unplaced one.header.attributes)) := by
    rw [← unplaced_append, piecesOf]
    exact owned
  have others' : Attribute.others (unplaced base.header.attributes) = Attribute.others (unplaced one.header.attributes) := by
    rw [Attribute.others_unplaced, Attribute.others_unplaced]
    exact others
  have together := @describe?_together_iff (unplaced one) (unplaced tag) (unplaced associated) _ _ _ _ oneTag' tagged'
    owned'
  rw [← unplaced_append, ← unplaced_append] at together
  have whole := @together
    (List.forall_mem_map.mpr fun piece member => (isShared_unplaced piece).not.mpr (bare piece member))
    (List.forall_mem_map.mpr fun piece member => (movable piece member).unplaced) found
  have described {named : String} {module : Option String} {passModule : Bool}
      {override : Option (List SignatureEntry)} {descriptor : FunctionDescriptor} :
      (unplaced one).IsDescribed named module passModule override descriptor ↔
        (unplaced base).IsDescribed named module passModule override descriptor :=
    ⟨fun described => described.congr name.symm parameters.symm returnType.symm others'.symm,
      fun described => described.congr name parameters returnType others'⟩
  have attributes : (unplaced one).header.attributes = unplaced one.header.attributes := rfl
  have named : (unplaced one).name = base.name := name.symm
  rw [attributes, ← others', named] at whole
  simp only [described] at whole
  exact whole

/-- It does not matter whether the name and the signature of a function are written in its tag or beside it: wherever they
are moved, the descriptions are the same, or there is a fault in both. One of them in both places is a fault. -/
theorem placement_isIrrelevant (ofOne : one.Extends base inTag beside) (associated : List FunctionItem) :
    (∀ two inTag' beside', two.Extends base inTag' beside' → (inTag ++ beside).Perm (inTag' ++ beside') → base.IsBare →
      (∀ piece ∈ inTag ++ beside, IsMovable piece) →
        (describe? associated (.functionItem one)).toOption = (describe? associated (.functionItem two)).toOption) ∧
      ∀ key ∈ Vocabulary.shared, ∀ piece ∈ inTag, ∀ other ∈ beside, keyOf? piece = some key.text →
        keyOf? other = some key.text → (describe? associated (.functionItem one)).toOption = none := by
  constructor
  · intro two inTag' beside' ofTwo same bare movable
    have movable' : ∀ piece ∈ inTag' ++ beside', IsMovable piece :=
      fun piece member => movable piece (same.mem_iff.mpr member)
    rw [← toOption_describe?_unplaced, ← toOption_describe?_unplaced associated (.functionItem two)]
    apply Option.ext
    intro found
    rw [Outcome.toOption_eq_some, Outcome.toOption_eq_some, describe?_extends_iff ofOne bare movable,
      describe?_extends_iff ofTwo bare movable']
    have gives (both : Options) : Vocabulary.shared.Gives (unplaced (inTag ++ beside)) both ↔
        Vocabulary.shared.Gives (unplaced (inTag' ++ beside')) both :=
      ⟨fun gives => gives.perm (same.map unplaced), fun gives => gives.perm (same.symm.map unplaced)⟩
    simp only [gives]
  · intro key isShared piece inside other outside keyed keyed'
    obtain ⟨tag, oneTag⟩ := ofOne.oneTag
    refine describe?_of_twice oneTag isShared (ofOne.tagged.keys.mem_iff.mp ?_) (ofOne.owned.keys.mem_iff.mp ?_)
    · exact List.mem_map.mpr ⟨piece, List.mem_append_right _ inside, keyed⟩
    · exact List.mem_map.mpr ⟨other, List.mem_append_right _ outside, keyed'⟩

/-- A name and an override in the tag of a function may both be moved beside it, but the name may not stand in both places. -/
theorem placement_isIrrelevant_nameAndOverride :
    let leaf (kind : LeafKind) (text : String) : TokenTree := .leaf ⟨kind, text, .start⟩
    let named := [leaf .ident "name", leaf .punctuation "=", leaf .string "\"g\""]
    let signed := [leaf .ident "signature", leaf .punctuation "=",
      .group .paren [leaf .ident "a", leaf .punctuation ",", leaf .punctuation "/"] .start]
    let comma := [leaf .punctuation ","]
    let function (attributes : List Attribute) : FunctionItem :=
      ⟨⟨attributes, true, ⟨.start, .start⟩, .start⟩, "f", [⟨"a", none, [], .start⟩], none⟩
    let inTag := function [⟨["pyfunction"], .arguments (named ++ comma ++ signed), .start⟩]
    let beside := function [⟨["pyfunction"], .absent, .start⟩, ⟨["pyo3"], .arguments (signed ++ comma ++ named), .start⟩]
    let twice := function [⟨["pyfunction"], .arguments named, .start⟩, ⟨["pyo3"], .arguments named, .start⟩]
    (describe? [] (.functionItem inTag)).toOption = (describe? [] (.functionItem beside)).toOption ∧
      (describe? [] (.functionItem inTag)).toOption.isSome = true ∧
      (describe? [] (.functionItem twice)).toOption = none := by
  intro leaf named signed comma function inTag beside twice
  have ofTag : inTag.Extends (function []) [named, signed] [] :=
    ⟨⟨_, rfl⟩, List.Perm.refl _, List.Perm.refl _, rfl, rfl, rfl, rfl⟩
  have ofBeside : beside.Extends (function []) [] [signed, named] :=
    ⟨⟨_, rfl⟩, List.Perm.refl _, List.Perm.refl _, rfl, rfl, rfl, rfl⟩
  have ofTwice : twice.Extends (function []) [named] [named] :=
    ⟨⟨_, rfl⟩, List.Perm.refl _, List.Perm.refl _, rfl, rfl, rfl, rfl⟩
  have bare : (function []).IsBare := nofun
  have isNamed : Reads .shared named .name (.text "g") :=
    .intro rfl rfl (.literal (.inl rfl) rfl rfl (by rfl))
  have movable : ∀ piece ∈ [named, signed] ++ [], IsMovable piece := by
    refine List.forall_mem_cons.mpr ⟨⟨⟨.name, by decide, rfl⟩, fun empty => ?_⟩,
      List.forall_mem_singleton.mpr ⟨⟨.signature, by decide, rfl⟩, fun reads => ?_⟩⟩
    · exact absurd (empty.unique isNamed) (by simp)
    · exact absurd reads.keyOf?_eq (by decide)
  obtain ⟨same, -⟩ := placement_isIrrelevant ofTag []
  obtain ⟨-, fault⟩ := placement_isIrrelevant ofTwice []
  exact ⟨same beside [] [signed, named] ofBeside (List.Perm.swap ..) bare movable, by decide +kernel,
    fault .name (by decide) named (List.mem_singleton_self _) named (List.mem_singleton_self _) rfl rfl⟩

end Expansion

end Exposure
