import Exposure.Proofs.Enclosure
import Exposure.Proofs.Interface
import Exposure.Proofs.Layout
import Mathlib.Logic.Relation

/-!
What is not exposed cannot influence the descriptors: the body of a function can be exchanged for any trees, and an item
without a tag can be left out, at any depth.
-/

namespace Exposure

namespace Item

/-- An item is a module. -/
def isModule : Item → Bool
  | moduleItem .. => true
  | _ => false

theorem flatten_of_not_isModule {item : Item} (noModule : item.isModule = false) : item.flatten = [item] := by
  cases item with
  | moduleItem => cases noModule
  | _ => rfl

/-- What the descriptors of a text depend on: the exposed items outside and inside its modules. -/
def visible (items : List Item) : List Item := Expansion.interface (flattenAll items)

theorem visible_append (one two : List Item) : visible (one ++ two) = visible one ++ visible two := by
  rw [visible, flattenAll_append, Expansion.interface_append, visible, visible]

/-- Nothing is visible of an item without a tag that is no module. -/
theorem visible_of_unexposed {item : Item} (untagged : item.isTagged = false) (noModule : item.isModule = false) :
    visible [item] = [] := by
  rw [visible, flattenAll, flatten_of_not_isModule noModule, flattenAll, List.append_nil,
    Expansion.interface_cons_of_untagged untagged]
  rfl

end Item

namespace Rule

open Item

/-- A place between two items of a token list: in a text, or in the braces of a module or of a block of functions; with
all tokens before it and all tokens behind it. -/
inductive Gap : Enclosure → List Token → List Token → Prop
  | text {before after : List Token} (ofBefore : moduleItems.Accepts before) (ofAfter : moduleItems.Accepts after) :
      Gap .module before after
  | within {outer kind : Enclosure} {before after start front inside rest : List Token} {opening closing : Token}
      (gap : Gap outer before after) (ofStart : beginning.Accepts start) (ofFront : kind.head.Accepts front)
      (opens : opening.terminal = .mark .openBrace) (ofInside : kind.content.Accepts inside)
      (ofRest : kind.rest.Accepts rest) (closes : closing.terminal = .mark .closeBrace) :
      Gap kind (before ++ (start ++ (front ++ opening :: inside))) (rest ++ closing :: after)

/-- The tokens are those of a function. -/
def isFunction (tokens : List Token) : Bool := ((item.read? tokens).join.bind function?).isSome

/-- The tokens are those of an item without a tag, which is no module. -/
def isUnexposed (tokens : List Token) : Bool :=
  (item.read? tokens).any fun found => found.all fun item => !item.isTagged && !item.isModule

theorem isFunction_iff {tokens : List Token} :
    isFunction tokens = true ↔ ∃ function, item.read? tokens = some (some (.functionItem function)) := by
  simp only [isFunction, Option.isSome_iff_exists, Option.bind_eq_some_iff, Option.join_eq_some_iff]
  constructor
  · rintro ⟨function, found, read, isFunction⟩
    cases found with
    | functionItem _ => exact ⟨_, read⟩
    | _ => cases isFunction
  · rintro ⟨function, read⟩
    exact ⟨function, _, read, rfl⟩

theorem isUnexposed_iff {tokens : List Token} :
    isUnexposed tokens = true ↔ ∃ found, item.read? tokens = some found ∧
      ∀ item, found = some item → item.isTagged = false ∧ item.isModule = false := by
  simp [isUnexposed, Option.any_eq_true, Option.all_eq_true]

/-- A change of tokens that are not exposed: other trees in the braces of a function, or no item where an item without a
tag stood, which is no module. -/
inductive Change : List Token → List Token → Prop
  | body {kind : Enclosure} {before after : List Token} (gap : Gap kind before after) {head body body' : List Token}
      {opening closing : Token} (function : isFunction (head ++ (opening :: body ++ [closing])) = true)
      (opens : opening.terminal = .mark .openBrace) (closes : closing.terminal = .mark .closeBrace)
      (ofBody : trees.Accepts body) (ofBody' : trees.Accepts body') :
      Change (before ++ (head ++ (opening :: body ++ [closing])) ++ after)
        (before ++ (head ++ (opening :: body' ++ [closing])) ++ after)
  | deletion {before after : List Token} (gap : Gap .module before after) {stretch : List Token}
      (unexposed : isUnexposed stretch = true) : Change (before ++ stretch ++ after) (before ++ after)

/-! Items that cannot be told apart -/

/-- Items in braces that cannot be told apart: those in a block by its functions, those in a module by what is visible. -/
def Enclosure.Like : Enclosure → List Item → List Item → Prop
  | .module, one, two => visible one = visible two
  | .block, one, two => one.filterMap function? = two.filterMap function?

namespace Enclosure

variable {kind outer : Enclosure} {one two : List Item}

theorem Like.append (like : kind.Like one two) (before after : List Item) :
    kind.Like (before ++ one ++ after) (before ++ two ++ after) := by
  cases kind with
  | module =>
    have like : visible one = visible two := like
    change visible _ = visible _
    simp only [visible_append, like]
  | block =>
    have like : one.filterMap function? = two.filterMap function? := like
    change List.filterMap _ _ = List.filterMap _ _
    simp only [List.filterMap_append, like]

/-- Items in braces that cannot be told apart make items that cannot be told apart. -/
theorem Wraps.like {wrap : List Item → Item} (wraps : kind.Wraps wrap) (like : kind.Like one two) (outer : Enclosure) :
    outer.Like [wrap one] [wrap two] := by
  cases kind with
  | module =>
    obtain ⟨header, name, rfl⟩ := wraps
    have like : visible one = visible two := like
    cases outer with
    | module =>
      have alone (items : List Item) : visible [.moduleItem header name items] = visible items := by
        rw [visible, flattenAll, flatten, flattenAll, List.append_nil, visible]
      exact (alone one).trans (like.trans (alone two).symm)
    | block => rfl
  | block =>
    obtain ⟨header, selfType, trait, rfl⟩ := wraps
    have like : one.filterMap function? = two.filterMap function? := like
    cases outer with
    | module =>
      have exposed (items : List Item) : (Item.implItem header selfType trait items).exposed =
          .implItem header selfType trait ((items.filterMap function?).map functionItem) := rfl
      have alone (items : List Item) : visible [.implItem header selfType trait items] =
          Expansion.interface [.implItem header selfType trait items] := rfl
      change visible _ = visible _
      rw [alone, alone]
      -- both blocks have the same attributes
      cases tagged : (Item.implItem header selfType trait one).isTagged with
      | false =>
        have tagged' : (Item.implItem header selfType trait two).isTagged = false := tagged
        rw [Expansion.interface_cons_of_untagged tagged, Expansion.interface_cons_of_untagged tagged']
      | true =>
        have tagged' : (Item.implItem header selfType trait two).isTagged = true := tagged
        rw [Expansion.interface_cons_of_tagged tagged, Expansion.interface_cons_of_tagged tagged', exposed, exposed, like]
    | block => rfl

end Enclosure

/-- Whatever items are put into a gap, the text is read, and it can be told apart no more than they can. -/
theorem Gap.exists_fill {kind : Enclosure} {before after : List Token} (gap : Gap kind before after) :
    ∃ fill : List Item → List Item,
      (∀ stretch found, kind.rest.read? stretch = some found →
        moduleItems.read? (before ++ stretch ++ after) = some (fill found)) ∧
      ∀ one two, kind.Like one two → visible (fill one) = visible (fill two) := by
  induction gap with
  | text ofBefore ofAfter =>
    obtain ⟨front, readBefore⟩ := Option.isSome_iff_exists.mp ofBefore
    obtain ⟨back, readAfter⟩ := Option.isSome_iff_exists.mp ofAfter
    exact ⟨fun found => front ++ found ++ back,
      fun stretch found read => read?_moduleItems_append (read?_moduleItems_append readBefore read) readAfter,
      fun one two like => like.append front back⟩
  | @within outer kind before after start front inside rest opening closing _ ofStart ofFront opens ofInside ofRest closes again =>
    obtain ⟨fillOuter, reads, keeps⟩ := again
    obtain ⟨wrap, wraps, readsItem⟩ := Enclosure.exists_wrap opens closes ofStart ofFront
    obtain ⟨former, readInside⟩ := Option.isSome_iff_exists.mp ofInside
    obtain ⟨latter, readRest⟩ := Option.isSome_iff_exists.mp ofRest
    refine ⟨fun found => fillOuter [wrap (former ++ found ++ latter)], fun stretch found read => ?_, fun one two like =>
      keeps _ _ (wraps.like (like.append former latter) outer)⟩
    have content : kind.content.read? (inside ++ stretch ++ rest) = some (former ++ found ++ latter) := by
      rw [List.append_assoc, List.append_assoc]
      exact Enclosure.read?_content_append readInside (Enclosure.read?_rest_append read readRest)
    have whole := reads _ _ (Enclosure.read?_rest_of_item (readsItem _ _ content))
    simpa using whole

/-- A change leaves all that is visible. -/
theorem Change.visible_eq {tokens tokens' : List Token} (change : Change tokens tokens') :
    ∃ items items', moduleItems.read? tokens = some items ∧ moduleItems.read? tokens' = some items' ∧
      visible items = visible items' := by
  cases change with
  | body gap function opens closes ofBody ofBody' =>
    obtain ⟨fill, reads, -⟩ := gap.exists_fill
    obtain ⟨_, read⟩ := isFunction_iff.mp function
    have again := read?_item_of_function opens closes ofBody ofBody' read
    exact ⟨_, _, reads _ _ (Enclosure.read?_rest_of_item read), reads _ _ (Enclosure.read?_rest_of_item again), rfl⟩
  | @deletion before after gap stretch unexposed =>
    obtain ⟨fill, reads, keeps⟩ := gap.exists_fill
    obtain ⟨found, read, unexposed⟩ := isUnexposed_iff.mp unexposed
    have nothing : moduleItems.read? (before ++ [] ++ after) = some (fill []) := reads [] [] rfl
    rw [List.append_nil] at nothing
    refine ⟨_, _, reads _ _ (Enclosure.read?_rest_of_item read), nothing, keeps _ _ ?_⟩
    cases found with
    | none => exact rfl
    | some item => exact visible_of_unexposed (unexposed item rfl).1 (unexposed item rfl).2

/-- Any number of changes leaves all that is visible. -/
theorem visible_eq_of_changes {tokens tokens' : List Token} (changes : Relation.ReflTransGen Change tokens tokens')
    {items : List Item} (read : moduleItems.read? tokens = some items) :
    ∃ items', moduleItems.read? tokens' = some items' ∧ visible items' = visible items := by
  induction changes with
  | refl => exact ⟨items, read, rfl⟩
  | tail _ change again =>
    obtain ⟨middle, readMiddle, same⟩ := again
    obtain ⟨former, latter, readFormer, readLatter, sameChange⟩ := change.visible_eq
    obtain rfl : middle = former := Option.some.inj (readMiddle.symm.trans readFormer)
    exact ⟨latter, readLatter, sameChange.symm.trans same⟩

end Rule

namespace Expansion

/-- Items of which the same is visible have the same descriptors. -/
theorem ofItems_of_visible {text : String} {items items' : List Item} {expansions : List Expansion}
    (run : ofItems text (Item.flattenAll items) = .ok expansions) (same : Item.visible items' = Item.visible items)
    (text' : String) :
    ∃ found, ofItems text' (Item.flattenAll items') = .ok found ∧ SameDescriptors found expansions := by
  have before := map_descriptor_ofItems text (Item.flattenAll items)
  have after := map_descriptor_ofItems text' (Item.flattenAll items')
  rw [run, ← descriptors_interface, ← Item.visible] at before
  rw [← descriptors_interface, ← Item.visible, same, ← before] at after
  obtain ⟨found, run', sameDescriptors⟩ := Outcome.map_eq_ok.mp after
  exact ⟨found, run', sameDescriptors⟩

/-- Of a text with expansions, any number of changes of what is not exposed gives tokens that are read to their end, and
items with the same descriptors; and every text of these tokens has the same descriptors. -/
theorem unexposed_isIrrelevant {text : String} {expansions : List Expansion} (accepted : ofText text = .ok expansions)
    {tokens : List Token} (changes : Relation.ReflTransGen Rule.Change (Lexing.ofText text).tokens tokens) :
    (∃ items, Reading.ofTokens tokens = .complete items ∧
      ∀ other, ∃ found, ofItems other (Item.flattenAll items) = .ok found ∧ SameDescriptors found expansions) ∧
    ∀ other, (Lexing.ofText other).failure = none → SameButPlaces (Lexing.ofText other).tokens tokens →
      ∃ found, ofText other = .ok found ∧ SameDescriptors found expansions := by
  obtain ⟨items, parsed, run⟩ := Outcome.bind_eq_ok.mp accepted
  obtain ⟨items', read, same⟩ := Rule.visible_eq_of_changes changes (parse_eq_ok.mp parsed).2
  refine ⟨⟨items', Reading.ofTokens_eq_complete.mpr read, ofItems_of_visible run same⟩, fun other lexed sameTokens => ?_⟩
  obtain ⟨items'', readOther, sameItems⟩ := Rule.exists_of_sameButPlaces (fun _ => Rule.moduleItems_moves) sameTokens read
  obtain ⟨found, run', sameDescriptors⟩ := ofItems_of_visible run same other
  -- the text has the same items up to positions, and so the same descriptors
  have agree := ofItems_agree other other (Item.flattenAll_sameButPlaces sameItems)
  have parsedOther : parse other = .ok items'' := parse_eq_ok.mpr ⟨lexed, readOther⟩
  have expand : ofText other = ofItems other (Item.flattenAll items'') := by rw [ofText, parsedOther]; rfl
  rw [run'] at agree
  rw [expand]
  generalize ofItems other (Item.flattenAll items'') = outcome at agree ⊢
  cases agree with
  | ok sameAgain => exact ⟨_, rfl, sameAgain.trans sameDescriptors⟩

/-- A class keeps its descriptors when the body of its constructor is exchanged for trees that look like another class,
and a function that is not exposed is left out. -/
theorem unexposed_isIrrelevant_class :
    let one := "#[pyclass] struct S; #[pymethods] impl S \x7b #[new] fn new() -> S \x7b S \x7d \x7d fn f();"
    let two := "#[pyclass] struct S; #[pymethods] impl S \x7b #[new] fn new() -> S \x7b #[pyclass] enum T \x7d \x7d"
    ∃ expansions found, ofText one = .ok expansions ∧ ofText two = .ok found ∧ SameDescriptors found expansions := by
  intro one two
  have expanded : (ofText one).toOption.isSome = true := by decide +kernel
  obtain ⟨expansions, accepted⟩ := Option.isSome_iff_exists.mp expanded
  rw [Outcome.toOption_eq_some] at accepted
  let part (start stop : Nat) : List Token := (Lexing.ofText one).tokens.extract start stop
  let token (index : Nat) : Token := (Lexing.ofText one).tokens.getD index ⟨.ident, "", .start, .start⟩
  let front := part 0 7 ++ (part 7 11 ++ (part 11 13 ++ [token 13]))
  let constructor (body : List Token) := part 14 24 ++ (token 24 :: body ++ [token 26])
  let body := (Lexing.ofText two).tokens.extract 25 31
  -- all that is to be evaluated of the two texts
  obtain ⟨sameOne, sameTwo, lexed, ofClass, ofHelper, ofBeginning, ofHead, opens, closes, isFunction, opensBody, closesBody,
      ofBody, ofOther, ofFront, unexposed⟩ :
      (Lexing.ofText one).tokens = front ++ constructor (part 25 26) ++ token 27 :: part 28 33 ∧
      unplaced (Lexing.ofText two).tokens = unplaced (front ++ constructor body ++ [token 27]) ∧
      (Lexing.ofText two).failure = none ∧ Rule.moduleItems.Accepts (part 0 7) ∧ Rule.moduleItems.Accepts (part 28 33) ∧
      Rule.beginning.Accepts (part 7 11) ∧ Rule.Enclosure.block.head.Accepts (part 11 13) ∧
      (token 13).terminal = .mark .openBrace ∧ (token 27).terminal = .mark .closeBrace ∧
      Rule.isFunction (constructor (part 25 26)) = true ∧ (token 24).terminal = .mark .openBrace ∧
      (token 26).terminal = .mark .closeBrace ∧ Rule.trees.Accepts (part 25 26) ∧ Rule.trees.Accepts body ∧
      Rule.moduleItems.Accepts (front ++ constructor body ++ [token 27]) ∧ Rule.isUnexposed (part 28 33) = true := by
    decide +kernel
  have gap : Rule.Gap .block front ([] ++ token 27 :: part 28 33) :=
    .within (.text ofClass ofHelper) ofBeginning ofHead opens (by decide +kernel) (by decide +kernel) closes
  have exchange : Rule.Change (front ++ constructor (part 25 26) ++ token 27 :: part 28 33)
      (front ++ constructor body ++ token 27 :: part 28 33) :=
    .body gap isFunction opensBody closesBody ofBody ofOther
  have deletion := Rule.Change.deletion (.text ofFront (by decide +kernel : Rule.moduleItems.Accepts [])) unexposed
  have changes : Relation.ReflTransGen Rule.Change (Lexing.ofText one).tokens (front ++ constructor body ++ [token 27]) := by
    rw [sameOne]
    exact .tail (.single exchange) (by simpa using deletion)
  obtain ⟨found, run, sameDescriptors⟩ := (unexposed_isIrrelevant accepted changes).2 two lexed sameTwo
  exact ⟨expansions, found, accepted, run, sameDescriptors⟩

end Expansion

end Exposure
