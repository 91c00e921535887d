import Exposure.Proofs.Constructor
import Exposure.Proofs.Enclosure
import Exposure.Proofs.Layout

/-!
Neither the order of items matters nor the modules around them: of two texts of the same items both are at fault or
none, and an item is described in one as it is in the other.
-/

namespace Exposure

/-! Descriptions depend on the functions of a type, but not on their order -/

section Functions

variable {functions functions' : List FunctionItem} (same : functions.Perm functions')

include same

namespace CallableDescriptor

theorem ofConstructor?_of_perm {owner : String} {found : Option CallableDescriptor}
    (run : ofConstructor? owner functions = .ok found) : ofConstructor? owner functions' = .ok found := by
  have marked := same.filter fun function => !(Attribute.withName "new" function.header.attributes).isEmpty
  rw [ofConstructor?] at run ⊢
  generalize functions.filter _ = constructors at run marked
  generalize functions'.filter _ = constructors' at marked ⊢
  rcases constructors with _ | ⟨only, _ | ⟨second, rest⟩⟩
  · rw [marked.nil_eq] at run
    exact run
  · rw [List.singleton_perm.mp marked] at run
    exact run
  · exact absurd run Outcome.report_ne_ok

theorem ofConstructor?_perm {owner : String} {found : Option CallableDescriptor} :
    ofConstructor? owner functions = .ok found ↔ ofConstructor? owner functions' = .ok found :=
  ⟨ofConstructor?_of_perm same, ofConstructor?_of_perm same.symm⟩

end CallableDescriptor

theorem ClassDescriptor.ofStruct_perm {item : StructItem} {options : Options} {found : ClassDescriptor} :
    ofStruct item options functions = .ok found ↔ ofStruct item options functions' = .ok found := by
  simp only [ofStruct, Outcome.bind_eq_ok, CallableDescriptor.ofConstructor?_perm same]

namespace Expansion

theorem ofClassTag_perm {tag : Attribute} {item : Item} {found : Descriptor} :
    ofClassTag tag item functions = .ok found ↔ ofClassTag tag item functions' = .ok found := by
  cases item with
  | structItem declared => simp only [ofClassTag, Outcome.bind_eq_ok, Outcome.map_eq_ok, ClassDescriptor.ofStruct_perm same]
  | _ => rfl

theorem describe?_perm {item : Item} {found : Option Descriptor} :
    describe? functions item = .ok found ↔ describe? functions' item = .ok found := by
  simp only [describe?, Outcome.bind_eq_ok]
  refine exists_congr fun tagged => and_congr_right fun _ => ?_
  cases tagged with
  | none => rfl
  | some tag =>
    dsimp only
    split
    · simp only [Outcome.map_eq_ok, ofClassTag_perm same]
    · rfl

end Expansion

end Functions

namespace Expansion

theorem associated_perm {items items' : List Item} (same : items.Perm items') (item : Item) :
    (associated items item).Perm (associated items' item) := by
  cases item with
  | structItem declared => exact same.flatMap_right _
  | _ => exact .refl []

/-! Pairs of items and descriptors -/

/-- What an item is described as among some items, unless it is at fault. -/
def describedAmong (items : List Item) (item : Item) : Option (Option Descriptor) :=
  (describe? (associated items item) item).toOption

theorem describedAmong_perm {items items' : List Item} (same : items.Perm items') :
    describedAmong items = describedAmong items' := by
  funext item
  apply Option.ext
  intro found
  simp only [describedAmong, Outcome.toOption_eq_some]
  exact describe?_perm (associated_perm same item)

/-- Positions do not matter for what an item is described as. -/
theorem describedAmong_unplaced (items : List Item) (item : Item) :
    describedAmong (unplaced items) (unplaced item) = describedAmong items item := by
  have carries := describe?_carries (associated items item) item
  rw [describedAmong, describedAmong, associated_unplaced]
  apply Option.ext
  intro found
  rw [Outcome.toOption_eq_some, Outcome.toOption_eq_some]
  constructor
  · intro run
    obtain ⟨again, before, rfl⟩ := carries.exists_of_eq_ok run
    exact before
  · exact carries.eq_ok

/-- The items of some expansions without their positions, each with its descriptor. -/
abbrev pairs (expansions : List Expansion) : List (Item × Descriptor) :=
  expansions.map fun expansion => (unplaced expansion.item, expansion.descriptor)

/-- Every item that is described, with its descriptor. -/
def pairsBy (described : Item → Option Descriptor) (items : List Item) : List (Item × Descriptor) :=
  items.filterMap fun item => (described item).map (item, ·)

theorem pairsBy_cons (described : Item → Option Descriptor) (first : Item) (rest : List Item) :
    pairsBy described (first :: rest) = ((described first).map (first, ·)).toList ++ pairsBy described rest := by
  cases found : described first <;> simp [pairsBy, found]

theorem ofItem?_eq_ok_iff {text : String} {items : List Item} {item : Item} {found : Option Expansion} :
    ofItem? text items item = .ok found ↔ ∃ described, describedAmong (unplaced items) (unplaced item) = some described ∧
      described.map (fun descriptor => ⟨item, descriptor, item.source text⟩) = found := by
  rw [describedAmong_unplaced]
  simp only [ofItem?_eq_ok, describedAmong, Outcome.toOption_eq_some]

/-- Items are expanded exactly when none of them is at fault. -/
theorem exists_ofItems_iff {text : String} {items : List Item} :
    (∃ found, ofItems text items = .ok found) ↔
      ∀ item ∈ unplaced items, (describedAmong (unplaced items) item).isSome := by
  have expanded (item : Item) : (∃ found, ofItem? text items item = .ok found) ↔
      (describedAmong (unplaced items) (unplaced item)).isSome := by
    simp only [ofItem?_eq_ok_iff, Option.isSome_iff_exists]
    constructor
    · rintro ⟨found, described, run, -⟩
      exact ⟨described, run⟩
    · rintro ⟨described, run⟩
      exact ⟨_, described, run, rfl⟩
  have each : (∀ item ∈ unplaced items, (describedAmong (unplaced items) item).isSome) ↔
      ∀ item ∈ items, (describedAmong (unplaced items) (unplaced item)).isSome := List.forall_mem_map
  simp only [each, ← expanded, ← Outcome.exists_mapM_eq_ok_iff, ofItems, Outcome.bind_eq_ok, Outcome.pure_eq_ok]
  constructor
  · rintro ⟨-, found, run, -⟩
    exact ⟨found, run⟩
  · rintro ⟨found, run⟩
    exact ⟨_, found, run, rfl⟩

/-- The pairs of expanded items are those that the items have one by one. -/
theorem pairs_of_ofItems {text : String} {items : List Item} {expansions : List Expansion}
    (run : ofItems text items = .ok expansions) :
    pairs expansions = pairsBy (fun item => (describedAmong (unplaced items) item).join) (unplaced items) := by
  obtain ⟨found, each, rfl⟩ := ofItems_eq_ok.mp run
  have ofPart (part : List Item) (eachOfPart : List.Forall₂ (fun item maybe => ofItem? text items item = .ok maybe)
      part found) : pairs (found.filterMap id) =
        pairsBy (fun item => (describedAmong (unplaced items) item).join) (unplaced part) := by
    clear run each
    induction eachOfPart with
    | nil => rfl
    | cons first _ again =>
      obtain ⟨described, ran, rfl⟩ := ofItem?_eq_ok_iff.mp first
      rw [unplaced_cons, pairsBy_cons, ran, ← again]
      cases described <;> rfl
  exact ofPart items each

/-- A class has a constructor when a function in an exposed block of its type is marked as one, wherever the block
stands. -/
theorem constructor_isSome {text : String} {items : List Item} {expansions : List Expansion}
    (run : ofItems text items = .ok expansions) {expansion : Expansion} (member : expansion ∈ expansions)
    {descriptor : ClassDescriptor} (isClass : expansion.descriptor = .ofClass descriptor) {item : Item}
    (listed : item ∈ items) {block : ImplItem} (exposed : IsExposedBlock descriptor.sourceIdentity item block)
    {function : FunctionItem} (inside : function ∈ block.functions) (marked : function.isConstructor = true) :
    descriptor.constructor.isSome = true := by
  obtain ⟨-, step, -⟩ := exists_item_of_mem run member
  rcases expansion with ⟨described, _, source⟩
  cases isClass
  cases describes_of_describe step with
  | @ofStruct declared _ _ made =>
    obtain ⟨identity, constructor⟩ := ClassDescriptor.constructor_of_ofStruct made
    rw [identity] at exposed
    have among : function ∈ functionsFor items declared.name := by
      rw [← functionsFor_of_exposed exposed] at inside
      exact List.mem_flatMap.mpr ⟨item, listed, by simpa [functionsFor] using inside⟩
    have kept : function ∈ (functionsFor items declared.name).filter (·.isConstructor) :=
      List.mem_filter.mpr ⟨among, marked⟩
    change CallableDescriptor.ofConstructor? declared.name (functionsFor items declared.name) = _ at constructor
    simp only [CallableDescriptor.ofConstructor?] at constructor
    split at constructor
    · rename_i noneMarked
      change (functionsFor items declared.name).filter (·.isConstructor) = [] at noneMarked
      rw [noneMarked] at kept
      cases kept
    · obtain ⟨callable, -, made⟩ := Outcome.map_eq_ok.mp constructor
      rw [← made]
      rfl
    · exact absurd constructor Outcome.report_ne_ok

/-- Of two texts of the same items up to positions, in whatever order and in whatever modules, both have expansions or
none; every item is described alike in both, so that the same items have the same descriptors; and a class has a
constructor when any exposed block of its type has one. -/
theorem rearrangement_isIrrelevant {one two : String} {items items' : List Item} (accepted : parse one = .ok items)
    (accepted' : parse two = .ok items')
    (same : (unplaced (Item.flattenAll items)).Perm (unplaced (Item.flattenAll items'))) :
    ((∃ found, ofText one = .ok found) ↔ ∃ found, ofText two = .ok found) ∧
    ∀ found found', ofText one = .ok found → ofText two = .ok found' →
      (∃ described, pairs found = pairsBy described (unplaced (Item.flattenAll items)) ∧
        pairs found' = pairsBy described (unplaced (Item.flattenAll items'))) ∧
      (pairs found).Perm (pairs found') ∧
      ∀ expansion ∈ found, ∀ descriptor, expansion.descriptor = .ofClass descriptor →
        ∀ item ∈ Item.flattenAll items, ∀ block, IsExposedBlock descriptor.sourceIdentity item block →
          ∀ function ∈ block.functions, function.isConstructor = true → descriptor.constructor.isSome = true := by
  have expand : ofText one = ofItems one (Item.flattenAll items) := by rw [ofText, accepted]; rfl
  have expand' : ofText two = ofItems two (Item.flattenAll items') := by rw [ofText, accepted']; rfl
  have alike := describedAmong_perm same
  rw [expand, expand']
  refine ⟨?_, fun found found' run run' => ?_⟩
  · rw [exists_ofItems_iff, exists_ofItems_iff, alike]
    exact forall_congr' fun item => imp_congr_left same.mem_iff
  · have ofOne := pairs_of_ofItems run
    have ofTwo := pairs_of_ofItems run'
    rw [← alike] at ofTwo
    refine ⟨⟨_, ofOne, ofTwo⟩, ?_, ?_⟩
    · rw [ofOne, ofTwo]
      exact same.filterMap _
    · intro expansion member descriptor isClass item listed block exposed function inside marked
      exact constructor_isSome run member isClass listed exposed inside marked

/-- A class has the same descriptor whether its block of functions stands in a module behind it or before it. -/
theorem rearrangement_isIrrelevant_class :
    let one := "#[pyclass] struct S; mod m \x7b #[pymethods] impl S \x7b #[new] fn new() -> S; \x7d \x7d"
    let two := "#[pymethods] impl S \x7b #[new] fn new() -> S; \x7d #[pyclass] struct S;"
    ∃ found found', ofText one = .ok found ∧ ofText two = .ok found' ∧ (pairs found).Perm (pairs found') := by
  intro one two
  have expanded : (ofText one).toOption.isSome = true := by decide +kernel
  obtain ⟨found, run⟩ := Option.isSome_iff_exists.mp expanded
  rw [Outcome.toOption_eq_some] at run
  let part (text : String) (start stop : Nat) : List Token := (Lexing.ofText text).tokens.extract start stop
  let token (index : Nat) : Token := (Lexing.ofText one).tokens.getD index ⟨.ident, "", .start, .start⟩
  -- all that is to be evaluated of the two texts
  obtain ⟨tokens, tokens', lexed, lexed', sameClass, sameBlock, ofClass, ofBlock, ofStart, ofHead, opens, closes⟩ :
      (Lexing.ofText one).tokens = part one 0 7 ++ ([] ++ (part one 7 9 ++ (token 9 :: part one 10 29 ++ [token 29]))) ∧
      (Lexing.ofText two).tokens = part two 0 19 ++ part two 19 26 ∧
      (Lexing.ofText one).failure = none ∧ (Lexing.ofText two).failure = none ∧
      unplaced (part two 19 26) = unplaced (part one 0 7) ∧ unplaced (part two 0 19) = unplaced (part one 10 29) ∧
      Rule.moduleItems.Accepts (part one 0 7) ∧ Rule.moduleItems.Accepts (part one 10 29) ∧
      Rule.beginning.Accepts [] ∧ Rule.Enclosure.module.head.Accepts (part one 7 9) ∧
      (token 9).terminal = .mark .openBrace ∧ (token 29).terminal = .mark .closeBrace := by
    decide +kernel
  obtain ⟨classes, readClass⟩ := Option.isSome_iff_exists.mp ofClass
  obtain ⟨blocks, readBlock⟩ := Option.isSome_iff_exists.mp ofBlock
  obtain ⟨classes', readClass', sameClasses⟩ :=
    Rule.exists_of_sameButPlaces (fun _ => Rule.moduleItems_moves) sameClass readClass
  obtain ⟨blocks', readBlock', sameBlocks⟩ :=
    Rule.exists_of_sameButPlaces (fun _ => Rule.moduleItems_moves) sameBlock readBlock
  obtain ⟨_, ⟨header, name, rfl⟩, wraps⟩ := Rule.Enclosure.exists_wrap opens closes ofStart ofHead
  have readModule := Rule.read?_moduleItems_of_items (Rule.read?_items_of_item (wraps _ _ readBlock))
  have accepted : parse one = .ok (classes ++ [.moduleItem header name blocks]) :=
    parse_eq_ok.mpr ⟨lexed, tokens ▸ Rule.read?_moduleItems_append readClass readModule⟩
  have accepted' : parse two = .ok (blocks' ++ classes') :=
    parse_eq_ok.mpr ⟨lexed', tokens' ▸ Rule.read?_moduleItems_append readBlock' readClass'⟩
  have same : (unplaced (Item.flattenAll (classes ++ [.moduleItem header name blocks]))).Perm
      (unplaced (Item.flattenAll (blocks' ++ classes'))) := by
    have ofClasses : unplaced (Item.flattenAll classes') = unplaced (Item.flattenAll classes) :=
      Item.flattenAll_sameButPlaces sameClasses
    have ofBlocks : unplaced (Item.flattenAll blocks') = unplaced (Item.flattenAll blocks) :=
      Item.flattenAll_sameButPlaces sameBlocks
    have inside : Item.flattenAll [.moduleItem header name blocks] = Item.flattenAll blocks := by
      rw [Item.flattenAll, Item.flatten, Item.flattenAll, List.append_nil]
    rw [Item.flattenAll_append, Item.flattenAll_append, inside, unplaced_append, unplaced_append, ofClasses, ofBlocks]
    exact List.perm_append_comm
  obtain ⟨both, alike⟩ := rearrangement_isIrrelevant accepted accepted' same
  obtain ⟨found', run'⟩ := both.mp ⟨found, run⟩
  exact ⟨found, found', run, run', (alike found found' run run').2.1⟩

end Expansion

end Exposure
