import Exposure.Proofs.Noninterference

/-!
What is exposed of a text: every item with a tag, in source order, unless it is a module; and no item has a tag that cannot
describe it.
-/

namespace Exposure

/-- The first fault in a list is the result for it. -/
theorem Outcome.mapM_of_first_fault {element value : Type} {run : element → Outcome value} {before after : List element}
    {found : element} {fault : Fault} (earlier : ∀ one ∈ before, ∃ result, run one = .ok result)
    (here : run found = .error fault) : (before ++ found :: after).mapM run = .error fault := by
  induction before with
  | nil => rw [List.nil_append, List.mapM_cons, here]; rfl
  | cons first rest again =>
    obtain ⟨⟨result, ran⟩, others⟩ := List.forall_mem_cons.mp earlier
    rw [List.cons_append, List.mapM_cons, ran, again others]
    rfl

namespace Item

mutual

/-- An item and, in front to back order, what is in it if it is a module. -/
def everything : Item → List Item
  | moduleItem header name items => moduleItem header name items :: everythingOf items
  | item => [item]

/-- The items of a list with those in its modules, in source order; a module stands before what is in it. -/
def everythingOf : List Item → List Item
  | [] => []
  | first :: rest => first.everything ++ everythingOf rest

end

mutual

/-- An item is looked into like its modules are, and modules themselves are left out. -/
theorem flatten_eq_filter (item : Item) : item.flatten = item.everything.filter fun found => !found.isModule := by
  cases item with
  | moduleItem header name items =>
    rw [flatten, everything, List.filter_cons_of_neg (by simp [isModule])]
    exact flattenAll_eq_filter items
  | _ => rfl

theorem flattenAll_eq_filter (items : List Item) :
    flattenAll items = (everythingOf items).filter fun found => !found.isModule := by
  match items with
  | [] => rfl
  | first :: rest =>
    rw [flattenAll, everythingOf, List.filter_append, flatten_eq_filter first, flattenAll_eq_filter rest]

end

/-- The items that a tag can describe: a class is a structure or an enumeration, and so on; a module is never described. -/
def suits (tag : String) : Item → Bool
  | structItem _ => tag = "pyclass"
  | enumItem _ => tag = "pyclass"
  | implItem .. => tag = "pymethods"
  | functionItem _ => tag = "pyfunction"
  | moduleItem .. => false

/-- An item has a tag that cannot describe an item of its kind. -/
def isMisfit (item : Item) : Bool :=
  item.attributes.any fun attr => Expansion.tags.contains attr.name && !item.suits attr.name

end Item

namespace Expansion

/-- The options that a tag gives to an item, which are read before the item is. -/
def optionsOf (tag : Attribute) (item : Item) : Outcome Options :=
  if tag.name = "pyclass" then Options.ofAttributes .ofClass "pyo3" item.attributes [tag.arguments]
  else if tag.name = "pymethods" then Options.ofLists .ofMethodsTag [tag.arguments]
  else Options.ofLists .ofFunctionTag [tag.arguments]

theorem isTagged_iff {item : Item} : item.isTagged = true ↔
    item.attributes.filter (fun attr => tags.contains attr.name) ≠ [] := by
  rw [Item.isTagged, List.any_eq_true, Ne, List.filter_eq_nil_iff]
  push Not
  exact Iff.rfl

/-- An item is described exactly when it has a tag. -/
theorem isTagged_of_describe? {functions : List FunctionItem} {item : Item} {found : Option Descriptor}
    (run : describe? functions item = .ok found) : item.isTagged = found.isSome := by
  cases tagged : item.isTagged with
  | false =>
    rw [describe?_of_untagged functions tagged] at run
    rw [← Except.ok.inj run]
    rfl
  | true =>
    simp only [describe?, Outcome.bind_eq_ok] at run
    obtain ⟨tag, isTag, run⟩ := run
    cases tag with
    | none => exact absurd (tag?_eq_none isTag) (isTagged_iff.mp tagged)
    | some tag =>
      simp only at run
      split at run
      · obtain ⟨descriptor, -, rfl⟩ := Outcome.map_eq_ok.mp run
        rfl
      · split at run
        · obtain ⟨descriptor, -, rfl⟩ := Outcome.map_eq_ok.mp run
          rfl
        · obtain ⟨descriptor, -, rfl⟩ := Outcome.map_eq_ok.mp run
          rfl

/-- The expansions of some items are those of the items with a tag. -/
theorem map_item_ofItems {text : String} {items : List Item} {expansions : List Expansion}
    (run : ofItems text items = .ok expansions) : expansions.map item = items.filter Item.isTagged := by
  obtain ⟨found, each, rfl⟩ := ofItems_eq_ok.mp run
  clear run
  -- an item is described with regard to all items, and they stay what they are while those left grow fewer
  have left {rest : List Item} {found : List (Option Expansion)}
      (each : List.Forall₂ (fun item maybe => ofItem? text items item = .ok maybe) rest found) :
      (found.filterMap id).map item = rest.filter Item.isTagged := by
    induction each with
    | nil => rfl
    | @cons first maybe rest found here _ again =>
      obtain ⟨described, ran, rfl⟩ := ofItem?_eq_ok.mp here
      have same := isTagged_of_describe? ran
      cases described with
      | none => rw [List.filter_cons_of_neg (by simp [same])]; exact again
      | some descriptor => rw [List.filter_cons_of_pos (by simp [same]), ← again]; rfl
  exact left each

/-! Tags in the wrong place -/

/-- The only tag of an item gives its options, which are read, and then it cannot describe an item of another kind. -/
theorem describe?_of_misfit {functions : List FunctionItem} {item : Item} {tag : Attribute}
    (only : tag? item = .ok (some tag)) (misfit : item.suits tag.name = false) :
    describe? functions item = optionsOf tag item >>= fun _ => reportMisplaced tag.name item := by
  have listed : tag ∈ item.attributes.filter fun attr => tags.contains attr.name :=
    tag?_eq_some only ▸ List.mem_singleton_self _
  have named : tag.name = "pyclass" ∨ tag.name = "pymethods" ∨ tag.name = "pyfunction" := by
    simpa [tags] using (List.mem_filter.mp listed).2
  rw [describe?, only]
  rcases named with named | named | named
  · cases item <;> simp [named, Item.suits] at misfit
    all_goals
      simp only [bind, Except.bind, optionsOf, ofClassTag, named, if_true]
      cases Options.ofAttributes _ _ _ _ <;> rfl
  · cases item <;> simp [named, Item.suits] at misfit
    all_goals
      simp only [bind, Except.bind, optionsOf, ofMethodsTag, named]
      cases Options.ofLists _ _ <;> rfl
  · cases item <;> simp [named, Item.suits] at misfit
    all_goals
      simp only [bind, Except.bind, optionsOf, ofFunctionTag, named]
      cases Options.ofLists _ _ <;> rfl

/-- An item with a tag in the wrong place has two tags, which is reported, or that is its only tag. -/
theorem tag?_of_misfit {item : Item} (misfit : item.isMisfit = true) :
    (∃ report, tag? item = .error (.diagnostic report) ∧ report.cause.family = .unsupported) ∨
      ∃ tag, tag? item = .ok (some tag) ∧ item.suits tag.name = false := by
  obtain ⟨attr, listed, bad⟩ := List.any_eq_true.mp misfit
  obtain ⟨isTag, unsuited⟩ := Bool.and_eq_true_iff.mp bad
  have kept : attr ∈ item.attributes.filter fun attr => tags.contains attr.name := List.mem_filter.mpr ⟨listed, isTag⟩
  rw [tag?]
  split
  · rename_i nothing
    rw [nothing] at kept
    cases kept
  · rename_i only alone
    rw [alone, List.mem_singleton] at kept
    exact .inr ⟨only, rfl, by simpa [← kept] using unsuited⟩
  · exact .inl ⟨_, rfl, rfl⟩

/-- A tag in the wrong place is reported as unsupported once its own options are read. -/
theorem exists_report_of_misfit {functions : List FunctionItem} {item : Item} (misfit : item.isMisfit = true)
    (readable : ∀ tag, tag? item = .ok (some tag) → ∃ options, optionsOf tag item = .ok options) :
    ∃ report, describe? functions item = .error (.diagnostic report) ∧ report.cause.family = .unsupported := by
  rcases tag?_of_misfit misfit with ⟨report, conflict, family⟩ | ⟨tag, only, unsuited⟩
  · exact ⟨report, by rw [describe?, conflict]; rfl, family⟩
  · obtain ⟨options, read⟩ := readable tag only
    exact ⟨_, by rw [describe?_of_misfit only unsuited, read]; rfl, rfl⟩

/-- A tag in the wrong place describes nothing, whatever its options are. -/
theorem not_described_of_misfit {functions : List FunctionItem} {item : Item} (misfit : item.isMisfit = true)
    (found : Option Descriptor) : describe? functions item ≠ .ok found := by
  rcases tag?_of_misfit misfit with ⟨report, conflict, -⟩ | ⟨tag, only, unsuited⟩
  · rw [describe?, conflict]
    exact Outcome.report_ne_ok
  · rw [describe?_of_misfit only unsuited, Ne, Outcome.bind_eq_ok]
    rintro ⟨options, -, impossible⟩
    exact Outcome.report_ne_ok impossible

theorem ofItems_ne_ok_of_misfit {text : String} {items : List Item} {found : Item} (member : found ∈ items)
    (misfit : found.isMisfit = true) (expansions : List Expansion) : ofItems text items ≠ .ok expansions := by
  intro run
  rw [ofItems, Outcome.bind_eq_ok] at run
  obtain ⟨results, each, -⟩ := run
  obtain ⟨result, here⟩ := Outcome.exists_mapM_eq_ok_iff.mp ⟨results, each⟩ found member
  obtain ⟨described, ran, -⟩ := ofItem?_eq_ok.mp here
  exact not_described_of_misfit misfit described ran

/-- Behind items that are described, a tag in the wrong place is what is reported. -/
theorem ofItems_of_misfit {text : String} {items before after : List Item} {found : Item}
    (split : items = before ++ found :: after) (misfit : found.isMisfit = true)
    (earlier : ∀ one ∈ before, ∃ described, describe? (associated items one) one = .ok described)
    (readable : ∀ tag, tag? found = .ok (some tag) → ∃ options, optionsOf tag found = .ok options) :
    ∃ report, ofItems text items = .error (.diagnostic report) ∧ report.cause.family = .unsupported := by
  obtain ⟨report, failed, family⟩ : ∃ report, describe? (associated items found) found = .error (.diagnostic report) ∧
      report.cause.family = .unsupported := exists_report_of_misfit misfit readable
  have here : ofItem? text items found = .error (.diagnostic report) := by rw [ofItem?, failed]; rfl
  have expanded (one : Item) (member : one ∈ before) : ∃ result, ofItem? text items one = .ok result := by
    obtain ⟨described, ran⟩ := earlier one member
    exact ⟨_, ofItem?_eq_ok.mpr ⟨described, ran, rfl⟩⟩
  have faulty : items.mapM (ofItem? text items) = .error (.diagnostic report) := by
    conv_lhs => arg 2; rw [split]
    exact Outcome.mapM_of_first_fault expanded here
  exact ⟨report, by rw [ofItems, faulty]; rfl, family⟩

/-- The expansions of a text are the items with a tag outside and inside its modules, in source order. They are all items with
a tag exactly when no module has one, since a tag on a module is not looked at; on every other item that it cannot describe,
a tag makes the text fail, as unsupported unless an earlier item or the options of the tag fail before. -/
theorem ofText_exposes {text : String} {items : List Item} (parsed : parse text = .ok items) :
    (∀ expansions, ofText text = .ok expansions →
      expansions.map item = (Item.everythingOf items).filter (fun found => !found.isModule && found.isTagged) ∧
      (expansions.map item = (Item.everythingOf items).filter Item.isTagged ↔
        ∀ found ∈ Item.everythingOf items, found.isModule = true → found.isTagged = false)) ∧
    (∀ found ∈ Item.everythingOf items, found.isModule = false → found.isMisfit = true →
      ∀ expansions, ofText text ≠ .ok expansions) ∧
    ∀ before found after, Item.flattenAll items = before ++ found :: after → found.isMisfit = true →
      (∀ earlier ∈ before, ∃ described, describe? (associated (Item.flattenAll items) earlier) earlier = .ok described) →
      (∀ tag, tag? found = .ok (some tag) → ∃ options, optionsOf tag found = .ok options) →
      ∃ report, ofText text = .error (.diagnostic report) ∧ report.cause.family = .unsupported := by
  have expand : ofText text = ofItems text (Item.flattenAll items) := by rw [ofText, parsed]; rfl
  rw [expand]
  refine ⟨fun expansions run => ?_, fun found member noModule misfit => ?_, fun before found after => ofItems_of_misfit⟩
  · have exposed : expansions.map item =
        (Item.everythingOf items).filter (fun found => !found.isModule && found.isTagged) := by
      rw [map_item_ofItems run, Item.flattenAll_eq_filter, List.filter_filter]
      simp only [Bool.and_comm]
    refine ⟨exposed, ?_⟩
    rw [exposed, ← List.filter_filter, List.filter_eq_self]
    constructor
    · intro noModule found member isModule
      by_contra tagged
      have other := noModule found (List.mem_filter.mpr ⟨member, by simpa using tagged⟩)
      simp [isModule] at other
    · intro untagged found member
      obtain ⟨listed, tagged⟩ := List.mem_filter.mp member
      cases isModule : found.isModule with
      | false => rfl
      | true => exact absurd tagged (by simp [untagged found listed isModule])
  · have listed : found ∈ Item.flattenAll items := by
      rw [Item.flattenAll_eq_filter]
      exact List.mem_filter.mpr ⟨member, by simp [noModule]⟩
    exact ofItems_ne_ok_of_misfit listed misfit

/-- In one text a class and a function in a module are all that has a tag; in another one the function has that of a block. -/
theorem ofText_exposes_classAndFunction :
    (∃ items expansions, parse "#[pyclass] struct A; mod m \x7b #[pyfunction] fn f(); \x7d" = .ok items ∧
      ofText "#[pyclass] struct A; mod m \x7b #[pyfunction] fn f(); \x7d" = .ok expansions ∧ expansions.length = 2 ∧
      expansions.map item = (Item.everythingOf items).filter Item.isTagged) ∧
    ∃ report, ofText "#[pyclass] struct A; mod m \x7b #[pymethods] fn f(); \x7d" = .error (.diagnostic report) ∧
      report.cause.family = .unsupported := by
  constructor
  · have expanded : (ofText "#[pyclass] struct A; mod m \x7b #[pyfunction] fn f(); \x7d").toOption.any
        (fun expansions => expansions.length = 2) = true := by decide +kernel
    have accepted : (parse "#[pyclass] struct A; mod m \x7b #[pyfunction] fn f(); \x7d").toOption.any (fun items =>
        (Item.everythingOf items).all fun found => !(found.isModule && found.isTagged)) = true := by decide +kernel
    obtain ⟨expansions, run, two⟩ := (Option.any_eq_true _ _).mp expanded
    obtain ⟨items, parsed, untagged⟩ := (Option.any_eq_true _ _).mp accepted
    rw [Outcome.toOption_eq_some] at run parsed
    refine ⟨items, expansions, parsed, run, of_decide_eq_true two, ?_⟩
    refine (((ofText_exposes parsed).1 expansions run).2).mpr fun found member isModule => ?_
    simpa [isModule] using List.all_eq_true.mp untagged found member
  · -- the class is described, and the block takes no options
    have accepted : (parse "#[pyclass] struct A; mod m \x7b #[pymethods] fn f(); \x7d").toOption.any (fun items =>
        decide ((Item.flattenAll items).length = 2) &&
        ((Item.flattenAll items).head?.all fun first =>
          (describe? (associated (Item.flattenAll items) first) first).toOption.isSome) &&
        (Item.flattenAll items).getLast?.all fun second => second.isMisfit &&
          (tag? second).toOption.join.all fun tag => (optionsOf tag second).toOption.isSome) = true := by
      decide +kernel
    obtain ⟨items, parsed, failing⟩ := (Option.any_eq_true _ _).mp accepted
    rw [Outcome.toOption_eq_some] at parsed
    simp only [Bool.and_eq_true, decide_eq_true_eq] at failing
    obtain ⟨first, second, listed⟩ := List.length_eq_two.mp failing.1.1
    simp only [listed, List.head?_cons, List.getLast?_cons_cons, List.getLast?_singleton, Option.all_some,
      Bool.and_eq_true] at failing
    obtain ⟨⟨-, described⟩, misfit, readable⟩ := failing
    refine (ofText_exposes parsed).2.2 [first] second [] listed misfit (fun earlier member => ?_) fun tag only => ?_
    · obtain ⟨found, run⟩ := Option.isSome_iff_exists.mp described
      rw [List.mem_singleton.mp member, listed]
      exact ⟨found, Outcome.toOption_eq_some.mp run⟩
    · rw [only] at readable
      obtain ⟨options, read⟩ := Option.isSome_iff_exists.mp (show (optionsOf tag second).toOption.isSome = true from readable)
      exact ⟨options, Outcome.toOption_eq_some.mp read⟩

/-- A tag on a module has no effect. -/
theorem taggedModule_isIgnored : ∃ items, parse "#[pyclass] mod m \x7b\x7d" = .ok items ∧
    ofText "#[pyclass] mod m \x7b\x7d" = .ok [] ∧ (Item.everythingOf items).filter Item.isTagged ≠ [] := by
  have expanded : (ofText "#[pyclass] mod m \x7b\x7d").toOption.any List.isEmpty = true := by decide +kernel
  have accepted : (parse "#[pyclass] mod m \x7b\x7d").toOption.any
      (fun items => !((Item.everythingOf items).filter Item.isTagged).isEmpty) = true := by decide +kernel
  obtain ⟨expansions, run, none⟩ := (Option.any_eq_true _ _).mp expanded
  obtain ⟨items, parsed, some⟩ := (Option.any_eq_true _ _).mp accepted
  rw [Outcome.toOption_eq_some] at run parsed
  rw [List.isEmpty_iff.mp none] at run
  exact ⟨items, parsed, run, by simpa using some⟩

end Expansion

end Exposure
