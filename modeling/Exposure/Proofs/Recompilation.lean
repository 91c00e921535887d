import Exposure.Command
import Exposure.Proofs.Assembly
import Exposure.Proofs.Constructor
import Exposure.Proofs.Relocation

/-!
The code that registers the expansions of a text is accepted again: it has the same descriptors, in the same order and
each with the same item text, and so it expands to itself.
-/

namespace Exposure

open Lexeme

/-! Types of an item -/

theorem Field.IsProper.types {fields : List Field} (each : ∀ field ∈ fields, field.IsProper) :
    ∀ type ∈ fields.filterMap (·.type), type.IsProper := by
  intro type member
  obtain ⟨field, listed, isType⟩ := List.mem_filterMap.mp member
  exact each field listed type isType

theorem FunctionItem.IsProper.types {function : FunctionItem} (proper : function.IsProper) :
    ∀ type ∈ function.types, type.IsProper := by
  intro type member
  rcases List.mem_append.mp member with ofParameter | ofReturn
  · obtain ⟨parameter, listed, isType⟩ := List.mem_filterMap.mp ofParameter
    exact proper.parameters parameter listed type isType
  · exact proper.returnType type (Option.mem_toList.mp ofReturn)

/-- The types that the description of a proper item is made of are proper. -/
theorem Item.IsProper.types {item : Item} (proper : item.IsProper) : ∀ type ∈ item.types, type.IsProper := by
  cases item with
  | structItem item => exact Field.IsProper.types proper.2
  | enumItem item => exact List.forall_mem_nil _
  | functionItem item => exact FunctionItem.IsProper.types proper
  | implItem header selfType trait items =>
    refine List.forall_mem_cons.mpr ⟨proper.1, fun type member => ?_⟩
    obtain ⟨function, listed, inside⟩ := List.mem_flatMap.mp member
    obtain ⟨child, isChild, isFunction⟩ := List.mem_filterMap.mp listed
    have ofChild := Item.allProper_iff.mp proper.2 child isChild
    cases child with
    | functionItem item =>
      cases isFunction
      exact FunctionItem.IsProper.types ofChild type inside
    | _ => cases isFunction
  | moduleItem header name items => exact List.forall_mem_nil _

/-! Items that stand alone -/

theorem dropLineEnds_of_stop {before : List Char} {stop : Char} (isStop : IsStop stop) :
    Fragment.dropLineEnds (String.ofList (before ++ [stop])) = String.ofList (before ++ [stop]) := by
  have noLineEnd : stop ≠ '\n' := by rcases isStop with rfl | rfl <;> decide
  simp [Fragment.dropLineEnds, Text.dropTail, noLineEnd]

/-- The text of an item of a text that leaves nothing open stands alone and holds the item. -/
theorem exists_standsAlone_of_item {text : String} {pieces : List Piece} (covers : Pieces text.toList pieces [])
    (closed : leavesOpen (pieces.map Prod.snd) = false) {before stretch after : List Token}
    (tokens : tokensFrom .start pieces = before ++ stretch ++ after) {found : Item}
    (read : Rule.item.read? stretch = some (some found)) :
    ∃ pieces, StandsAlone (found.source text).toList pieces ∧ Holds pieces [(found, (found.source text).toList)] ∧
      Fragment.dropLineEnds (found.source text) = found.source text := by
  obtain ⟨pre, core, terminal, last, post, rfl, closes, begins, read, source⟩ :=
    exists_pieces_of_item covers tokens read
  have closedInside : leavesOpen ((core ++ [(some terminal, last)]).map Prod.snd) = false := by
    by_contra opens
    have opens := leavesOpen_append_left (pre.map Prod.snd)
      (leavesOpen_append_right (Bool.of_not_eq_false opens) (post.map Prod.snd))
    rw [← List.map_append, ← List.map_append, ← List.append_assoc, closed] at opens
    cases opens
  rw [List.append_assoc, Pieces.append_iff] at covers
  obtain ⟨middle, -, covers⟩ := covers
  obtain ⟨rest, ofCore, -⟩ := Pieces.append_iff.mp covers
  obtain ⟨front, stop, isStop, characters, cut⟩ := ofCore.cut closes
  have holds := Holds.item begins read
  rw [characters] at source holds
  refine ⟨core ++ [(some terminal, last)], ⟨fun after => ?_, begins⟩, ?_, ?_⟩
  · rw [source, String.toList_ofList, List.append_assoc]
    exact Pieces.continued isStop closes cut closedInside after
  · rw [source, String.toList_ofList]
    exact holds
  · rw [source, dropLineEnds_of_stop isStop]

namespace Expansion

/-- The code that registers some expansions, each behind the text of its item. -/
def emit (runtime : String) (expansions : List Expansion) : String :=
  "\n".intercalate (expansions.map fun expansion =>
    Fragment.appendTo expansion.source runtime expansion.descriptor)

/-- The text that is written for a command is the code that registers the expansions. -/
theorem answer_expand (expansions : List Expansion) (runtime : String) :
    Command.answer expansions (.expand runtime) = .ok ⟨0, "", "", some (emit runtime expansions)⟩ := rfl

/-! Exposed items -/

/-- The exposed blocks of some items are blocks of their expansions, in the same order. -/
theorem functionsFor_of_expanded {text : String} {all items : List Item} {found : List (Option Expansion)}
    (each : List.Forall₂ (fun item maybe => ofItem? text all item = .ok maybe) items found) (name : String) :
    functionsFor ((found.filterMap id).map Expansion.item) name = functionsFor items name := by
  induction each with
  | nil => rfl
  | @cons item maybe items found one _ step =>
    obtain ⟨described, run, same⟩ := ofItem?_eq_ok.mp one
    rw [functionsFor_cons item items, ← step]
    cases described with
    | none =>
      obtain rfl : none = maybe := same
      have unexposed : ¬ ∃ block, IsExposedBlock name item block := by
        rintro ⟨block, isBlock, -, tagged⟩
        obtain ⟨descriptor, impossible, -⟩ := describe_block isBlock tagged run
        cases impossible
      rw [functionsFor_of_unexposed unexposed]
      rfl
    | some descriptor =>
      obtain rfl : some _ = maybe := same
      exact functionsFor_cons item _ name

/-- The types of a function of an exposed block are types of one of the items. -/
theorem exists_item_of_functionsFor {items : List Item} {name : String} {function : FunctionItem}
    (member : function ∈ functionsFor items name) :
    ∃ item ∈ items, ∀ type ∈ function.types, type ∈ item.types := by
  obtain ⟨item, listed, inside⟩ := List.mem_flatMap.mp member
  refine ⟨item, listed, fun type isType => ?_⟩
  cases item with
  | implItem header selfType trait children =>
    simp only [Item.impl?] at inside
    split at inside
    · exact List.mem_cons_of_mem _ (List.mem_flatMap.mpr ⟨function, inside, isType⟩)
    · cases inside
  | _ => cases inside

/-- The functions that belong to the type of an item are those of the exposed blocks. -/
theorem associated_of_expanded {text : String} {items : List Item} {expansions : List Expansion}
    (run : ofItems text items = .ok expansions) (item : Item) :
    associated items item = associated (expansions.map Expansion.item) item := by
  obtain ⟨found, each, rfl⟩ := ofItems_eq_ok.mp run
  cases item with
  | structItem declared => exact (functionsFor_of_expanded each declared.name).symm
  | _ => rfl

/-- Every function that belongs to the type of an item is writable where the types of the expansions are. -/
theorem associated_isWritable {text : String} {items : List Item} {expansions : List Expansion}
    (run : ofItems text items = .ok expansions)
    (writable : ∀ expansion ∈ expansions, ∀ type ∈ expansion.item.types, type.IsWritable) (item : Item) :
    ∀ function ∈ associated items item, function.IsWritable := by
  rw [associated_of_expanded run]
  cases item with
  | structItem declared =>
    intro function member type isType
    obtain ⟨exposed, listed, ofExposed⟩ := exists_item_of_functionsFor member
    obtain ⟨expansion, isExpansion, rfl⟩ := List.mem_map.mp listed
    exact writable expansion isExpansion type (ofExposed type isType)
  | _ => exact List.forall_mem_nil _

/-! Items found again -/

/-- A described item is no module, and so is an item that is the same up to positions. -/
theorem flatten_of_described {associated : List FunctionItem} {item found : Item} {descriptor : Descriptor}
    (described : describe? associated item = .ok (some descriptor)) (same : SameButPlaces found item) :
    found.flatten = [found] := by
  cases found with
  | moduleItem header name items =>
    cases item with
    | moduleItem header' name' items' =>
      cases describes_of_describe described with
      | ofImpl isBlock _ _ => cases isBlock
      | ofFunction isFunction _ => cases isFunction
    | _ => cases same
  | _ => rfl

/-- An item that is the same up to positions is described in the same way among items that are the same. -/
theorem describe_of_same {items items' : List Item} {item item' : Item} (sameItems : SameButPlaces items' items)
    (same : SameButPlaces item' item) {descriptor : Descriptor}
    (described : describe? (associated items item) item = .ok (some descriptor)) :
    describe? (associated items' item') item' = .ok (some descriptor) := by
  have before := describe?_carries (associated items item) item
  have after := describe?_carries (associated items' item') item'
  rw [← associated_unplaced, show unplaced items' = unplaced items from sameItems,
    show unplaced item' = unplaced item from same, associated_unplaced] at after
  obtain ⟨found, run, rfl⟩ := after.exists_of_eq_ok (before.eq_ok described)
  exact run

/-- Items are expanded as given descriptors and texts where each of them is. -/
theorem ofItems_of_forall₂ {text : String} {all items : List Item} {expansions : List Expansion}
    (each : List.Forall₂ (fun item expansion => describe? (associated all item) item = .ok (some expansion.descriptor) ∧
      item.source text = expansion.source) items expansions) :
    ∃ again : List Expansion, List.Forall₂ (fun item maybe => ofItem? text all item = .ok maybe) items (again.map some) ∧
      again.map (fun expansion => (expansion.descriptor, expansion.source)) =
        expansions.map fun expansion => (expansion.descriptor, expansion.source) := by
  induction each with
  | nil => exact ⟨[], .nil, rfl⟩
  | @cons item expansion _ _ one _ step =>
    obtain ⟨again, found, same⟩ := step
    obtain ⟨described, source⟩ := one
    have expanded : ofItem? text all item = .ok (some ⟨item, expansion.descriptor, item.source text⟩) :=
      ofItem?_eq_ok.mpr ⟨_, described, rfl⟩
    refine ⟨⟨item, expansion.descriptor, item.source text⟩ :: again, .cons expanded found, ?_⟩
    rw [List.map_cons, List.map_cons, same, source]

theorem flattenAll_of_flatten {items : List Item} (each : ∀ item ∈ items, item.flatten = [item]) :
    Item.flattenAll items = items := by
  induction items with
  | nil => rfl
  | cons first rest step =>
    obtain ⟨ofFirst, ofRest⟩ := List.forall_mem_cons.mp each
    rw [Item.flattenAll, ofFirst, step ofRest, List.singleton_append]

section Recompilation

variable {text runtime : String} {expansions : List Expansion}

/-- The code that registers an expansion is an entry of its item. -/
theorem isEntry_of_expansion {items : List Item} (accepted : parse text = .ok items)
    (run : ofItems text (Item.flattenAll items) = .ok expansions)
    (closed : leavesOpen ((Lexing.ofText text).lexemes.map Lexeme.text) = false)
    (constants : ∀ expansion ∈ expansions, ∀ type ∈ expansion.item.types, ∀ constant ∈ type.constants,
      IsConstant constant)
    (isPath : IsIdentifierPath runtime) :
    ∀ expansion ∈ expansions, IsEntry (Fragment.appendTo expansion.source runtime expansion.descriptor)
      (expansion.item, expansion.source.toList) := by
  obtain ⟨complete, read⟩ := parse_eq_ok.mp accepted
  obtain ⟨pieces, covers, lexemes⟩ := Lexeme.exists_pieces complete
  have tokens : (Lexing.ofText text).tokens = tokensFrom .start pieces := by
    rw [Lexing.tokens, Lexing.ofText, lexemes]
    rfl
  rw [Lexing.ofText, lexemes, map_text_place] at closed
  rw [tokens] at read
  have members := Rule.members_flattenAll items (Rule.members_of_moduleItems read)
  have proper (item : Item) (member : item ∈ Item.flattenAll items) : item.IsProper := by
    obtain ⟨before, stretch, after, split, readItem⟩ := members.exists_of_mem member
    have admitted : Rule.Admitted stretch := fun token inside =>
      isName_of_pieces covers .start token (by simp [split, inside])
    exact Rule.isProper_of_read?_item admitted readItem item rfl
  have writable : ∀ expansion ∈ expansions, ∀ type ∈ expansion.item.types, type.IsWritable :=
    fun expansion member type isType =>
      ⟨(proper _ (exists_item_of_mem run member).1).types type isType, constants expansion member type isType⟩
  intro expansion member
  obtain ⟨isItem, described, source⟩ := exists_item_of_mem run member
  have ofTypes := typeTexts_of_describe described (proper _ isItem) (writable expansion member)
    (associated_isWritable run writable expansion.item)
  obtain ⟨before, stretch, after, split, readItem⟩ := members.exists_of_mem isItem
  obtain ⟨itemPieces, itemAlone, holds, keeps⟩ := exists_standsAlone_of_item covers closed split readItem
  obtain ⟨call, callPieces, emitted, callAlone, reads⟩ := Fragment.exists_standsAlone isPath ofTypes
  rw [source]
  have blank : ∀ char ∈ ['\n', '\n'], isBlank char = true := List.all_eq_true.mp rfl
  refine ⟨_, _, ?_, itemAlone.append callAlone blank,
    holds.append ((Holds.blanks ['\n', '\n']).append (Holds.call reads))⟩
  rw [Fragment.appendTo, keeps, String.toList_append, String.toList_append, emitted]
  simp

/-- The code that registers the expansions of a text is accepted again, with the same descriptors in the same order,
each with the same item text, and it expands to itself. This is so for every text that leaves no block comment and no raw
string open and has only identifiers and numbers as constants in its types, and for every path of identifiers. -/
theorem ofText_emit (run : ofText text = .ok expansions)
    (closed : leavesOpen ((Lexing.ofText text).lexemes.map Lexeme.text) = false)
    (constants : ∀ expansion ∈ expansions, ∀ type ∈ expansion.item.types, ∀ constant ∈ type.constants,
      IsConstant constant)
    (isPath : IsIdentifierPath runtime) :
    ∃ again, ofText (emit runtime expansions) = .ok again ∧
      again.map (fun expansion => (expansion.descriptor, expansion.source)) =
        expansions.map (fun expansion => (expansion.descriptor, expansion.source)) ∧
      emit runtime again = emit runtime expansions := by
  obtain ⟨items, accepted, run⟩ := Outcome.bind_eq_ok.mp run
  have entries := isEntry_of_expansion accepted run closed constants isPath
  obtain ⟨pieces, covers, holds⟩ := exists_pieces_of_entries
    (List.forall₂_map_left_iff.mpr (List.forall₂_map_right_iff.mpr (List.forall₂_same.mpr entries)))
  obtain ⟨found, parsed, each⟩ := parse_of_holds covers holds
  rw [List.forall₂_map_right_iff] at each
  have sameItems : SameButPlaces found (expansions.map Expansion.item) :=
    SameButPlaces.iff_forall₂.mpr (List.forall₂_map_right_iff.mpr (each.imp fun _ _ one => one.1))
  have facts : List.Forall₂ (fun item expansion => item.flatten = [item] ∧
      describe? (associated found item) item = .ok (some expansion.descriptor) ∧
        item.source (emit runtime expansions) = expansion.source) found expansions := by
    have ofMembers := ((List.forall₂_and_left _ _).mpr ⟨fun _ member => member, each.flip⟩).flip
    refine ofMembers.imp fun item expansion one => ?_
    obtain ⟨member, same, source⟩ := one
    obtain ⟨-, described, -⟩ := exists_item_of_mem run member
    have ofItem := flatten_of_described described same
    rw [associated_of_expanded run] at described
    exact ⟨ofItem, describe_of_same sameItems same described, source.trans String.ofList_toList⟩
  obtain ⟨flat, described⟩ := (List.forall₂_and_left _ _).mp facts
  obtain ⟨again, expanded, same⟩ := ofItems_of_forall₂ described
  refine ⟨again, ?_, same, ?_⟩
  · refine Outcome.bind_eq_ok.mpr ⟨found, parsed, ?_⟩
    rw [flattenAll_of_flatten flat]
    exact ofItems_eq_ok.mpr ⟨_, expanded, by simp⟩
  · have written (expansions : List Expansion) : emit runtime expansions = "\n".intercalate
        ((expansions.map fun expansion => (expansion.descriptor, expansion.source)).map fun (descriptor, source) =>
          Fragment.appendTo source runtime descriptor) := by
      rw [List.map_map]
      rfl
    rw [written, same, ← written]

end Recompilation

/-- A class in a module and its block are found again in the code that registers them. -/
theorem ofText_emit_classInModule :
    ∃ expansions, ofText ("mod m \x7b #[pyclass] struct A \x7b #[pyo3(get)] a: [u8; 4] \x7d \x7d " ++
        "#[pymethods] impl A \x7b #[new] fn b() -> Self; \x7d") = .ok expansions ∧ expansions.length = 2 ∧
      ∃ again, ofText (emit "stub::meta" expansions) = .ok again ∧
        again.map (fun expansion => (expansion.descriptor, expansion.source)) =
          expansions.map (fun expansion => (expansion.descriptor, expansion.source)) ∧
        emit "stub::meta" again = emit "stub::meta" expansions := by
  have accepted : (ofText ("mod m \x7b #[pyclass] struct A \x7b #[pyo3(get)] a: [u8; 4] \x7d \x7d " ++
        "#[pymethods] impl A \x7b #[new] fn b() -> Self; \x7d")).toOption.any (fun expansions =>
      expansions.length = 2 && expansions.all fun expansion => expansion.item.types.all fun type =>
        type.constants.all fun constant => IsConstant constant) = true := by
    decide +kernel
  obtain ⟨expansions, found, checked⟩ := (Option.any_eq_true _ _).mp accepted
  have run := Outcome.toOption_eq_some.mp found
  simp only [Bool.and_eq_true, List.all_eq_true, decide_eq_true_eq] at checked
  have closed : leavesOpen ((Lexing.ofText ("mod m \x7b #[pyclass] struct A \x7b #[pyo3(get)] a: [u8; 4] \x7d \x7d " ++
        "#[pymethods] impl A \x7b #[new] fn b() -> Self; \x7d")).lexemes.map Lexeme.text) = false := by
    decide +kernel
  have isPath : IsIdentifierPath "stub::meta" :=
    ⟨"stub", ["meta"], rfl, List.forall_mem_cons.mpr ⟨⟨rfl, rfl⟩, List.forall_mem_singleton.mpr ⟨rfl, rfl⟩⟩⟩
  exact ⟨expansions, run, checked.1, ofText_emit run closed checked.2 isPath⟩

end Expansion

end Exposure
