import Exposure.Proofs.Noninterference

/-!
Where what is not exposed stands in a text: every item that is read stands in a gap, at any depth, so that the body of any
function and any item without a tag outside of the blocks of functions can be changed without any effect.
-/

namespace Exposure

namespace Rule

/-- An item stands in an enclosure of a kind, at any depth, among the items of another enclosure. -/
inductive Stands (kind : Enclosure) (found : Item) : Enclosure → List Item → Prop
  | here {items : List Item} (member : found ∈ items) : Stands kind found kind items
  | inside {outer inner : Enclosure} {items inside : List Item} {wrap : List Item → Item} (wraps : inner.Wraps wrap)
      (member : wrap inside ∈ items) (stands : Stands kind found inner inside) : Stands kind found outer items

namespace Enclosure

variable {kind : Enclosure}

/-- An item that holds items has braces that they are read in. -/
theorem exists_braces {wrap : List Item → Item} (wraps : kind.Wraps wrap) {inside : List Item} {tokens : List Token}
    (read : item.read? tokens = some (some (wrap inside))) :
    inside = [] ∨ ∃ start front opening content closing, tokens = start ++ (front ++ (opening :: content ++ [closing])) ∧
      beginning.Accepts start ∧ kind.head.Accepts front ∧ opening.terminal = .mark .openBrace ∧
      kind.content.read? content = some inside ∧ closing.terminal = .mark .closeBrace := by
  obtain ⟨start, rest, declared, attributes, isPublic, rfl, ofStart, readRest, made, -⟩ := exists_declared read
  have readRest := read?_declarationOf readRest
  cases kind with
  | module =>
    obtain ⟨header, name, rfl⟩ := wraps
    obtain ⟨header', rfl⟩ : ∃ header', declared = .moduleItem header' name inside := by
      cases declared <;> cases made
      exact ⟨_, rfl⟩
    obtain ⟨front, braces, make, held, rfl, readHead, readBraces, same⟩ := Grammar.exists_of_read?_sequence readRest
    obtain ⟨_, _, rfl⟩ := @wraps_of_read?_head .module _ _ readHead
    cases same
    rcases Grammar.or_of_read?_choice readBraces with readNothing | readBraces
    · obtain ⟨_, -, rfl⟩ := Grammar.exists_of_read?_map readNothing
      exact .inl rfl
    · obtain ⟨opening, content, closing, rfl, opens, closes, readContent⟩ := exists_of_read?_within readBraces
      exact .inr ⟨start, front, opening, content, closing, rfl, ofStart, Option.isSome_of_eq_some readHead, opens,
        readContent, closes⟩
  | block =>
    obtain ⟨header, selfType, trait, rfl⟩ := wraps
    obtain ⟨header', rfl⟩ : ∃ header', declared = .implItem header' selfType trait inside := by
      cases declared <;> cases made
      exact ⟨_, rfl⟩
    obtain ⟨front, braces, make, held, rfl, readHead, readBraces, same⟩ := Grammar.exists_of_read?_sequence readRest
    obtain ⟨_, _, _, rfl⟩ := @wraps_of_read?_head .block _ _ readHead
    cases same
    obtain ⟨opening, content, closing, rfl, opens, closes, readContent⟩ := exists_of_read?_within readBraces
    exact .inr ⟨start, front, opening, content, closing, rfl, ofStart, Option.isSome_of_eq_some readHead, opens,
      readContent, closes⟩

/-- Where one of the items that are read one behind another is read. -/
theorem exists_of_mem {tokens : List Token} {items : List Item} (read : kind.rest.read? tokens = some items) {found : Item}
    (member : found ∈ items) : ∃ front stretch back, tokens = front ++ stretch ++ back ∧ kind.rest.Accepts front ∧
      item.read? stretch = some (some found) ∧ kind.rest.Accepts back := by
  have listed {values : List (Option Item)} (member : found ∈ values.filterMap id) : some found ∈ values := by
    simpa using member
  cases kind with
  | module =>
    obtain ⟨values, readValues, rfl⟩ := Grammar.exists_of_read?_map read
    obtain ⟨front, stretch, back, rfl, ofFront, readStretch, ofBack⟩ :=
      (Grammar.parts_of_read?_many readValues).exists_of_mem (listed member)
    refine ⟨front, stretch, back, rfl, ofFront.map _, ?_, ofBack.map _⟩
    rcases Grammar.or_of_read?_choice readStretch with readItem | readAttribute
    · exact readItem
    · obtain ⟨_, -, impossible⟩ := Grammar.exists_of_read?_map readAttribute
      cases impossible
  | block =>
    obtain ⟨values, readValues, rfl⟩ := Grammar.exists_of_read?_map read
    obtain ⟨front, stretch, back, rfl, ofFront, readStretch, ofBack⟩ :=
      (Grammar.parts_of_read?_many readValues).exists_of_mem (listed member)
    exact ⟨front, stretch, back, rfl, ofFront.map _, readStretch, ofBack.map _⟩

/-- Items in braces stand behind what the enclosure takes before all items. -/
theorem exists_of_read?_content {tokens : List Token} {items : List Item} (read : kind.content.read? tokens = some items) :
    ∃ first rest, tokens = first ++ rest ∧ kind.content.Accepts first ∧ kind.rest.read? rest = some items := by
  cases kind with
  | module => exact ⟨[], tokens, rfl, rfl, read⟩
  | block =>
    obtain ⟨first, rest, _, _, rfl, readFirst, readRest, rfl⟩ := Grammar.exists_of_read?_sequence read
    have nothing : items.Accepts [] := rfl
    have alone : block.content.Accepts (first ++ []) :=
      Grammar.Accepts.sequence (Option.isSome_of_eq_some readFirst) nothing _
    rw [List.append_nil] at alone
    exact ⟨first, rest, rfl, alone, readRest⟩

theorem accepts_rest_nil (kind : Enclosure) : kind.rest.Accepts [] := by
  cases kind <;> rfl

theorem accepts_rest_append {one two : List Token} (ofOne : kind.rest.Accepts one) (ofTwo : kind.rest.Accepts two) :
    kind.rest.Accepts (one ++ two) := by
  obtain ⟨_, readOne⟩ := Option.isSome_iff_exists.mp ofOne
  obtain ⟨_, readTwo⟩ := Option.isSome_iff_exists.mp ofTwo
  exact Option.isSome_iff_exists.mpr ⟨_, read?_rest_append readOne readTwo⟩

theorem accepts_content_append {one two : List Token} (ofOne : kind.content.Accepts one) (ofTwo : kind.rest.Accepts two) :
    kind.content.Accepts (one ++ two) := by
  obtain ⟨_, readOne⟩ := Option.isSome_iff_exists.mp ofOne
  obtain ⟨_, readTwo⟩ := Option.isSome_iff_exists.mp ofTwo
  exact Option.isSome_iff_exists.mpr ⟨_, read?_content_append readOne readTwo⟩

end Enclosure

namespace Gap

variable {kind outer : Enclosure} {before after : List Token}

/-- A gap can begin behind more items and end before more. -/
theorem widen (gap : Gap kind before after) {front back : List Token} (ofFront : kind.rest.Accepts front)
    (ofBack : kind.rest.Accepts back) : Gap kind (before ++ front) (back ++ after) := by
  cases gap with
  | text ofBefore ofAfter =>
    exact .text (@Enclosure.accepts_rest_append .module _ _ ofBefore ofFront)
      (@Enclosure.accepts_rest_append .module _ _ ofBack ofAfter)
  | within gap ofStart ofHead opens ofInside ofRest closes =>
    have wider := Gap.within gap ofStart ofHead opens (Enclosure.accepts_content_append ofInside ofFront)
      (Enclosure.accepts_rest_append ofBack ofRest) closes
    simpa using wider

/-- What stands among items that are read in a gap stands in a gap itself. -/
theorem exists_of_stands (gap : Gap outer before after) {tokens : List Token} {items : List Item}
    (read : outer.rest.read? tokens = some items) {found : Item} (stands : Stands kind found outer items) :
    ∃ front stretch back, before ++ tokens ++ after = front ++ stretch ++ back ∧ Gap kind front back ∧
      item.read? stretch = some (some found) := by
  induction stands generalizing before after tokens with
  | here member =>
    obtain ⟨front, stretch, back, rfl, ofFront, readStretch, ofBack⟩ := Enclosure.exists_of_mem read member
    exact ⟨before ++ front, stretch, back ++ after, by simp, gap.widen ofFront ofBack, readStretch⟩
  | inside wraps member stands again =>
    obtain ⟨front, stretch, back, rfl, ofFront, readStretch, ofBack⟩ := Enclosure.exists_of_mem read member
    rcases Enclosure.exists_braces wraps readStretch with rfl |
      ⟨start, head, opening, content, closing, rfl, ofStart, ofHead, opens, readContent, closes⟩
    · cases stands with
      | here member => cases member
      | inside _ member => cases member
    · obtain ⟨first, rest, rfl, ofFirst, readRest⟩ := Enclosure.exists_of_read?_content readContent
      have deeper := Gap.within (gap.widen ofFront ofBack) ofStart ofHead opens ofFirst
        (Enclosure.accepts_rest_nil _) closes
      obtain ⟨front', stretch', back', same, gap', read'⟩ := again deeper readRest
      exact ⟨front', stretch', back', by simpa using same, gap', read'⟩

end Gap

section Text

variable {kind : Enclosure} {tokens : List Token} {items : List Item} (read : moduleItems.read? tokens = some items)

include read

/-- Every item of a text stands in a gap. -/
theorem exists_gap {found : Item} (stands : Stands kind found .module items) :
    ∃ front stretch back, tokens = front ++ stretch ++ back ∧ Gap kind front back ∧
      item.read? stretch = some (some found) := by
  have whole : Gap .module [] [] := .text rfl rfl
  obtain ⟨front, stretch, back, same, gap, readStretch⟩ := whole.exists_of_stands read stands
  exact ⟨front, stretch, back, by simpa using same, gap, readStretch⟩

/-- A function of a text either has no body, or its body can be exchanged for any trees. -/
theorem exists_body {function : FunctionItem} (stands : Stands kind (.functionItem function) .module items) :
    ∃ front head last back, tokens = front ++ (head ++ last) ++ back ∧
      item.read? (head ++ last) = some (some (.functionItem function)) ∧
      ((∃ semicolon, last = [semicolon] ∧ semicolon.terminal = .mark .semicolon) ∨
        ∃ opening body closing, last = opening :: body ++ [closing] ∧ opening.terminal = .mark .openBrace ∧
          closing.terminal = .mark .closeBrace ∧ ∀ body', trees.Accepts body' →
            Change tokens (front ++ (head ++ (opening :: body' ++ [closing])) ++ back)) := by
  obtain ⟨front, stretch, back, rfl, gap, readStretch⟩ := exists_gap read stands
  obtain ⟨start, rest, declared, _, _, rfl, -, readRest, made, -⟩ := exists_declared readStretch
  obtain ⟨given, rfl⟩ : ∃ given, declared = .functionItem given := by
    cases declared <;> cases made
    exact ⟨_, rfl⟩
  obtain ⟨head, last, rfl, -, ofLast⟩ := exists_of_read?_function (read?_declarationOf readRest)
  rw [← List.append_assoc] at readStretch
  refine ⟨front, start ++ head, last, back, by simp, readStretch, ?_⟩
  rcases accepts_functionBody ofLast with ⟨opening, body, closing, rfl, opens, ofBody, closes⟩ | withoutBody
  · refine .inr ⟨opening, body, closing, rfl, opens, closes, fun body' ofBody' => ?_⟩
    rw [← List.append_assoc start]
    exact .body gap (isFunction_iff.mpr ⟨function, readStretch⟩) opens closes ofBody ofBody'
  · exact .inl withoutBody

/-- An item of a text without a tag, which is no module and stands in no block of functions, can be left out. -/
theorem exists_deletion {found : Item} (stands : Stands .module found .module items) (untagged : found.isTagged = false)
    (noModule : found.isModule = false) :
    ∃ front stretch back, tokens = front ++ stretch ++ back ∧ item.read? stretch = some (some found) ∧
      Change tokens (front ++ back) := by
  obtain ⟨front, stretch, back, rfl, gap, readStretch⟩ := exists_gap read stands
  refine ⟨front, stretch, back, rfl, readStretch, .deletion gap (isUnexposed_iff.mpr ⟨_, readStretch, ?_⟩)⟩
  intro item same
  obtain rfl := Option.some.inj same
  exact ⟨untagged, noModule⟩

end Text

end Rule

end Exposure
