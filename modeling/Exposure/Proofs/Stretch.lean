import Exposure.Proofs.Places

/-!
Where the items of a text stand: every item is read from a stretch of the tokens that ends with a closing brace or a
semicolon, and the items inside it are read from stretches of that stretch, one behind another.
-/

namespace Exposure

/-- A token that can end an item of interest. -/
def Terminal.closesItem : Terminal → Bool
  | .mark .closeBrace => true
  | .mark .semicolon => true
  | _ => false

/-- The items directly inside an item. -/
def Item.children : Item → List Item
  | .implItem _ _ _ items => items
  | .moduleItem _ _ items => items
  | _ => []

/-- The stretch of the text that an item covers. -/
abbrev Item.span (item : Item) : Span := item.header.span

namespace Rule

variable {value left right : Type}

/-- Everything that a rule reads ends with a token that can end an item. -/
def EndsItem (rule : Rule value) : Prop :=
  ∀ tokens found, rule.read? tokens = some found →
    ∃ before last, tokens = before ++ [last] ∧ last.terminal.closesItem = true

/-- A terminal reads the one token of its class. -/
theorem eq_of_read?_terminal {wanted : Terminal} {tokens : List Token} {found : Token}
    (read : (terminal wanted).read? tokens = some found) : tokens = [found] ∧ found.terminal = wanted := by
  rw [Rule.read?, Rule.terminal, Grammar.read?_single] at read
  split at read
  · split at read
    · rename_i accepted
      cases read
      exact ⟨rfl, of_decide_eq_true accepted⟩
    · cases read
  · cases read

namespace EndsItem

theorem terminal {wanted : Terminal} (closes : wanted.closesItem = true) : (terminal wanted).EndsItem := by
  intro tokens found read
  obtain ⟨rfl, same⟩ := eq_of_read?_terminal read
  exact ⟨[], found, rfl, same ▸ closes⟩

theorem sequence {first : Rule left} {second : Rule right} {result : left → right → value} (ends : second.EndsItem) :
    EndsItem (.sequence first second result) := by
  intro tokens found read
  obtain ⟨beginning, rest, one, two, rfl, -, readSecond, -⟩ := Grammar.exists_of_read?_sequence read
  obtain ⟨before, last, rfl, closes⟩ := ends _ _ readSecond
  exact ⟨beginning ++ before, last, (List.append_assoc ..).symm, closes⟩

theorem choice {first second : Rule value} (ofFirst : first.EndsItem) (ofSecond : second.EndsItem) :
    EndsItem (.choice first second) := by
  intro tokens found read
  rcases Grammar.or_of_read?_choice read with readFirst | readSecond
  · exact ofFirst _ _ readFirst
  · exact ofSecond _ _ readSecond

theorem map {rule : Rule left} {transform : left → value} (ends : rule.EndsItem) : EndsItem (transform <$> rule) := by
  intro tokens found read
  obtain ⟨before, read, -⟩ := Grammar.exists_of_read?_map read
  exact ends _ _ read

theorem within {rule : Rule value} : (within .brace rule).EndsItem :=
  EndsItem.sequence (EndsItem.terminal rfl)

end EndsItem

/-- Items are read from stretches of a token list, one behind another. -/
inductive Members : List Token → List Item → Prop
  | nil (gap : List Token) : Members gap []
  | cons (gap : List Token) {stretch rest : List Token} {found : Item} {others : List Item}
      (read : item.read? stretch = some (some found)) (behind : Members rest others) :
      Members (gap ++ stretch ++ rest) (found :: others)

namespace Members

theorem widen {tokens : List Token} {items : List Item} (members : Members tokens items) (before after : List Token) :
    Members (before ++ tokens ++ after) items := by
  induction members generalizing before with
  | nil gap => exact .nil _
  | cons gap read _ again =>
    have longer := Members.cons (before ++ gap) read (again [])
    simpa only [List.append_assoc, List.nil_append] using longer

theorem of_parts {body : Rule (Option Item)} {tokens : List Token} {values : List (Option Item)}
    (isItem : ∀ {part found}, body.read? part = some (some found) → item.read? part = some (some found))
    (parts : Grammar.Parts rules body tokens values) : Members tokens (values.filterMap id) := by
  induction parts with
  | nil => exact .nil []
  | @cons part rest head tail read _ _ again =>
    cases head with
    | none => simpa using again.widen part []
    | some found => exact .cons [] (isItem read) again

end Members

theorem members_of_items {tokens : List Token} {found : List Item} (read : items.read? tokens = some found) :
    Members tokens found := by
  obtain ⟨values, readParts, rfl⟩ := Grammar.exists_of_read?_map read
  exact .of_parts id (Grammar.parts_of_read?_many readParts)

theorem members_of_moduleItems {tokens : List Token} {found : List Item}
    (read : moduleItems.read? tokens = some found) : Members tokens found := by
  obtain ⟨values, readParts, rfl⟩ := Grammar.exists_of_read?_map read
  refine .of_parts (fun readPart => ?_) (Grammar.parts_of_read?_many readParts)
  rcases Grammar.or_of_read?_choice readPart with readItem | readAttribute
  · exact readItem
  · obtain ⟨_, -, impossible⟩ := Grammar.exists_of_read?_map readAttribute
    cases impossible

/-- What a rule of items reads ends with a token that can end an item, and holds the children of the item before it. -/
def HoldsChildren (rule : Rule Item) : Prop :=
  ∀ tokens found, rule.read? tokens = some found →
    ∃ inside last, tokens = inside ++ [last] ∧ last.terminal.closesItem = true ∧ Members inside found.children

/-- A rule of items without children. -/
theorem holdsChildren_of_childless {rule : Rule Item} (ends : rule.EndsItem)
    (childless : ∀ tokens found, rule.read? tokens = some found → found.children = []) : rule.HoldsChildren := by
  intro tokens found read
  obtain ⟨before, last, rfl, closes⟩ := ends _ _ read
  exact ⟨before, last, rfl, closes, childless _ _ read ▸ .nil before⟩

theorem structDeclaration_holdsChildren : structDeclaration.HoldsChildren := by
  have semicolon : EndsItem (mark .semicolon) := EndsItem.terminal rfl
  refine holdsChildren_of_childless (EndsItem.sequence (EndsItem.choice
    (EndsItem.sequence (EndsItem.choice EndsItem.within (EndsItem.map semicolon)))
    (EndsItem.sequence semicolon))) fun _ _ read => ?_
  obtain ⟨_, _, _, _, -, readHead, -, rfl⟩ := Grammar.exists_of_read?_sequence read
  obtain ⟨_, -, rfl⟩ := Grammar.exists_of_read?_map readHead
  rfl

theorem enumDeclaration_holdsChildren : enumDeclaration.HoldsChildren := by
  refine holdsChildren_of_childless (EndsItem.sequence EndsItem.within) fun _ _ read => ?_
  obtain ⟨_, _, _, _, -, readHead, -, rfl⟩ := Grammar.exists_of_read?_sequence read
  obtain ⟨_, -, rfl⟩ := Grammar.exists_of_read?_map readHead
  rfl

theorem functionDeclaration_holdsChildren : functionDeclaration.HoldsChildren := by
  have semicolon : EndsItem (mark .semicolon) := EndsItem.terminal rfl
  refine holdsChildren_of_childless (EndsItem.sequence (EndsItem.sequence
    (EndsItem.choice (EndsItem.map EndsItem.within) (EndsItem.map semicolon)))) fun _ _ read => ?_
  obtain ⟨_, _, _, _, -, readHead, -, rfl⟩ := Grammar.exists_of_read?_sequence read
  obtain ⟨_, _, _, _, -, readName, -, rfl⟩ := Grammar.exists_of_read?_sequence readHead
  obtain ⟨_, -, rfl⟩ := Grammar.exists_of_read?_map readName
  rfl

/-- What stands between brackets is read by the rule in them. -/
theorem exists_of_read?_within {delimiter : Delimiter} {rule : Rule value} {tokens : List Token} {found : value}
    (read : (within delimiter rule).read? tokens = some found) :
    ∃ opening inside closing, tokens = opening :: inside ++ [closing] ∧ opening.terminal = .mark delimiter.opening ∧
      closing.terminal = .mark delimiter.closing ∧ rule.read? inside = some found := by
  obtain ⟨_, _, _, closing, rfl, readBeginning, readClosing, rfl⟩ := Grammar.exists_of_read?_sequence read
  obtain ⟨_, inside, opening, _, rfl, readOpening, readInside, rfl⟩ := Grammar.exists_of_read?_sequence readBeginning
  obtain ⟨rfl, opens⟩ := eq_of_read?_terminal readOpening
  obtain ⟨rfl, closes⟩ := eq_of_read?_terminal readClosing
  exact ⟨opening, inside, closing, rfl, opens, closes, readInside⟩

theorem implDeclaration_holdsChildren : implDeclaration.HoldsChildren := by
  intro tokens found read
  obtain ⟨head, body, make, functions, rfl, readHead, readBody, rfl⟩ := Grammar.exists_of_read?_sequence read
  obtain ⟨_, _, _, _, -, readHazard, -, rfl⟩ := Grammar.exists_of_read?_sequence readHead
  obtain ⟨_, _, _, _, -, readWord, -, rfl⟩ := Grammar.exists_of_read?_sequence readHazard
  obtain ⟨_, -, rfl⟩ := Grammar.exists_of_read?_map readWord
  obtain ⟨opening, inside, closing, rfl, -, closes, readInside⟩ := exists_of_read?_within readBody
  obtain ⟨attributes, others, _, _, rfl, -, readItems, rfl⟩ := Grammar.exists_of_read?_sequence readInside
  refine ⟨head ++ [opening] ++ attributes ++ others, closing, by simp, by rw [closes]; rfl, ?_⟩
  simpa [Item.children] using (members_of_items readItems).widen (head ++ [opening] ++ attributes) []

theorem moduleDeclaration_holdsChildren : moduleDeclaration.HoldsChildren := by
  intro tokens found read
  obtain ⟨head, body, make, inside, rfl, readHead, readBody, rfl⟩ := Grammar.exists_of_read?_sequence read
  obtain ⟨_, -, rfl⟩ := Grammar.exists_of_read?_map readHead
  rcases Grammar.or_of_read?_choice readBody with readNothing | readBody
  · obtain ⟨_, readMark, rfl⟩ := Grammar.exists_of_read?_map readNothing
    obtain ⟨rfl, same⟩ := eq_of_read?_terminal readMark
    exact ⟨head, _, rfl, by rw [same]; rfl, .nil head⟩
  · obtain ⟨opening, within, closing, rfl, -, closes, readInside⟩ := exists_of_read?_within readBody
    refine ⟨head ++ [opening] ++ within, closing, by simp, by rw [closes]; rfl, ?_⟩
    simpa [Item.children] using (members_of_moduleItems readInside).widen (head ++ [opening]) []

/-- The rule that an item is declared by. -/
def declarationOf : Item → Rule Item
  | .structItem _ => structDeclaration
  | .enumItem _ => enumDeclaration
  | .implItem .. => implDeclaration
  | .functionItem _ => functionDeclaration
  | .moduleItem .. => moduleDeclaration

/-- What is declared is declared by the rule for its kind. -/
theorem read?_declarationOf {tokens : List Token} {found : Item} (read : declaration.read? tokens = some (some found)) :
    (declarationOf found).read? tokens = some found := by
  have ofSome {rule : Rule Item} (read : Rule.read? (some <$> rule) tokens = some (some found)) :
      rule.read? tokens = some found := by
    obtain ⟨_, read, same⟩ := Grammar.exists_of_read?_map read
    exact Option.some.inj same ▸ read
  rcases Grammar.or_of_read?_choice read with readStruct | read
  · have readStruct := ofSome readStruct
    obtain ⟨_, _, _, _, -, readHead, -, rfl⟩ := Grammar.exists_of_read?_sequence readStruct
    obtain ⟨_, -, rfl⟩ := Grammar.exists_of_read?_map readHead
    exact readStruct
  rcases Grammar.or_of_read?_choice read with readEnum | read
  · have readEnum := ofSome readEnum
    obtain ⟨_, _, _, _, -, readHead, -, rfl⟩ := Grammar.exists_of_read?_sequence readEnum
    obtain ⟨_, -, rfl⟩ := Grammar.exists_of_read?_map readHead
    exact readEnum
  rcases Grammar.or_of_read?_choice read with readImpl | read
  · have readImpl := ofSome readImpl
    obtain ⟨_, _, _, _, -, readHead, -, rfl⟩ := Grammar.exists_of_read?_sequence readImpl
    obtain ⟨_, _, _, _, -, readFront, -, rfl⟩ := Grammar.exists_of_read?_sequence readHead
    obtain ⟨_, _, _, _, -, readHazard, -, rfl⟩ := Grammar.exists_of_read?_sequence readFront
    obtain ⟨_, -, rfl⟩ := Grammar.exists_of_read?_map readHazard
    exact readImpl
  rcases Grammar.or_of_read?_choice read with readFunction | read
  · have readFunction := ofSome readFunction
    obtain ⟨_, _, _, _, -, readHead, -, rfl⟩ := Grammar.exists_of_read?_sequence readFunction
    obtain ⟨_, _, _, _, -, readName, -, rfl⟩ := Grammar.exists_of_read?_sequence readHead
    obtain ⟨_, -, rfl⟩ := Grammar.exists_of_read?_map readName
    exact readFunction
  rcases Grammar.or_of_read?_choice read with readModule | read
  · have readModule := ofSome readModule
    obtain ⟨_, _, _, _, -, readHead, -, rfl⟩ := Grammar.exists_of_read?_sequence readModule
    obtain ⟨_, -, rfl⟩ := Grammar.exists_of_read?_map readHead
    exact readModule
  · obtain ⟨_, -, impossible⟩ := Grammar.exists_of_read?_map read
    cases impossible

/-- A declaration of interest holds the children of its item. -/
theorem declaration_holdsChildren {tokens : List Token} {found : Item}
    (read : declaration.read? tokens = some (some found)) :
    ∃ inside last, tokens = inside ++ [last] ∧ last.terminal.closesItem = true ∧ Members inside found.children := by
  have declared := read?_declarationOf read
  cases found with
  | structItem => exact structDeclaration_holdsChildren _ _ declared
  | enumItem => exact enumDeclaration_holdsChildren _ _ declared
  | implItem => exact implDeclaration_holdsChildren _ _ declared
  | functionItem => exact functionDeclaration_holdsChildren _ _ declared
  | moduleItem => exact moduleDeclaration_holdsChildren _ _ declared

theorem read?_item (tokens : List Token) : item.read? tokens = itemRule.read? tokens := by
  have guarded : (rules .item).isGuarded = true := rfl
  have proper : (rules .item).isNullable = false := rfl
  exact (Grammar.read?_rule guarded proper id tokens).trans Option.map_id'

/-- An item covers the stretch that it is read from, which holds its children before a token that can end it. -/
theorem exists_of_read?_item {tokens : List Token} {found : Item} (read : item.read? tokens = some (some found)) :
    found.span = .ofTokens tokens ∧
      ∃ inside last, tokens = inside ++ [last] ∧ last.terminal.closesItem = true ∧ Members inside found.children := by
  rw [read?_item, Rule.read?, itemRule, Grammar.read?_witnessed] at read
  obtain ⟨⟨attributes, isPublic, declared⟩, readParts, decorated⟩ := Option.map_eq_some_iff.mp read
  obtain ⟨declared, rfl, rfl⟩ := Option.map_eq_some_iff.mp decorated
  obtain ⟨head, body, _, _, rfl, readHead, readBody, same⟩ := Grammar.exists_of_read?_sequence readParts
  obtain ⟨_, _, _, _, -, readAttributes, -, rfl⟩ := Grammar.exists_of_read?_sequence readHead
  obtain ⟨_, -, rfl⟩ := Grammar.exists_of_read?_map readAttributes
  cases same
  obtain ⟨inside, last, rfl, closes, members⟩ := declaration_holdsChildren readBody
  have sameChildren (attributes isPublic span) : (declared.decorate attributes isPublic span).children = declared.children := by
    cases declared <;> rfl
  have sameSpan (attributes isPublic span) : (declared.decorate attributes isPublic span).span = span := by
    cases declared <;> rfl
  refine ⟨sameSpan .., head ++ inside, last, (List.append_assoc ..).symm, closes, ?_⟩
  rw [sameChildren]
  simpa using members.widen head []

end Rule

end Exposure
