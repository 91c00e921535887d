import Exposure.Proofs.Brackets

/-!
Items that follow each other: token lists that are each read as items are read, one behind another, as those items,
since no item can be read any longer.
-/

namespace Exposure

namespace Course

/-- Nothing can be read any more. -/
def IsLost (course : Course) : Prop := course.stage = .lost ∧ ∀ outer ∈ course.below, outer = .lost

theorem IsLost.pass {course : Course} (isLost : course.IsLost) (token : Terminal) : (course.pass token).IsLost := by
  obtain ⟨stage, below⟩ := course
  obtain ⟨rfl, outers⟩ : stage = .lost ∧ ∀ outer ∈ below, outer = .lost := isLost
  unfold Course.pass
  split
  · exact ⟨rfl, outers⟩
  · split
    · exact ⟨rfl, List.forall_mem_cons.mpr ⟨rfl, outers⟩⟩
    · cases below with
      | nil => exact ⟨rfl, nofun⟩
      | cons outer others =>
        obtain ⟨ofOuter, ofOthers⟩ := List.forall_mem_cons.mp outers
        exact ⟨ofOuter, ofOthers⟩

theorem IsLost.foldl {course : Course} (isLost : course.IsLost) (tokens : List Token) :
    (tokens.foldl Rule.contract.move course).IsLost := by
  induction tokens generalizing course with
  | nil => exact isLost
  | cons next rest step => exact step (isLost.pass next.terminal)

end Course

/-- A token that cannot go on with an item that has ended. -/
def Terminal.beginsAnew (token : Terminal) : Bool :=
  !(token.opens || token.closes) && token ≠ .mark .semicolon

namespace Rule

/-- The types of an item are proper. -/
theorem isProper_of_read?_item {tokens : List Token} (admitted : Admitted tokens) {found : Option Item}
    (read : item.read? tokens = some found) : ∀ item, found = some item → item.IsProper := by
  rw [read?_item] at read
  exact ((itemRule_leads []).sound rules_keep_contract admitted read).2

theorem accepts_item {tokens : List Token} : item.Accepts tokens ↔ itemRule.Accepts tokens :=
  iff_of_eq (congrArg (fun found : Option (Option Item) => found.isSome = true) (read?_item tokens))

/-- An item leads the watcher to its end. -/
theorem ended_of_accepts_item {tokens : List Token} (accepts : item.Accepts tokens) :
    tokens.foldl contract.move ⟨.head, []⟩ = ⟨.ended, []⟩ :=
  (itemRule_leads []).foldl language_itemRule (accepts_item.mp accepts)

theorem ne_nil_of_accepts_item {tokens : List Token} (accepts : item.Accepts tokens) : tokens ≠ [] := by
  rintro rfl
  cases accepts

/-- An item begins anew. -/
theorem beginsAnew_of_accepts_item {next : Token} {rest : List Token} (accepts : item.Accepts (next :: rest)) :
    next.terminal.beginsAnew = true := by
  by_contra stays
  have excluded : itemRule.mayBegin next = false := by
    obtain ⟨terminal, text, start, stop⟩ := next
    cases terminal with
    | mark punctuation => cases punctuation <;> first | (exact absurd rfl stays) | rfl
    | _ => exact absurd rfl stays
  rw [accepts_item, Accepts, Grammar.Accepts, Grammar.read?_of_not_mayBegin excluded] at accepts
  cases accepts

/-- A member of a list of items: an item, or an attribute of what surrounds it. -/
abbrev member : Rule (Option Item) := item <|> (fun _ => none) <$> innerAttribute

theorem accepts_member {tokens : List Token} :
    member.Accepts tokens ↔ item.Accepts tokens ∨ innerAttribute.Accepts tokens := by
  have read : Grammar.read? rules member tokens =
      (Grammar.read? rules item tokens).or ((Grammar.read? rules innerAttribute tokens).map fun _ => none) :=
    (Grammar.read?_choice _ _ _).trans (congrArg _ (Grammar.read?_map _ _ _))
  rw [Accepts, Grammar.Accepts, read, Option.isSome_or, Option.isSome_map, Bool.or_eq_true]
  exact Iff.rfl

theorem beginsAnew_of_accepts_member {next : Token} {rest : List Token} (accepts : member.Accepts (next :: rest)) :
    next.terminal.beginsAnew = true := by
  rcases accepts_member.mp accepts with ofItem | ofAttribute
  · exact beginsAnew_of_accepts_item ofItem
  · obtain ⟨hash, _, _, _, _, same, isHash, -⟩ := exists_of_accepts_innerAttribute ofAttribute
    obtain ⟨rfl, -⟩ := List.cons_eq_cons.mp same
    rw [isHash]
    rfl

/-- No item goes on with a token that begins another. -/
theorem not_accepts_item_append {tokens added : List Token} (accepts : item.Accepts tokens)
    (begins : ∀ next ∈ added.head?, next.terminal.beginsAnew = true) (proper : added ≠ []) :
    ¬ member.Accepts (tokens ++ added) := by
  obtain ⟨next, others, rfl⟩ := List.exists_cons_of_ne_nil proper
  have begins : next.terminal.beginsAnew = true := begins next rfl
  simp only [Terminal.beginsAnew, Bool.and_eq_true, decide_eq_true_eq] at begins
  obtain ⟨noBracket, noSemicolon⟩ := begins
  have lost : Course.IsLost ((tokens ++ next :: others).foldl contract.move ⟨.head, []⟩) := by
    rw [List.foldl_append, ended_of_accepts_item accepts, List.foldl_cons]
    refine Course.IsLost.foldl ?_ others
    have passed : contract.move ⟨.ended, []⟩ next = ⟨.lost, []⟩ := by
      simp only [contract, Course.pass, noBracket, Bool.or_true, ↓reduceIte]
      rw [Stage.next]
      exact noSemicolon
    exact passed ▸ ⟨rfl, List.forall_mem_nil _⟩
  intro longer
  rcases accepts_member.mp longer with ofItem | ofAttribute
  · rw [ended_of_accepts_item ofItem] at lost
    cases lost.1
  · rw [(innerAttribute_passes (Course.head_takesAttributes [])).foldl language_innerAttribute ofAttribute] at lost
    cases lost.1

/-- No item begins as an attribute of what surrounds it. -/
theorem not_accepts_item_of_innerAttribute {tokens added : List Token} (accepts : innerAttribute.Accepts tokens) :
    ¬ item.Accepts (tokens ++ added) := by
  intro ofItem
  obtain ⟨hash, bang, opening, inside, closing, rfl, isHash, isBang, -⟩ := exists_of_accepts_innerAttribute accepts
  obtain ⟨front, rest, same, ofFront, ofRest⟩ := exists_of_accepts_item ofItem
  -- the declaration would have to begin with one of the first two marks, and the attributes before it hold no second one
  obtain _ | ⟨_, _ | ⟨_, front⟩⟩ := front
  · obtain rfl : rest = hash :: bang :: opening :: inside ++ [closing] ++ added := same.symm
    have begins := beginsDeclaration_of_accepts ofRest
    rw [isHash] at begins
    cases begins
  · obtain ⟨-, same⟩ := List.cons_eq_cons.mp same
    obtain rfl : rest = bang :: opening :: inside ++ [closing] ++ added := same.symm
    have begins := beginsDeclaration_of_accepts ofRest
    rw [isBang] at begins
    cases begins
  · simp only [List.cons_append, List.cons.injEq] at same
    obtain ⟨rfl, rfl, -⟩ := same
    have behind := beginning_nests.foldl ofFront
    have first : (nesting standsBefore).move (some 0) hash = some 0 :=
      congrArg (·.nest standsBefore (some 0)) isHash
    rw [List.foldl_cons, List.foldl_cons, first, nesting_move_eq_none (by rw [isBang]; exact ⟨rfl, rfl⟩) (by rw [isBang]; rfl),
      foldl_nesting_none] at behind
    cases behind

/-- No member of a list of items can be read longer than up to where another begins. -/
theorem read?_member_append {tokens added : List Token} (accepts : member.Accepts tokens)
    (begins : ∀ next ∈ added.head?, next.terminal.beginsAnew = true) (proper : added ≠ []) :
    member.read? (tokens ++ added) = none := by
  by_contra found
  have longer : member.Accepts (tokens ++ added) := Option.isSome_iff_ne_none.mpr found
  rcases accepts_member.mp accepts with ofItem | ofAttribute
  · exact not_accepts_item_append ofItem begins proper longer
  · rcases accepts_member.mp longer with ofItem | ofLonger
    · exact not_accepts_item_of_innerAttribute ofAttribute ofItem
    · exact Option.isSome_iff_ne_none.mp ofLonger (read?_innerAttribute_append ofAttribute proper)

/-! Items one behind another -/

section Append

variable {one two : List Token}

theorem read?_many_member_append {values values' : List (Option Item)}
    (ofOne : Grammar.read? rules (Grammar.many member) one = some values)
    (ofTwo : Grammar.read? rules (Grammar.many member) two = some values') :
    Grammar.read? rules (Grammar.many member) (one ++ two) = some (values ++ values') :=
  Grammar.read?_many_append beginsAnew_of_accepts_member (fun accepts proper begins => read?_member_append accepts begins proper)
    ofOne ofTwo

/-- The items of two lists, one behind the other, are those of both. -/
theorem read?_moduleItems_append {found found' : List Item} (ofOne : moduleItems.read? one = some found)
    (ofTwo : moduleItems.read? two = some found') : moduleItems.read? (one ++ two) = some (found ++ found') := by
  obtain ⟨values, readOne, rfl⟩ := Grammar.exists_of_read?_map ofOne
  obtain ⟨values', readTwo, rfl⟩ := Grammar.exists_of_read?_map ofTwo
  rw [← List.filterMap_append]
  exact (Grammar.read?_map _ _ _).trans (congrArg (Option.map _) (read?_many_member_append readOne readTwo))

theorem read?_items_append {found found' : List Item} (ofOne : items.read? one = some found)
    (ofTwo : items.read? two = some found') : items.read? (one ++ two) = some (found ++ found') := by
  obtain ⟨values, readOne, rfl⟩ := Grammar.exists_of_read?_map ofOne
  obtain ⟨values', readTwo, rfl⟩ := Grammar.exists_of_read?_map ofTwo
  have both := Grammar.read?_many_append beginsAnew_of_accepts_item (fun accepts proper begins =>
    Option.not_isSome_iff_eq_none.mp fun longer =>
      not_accepts_item_append accepts begins proper (accepts_member.mpr (.inl longer))) readOne readTwo
  rw [← List.filterMap_append]
  exact (Grammar.read?_map _ _ _).trans (congrArg (Option.map _) both)

end Append

section Members

variable {tokens : List Token}

theorem read?_member_of_item {found : Option Item} (read : item.read? tokens = some found) :
    member.read? tokens = some found :=
  (Grammar.read?_choice _ _ _).trans (by rw [show Grammar.read? rules item tokens = some found from read]; rfl)

theorem read?_member_of_innerAttribute (accepts : innerAttribute.Accepts tokens) : member.read? tokens = some none := by
  have noItem : Grammar.read? rules item tokens = none := by
    have nothing : ¬ item.Accepts (tokens ++ []) := not_accepts_item_of_innerAttribute accepts
    rw [List.append_nil] at nothing
    exact Option.not_isSome_iff_eq_none.mp nothing
  obtain ⟨_, read⟩ := Option.isSome_iff_exists.mp accepts
  exact (Grammar.read?_choice _ _ _).trans (by
    rw [noItem, Option.none_or]
    exact (Grammar.read?_map _ _ _).trans (congrArg (Option.map _) read))

/-- Parts that are each read as a member are read as members. -/
theorem read?_many_member_of_parts {element : Type} {body : Rule element} {transform : element → Option Item}
    (each : ∀ {part value}, body.read? part = some value → member.read? part = some (transform value))
    {values : List element} (parts : Grammar.Parts rules body tokens values) :
    Grammar.read? rules (Grammar.many member) tokens = some (values.map transform) := by
  induction parts with
  | nil => rfl
  | cons read proper _ again =>
    exact read?_many_member_append (Grammar.read?_many_of_read? (each read) proper) again

theorem read?_moduleItems_of_items {found : List Item} (read : items.read? tokens = some found) :
    moduleItems.read? tokens = some found := by
  obtain ⟨values, readValues, rfl⟩ := Grammar.exists_of_read?_map read
  have members := read?_many_member_of_parts read?_member_of_item (Grammar.parts_of_read?_many readValues)
  rw [List.map_id'] at members
  exact (Grammar.read?_map _ _ _).trans (congrArg (Option.map _) members)

/-- Attributes of what surrounds them are no items. -/
theorem read?_moduleItems_of_innerAttributes (accepts : Accepts (Grammar.many innerAttribute) tokens) :
    moduleItems.read? tokens = some [] := by
  obtain ⟨values, read⟩ := Option.isSome_iff_exists.mp accepts
  have each {part : List Token} {value : Unit} (read : innerAttribute.read? part = some value) :
      member.read? part = some none := read?_member_of_innerAttribute (Option.isSome_of_eq_some read)
  have members := read?_many_member_of_parts each (Grammar.parts_of_read?_many read)
  refine (Grammar.read?_map _ _ _).trans ((congrArg (Option.map _) members).trans ?_)
  simp

theorem read?_items_of_item {found : Option Item} (read : item.read? tokens = some found) :
    items.read? tokens = some found.toList := by
  have proper := ne_nil_of_accepts_item (Option.isSome_of_eq_some read)
  have one := Grammar.read?_many_of_read? read proper
  refine (Grammar.read?_map _ _ _).trans ((congrArg (Option.map _) one).trans ?_)
  cases found <;> rfl

end Members

/-- Token lists that are each read as an item are read, one behind another, as those items. -/
theorem read?_many_member {chunks : List (List Token × Option Item)}
    (each : ∀ chunk ∈ chunks, item.read? chunk.1 = some chunk.2) :
    Grammar.read? rules (Grammar.many member) (chunks.flatMap Prod.fst) = some (chunks.map Prod.snd) := by
  induction chunks with
  | nil => rfl
  | cons first rest again =>
    obtain ⟨read, ofRest⟩ := List.forall_mem_cons.mp each
    have proper := ne_nil_of_accepts_item (Option.isSome_of_eq_some read)
    exact read?_many_member_append (Grammar.read?_many_of_read? (read?_member_of_item read) proper) (again ofRest)

/-! Calls of code generators -/

theorem map_accepts {value other : Type} {rule : Rule value} {tokens : List Token} (accepts : rule.Accepts tokens)
    {transform : value → other} : Accepts (transform <$> rule) tokens := accepts.map transform

theorem terminal_accepts {wanted : Terminal} {token : Token} (same : token.terminal = wanted) :
    (terminal wanted).Accepts [token] := by
  rw [Accepts, Grammar.Accepts, terminal, Grammar.read?_single]
  simp [same]

theorem identPath_accepts {first : Token} (isIdent : first.terminal = .ident) {others : List (Token × Token)}
    (each : ∀ pair ∈ others, pair.1.terminal = .mark .pathSeparator ∧ pair.2.terminal = .ident) :
    identPath.Accepts (first :: others.flatMap fun pair => [pair.1, pair.2]) := by
  have parts : ∃ values, Grammar.Parts rules (mark .pathSeparator *> ident)
      (others.flatMap fun pair => [pair.1, pair.2]) values := by
    induction others with
    | nil => exact ⟨[], .nil⟩
    | cons pair rest step =>
      obtain ⟨⟨isSeparator, isName⟩, ofRest⟩ := List.forall_mem_cons.mp each
      obtain ⟨values, parts⟩ := step ofRest
      have one : Accepts (mark .pathSeparator *> ident) ([pair.1] ++ [pair.2]) :=
        (terminal_accepts isSeparator).sequence (terminal_accepts isName) _
      obtain ⟨value, read⟩ := Option.isSome_iff_exists.mp one
      exact ⟨value :: values, .cons read (by simp) parts⟩
  obtain ⟨values, parts⟩ := parts
  have joined : Accepts (Grammar.joined (mark .pathSeparator) ident)
      ([first] ++ others.flatMap fun pair => [pair.1, pair.2]) :=
    ((terminal_accepts isIdent).map Prod.mk).sequence parts.accepts _
  exact map_accepts joined

theorem within_accepts {value : Type} {rule : Rule value} {delimiter : Delimiter} {opening closing : Token}
    {inside : List Token} (opens : opening.terminal = .mark delimiter.opening) (accepts : rule.Accepts inside)
    (closes : closing.terminal = .mark delimiter.closing) :
    (within delimiter rule).Accepts (opening :: inside ++ [closing]) :=
  ((terminal_accepts opens).sequence accepts _).sequence (terminal_accepts closes) _

theorem invocation_accepts {path inside : List Token} {bang opening closing : Token} (ofPath : identPath.Accepts path)
    (isBang : bang.terminal = .mark .bang) (opens : opening.terminal = .mark .openBrace)
    (ofInside : trees.Accepts inside) (closes : closing.terminal = .mark .closeBrace) :
    invocation.Accepts (path ++ [bang] ++ (opening :: inside ++ [closing])) := by
  have nothing : Accepts (skip (Grammar.optional (mark .semicolon))) [] := rfl
  have braces : Accepts (within .brace trees *> skip (Grammar.optional (mark .semicolon)))
      ((opening :: inside ++ [closing]) ++ []) := (within_accepts opens ofInside closes).sequence nothing _
  rw [List.append_nil] at braces
  have call : Accepts (within .paren trees *> skip (mark .semicolon) <|> within .bracket trees *> skip (mark .semicolon) <|>
      within .brace trees *> skip (Grammar.optional (mark .semicolon)) <|> ident *> skip (within .brace trees))
      (opening :: inside ++ [closing]) := .ofSecond (.ofSecond (.ofFirst braces))
  exact (ofPath.sequence (terminal_accepts isBang) _).sequence call _

/-- Attributes, a visibility and the declarations that are described do not begin with an identifier. -/
theorem not_mayBegin_of_ident (first : Token) (isIdent : first.terminal = .ident) :
    structDeclaration.mayBegin first = false ∧ enumDeclaration.mayBegin first = false ∧
      implDeclaration.mayBegin first = false ∧ functionDeclaration.mayBegin first = false ∧
      moduleDeclaration.mayBegin first = false ∧ beginning.mayBegin first = false := by
  obtain ⟨_, text, start, stop⟩ := first
  obtain rfl := isIdent
  exact ⟨rfl, rfl, rfl, rfl, rfl, rfl⟩

/-- A call of a code generator is read as an item of no interest. -/
theorem read?_item_of_invocation {first : Token} (isIdent : first.terminal = .ident) {rest : List Token}
    (accepts : invocation.Accepts (first :: rest)) : item.read? (first :: rest) = some none := by
  obtain ⟨ofStruct, ofEnum, ofImpl, ofFunction, ofModule, ofBeginning⟩ := not_mayBegin_of_ident first isIdent
  have stuck {rule : Rule Item} (excluded : rule.mayBegin first = false) :
      Grammar.read? rules (some <$> rule) (first :: rest) = none :=
    (Grammar.read?_map some rule _).trans (by rw [Grammar.read?_of_not_mayBegin excluded]; rfl)
  have otherwise {one two : Rule (Option Item)} (nothing : Grammar.read? rules one (first :: rest) = none)
      (read : Grammar.read? rules two (first :: rest) = some none) :
      Grammar.read? rules (one <|> two) (first :: rest) = some none :=
    (Grammar.read?_choice one two _).trans (by rw [nothing, read]; rfl)
  have others : Accepts (importDeclaration <|> constantDeclaration <|> aliasDeclaration <|> traitDeclaration <|>
      invocation <|> externDeclaration) (first :: rest) :=
    .ofSecond (.ofSecond (.ofSecond (.ofSecond (.ofFirst accepts))))
  obtain ⟨_, readOthers⟩ := Option.isSome_iff_exists.mp others
  have readDeclaration : Grammar.read? rules declaration (first :: rest) = some none := by
    have ofOthers := (Grammar.read?_map (fun _ => (none : Option Item)) _ _).trans (congrArg (Option.map _) readOthers)
    exact otherwise (stuck ofStruct) (otherwise (stuck ofEnum) (otherwise (stuck ofImpl) (otherwise (stuck ofFunction)
      (otherwise (stuck ofModule) ofOthers))))
  have parts : Grammar.read? rules (beginning <*> declaration) (first :: rest) = some ([], false, none) := by
    refine (Grammar.read?_sequence_of_void rfl (Grammar.derivative_of_not_mayBegin ofBeginning _) rest).trans ?_
    rw [readDeclaration]
    rfl
  rw [read?_item, Rule.read?, itemRule, Grammar.read?_witnessed]
  exact congrArg (Option.map _) parts

end Rule

end Exposure
