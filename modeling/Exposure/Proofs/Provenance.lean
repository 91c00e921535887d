import Exposure.Proofs.Contract
import Exposure.Proofs.Origin

/-!
Every rule of the declaration language gives what is made of the tokens that it reads, and so the items of a text are made
of its tokens.
-/

namespace Exposure

namespace Rule

open Grammar.Contract

/-- What is relied on of each rule: what it gives is made of tokens of a list. -/
def origin (tokens : List Token) : Grammar.Contract Token Unit RuleName.Meaning where
  admits token := token ∈ tokens
  move _ _ := ()
  begins _ _ := True
  promises
    | .tree, _, _, tree => tree.IsIn tokens
    | .type, _, _, _ => True
    | .item, _, _, found => ∀ item, found = some item → item.IsIn tokens

variable {value : Type} {tokens : List Token}

variable (tokens) in
/-- From the tokens of a list, a rule gives values with a property. -/
abbrev Gives (rule : Rule value) (gives : value → Prop) : Prop := (origin tokens).Leads rule () () gives

theorem gives_any (rule : Rule value) : Gives tokens rule fun _ => True :=
  Ensures.ofForall (fun _ _ => trivial) (fun _ _ => ⟨rfl, trivial⟩) ()

theorem satisfying_gives (wanted : Terminal → Bool) : Gives tokens (satisfying wanted) (· ∈ tokens) :=
  fun _ admitted _ => ⟨rfl, admitted⟩

theorem terminal_gives (wanted : Terminal) : Gives tokens (terminal wanted) (· ∈ tokens) :=
  fun _ admitted _ => ⟨rfl, admitted⟩

theorem ident_gives : Gives tokens ident fun name => name.start.Spells tokens name.text :=
  fun name admitted _ => ⟨rfl, name, admitted, rfl, rfl⟩

theorem within_gives {rule : Rule value} {gives : value → Prop} (given : Gives tokens rule gives) (delimiter : Delimiter) :
    Gives tokens (within delimiter rule) gives :=
  .seqLeft (.seqRight (gives_any _) given) (gives_any _)

theorem commaList_gives {rule : Rule value} {gives : value → Prop} (given : Gives tokens rule gives) :
    Gives tokens (commaList rule) fun found => ∀ each ∈ found, gives each :=
  given.separated (gives_any _)

/-! Trees and attributes -/

theorem tree_gives : Gives tokens tree (·.IsIn tokens) := ⟨trivial, fun _ _ given => ⟨rfl, given⟩⟩

theorem trees_gives : Gives tokens trees fun found => ∀ tree ∈ found, tree.IsIn tokens := tree_gives.many

theorem group_gives (delimiter : Delimiter) : Gives tokens (group delimiter) (·.IsIn tokens) :=
  .seq ((terminal_gives _).map fun opening member _ inside => ⟨⟨opening, member, rfl⟩, TokenTree.allIn_iff.mpr inside⟩)
    (.seqLeft trees_gives (gives_any _))

theorem leaf_gives {rule : Rule Token} (given : Gives tokens rule (· ∈ tokens)) :
    Gives tokens ((TokenTree.leaf ∘ Leaf.ofToken) <$> rule) (·.IsIn tokens) :=
  given.map fun _ member => Leaf.IsIn.ofToken member

theorem treeRule_gives : Gives tokens treeRule (·.IsIn tokens) :=
  .orElse (.orElse (group_gives _) (.orElse (group_gives _) (group_gives _)))
    (.orElse (leaf_gives (satisfying_gives _)) (leaf_gives (terminal_gives _)))

theorem identPath_gives : Gives tokens identPath fun found => found.2.IsIn tokens :=
  (ident_gives.joined (gives_any _) ident_gives).map fun _ found => found.1.isIn

theorem attributeInput_gives : Gives tokens attributeInput (·.IsIn tokens) :=
  .orElse ((within_gives trees_gives .paren).map fun _ inside => inside)
    (Leads.map (.seqRight (gives_any _) tree_gives) fun _ isIn => isIn)

theorem bracketAttribute_gives : Gives tokens bracketAttribute (·.IsIn tokens) := by
  refine .seqRight (gives_any _) (within_gives (.seq (identPath_gives.map ?_) attributeInput_gives.optional) _)
  rintro ⟨path, position⟩ begins input isIn
  refine ⟨begins, ?_⟩
  cases input with
  | none => trivial
  | some given => exact isIn given rfl

theorem ofDocComment_isIn {comment : Token} (member : comment ∈ tokens) : (Attribute.ofDocComment comment).IsIn tokens :=
  ⟨⟨comment, member, rfl⟩, .ofComment member _⟩

theorem outerAttributes_gives : Gives tokens outerAttributes fun found => ∀ attr ∈ found, attr.IsIn tokens :=
  Leads.many (.orElse bracketAttribute_gives ((terminal_gives _).map fun _ => ofDocComment_isIn))

/-! Structures and enumerations -/

theorem namedField_gives : Gives tokens namedField (·.IsIn tokens) :=
  .seq (.seq (.seq (outerAttributes_gives.map fun _ ofAttributes _ _ _ spells _ _ =>
    ⟨.inl ⟨_, rfl, spells⟩, ofAttributes⟩) (gives_any _)) ident_gives) (gives_any _)

theorem namedFields_gives : Gives tokens namedFields fun found => ∀ field ∈ found, field.IsIn tokens :=
  within_gives (commaList_gives namedField_gives) _

/-- A field in parentheses is found where it is said to be, before it gets its index for a name. -/
theorem tupleField_gives : Gives tokens tupleField fun field =>
    field.place = field.outset ∧ ∀ attr ∈ field.attributes, attr.IsIn tokens :=
  .seq (.seq (outerAttributes_gives.map fun _ ofAttributes _ _ _ _ => ⟨rfl, ofAttributes⟩) (gives_any _)) (gives_any _)

theorem tupleFields_gives : Gives tokens tupleFields fun found => ∀ field ∈ found, field.IsIn tokens := by
  refine (within_gives (commaList_gives tupleField_gives) _).map fun found isIn field member => ?_
  obtain ⟨index, bound, rfl⟩ := List.mem_mapIdx.mp member
  obtain ⟨place, ofAttributes⟩ := isIn found[index] (List.getElem_mem bound)
  exact ⟨.inr ⟨⟨index, rfl⟩, place⟩, ofAttributes⟩

/-- A header that only knows a position is made of the token there. -/
theorem isIn_bare {position : Position} (begins : position.IsIn tokens) : (Header.bare position).IsIn tokens :=
  ⟨begins, nofun⟩

theorem structDeclaration_gives : Gives tokens structDeclaration (·.IsIn tokens) :=
  .seq (Leads.map (.seqLeft (.seqRight (gives_any _) ident_gives) (gives_any _)) fun _ spells _ fields =>
      StructItem.IsIn.mk (isIn_bare spells.isIn) spells fields)
    (.orElse (.seqRight (gives_any _) (.orElse namedFields_gives ((gives_any _).map fun _ _ => nofun)))
      (.seqLeft (.seqLeft tupleFields_gives (gives_any _)) (gives_any _)))

theorem variant_gives : Gives tokens variant (·.IsIn tokens) :=
  .seq (.seq (.seq (.seq (outerAttributes_gives.map fun _ ofAttributes _ _ _ spells _ _ _ _ => ⟨spells, ofAttributes⟩)
    (gives_any _)) ident_gives) (gives_any _)) (gives_any _)

theorem enumDeclaration_gives : Gives tokens enumDeclaration (·.IsIn tokens) :=
  .seq (Leads.map (.seqLeft (.seqLeft (.seqRight (gives_any _) ident_gives) (gives_any _)) (gives_any _))
      fun _ spells _ variants => EnumItem.IsIn.mk (isIn_bare spells.isIn) spells variants)
    (within_gives (commaList_gives variant_gives) _)

/-! Functions, blocks of functions and modules -/

theorem parameter_gives : Gives tokens parameter (·.IsIn tokens) := by
  have named : Gives tokens ((·, none) <$> (mark .ampersand *> Grammar.optional (terminal .lifetime) *>
        Grammar.optional (word .mutWord) *> ident) <|>
      Prod.mk <$> (Grammar.optional (word .mutWord) *> ident) <*> Grammar.optional (mark .colon *> typeExpr))
      fun found => found.1.start.Spells tokens found.1.text :=
    .orElse (Leads.map (.seqRight (gives_any _) ident_gives) fun _ spells => spells)
      (.seq (Leads.map (.seqRight (gives_any _) ident_gives) fun _ spells _ _ => spells) (gives_any _))
  exact .seq (outerAttributes_gives.map fun _ ofAttributes _ spells => ⟨spells, ofAttributes⟩) named

theorem functionDeclaration_gives : Gives tokens functionDeclaration (·.IsIn tokens) :=
  .seq (.seq (Leads.map (.seqLeft (.seqRight (gives_any _) ident_gives) (gives_any _)) fun _ spells _ parameters _ _ =>
      FunctionItem.IsIn.mk (isIn_bare spells.isIn) spells parameters)
    (within_gives (commaList_gives parameter_gives) _)) (gives_any _)

/-- The items of interest in a list. -/
theorem allIn_filterMap {found : List (Option Item)} (isIn : ∀ each ∈ found, ∀ item, each = some item → item.IsIn tokens) :
    Item.AllIn tokens (found.filterMap id) := by
  refine Item.allIn_iff.mpr fun item member => ?_
  obtain ⟨each, inside, same⟩ := List.mem_filterMap.mp member
  exact isIn each inside item same

theorem item_gives : Gives tokens item fun found => ∀ item, found = some item → item.IsIn tokens :=
  ⟨trivial, fun _ _ given => ⟨rfl, given⟩⟩

theorem implDeclaration_gives : Gives tokens implDeclaration (·.IsIn tokens) := by
  have hazard : Gives tokens (Grammar.optional (word .unsafeWord)) fun found => ∀ token, found = some token →
      token ∈ tokens :=
    (terminal_gives _).optional
  have keyword : Gives tokens (word .implWord <* maybeGenerics) (· ∈ tokens) :=
    .seqLeft (terminal_gives _) (gives_any _)
  refine .seq (.seq (.seq (hazard.map fun hazard ofHazard first ofFirst _ _ _ inside => ?_) keyword) (gives_any _))
    (within_gives (.seqRight (gives_any _) (item_gives.many.map fun _ => allIn_filterMap)) _)
  refine ⟨isIn_bare ?_, inside⟩
  cases hazard with
  | none => exact ⟨first, ofFirst, rfl⟩
  | some token => exact ⟨token, ofHazard token rfl, rfl⟩

theorem moduleItems_gives : Gives tokens moduleItems (Item.AllIn tokens) := by
  have member : Gives tokens (item <|> (fun _ => none) <$> innerAttribute) fun found =>
      ∀ item, found = some item → item.IsIn tokens :=
    .orElse item_gives ((gives_any _).map fun _ _ => nofun)
  exact member.many.map fun _ => allIn_filterMap

theorem moduleDeclaration_gives : Gives tokens moduleDeclaration (·.IsIn tokens) :=
  .seq (Leads.map (.seqRight (gives_any _) ident_gives) fun _ spells _ inside => ⟨isIn_bare spells.isIn, inside⟩)
    (.orElse ((gives_any _).map fun _ _ => trivial) (within_gives moduleItems_gives _))

theorem declaration_gives : Gives tokens declaration fun found => ∀ item, found = some item → item.IsIn tokens := by
  have kept {rule : Rule Item} (given : Gives tokens rule (·.IsIn tokens)) :
      Gives tokens (some <$> rule) fun found => ∀ item, found = some item → item.IsIn tokens :=
    given.map fun _ isIn _ same => Option.some.inj same ▸ isIn
  exact .orElse (kept structDeclaration_gives) (.orElse (kept enumDeclaration_gives)
    (.orElse (kept implDeclaration_gives) (.orElse (kept functionDeclaration_gives)
      (.orElse (kept moduleDeclaration_gives) ((gives_any _).map fun _ _ => nofun)))))

theorem itemRule_gives : Gives tokens itemRule fun found => ∀ item, found = some item → item.IsIn tokens := by
  have parts : Gives tokens ((fun attributes isPublic item => (attributes, isPublic, item)) <$> outerAttributes <*>
      isVisible <*> declaration) fun found =>
        (∀ attr ∈ found.1, attr.IsIn tokens) ∧ ∀ item, found.2.2 = some item → item.IsIn tokens :=
    .seq (.seq (outerAttributes_gives.map fun _ ofAttributes _ _ _ isIn => ⟨ofAttributes, isIn⟩) (gives_any _))
      declaration_gives
  refine parts.witnessed ?_
  rintro _ ⟨attributes, isPublic, found⟩ ⟨ofAttributes, isIn⟩ item same
  obtain ⟨declared, rfl, rfl⟩ := Option.map_eq_some_iff.mp same
  exact (isIn declared rfl).decorate ofAttributes _ _

theorem rules_keep_origin : (origin tokens).KeptBy rules := by
  intro which _ _
  cases which with
  | tree => exact treeRule_gives.mono fun _ _ given => given.2
  | type => exact (gives_any typeRule).mono fun _ _ given => given.2
  | item => exact itemRule_gives.mono fun _ _ given => given.2

end Rule

/-- The items of a text are made of its tokens, those inside modules too. -/
theorem isIn_of_parse {text : String} {items : List Item} (accepted : parse text = .ok items) :
    ∀ item ∈ Item.flattenAll items, item.IsIn (Lexing.ofText text).tokens := by
  have read := (parse_eq_ok.mp accepted).2
  have allIn := (Rule.moduleItems_gives.sound Rule.rules_keep_origin (fun _ member => member) read).2
  exact Item.allIn_iff.mp allIn.flattenAll

end Exposure
