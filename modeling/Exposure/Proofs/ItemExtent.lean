import Exposure.Proofs.Extent

/-!
Where items end: a declaration leads the watcher from its keyword to behind its last token and no further, and the items
in its braces leave it before the next item.
-/

namespace Exposure.Rule

open Grammar.Contract

/-! Attributes -/

section Attributes

variable {here : Course}

theorem identPath_passes (below : List Stage) : identPath.Passes ⟨.trees, below⟩ ⟨.trees, below⟩ := by
  have name : ident.Passes ⟨.trees, below⟩ ⟨.trees, below⟩ := terminal_passes (Course.pass_trees below rfl rfl)
  have separator : (mark .pathSeparator).Passes ⟨.trees, below⟩ ⟨.trees, below⟩ :=
    terminal_passes (Course.pass_trees below rfl rfl)
  exact (name.joined separator name).map fun _ _ => trivial

theorem attributeInput_passes (below : List Stage) : attributeInput.Passes ⟨.trees, below⟩ ⟨.trees, below⟩ := by
  have arguments : (within .paren trees).Passes ⟨.trees, below⟩ ⟨.trees, below⟩ :=
    within_trees_passes below (Course.pass_opens_trees below rfl)
  have equals : (mark .equals).Passes ⟨.trees, below⟩ ⟨.trees, below⟩ :=
    terminal_passes (Course.pass_trees below rfl rfl)
  have value : tree.Passes ⟨.trees, below⟩ ⟨.trees, below⟩ := ⟨rfl, fun _ _ same => ⟨same, trivial⟩⟩
  exact .orElse (arguments.map fun _ _ => trivial) ((Leads.seqRight equals value).map fun _ _ => trivial)

theorem bracketAttribute_passes (takes : here.TakesAttributes) : bracketAttribute.Passes here here := by
  have hash : (mark .hash).Passes here here := terminal_passes (takes.plain _ (.inl rfl))
  exact .seqRight hash (Leads.within (takes.brackets _ (.inl rfl)) (.seq ((identPath_passes _).map fun _ _ _ _ => trivial)
    (attributeInput_passes _).optional.passes) (Course.pass_closes_trees _ _ rfl))

theorem outerAttributes_passes (takes : here.TakesAttributes) : outerAttributes.Passes here here := by
  have comment : (terminal .docComment).Passes here here :=
    terminal_passes (takes.plain _ (.inr (.inr (.inl rfl))))
  exact (Leads.many (.orElse (bracketAttribute_passes takes) (comment.map fun _ _ => trivial))).passes

theorem innerAttribute_passes (takes : here.TakesAttributes) : innerAttribute.Passes here here := by
  have hash : (mark .hash).Passes here here := terminal_passes (takes.plain _ (.inl rfl))
  have bang : (mark .bang).Passes here here := terminal_passes (takes.plain _ (.inr (.inl rfl)))
  exact .seqRight (.seqRight hash bang) (within_trees_passes _ (takes.brackets _ (.inl rfl))).skip

theorem isVisible_passes (takes : here.TakesAttributes) : isVisible.Passes here here := by
  have keyword : (word .pubWord).Passes here here := terminal_passes (takes.plain _ (.inr (.inr (.inr rfl))))
  have restriction : (within .paren trees).Passes here here :=
    within_trees_passes here.below (takes.brackets _ (.inr rfl))
  exact (Leads.optional (.seqRight keyword restriction.optional.skip)).map fun _ _ => trivial

end Attributes

/-! Generics -/

section Generics

variable {here : Course}

theorem outlives_passes (steady : here.Steady) : outlives.Passes here here := by
  have lifetime : (terminal .lifetime).Passes here here := terminal_passes (steady.pass rfl)
  exact .seqRight (mark_passes steady rfl) (lifetime.joined (mark_passes steady rfl) lifetime).skip

theorem bounds_steady (steady : here.Steady) : bounds.Passes here here := by
  have leads := bounds_leads steady.takesType
  rw [steady.rest] at leads
  exact leads.passes

/-- A token tree behind an equals sign. -/
theorem treeInStatement_behind_equals (steady : here.Steady) :
    treeInStatement.Passes (here.pass (.mark .equals)) here := by
  have returned : (⟨here.stage.rest, here.below⟩ : Course) = here := steady.rest
  have ofGroup (delimiter : Delimiter) : (group delimiter).Passes (here.pass (.mark .equals)) here := by
    have passes := group_passes here.below (Course.pass_opens_behind_equals steady (opens_opening delimiter))
    rwa [returned] at passes
  have leaf : plainLeaf.Passes (here.pass (.mark .equals)) here := by
    refine Leads.map (satisfying_passes fun token plain => ?_) fun _ _ => trivial
    obtain ⟨noOpening, noClosing⟩ := isPlainLeaf_brackets plain
    refine Course.pass_leaf_behind_equals steady noOpening noClosing ?_
    rintro rfl
    cases plain
  exact .orElse (.orElse (ofGroup _) (.orElse (ofGroup _) (ofGroup _))) leaf

theorem genericParameter_passes (steady : here.Steady) : genericParameter.Passes here here := by
  obtain ⟨takes, behind⟩ := Course.pass_equals steady
  have type := typeExpr_leads takes
  rw [behind] at type
  have name : ident.Passes here here := terminal_passes (steady.pass rfl)
  have colon : (mark .colon).Passes here here := mark_passes steady rfl
  have equals : (mark .equals).Passes here (here.pass (.mark .equals)) := terminal_passes rfl
  have lifetimeParameter : Passes (terminal .lifetime *> skip (Grammar.optional outlives)) here here :=
    .seqRight (terminal_passes (steady.pass rfl)) (outlives_passes steady).optional.skip
  have constParameter : Passes (word .constWord *> ident *> mark .colon *> typeExpr *>
      skip (Grammar.optional (mark .equals *> treeInStatement))) here here :=
    .seqRight (.seqRight (.seqRight (.seqRight (terminal_passes (steady.pass rfl)) name) colon)
      (typeExpr_steady steady).passes) (Leads.skip (.optional (.seqRight equals (treeInStatement_behind_equals steady))))
  have typeParameter : Passes (ident *> Grammar.optional (mark .colon *> Grammar.optional bounds) *>
      skip (Grammar.optional (mark .equals *> typeExpr))) here here :=
    .seqRight (.seqRight name (Leads.optional (.seqRight colon (bounds_steady steady).optional.passes)).passes)
      (Leads.skip (.optional (.seqRight equals type)))
  exact .seqRight (outerAttributes_passes steady.takesAttributes)
    (.orElse lifetimeParameter (.orElse constParameter typeParameter))

theorem maybeGenerics_passes (steady : here.Steady) : maybeGenerics.Passes here here := by
  have parameters := (genericParameter_passes steady.angled.toSteady).commaList (steady.angled.toSteady.pass rfl)
  exact (Leads.optional (.seqLeft (.seqRight (terminal_passes (Course.pass_less steady)) parameters.skip)
    (terminal_passes (Course.pass_greater steady)))).skip

theorem maybeWhere_passes (steady : here.Steady) : maybeWhere.Passes here here := by
  have ofType : Passes (typeExpr *> mark .colon *> skip (Grammar.optional bounds)) here here :=
    .seqRight (.seqRight (typeExpr_steady steady).passes (mark_passes steady rfl)) (bounds_steady steady).optional.skip
  have ofLifetime : Passes (terminal .lifetime *> outlives) here here :=
    .seqRight (terminal_passes (steady.pass rfl)) (outlives_passes steady)
  have conditions := Leads.commaList (.orElse ofType ofLifetime) (steady.pass rfl)
  exact (Leads.optional (.seqRight (terminal_passes (steady.pass rfl)) conditions.passes)).skip

end Generics

/-! Declarations -/

section Declarations

variable (below : List Stage)

/-- Braces that hold anything and end a declaration. -/
theorem within_brace_leads {value : Type} {rule : Rule value} {gives : value → Prop} {stage inner : Stage}
    (opening : Course.pass ⟨stage, below⟩ (.mark .openBrace) = ⟨inner, (Course.finished below).stage :: below⟩)
    (leads : rule.Leads ⟨inner, (Course.finished below).stage :: below⟩ ⟨inner, (Course.finished below).stage :: below⟩
      gives)
    (closing : ∀ outer, Course.pass ⟨inner, outer :: below⟩ (.mark .closeBrace) = ⟨outer, below⟩) :
    (within .brace rule).Leads ⟨stage, below⟩ (.finished below) gives :=
  .within opening leads (closing _)

theorem shape_steady (holdsItems : Bool) (angles : Nat) : Course.Steady ⟨.shape holdsItems angles, below⟩ := ⟨rfl, rfl⟩

theorem namedField_leads {here : Course} (steady : here.Steady) : namedField.Leads here here Field.IsProper := by
  have colon : (mark .colon).Passes here here := mark_passes steady rfl
  have type := Leads.optional (.seqRight colon (typeExpr_steady steady))
  have name : ident.Passes here here := terminal_passes (steady.pass rfl)
  exact .seq (.seq (.seq ((outerAttributes_passes steady.takesAttributes).map fun _ _ _ _ _ _ _ ofType => ofType)
    (isVisible_passes steady.takesAttributes)) name) type

theorem namedFields_leads : namedFields.Leads ⟨.shape false 0, below⟩ (.finished below) fun found =>
    ∀ field ∈ found, field.IsProper :=
  within_brace_leads below rfl ((namedField_leads (Course.steady_trees _)).commaList rfl)
    fun outer => Course.pass_closes_trees outer below rfl

theorem tupleField_leads {here : Course} (steady : here.Steady) : tupleField.Leads here here Field.IsProper := by
  refine .seq (.seq ((outerAttributes_passes steady.takesAttributes).map fun _ _ _ _ type proper found same => ?_)
    (isVisible_passes steady.takesAttributes)) (typeExpr_steady steady)
  exact Option.some.inj same ▸ proper

theorem tupleFields_leads {here : Course} (takes : here.TakesType) : tupleFields.Leads here here.rest fun found =>
    ∀ field ∈ found, field.IsProper := by
  have inside : here.inside.Steady := inside_steady
  refine (within_paren_leads takes ((tupleField_leads inside).commaList (inside.pass rfl))).map
    fun found proper field member => ?_
  obtain ⟨index, bound, rfl⟩ := List.mem_mapIdx.mp member
  exact proper found[index] (List.getElem_mem bound)

theorem structDeclaration_leads : structDeclaration.Leads ⟨.head, below⟩ (.finished below) Item.IsProper := by
  have steady := shape_steady below false 0
  have keyword : (word .structWord).Passes ⟨.head, below⟩ ⟨.shape false 0, below⟩ := terminal_passes rfl
  have name := Leads.seqLeft (.seqRight keyword (ident_leads (steady.pass rfl))) (maybeGenerics_passes steady)
  have semicolon : (mark .semicolon).Passes ⟨.shape false 0, below⟩ (.finished below) := terminal_passes rfl
  refine .seq (name.map fun _ isName _ proper => ⟨isName, proper⟩) (.orElse
    (.seqRight (maybeWhere_passes steady) (.orElse (namedFields_leads below) (semicolon.map fun _ _ => nofun)))
    (.seqLeft (.seqLeft (tupleFields_leads steady.takesType) (maybeWhere_passes steady)) semicolon))

theorem variant_passes : variant.Passes ⟨.trees, below⟩ ⟨.trees, below⟩ := by
  have steady := Course.steady_trees below
  have fields := (namedField_leads (Course.steady_trees (.trees :: below))).commaList rfl
  have record : namedFields.Passes ⟨.trees, below⟩ ⟨.trees, below⟩ :=
    Leads.passes (Leads.within (Course.pass_opens_trees below rfl) fields (Course.pass_closes_trees _ below rfl))
  have payload : Passes (Payload.record <$> namedFields <|> Payload.tuple <$> tupleFields) ⟨.trees, below⟩
      ⟨.trees, below⟩ :=
    .orElse (record.map fun _ _ => trivial) ((tupleFields_leads steady.takesType).map fun _ _ => trivial)
  have leaf : Passes (anyGroup <|> (.leaf ∘ Leaf.ofToken) <$> satisfying isDiscriminantLeaf) ⟨.trees, below⟩
      ⟨.trees, below⟩ := by
    refine .orElse (anyGroup_passes below) (Leads.map (satisfying_passes fun token accepted => ?_) fun _ _ => trivial)
    cases token with
    | mark punctuation => cases punctuation <;> first | rfl | cases accepted
    | _ => rfl
  have equals : (mark .equals).Passes ⟨.trees, below⟩ ⟨.trees, below⟩ := terminal_passes rfl
  have value := Leads.optional (.seqRight equals (leaf.several leaf))
  have name : ident.Passes ⟨.trees, below⟩ ⟨.trees, below⟩ := terminal_passes rfl
  exact .seq (.seq (.seq (.seq ((outerAttributes_passes steady.takesAttributes).map fun _ _ _ _ _ _ _ _ _ _ => trivial)
    (isVisible_passes steady.takesAttributes)) name) payload.optional.passes) value.passes

theorem enumDeclaration_leads : enumDeclaration.Leads ⟨.head, below⟩ (.finished below) Item.IsProper := by
  have steady := shape_steady below false 0
  have keyword : (word .enumWord).Passes ⟨.head, below⟩ ⟨.shape false 0, below⟩ := terminal_passes rfl
  have name := Leads.seqLeft (.seqLeft (.seqRight keyword (ident_leads (steady.pass rfl))) (maybeGenerics_passes steady))
    (maybeWhere_passes steady)
  have variants : (within .brace (commaList variant)).Passes ⟨.shape false 0, below⟩ (.finished below) :=
    within_brace_leads below rfl ((variant_passes _).commaList rfl).passes
      fun outer => Course.pass_closes_trees outer below rfl
  exact .seq (name.map fun _ isName _ _ => isName) variants

/-! Functions and blocks of functions -/

theorem parameter_leads {here : Course} (steady : here.Steady) :
    parameter.Leads here here fun found => ∀ type, found.type = some type → type.IsProper := by
  have name : ident.Passes here here := terminal_passes (steady.pass rfl)
  have mutable : Passes (Grammar.optional (word .mutWord)) here here :=
    (Leads.optional (terminal_passes (steady.pass rfl))).passes
  have lifetime : Passes (Grammar.optional (terminal .lifetime)) here here :=
    (Leads.optional (terminal_passes (steady.pass rfl))).passes
  have ampersand : (mark .ampersand).Passes here here := mark_passes steady rfl
  have colon : (mark .colon).Passes here here := mark_passes steady rfl
  have typed := Leads.optional (.seqRight colon (typeExpr_steady steady))
  have named : Leads ((·, none) <$> (mark .ampersand *> Grammar.optional (terminal .lifetime) *>
        Grammar.optional (word .mutWord) *> ident) <|>
      Prod.mk <$> (Grammar.optional (word .mutWord) *> ident) <*> Grammar.optional (mark .colon *> typeExpr)) here here
      fun found => ∀ type : TypeExpr, found.2 = some type → type.IsProper :=
    .orElse (Leads.map (.seqRight (.seqRight (.seqRight ampersand lifetime) mutable) name) fun _ _ => nofun)
      (.seq (Leads.map (.seqRight mutable name) fun _ _ _ proper => proper) typed)
  exact .seq ((outerAttributes_passes steady.takesAttributes).map fun _ _ _ proper => proper) named

/-- The watcher stands before the keyword of a function. -/
def BeforeKeyword (course : Course) : Prop := course = ⟨.head, below⟩ ∨ course = ⟨.constant, below⟩

theorem BeforeKeyword.word {keyword : Keyword}
    (kept : ∀ course, BeforeKeyword below course → BeforeKeyword below (course.pass (.word keyword))) {course : Course}
    (before : BeforeKeyword below course) :
    contract.Ensures (word keyword) (fun last _ => BeforeKeyword below last) course := by
  intro next _ accepted
  have same : next.terminal = .word keyword := of_decide_eq_true accepted
  simpa [contract, same] using kept course before

/-- The qualifiers of a function leave the watcher before its keyword. -/
theorem functionQualifier_ensures {course : Course} (before : BeforeKeyword below course) :
    contract.Ensures functionQualifier (fun last _ => BeforeKeyword below last) course := by
  have ofConst : ∀ course, BeforeKeyword below course → BeforeKeyword below (course.pass (.word .constWord)) := by
    rintro _ (rfl | rfl) <;> exact .inr rfl
  have ofOther (token : Terminal) (neutral : token = .word .asyncWord ∨ token = .word .unsafeWord ∨
      token = .word .externWord ∨ token = .string) :
      ∀ course, BeforeKeyword below course → BeforeKeyword below (course.pass token) := by
    rintro _ (rfl | rfl)
    · rcases neutral with rfl | rfl | rfl | rfl <;> exact .inl rfl
    · rcases neutral with rfl | rfl | rfl | rfl <;> exact .inr rfl
  have constWord := before.word below ofConst
  have asyncWord := before.word below (ofOther (.word .asyncWord) (by simp))
  have unsafeWord := before.word below (ofOther (.word .unsafeWord) (by simp))
  have externWord := before.word below (ofOther (.word .externWord) (by simp))
  have behindExtern : contract.Ensures (word .externWord *> skip (Grammar.optional (terminal .string)))
      (fun last _ => BeforeKeyword below last) course := by
    have string : ∀ course, BeforeKeyword below course →
        contract.Ensures (skip (Grammar.optional (terminal .string))) (fun last _ => BeforeKeyword below last) course := by
      intro course before
      refine ⟨fun next _ accepted => ?_, before⟩
      have same : next.terminal = .string := of_decide_eq_true accepted
      simpa [contract, same] using ofOther .string (by simp) course before
    exact Grammar.Contract.Ensures.mono (fun course _ before => string course before) externWord
  exact ⟨constWord, asyncWord, unsafeWord, behindExtern⟩

theorem functionName_leads :
    Passes (Grammar.many functionQualifier *> word .fnWord *> ident <* maybeGenerics) ⟨.head, below⟩
      ⟨.shape false 0, below⟩ := by
  have steady := shape_steady below false 0
  have qualifiers : contract.Ensures (Grammar.many functionQualifier) (fun last _ => BeforeKeyword below last)
      ⟨.head, below⟩ :=
    ⟨fun _ => BeforeKeyword below, .inl rfl, fun _ _ => functionQualifier_ensures below, fun _ _ before => before⟩
  have keyword : ∀ course, BeforeKeyword below course → (word .fnWord).Passes course ⟨.shape false 0, below⟩ := by
    rintro _ (rfl | rfl) <;> exact terminal_passes rfl
  have begun : Passes (Grammar.many functionQualifier *> word .fnWord) ⟨.head, below⟩ ⟨.shape false 0, below⟩ :=
    qualifiers.mono fun course _ before => keyword course before
  exact .seqLeft (.seqRight begun (terminal_passes (steady.pass rfl))) (maybeGenerics_passes steady)

theorem functionDeclaration_leads : functionDeclaration.Leads ⟨.head, below⟩ (.finished below) Item.IsProper := by
  have steady := shape_steady below false 0
  have inside : Course.Steady (Course.inside ⟨.shape false 0, below⟩) := inside_steady
  have parameters := within_paren_leads steady.takesType ((parameter_leads inside).commaList (inside.pass rfl))
  have arrow : (mark .arrow).Passes ⟨.shape false 0, below⟩ ⟨.shape false 0, below⟩ := mark_passes steady rfl
  have result := Leads.optional (.seqRight arrow (typeExpr_steady steady))
  have block : (within .brace trees).Passes ⟨.shape false 0, below⟩ (.finished below) :=
    within_brace_leads below rfl (trees_passes _) fun outer => Course.pass_closes_trees outer below rfl
  have semicolon : (mark .semicolon).Passes ⟨.shape false 0, below⟩ (.finished below) := terminal_passes rfl
  exact .seq (.seq ((functionName_leads below).map fun _ _ _ ofParameters _ ofResult => ⟨ofParameters, ofResult⟩)
    parameters) (.seqLeft (.seqLeft result (maybeWhere_passes steady)) (.orElse block.skip semicolon.skip))

theorem implHead_leads {here : Course} (steady : here.Steady) :
    implHead.Leads here here fun found => found.1.IsProper := by
  have type := typeExpr_steady steady
  have forWord : (word .forWord).Passes here here := terminal_passes (steady.pass rfl)
  have bang : (mark .bang).Passes here here := mark_passes steady rfl
  have target := Leads.seqRight forWord type
  refine .orElse (.seq (type.map fun found proper target each => ?_) target.optional)
    (.seq (Leads.map (.seqRight bang type) fun _ _ _ proper => proper) target)
  cases target with
  | none => exact proper
  | some selfType => exact each selfType rfl

/-- The items in the braces of a declaration leave the watcher before the next item. -/
theorem item_leads (outer : Stage) :
    item.Leads ⟨.head, outer :: below⟩ ⟨.head, outer :: below⟩ fun found => ∀ item, found = some item → item.IsProper :=
  ⟨⟨rfl, List.cons_ne_nil _ _⟩, fun _ _ promised => promised⟩

theorem allProper_filterMap {found : List (Option Item)}
    (proper : ∀ each ∈ found, ∀ item, each = some item → item.IsProper) : Item.AllProper (found.filterMap id) := by
  refine Item.allProper_iff.mpr fun item member => ?_
  obtain ⟨each, inside, same⟩ := List.mem_filterMap.mp member
  exact proper each inside item same

theorem implDeclaration_leads : implDeclaration.Leads ⟨.head, below⟩ (.finished below) Item.IsProper := by
  have steady := shape_steady below true 0
  have unsafeWord : Passes (Grammar.optional (word .unsafeWord)) ⟨.head, below⟩ ⟨.head, below⟩ :=
    (Leads.optional (terminal_passes rfl)).passes
  have keyword : (word .implWord).Passes ⟨.head, below⟩ ⟨.shape true 0, below⟩ := terminal_passes rfl
  have head := Leads.seqLeft (implHead_leads steady) (maybeWhere_passes steady)
  have inside : Leads (Grammar.many innerAttribute *> items) ⟨.head, (Course.finished below).stage :: below⟩
      ⟨.head, (Course.finished below).stage :: below⟩ Item.AllProper :=
    .seqRight (innerAttribute_passes (Course.head_takesAttributes _)).many.passes
      ((item_leads below _).many.map fun _ => allProper_filterMap)
  have body : (within .brace (Grammar.many innerAttribute *> items)).Leads ⟨.shape true 0, below⟩ (.finished below)
      Item.AllProper :=
    within_brace_leads below rfl inside fun _ => rfl
  exact .seq (.seq (.seq (unsafeWord.map fun _ _ _ _ _ proper _ each => ⟨proper, each⟩)
    (.seqLeft keyword (maybeGenerics_passes steady))) head) body

/-! Modules and the other items -/

theorem moduleDeclaration_leads : moduleDeclaration.Leads ⟨.head, below⟩ (.finished below) Item.IsProper := by
  have steady := shape_steady below true 0
  have keyword : (word .modWord).Passes ⟨.head, below⟩ ⟨.shape true 0, below⟩ := terminal_passes rfl
  have name := Leads.seqRight keyword (ident_leads (steady.pass rfl))
  have semicolon : (mark .semicolon).Passes ⟨.shape true 0, below⟩ (.finished below) := terminal_passes rfl
  have inner := innerAttribute_passes (Course.head_takesAttributes ((Course.finished below).stage :: below))
  have member : Leads (item <|> (fun _ => none) <$> innerAttribute) ⟨.head, (Course.finished below).stage :: below⟩
      ⟨.head, (Course.finished below).stage :: below⟩ fun found => ∀ item, found = some item → item.IsProper :=
    .orElse (item_leads below _) (inner.map fun _ _ => nofun)
  have body : (within .brace moduleItems).Leads ⟨.shape true 0, below⟩ (.finished below) Item.AllProper :=
    within_brace_leads below rfl (member.many.map fun _ => allProper_filterMap) fun _ => rfl
  exact .seq (name.map fun _ _ _ each => each) (.orElse (semicolon.map fun _ _ => trivial) body)

theorem importDeclaration_passes : importDeclaration.Passes ⟨.head, below⟩ (.finished below) := by
  have keyword : (word .useWord).Passes ⟨.head, below⟩ ⟨.import, below⟩ := terminal_passes rfl
  have token : (satisfying isImportToken).Passes ⟨.import, below⟩ ⟨.import, below⟩ := by
    refine satisfying_passes fun token accepted => ?_
    cases token with
    | mark punctuation => cases punctuation <;> first | rfl | cases accepted
    | _ => rfl
  exact .seqLeft (.seqRight keyword (token.several token).skip) (terminal_passes rfl)

theorem statement_steady : Course.Steady ⟨.statement, below⟩ := ⟨rfl, rfl⟩

theorem constantDeclaration_passes : constantDeclaration.Passes ⟨.head, below⟩ (.finished below) := by
  have steady := statement_steady below
  have equals : (mark .equals).Passes ⟨.statement, below⟩ ⟨.statement, below⟩ := terminal_passes rfl
  have tree : treeInStatement.Passes ⟨.statement, below⟩ ⟨.statement, below⟩ := treeInStatement_behind_equals steady
  have name : Passes ((skip (word .constWord) <|> word .staticWord *> skip (Grammar.optional (word .mutWord))) *> ident)
      ⟨.head, below⟩ ⟨.statement, below⟩ := by
    have ofConst : (skip (word .constWord)).Passes ⟨.head, below⟩ ⟨.constant, below⟩ := Leads.skip (terminal_passes rfl)
    have ofStatic : (word .staticWord).Passes ⟨.head, below⟩ ⟨.statement, below⟩ := terminal_passes rfl
    have mutable : (word .mutWord).Passes ⟨.statement, below⟩ ⟨.statement, below⟩ := terminal_passes rfl
    have behindConst : ident.Passes ⟨.constant, below⟩ ⟨.statement, below⟩ := terminal_passes rfl
    have behindStatic : ident.Passes ⟨.statement, below⟩ ⟨.statement, below⟩ := terminal_passes rfl
    exact ⟨Leads.seqRight ofConst behindConst, Leads.seqRight (.seqRight ofStatic mutable.optional.skip) behindStatic⟩
  exact .seqLeft (.seqRight (.seqRight (.seqRight (.seqRight name (mark_passes steady rfl)) (typeExpr_steady steady).passes)
    equals) (tree.several tree).skip) (terminal_passes rfl)

theorem aliasDeclaration_passes : aliasDeclaration.Passes ⟨.head, below⟩ (.finished below) := by
  have steady := statement_steady below
  have keyword : (word .typeWord).Passes ⟨.head, below⟩ ⟨.statement, below⟩ := terminal_passes rfl
  have name : ident.Passes ⟨.statement, below⟩ ⟨.statement, below⟩ := terminal_passes rfl
  have colon : (mark .colon).Passes ⟨.statement, below⟩ ⟨.statement, below⟩ := terminal_passes rfl
  have equals : (mark .equals).Passes ⟨.statement, below⟩ ⟨.statement, below⟩ := terminal_passes rfl
  have limits := Leads.optional (.seqRight colon (bounds_steady steady))
  have value := Leads.optional (.seqRight equals (typeExpr_steady steady))
  exact .seqLeft (.seqRight (.seqRight (.seqRight (.seqRight keyword name) (maybeGenerics_passes steady)) limits.passes)
    value.skip) (terminal_passes rfl)

/-- A token that belongs to no bracket and ends nothing leaves a block alone. -/
theorem block_passes_leaf : plainLeaf.Passes ⟨.block, below⟩ ⟨.block, below⟩ := by
  refine Leads.map (satisfying_passes fun token plain => ?_) fun _ _ => trivial
  cases token with
  | mark punctuation => cases punctuation <;> first | rfl | cases plain
  | _ => rfl

theorem block_within_brace : (within .brace trees).Passes ⟨.block, below⟩ (.finished below) :=
  within_brace_leads below rfl (trees_passes _) fun outer => Course.pass_closes_trees outer below rfl

theorem traitDeclaration_passes : traitDeclaration.Passes ⟨.head, below⟩ (.finished below) := by
  have unsafeWord : Passes (Grammar.optional (word .unsafeWord)) ⟨.head, below⟩ ⟨.head, below⟩ :=
    (Leads.optional (terminal_passes rfl)).passes
  have keyword : (word .traitWord).Passes ⟨.head, below⟩ ⟨.block, below⟩ := terminal_passes rfl
  have name : ident.Passes ⟨.block, below⟩ ⟨.block, below⟩ := terminal_passes rfl
  have parens : (group .paren).Passes ⟨.block, below⟩ ⟨.block, below⟩ := group_passes below rfl
  have brackets : (group .bracket).Passes ⟨.block, below⟩ ⟨.block, below⟩ := group_passes below rfl
  have head := Leads.many (.orElse (block_passes_leaf below) (.orElse parens brackets))
  exact .seqRight (.seqRight (.seqRight (.seqRight unsafeWord keyword) name) head.passes) (block_within_brace below).skip

theorem invocation_passes : invocation.Passes ⟨.head, below⟩ (.finished below) := by
  have first : ident.Passes ⟨.head, below⟩ ⟨.block, below⟩ := terminal_passes rfl
  have name : ident.Passes ⟨.block, below⟩ ⟨.block, below⟩ := terminal_passes rfl
  have separator : (mark .pathSeparator).Passes ⟨.block, below⟩ ⟨.block, below⟩ := terminal_passes rfl
  have path : identPath.Passes ⟨.head, below⟩ ⟨.block, below⟩ := (first.joined separator name).map fun _ _ => trivial
  have bang : (mark .bang).Passes ⟨.block, below⟩ ⟨.block, below⟩ := terminal_passes rfl
  have parens : (within .paren trees).Passes ⟨.block, below⟩ ⟨.block, below⟩ := within_trees_passes below rfl
  have brackets : (within .bracket trees).Passes ⟨.block, below⟩ ⟨.block, below⟩ := within_trees_passes below rfl
  have semicolon : (mark .semicolon).Passes ⟨.block, below⟩ (.finished below) := terminal_passes rfl
  have extra : (mark .semicolon).Passes (.finished below) (.finished below) := by
    refine terminal_passes ?_
    cases below <;> rfl
  exact .seqRight (.seqRight path bang) (.orElse (.seqRight parens semicolon.skip) (.orElse
    (.seqRight brackets semicolon.skip) (.orElse (.seqRight (block_within_brace below) extra.optional.skip)
      (.seqRight name (block_within_brace below).skip))))

theorem externDeclaration_passes : externDeclaration.Passes ⟨.head, below⟩ (.finished below) := by
  have keyword : (word .externWord).Passes ⟨.head, below⟩ ⟨.head, below⟩ := terminal_passes rfl
  have first : ident.Passes ⟨.head, below⟩ ⟨.block, below⟩ := terminal_passes rfl
  have name : ident.Passes ⟨.block, below⟩ ⟨.block, below⟩ := terminal_passes rfl
  exact .seqRight (.seqRight (.seqRight keyword first) name) (Leads.skip (terminal_passes rfl))

theorem declaration_leads :
    declaration.Leads ⟨.head, below⟩ (.finished below) fun found => ∀ item, found = some item → item.IsProper := by
  have kept {rule : Rule Item} (leads : rule.Leads ⟨.head, below⟩ (.finished below) Item.IsProper) :
      Leads (some <$> rule) ⟨.head, below⟩ (.finished below) fun found => ∀ item, found = some item → item.IsProper :=
    leads.map fun _ proper _ same => Option.some.inj same ▸ proper
  have others : Passes (importDeclaration <|> constantDeclaration <|> aliasDeclaration <|> traitDeclaration <|>
      invocation <|> externDeclaration) ⟨.head, below⟩ (.finished below) :=
    .orElse (importDeclaration_passes below) (.orElse (constantDeclaration_passes below)
      (.orElse (aliasDeclaration_passes below) (.orElse (traitDeclaration_passes below)
        (.orElse (invocation_passes below) (externDeclaration_passes below)))))
  exact .orElse (kept (structDeclaration_leads below)) (.orElse (kept (enumDeclaration_leads below))
    (.orElse (kept (implDeclaration_leads below)) (.orElse (kept (functionDeclaration_leads below))
      (.orElse (kept (moduleDeclaration_leads below)) (others.map fun _ _ => nofun)))))

/-- An item leads the watcher from before its first token to behind its last. -/
theorem itemRule_leads :
    itemRule.Leads ⟨.head, below⟩ (.finished below) fun found => ∀ item, found = some item → item.IsProper := by
  have takes := Course.head_takesAttributes below
  have parts : Leads ((fun attributes isPublic item => (attributes, isPublic, item)) <$> outerAttributes <*> isVisible <*>
      declaration) ⟨.head, below⟩ (.finished below) fun found => ∀ item, found.2.2 = some item → item.IsProper :=
    .seq (.seq ((outerAttributes_passes takes).map fun _ _ _ _ _ proper => proper) (isVisible_passes takes))
      (declaration_leads below)
  refine parts.witnessed ?_
  rintro tokens ⟨attributes, isPublic, found⟩ proper item same
  obtain ⟨declared, rfl, rfl⟩ := Option.map_eq_some_iff.mp same
  exact Item.isProper_decorate (proper declared rfl) _ _ _

end Declarations

/-- The rules do what is relied on. -/
theorem rules_keep_contract : contract.KeptBy rules := by
  intro which here begun
  cases which with
  | tree =>
    obtain ⟨stage, below⟩ := here
    obtain rfl : stage = .trees := begun
    exact (treeRule_passes below).mono fun _ _ leads => leads.1
  | type => exact typeRule_leads begun
  | item =>
    obtain ⟨stage, below⟩ := here
    obtain ⟨rfl, proper⟩ : stage = .head ∧ below ≠ [] := begun
    have leads := itemRule_leads below
    rwa [Course.finished, if_neg proper] at leads

end Exposure.Rule
