import Exposure.Proofs.Course

/-!
Every rule of the declaration language leads the watcher of an item to a known place, and the types that it gives are
proper: an item ends where the watcher says.
-/

namespace Exposure.Rule

open Grammar.Contract

section Combinators

variable {value : Type} {rule : Rule value} {here there : Course} {gives : value → Prop}

theorem satisfying_passes {wanted : Terminal → Bool} (step : ∀ token, wanted token = true → here.pass token = there) :
    (satisfying wanted).Passes here there :=
  fun next _ accepted => ⟨step next.terminal accepted, trivial⟩

theorem terminal_passes {wanted : Terminal} (step : here.pass wanted = there) : (terminal wanted).Passes here there := by
  intro next _ accepted
  exact ⟨(congrArg here.pass (of_decide_eq_true accepted)).trans step, trivial⟩

theorem ident_leads (step : here.pass .ident = there) : ident.Leads here there fun name => IsName name.text := by
  intro next admitted accepted
  have isIdent : next.terminal = .ident := of_decide_eq_true accepted
  exact ⟨(congrArg here.pass isIdent).trans step, admitted isIdent⟩

theorem Leads.commaList (leads : rule.Leads here here gives) (comma : here.pass (.mark .comma) = here) :
    (commaList rule).Leads here here fun found => ∀ each ∈ found, gives each :=
  leads.separated (terminal_passes comma)

theorem Leads.within {delimiter : Delimiter} {inner outer : Course}
    (opening : here.pass (.mark delimiter.opening) = inner) (leads : rule.Leads inner outer gives)
    (closing : outer.pass (.mark delimiter.closing) = there) : (within delimiter rule).Leads here there gives :=
  .seqLeft (.seqRight (terminal_passes opening) leads) (terminal_passes closing)

end Combinators

/-! Token trees -/

theorem opens_opening (delimiter : Delimiter) : (Terminal.mark delimiter.opening).opens = true := by
  cases delimiter <;> rfl

theorem closes_closing (delimiter : Delimiter) : (Terminal.mark delimiter.closing).closes = true := by
  cases delimiter <;> rfl

theorem isPlainLeaf_brackets {token : Terminal} (plain : isPlainLeaf token = true) :
    token.opens = false ∧ token.closes = false := by
  cases token with
  | mark punctuation => cases punctuation <;> first | exact ⟨rfl, rfl⟩ | cases plain
  | _ => exact ⟨rfl, rfl⟩

section Trees

variable (below : List Stage)

theorem trees_passes : trees.Passes ⟨.trees, below⟩ ⟨.trees, below⟩ := by
  have tree : tree.Passes ⟨.trees, below⟩ ⟨.trees, below⟩ := ⟨rfl, fun _ _ same => ⟨same, trivial⟩⟩
  exact tree.many.passes

/-- A group of trees leads from before its opening bracket to behind its closing bracket. -/
theorem group_passes {delimiter : Delimiter} {here : Course} {outer : Stage}
    (opening : here.pass (.mark delimiter.opening) = ⟨.trees, outer :: below⟩) :
    (group delimiter).Passes here ⟨outer, below⟩ := by
  have closing := Course.pass_closes_trees outer below (closes_closing delimiter)
  exact .seq (Leads.map (terminal_passes opening) fun _ _ _ _ => trivial)
    (.seqLeft (trees_passes (outer :: below)) (terminal_passes closing))

theorem within_trees_passes {delimiter : Delimiter} {here : Course} {outer : Stage}
    (opening : here.pass (.mark delimiter.opening) = ⟨.trees, outer :: below⟩) :
    (within delimiter trees).Passes here ⟨outer, below⟩ :=
  .within opening (trees_passes _) (Course.pass_closes_trees outer below (closes_closing delimiter))

theorem plainLeaf_passes : plainLeaf.Passes ⟨.trees, below⟩ ⟨.trees, below⟩ :=
  Leads.map (satisfying_passes fun _ plain =>
    Course.pass_trees below (isPlainLeaf_brackets plain).1 (isPlainLeaf_brackets plain).2) fun _ _ => trivial

theorem anyGroup_passes : anyGroup.Passes ⟨.trees, below⟩ ⟨.trees, below⟩ := by
  have ofDelimiter := fun delimiter =>
    group_passes below (Course.pass_opens_trees below (opens_opening delimiter))
  exact .orElse (ofDelimiter .paren) (.orElse (ofDelimiter .bracket) (ofDelimiter .brace))

theorem treeInStatement_passes : treeInStatement.Passes ⟨.trees, below⟩ ⟨.trees, below⟩ :=
  .orElse (anyGroup_passes below) (plainLeaf_passes below)

theorem treeRule_passes : treeRule.Passes ⟨.trees, below⟩ ⟨.trees, below⟩ := by
  have semicolon : (mark .semicolon).Passes ⟨.trees, below⟩ ⟨.trees, below⟩ :=
    terminal_passes (Course.pass_trees below rfl rfl)
  exact .orElse (anyGroup_passes below) (.orElse (plainLeaf_passes below) (semicolon.map fun _ _ => trivial))

end Trees

/-! Types -/

section Types

variable {here : Course}

theorem openType_leads (takes : here.TakesType) :
    openType.Leads here here.rest (Spine.IsProper TypeExpr.IsProper) :=
  ⟨takes, fun _ _ promised => promised⟩

theorem typeExpr_leads (takes : here.TakesType) : typeExpr.Leads here here.rest TypeExpr.IsProper :=
  (openType_leads takes).map fun _ => Spine.settle_isProper

theorem typeExpr_steady (steady : here.Steady) : typeExpr.Leads here here TypeExpr.IsProper := by
  have leads := typeExpr_leads steady.takesType
  rwa [steady.rest] at leads

theorem mark_passes {punctuation : Punctuation} (steady : here.Steady)
    (neutral : Course.isNeutral (.mark punctuation) = true) : (mark punctuation).Passes here here :=
  terminal_passes (steady.pass neutral)

theorem inside_steady : here.inside.Steady := Course.steady_trees _

/-- What stands in parentheses where a type may stand. -/
theorem within_paren_leads {value : Type} {rule : Rule value} {gives : value → Prop} (takes : here.TakesType)
    (leads : rule.Leads here.inside here.inside gives) : (within .paren rule).Leads here here.rest gives :=
  .within (Course.pass_paren takes) leads (Course.inside_pass rfl)

theorem output_leads (steady : here.Steady) : output.Leads here here (Spine.IsProper TypeExpr.IsProper) := by
  have leads := openType_leads steady.takesType
  rw [steady.rest] at leads
  exact .seqRight (mark_passes steady rfl) leads

theorem lifetimeExpr_leads (takes : here.TakesType) : lifetimeExpr.Leads here here.rest TypeExpr.IsArgument :=
  Leads.map (terminal_passes (Course.pass_of_isNeutral takes rfl)) fun _ _ => .inl rfl

theorem typeArgument_leads (sheltered : here.Sheltered) : typeArgument.Leads here here TypeExpr.IsArgument := by
  have steady := sheltered.toSteady
  obtain ⟨takes, behind⟩ := Course.pass_equals steady
  have value := typeExpr_leads takes
  rw [behind] at value
  have binding : Leads ((fun (name : Token) value => TypeExpr.binding name.text value) <$> ident <*>
      (mark .equals *> typeExpr)) here here TypeExpr.IsArgument :=
    .seq (Leads.map (ident_leads (steady.pass rfl)) fun _ isName _ proper => .inr ⟨isName, proper⟩)
      (.seqRight (terminal_passes rfl) value)
  have block : (group .brace).Passes here here := by
    have passes : (group .brace).Passes here here.rest := group_passes here.below sheltered.brace
    rwa [steady.rest] at passes
  have life := lifetimeExpr_leads steady.takesType
  rw [steady.rest] at life
  exact .orElse ((typeExpr_steady steady).weaken fun _ proper => .inr proper) (.orElse life (.orElse binding
    (.orElse (Leads.map (terminal_passes (steady.pass rfl)) fun _ _ => .inr trivial)
      (block.map fun _ _ => .inr trivial))))

theorem typeArguments_leads (steady : here.Steady) :
    typeArguments.Leads here here fun found => ∀ each ∈ found, each.IsArgument := by
  have inside := (typeArgument_leads steady.angled).commaList (steady.angled.toSteady.pass rfl)
  exact .seqRight (Leads.optional (mark_passes steady rfl)).passes
    (.seqLeft (.seqRight (terminal_passes (Course.pass_less steady)) inside)
      (terminal_passes (Course.pass_greater steady)))

theorem typeList_leads (steady : here.Steady) :
    (commaList typeExpr).Leads here here fun found => ∀ each ∈ found, each.IsProper :=
  (typeExpr_steady steady).commaList (steady.pass rfl)

theorem callSegment_isProper {name : Token} (isName : IsName name.text) {inputs : List TypeExpr}
    (proper : ∀ each ∈ inputs, each.IsProper) {output : Option (Spine TypeExpr)}
    (ofOutput : ∀ found, output = some found → found.IsProper TypeExpr.IsProper) :
    (callSegment name inputs output).IsProper PathSegment.IsProper := by
  have all : TypeExpr.AllProper inputs := TypeExpr.allProper_iff.mpr fun type member => .inr (proper type member)
  cases output with
  | none => exact .single ⟨isName, all, trivial⟩
  | some output =>
    have carried : ∀ type : TypeExpr, type.IsProper → PathSegment.IsProper (.call name.text inputs (some type)) :=
      fun _ ofType => ⟨isName, all, ofType⟩
    exact (ofOutput output rfl).map carried

theorem pathSegment_leads (takes : here.TakesType) :
    pathSegment.Leads here here.rest (Spine.IsProper PathSegment.IsProper) := by
  have name := ident_leads (Course.pass_of_isNeutral takes rfl)
  have inputs := within_paren_leads takes.rest.takesType (typeList_leads inside_steady)
  rw [takes.rest.rest] at inputs
  have plain : Leads ((fun (name : Token) arguments => Spine.single (.plain name.text (arguments.getD []))) <$> ident <*>
      Grammar.optional typeArguments) here here.rest (Spine.IsProper PathSegment.IsProper) := by
    refine .seq (name.map fun found isName arguments each => ?_) (typeArguments_leads takes.rest).optional
    cases arguments with
    | none => exact .single ⟨isName, trivial⟩
    | some arguments => exact .single ⟨isName, TypeExpr.allProper_iff.mpr (each arguments rfl)⟩
  have call : Leads (callSegment <$> ident <*> within .paren (commaList typeExpr) <*> Grammar.optional output) here
      here.rest (Spine.IsProper PathSegment.IsProper) :=
    .seq (.seq (name.map fun _ isName _ proper _ ofOutput => callSegment_isProper isName proper ofOutput) inputs)
      (output_leads takes.rest).optional
  exact .orElse plain call

/-- A path may begin with a separator, behind which nothing but its first segment can stand. -/
theorem pathType_leads (takes : here.TakesType) : pathType.Leads here here.rest (Spine.IsProper TypeExpr.IsProper) := by
  have others := pathSegment_leads takes.rest.takesType
  rw [takes.rest.rest] at others
  have separator : (mark .pathSeparator).Passes here.rest here.rest := mark_passes takes.rest rfl
  have segments : Leads (Grammar.optional (mark .pathSeparator) *> Grammar.joined (mark .pathSeparator) pathSegment) here
      here.rest fun found => found.1.IsProper PathSegment.IsProper ∧ ∀ each ∈ found.2, each.IsProper PathSegment.IsProper := by
    have begun : (mark .pathSeparator).Passes here here.rest := terminal_passes (Course.pass_of_isNeutral takes rfl)
    have bare := Leads.joined (pathSegment_leads takes) separator others
    have rooted := Leads.joined others separator others
    refine ⟨Grammar.Contract.ensures_map.mpr (Grammar.Contract.Ensures.mono ?_ begun), bare⟩
    rintro _ _ ⟨rfl, -⟩
    exact rooted
  refine segments.map fun (first, rest) ⟨ofFirst, ofRest⟩ => ?_
  have path : (first.map fun segment => TypeExpr.path [segment]).IsProper TypeExpr.IsProper :=
    ofFirst.map fun _ ofSegment => ⟨ofSegment, trivial⟩
  refine path.append fun suffix member => ?_
  obtain ⟨spine, ofSpine, member⟩ := List.mem_flatMap.mp member
  exact (ofRest spine ofSpine).toSuffixes Suffix.segment (fun _ ofSegment => ofSegment) suffix member

theorem bound_leads (takes : here.TakesType) : bound.Leads here here.rest (Spine.IsProper TypeExpr.IsArgument) := by
  have path : pathType.Leads here here.rest (Spine.IsProper TypeExpr.IsArgument) :=
    (pathType_leads takes).weaken fun found proper => ⟨.inr proper.head, proper.suffixes⟩
  have question : (mark .question).Passes here here.rest := terminal_passes (Course.pass_of_isNeutral takes rfl)
  have behind := pathType_leads takes.rest.takesType
  rw [takes.rest.rest] at behind
  have within : here.inside.Steady := inside_steady
  have inside := pathType_leads within.takesType
  rw [within.rest] at inside
  refine .orElse path (.orElse ((lifetimeExpr_leads takes).map fun _ argument => .single argument) (.orElse
    ((Leads.seqRight question behind).map fun found proper => ?_)
    ((within_paren_leads takes inside).map fun found proper => .single (.inr (Spine.settle_isProper proper)))))
  exact proper.map fun _ ofBound => .inr ofBound

theorem bounds_leads (takes : here.TakesType) :
    bounds.Leads here here.rest fun found =>
      found.1.IsProper TypeExpr.IsArgument ∧ ∀ each ∈ found.2, each.IsProper TypeExpr.IsArgument := by
  have others := bound_leads takes.rest.takesType
  rw [takes.rest.rest] at others
  exact (bound_leads takes).joined (mark_passes takes.rest rfl) others

theorem boundedType_leads (takes : here.TakesType) (kind : BoundedKind) (keyword : Keyword) :
    (boundedType kind keyword).Leads here here.rest (Spine.IsProper TypeExpr.IsProper) := by
  have word : (word keyword).Passes here here.rest := terminal_passes (Course.pass_of_isNeutral takes rfl)
  have list := bounds_leads takes.rest.takesType
  rw [takes.rest.rest] at list
  refine (Leads.seqRight word list).map fun (first, rest) ⟨ofFirst, ofRest⟩ => ?_
  have bounded : (first.map fun bound => TypeExpr.bounded kind [bound]).IsProper TypeExpr.IsProper :=
    ofFirst.map fun _ ofBound => TypeExpr.allProper_singleton.mpr ofBound
  refine bounded.append fun suffix member => ?_
  obtain ⟨spine, ofSpine, member⟩ := List.mem_flatMap.mp member
  exact (ofRest spine ofSpine).toSuffixes Suffix.bound (fun _ ofBound => ofBound) suffix member

theorem referenceType_leads (takes : here.TakesType) :
    referenceType.Leads here here.rest (Spine.IsProper TypeExpr.IsProper) := by
  have ampersand : (mark .ampersand).Passes here here.rest := terminal_passes (Course.pass_of_isNeutral takes rfl)
  have life : Passes (Grammar.optional (terminal .lifetime)) here.rest here.rest :=
    (Leads.optional (terminal_passes (takes.rest.pass rfl))).passes
  have mutable : Passes (Grammar.optional (word .mutWord)) here.rest here.rest :=
    (Leads.optional (terminal_passes (takes.rest.pass rfl))).passes
  have target := openType_leads takes.rest.takesType
  rw [takes.rest.rest] at target
  exact .seq (.seq (Leads.map (.seqRight ampersand life) fun _ _ _ _ _ proper => proper.map fun _ ofType => ofType) mutable)
    target

theorem pointerType_leads (takes : here.TakesType) :
    pointerType.Leads here here.rest (Spine.IsProper TypeExpr.IsProper) := by
  have star : (mark .star).Passes here here.rest := terminal_passes (Course.pass_of_isNeutral takes rfl)
  have ofWord (keyword : Keyword) (isMutable : Bool) : Passes ((fun _ => isMutable) <$> word keyword) here.rest here.rest :=
    Leads.map (terminal_passes (takes.rest.pass rfl)) fun _ _ => trivial
  have target := openType_leads takes.rest.takesType
  rw [takes.rest.rest] at target
  exact .seq (Leads.map (.seqRight star (.orElse (ofWord _ _) (ofWord _ _))) fun _ _ _ proper =>
    proper.map fun _ ofType => ofType) target

theorem sequenceType_leads (takes : here.TakesType) : sequenceType.Leads here here.rest TypeExpr.IsProper := by
  have semicolon : (mark .semicolon).Passes here.inside here.inside :=
    terminal_passes (Course.pass_trees _ rfl rfl)
  have length := Leads.optional (Leads.seqRight semicolon
    (Leads.several (treeInStatement_passes (here.stage.rest :: here.below)) (treeInStatement_passes _)))
  refine .within (Course.pass_bracket takes) (.seq ((typeExpr_steady inside_steady).map
    fun element proper trees _ => ?_) length) (Course.inside_pass rfl)
  cases trees <;> exact proper

theorem typeRule_leads (takes : here.TakesType) :
    typeRule.Leads here here.rest (Spine.IsProper TypeExpr.IsProper) := by
  have never : (mark .bang).Passes here here.rest := terminal_passes (Course.pass_of_isNeutral takes rfl)
  have tuple : Leads (TypeExpr.tuple <$> within .paren (commaList typeExpr)) here here.rest TypeExpr.IsProper :=
    (within_paren_leads takes (typeList_leads inside_steady)).map fun elements proper =>
      TypeExpr.allProper_iff.mpr fun type member => .inr (proper type member)
  exact .orElse (pathType_leads takes) (.orElse (referenceType_leads takes) (.orElse (pointerType_leads takes)
    (.orElse (tuple.map fun _ proper => .single proper) (.orElse ((sequenceType_leads takes).map fun _ proper =>
      .single proper) (.orElse (boundedType_leads takes _ _) (.orElse (boundedType_leads takes _ _)
        (never.map fun _ _ => .single trivial)))))))

end Types

end Exposure.Rule
