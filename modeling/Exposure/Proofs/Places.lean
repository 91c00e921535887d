import Exposure.Proofs.Likeness
import Exposure.Syntax.Rules

/-!
The declaration language ignores where its tokens stand: tokens that are moved are read as values that are moved in the
same way, and so token lists that agree up to positions are read as values that agree up to positions.
-/

namespace Exposure

/-- A kind of value that may hold positions of the source text. -/
class Placed (value : Type) where
  /-- The value with every position put at the start of a text. -/
  unplaced : value → value

export Placed (unplaced)

/-- Two values differ at most in the positions that they hold. -/
def SameButPlaces {value : Type} [Placed value] (one two : value) : Prop := unplaced one = unplaced two

instance : Placed Position := ⟨fun _ => .start⟩
instance : Placed Unit := ⟨id⟩
instance : Placed Bool := ⟨id⟩
instance : Placed String := ⟨id⟩
instance : Placed TypeExpr := ⟨id⟩
instance {head : Type} : Placed (Spine head) := ⟨id⟩
instance {value : Type} [Placed value] : Placed (List value) := ⟨List.map unplaced⟩
instance {value : Type} [Placed value] : Placed (Option value) := ⟨Option.map unplaced⟩
instance {one two : Type} [Placed one] [Placed two] : Placed (one × two) := ⟨Prod.map unplaced unplaced⟩

instance : Placed Token := ⟨fun token => { token with start := .start, stop := .start }⟩
instance : Placed Leaf := ⟨fun leaf => { leaf with position := .start }⟩

namespace TokenTree

mutual

/-- A tree without its positions. -/
def withoutPlaces : TokenTree → TokenTree
  | leaf token => leaf (unplaced token)
  | group delimiter trees _ => group delimiter (withoutPlacesAll trees) .start

/-- Trees without their positions. -/
def withoutPlacesAll : List TokenTree → List TokenTree
  | [] => []
  | first :: rest => first.withoutPlaces :: withoutPlacesAll rest

end

instance : Placed TokenTree := ⟨withoutPlaces⟩

theorem withoutPlacesAll_eq (trees : List TokenTree) : withoutPlacesAll trees = unplaced trees := by
  induction trees with
  | nil => rfl
  | cons first rest step => exact congrArg (unplaced first :: ·) step

theorem isComma_withoutPlaces (tree : TokenTree) : tree.withoutPlaces.isComma = tree.isComma := by
  cases tree <;> rfl

end TokenTree

instance : Placed AttributeInput where
  unplaced
    | .absent => .absent
    | .arguments trees => .arguments (unplaced trees)
    | .value tree => .value (unplaced tree)

instance : Placed Attribute := ⟨fun attr => ⟨attr.path, unplaced attr.input, .start⟩⟩

instance : Placed Place where
  unplaced
    | .unknown => .unknown
    | .line _ => .line .start
    | .point _ => .point .start

instance : Placed Span := ⟨fun _ => ⟨.start, .start⟩⟩

instance : Placed Field := ⟨fun field => ⟨field.name, field.type, unplaced field.attributes, unplaced field.place⟩⟩

instance : Placed Parameter :=
  ⟨fun parameter => ⟨parameter.name, parameter.type, unplaced parameter.attributes, .start⟩⟩

instance : Placed Payload where
  unplaced
    | .absent => .absent
    | .tuple fields => .tuple (unplaced fields)
    | .record fields => .record (unplaced fields)

instance : Placed Variant :=
  ⟨fun variant => ⟨variant.name, unplaced variant.payload, unplaced variant.discriminant,
    unplaced variant.attributes, .start⟩⟩

instance : Placed Header :=
  ⟨fun header => ⟨unplaced header.attributes, header.isPublic, unplaced header.span, .start⟩⟩

instance : Placed StructItem := ⟨fun item => ⟨unplaced item.header, item.name, unplaced item.fields⟩⟩

instance : Placed EnumItem := ⟨fun item => ⟨unplaced item.header, item.name, unplaced item.variants⟩⟩

instance : Placed FunctionItem :=
  ⟨fun item => ⟨unplaced item.header, item.name, unplaced item.parameters, item.returnType⟩⟩

namespace Item

mutual

/-- An item without its positions. -/
def withoutPlaces : Item → Item
  | structItem item => structItem (unplaced item)
  | enumItem item => enumItem (unplaced item)
  | functionItem item => functionItem (unplaced item)
  | implItem header selfType trait items => implItem (unplaced header) selfType trait (withoutPlacesAll items)
  | moduleItem header name items => moduleItem (unplaced header) name (withoutPlacesAll items)

/-- Items without their positions. -/
def withoutPlacesAll : List Item → List Item
  | [] => []
  | first :: rest => first.withoutPlaces :: withoutPlacesAll rest

end

instance : Placed Item := ⟨withoutPlaces⟩

theorem withoutPlacesAll_eq (items : List Item) : withoutPlacesAll items = unplaced items := by
  induction items with
  | nil => rfl
  | cons first rest step => exact congrArg (unplaced first :: ·) step

end Item

namespace SameButPlaces

variable {value : Type} [Placed value]

theorem iff_forall₂ {xs ys : List value} : SameButPlaces xs ys ↔ List.Forall₂ SameButPlaces xs ys := by
  change xs.map unplaced = ys.map unplaced ↔ _
  rw [← List.forall₂_eq_eq_eq, List.forall₂_map_left_iff, List.forall₂_map_right_iff]
  rfl

theorem iff_some {x y : value} : SameButPlaces (some x) (some y) ↔ SameButPlaces x y := Option.some_inj

end SameButPlaces

/-! Moving positions -/

/-- A kind of value of which the positions can be moved. -/
class Movable (value : Type) [Placed value] where
  /-- The value with every position moved. -/
  moved : (Position → Position) → value → value
  /-- Positions are dropped by moving all of them to the start. -/
  unplaced_eq : ∀ x, unplaced x = moved (fun _ => Position.start) x

export Movable (moved unplaced_eq)

section Compounds

variable {value one two : Type} [Placed value] [Movable value] [Placed one] [Movable one] [Placed two] [Movable two]

instance : Movable (List value) :=
  ⟨fun move => List.map (moved move), fun _ => List.map_congr_left fun x _ => unplaced_eq x⟩

instance : Movable (Option value) :=
  ⟨fun move => Option.map (moved move), fun x => by cases x with
    | none => rfl
    | some x => exact congrArg some (unplaced_eq x)⟩

instance : Movable (one × two) :=
  ⟨fun move => Prod.map (moved move) (moved move), fun (x, y) => Prod.ext (unplaced_eq x) (unplaced_eq y)⟩

end Compounds

instance : Movable Position := ⟨id, fun _ => rfl⟩
instance : Movable Unit := ⟨fun _ => id, fun _ => rfl⟩
instance : Movable Bool := ⟨fun _ => id, fun _ => rfl⟩
instance : Movable String := ⟨fun _ => id, fun _ => rfl⟩
instance : Movable TypeExpr := ⟨fun _ => id, fun _ => rfl⟩
instance {head : Type} : Movable (Spine head) := ⟨fun _ => id, fun _ => rfl⟩

instance : Movable Token :=
  ⟨fun move token => { token with start := move token.start, stop := move token.stop }, fun _ => rfl⟩

instance : Movable Leaf := ⟨fun move leaf => { leaf with position := move leaf.position }, fun _ => rfl⟩

namespace TokenTree

mutual

/-- A tree with its positions moved. -/
def movedBy (move : Position → Position) : TokenTree → TokenTree
  | leaf token => leaf (moved move token)
  | group delimiter trees position => group delimiter (movedByAll move trees) (move position)

/-- Trees with their positions moved. -/
def movedByAll (move : Position → Position) : List TokenTree → List TokenTree
  | [] => []
  | first :: rest => first.movedBy move :: movedByAll move rest

end

mutual

theorem withoutPlaces_eq : (tree : TokenTree) → tree.withoutPlaces = tree.movedBy fun _ => .start
  | leaf _ => rfl
  | group _ trees _ => by rw [withoutPlaces, movedBy, withoutPlacesAll_eq_movedByAll trees]

theorem withoutPlacesAll_eq_movedByAll :
    (trees : List TokenTree) → withoutPlacesAll trees = movedByAll (fun _ => .start) trees
  | [] => rfl
  | first :: rest => by
    rw [withoutPlacesAll, movedByAll, withoutPlaces_eq first, withoutPlacesAll_eq_movedByAll rest]

end

instance : Movable TokenTree := ⟨fun move tree => tree.movedBy move, withoutPlaces_eq⟩

variable (move : Position → Position)

theorem movedByAll_eq (trees : List TokenTree) : movedByAll move trees = moved move trees := by
  induction trees with
  | nil => rfl
  | cons first rest step => exact congrArg (moved move first :: ·) step

theorem isWord_movedBy (tree : TokenTree) : (tree.movedBy move).isWord = tree.isWord := by
  cases tree <;> rfl

theorem isComma_movedBy (tree : TokenTree) : (tree.movedBy move).isComma = tree.isComma := by
  cases tree <;> rfl

mutual

/-- The text of a tree does not depend on its positions. -/
theorem render_movedBy : (tree : TokenTree) → (tree.movedBy move).render = tree.render
  | leaf _ => rfl
  | group delimiter trees _ => by
    rw [movedBy, render, render, renderFrom_movedByAll false trees]

theorem renderFrom_movedByAll (afterWord : Bool) :
    (trees : List TokenTree) → renderFrom afterWord (movedByAll move trees) = renderFrom afterWord trees
  | [] => rfl
  | first :: rest => by
    rw [movedByAll, renderFrom, renderFrom, isWord_movedBy, isComma_movedBy, render_movedBy first,
      renderFrom_movedByAll first.isWord rest]

end

theorem renderAll_moved (trees : List TokenTree) : renderAll (moved move trees) = renderAll trees := by
  rw [renderAll, ← movedByAll_eq, renderFrom_movedByAll, renderAll]

theorem renderAll_unplaced (trees : List TokenTree) : renderAll (unplaced trees) = renderAll trees := by
  rw [unplaced_eq, renderAll_moved]

end TokenTree

instance : Movable AttributeInput where
  moved move
    | .absent => .absent
    | .arguments trees => .arguments (moved move trees)
    | .value tree => .value (moved move tree)
  unplaced_eq
    | .absent => rfl
    | .arguments trees => congrArg AttributeInput.arguments (unplaced_eq trees)
    | .value tree => congrArg AttributeInput.value (unplaced_eq tree)

instance : Movable Attribute :=
  ⟨fun move attr => ⟨attr.path, moved move attr.input, move attr.position⟩,
    fun attr => congrArg (Attribute.mk attr.path · .start) (unplaced_eq attr.input)⟩

instance : Movable Place where
  moved move
    | .unknown => .unknown
    | .line position => .line (move position)
    | .point position => .point (move position)
  unplaced_eq
    | .unknown => rfl
    | .line _ => rfl
    | .point _ => rfl

instance : Movable Span := ⟨fun move span => ⟨move span.start, move span.stop⟩, fun _ => rfl⟩

instance : Movable Field :=
  ⟨fun move field => ⟨field.name, field.type, moved move field.attributes, moved move field.place⟩,
    fun field => congr (congrArg (Field.mk field.name field.type) (unplaced_eq field.attributes)) (unplaced_eq field.place)⟩

instance : Movable Parameter :=
  ⟨fun move parameter =>
      ⟨parameter.name, parameter.type, moved move parameter.attributes, move parameter.position⟩,
    fun parameter => congrArg (Parameter.mk parameter.name parameter.type · .start) (unplaced_eq parameter.attributes)⟩

instance : Movable Payload where
  moved move
    | .absent => .absent
    | .tuple fields => .tuple (moved move fields)
    | .record fields => .record (moved move fields)
  unplaced_eq
    | .absent => rfl
    | .tuple fields => congrArg Payload.tuple (unplaced_eq fields)
    | .record fields => congrArg Payload.record (unplaced_eq fields)

instance : Movable Variant :=
  ⟨fun move variant => ⟨variant.name, moved move variant.payload, moved move variant.discriminant,
      moved move variant.attributes, move variant.position⟩,
    fun variant => by
      show Variant.mk _ (unplaced variant.payload) (unplaced variant.discriminant) (unplaced variant.attributes) _ = _
      rw [unplaced_eq, unplaced_eq, unplaced_eq]⟩

instance : Movable Header :=
  ⟨fun move header => ⟨moved move header.attributes, header.isPublic, moved move header.span, move header.position⟩,
    fun header => congrArg (Header.mk · header.isPublic _ .start) (unplaced_eq header.attributes)⟩

instance : Movable StructItem :=
  ⟨fun move item => ⟨moved move item.header, item.name, moved move item.fields⟩,
    fun item => congr (congrArg (StructItem.mk · item.name) (unplaced_eq item.header)) (unplaced_eq item.fields)⟩

instance : Movable EnumItem :=
  ⟨fun move item => ⟨moved move item.header, item.name, moved move item.variants⟩,
    fun item => congr (congrArg (EnumItem.mk · item.name) (unplaced_eq item.header)) (unplaced_eq item.variants)⟩

instance : Movable FunctionItem :=
  ⟨fun move item => ⟨moved move item.header, item.name, moved move item.parameters, item.returnType⟩,
    fun item => congr (congrArg (fun header => (FunctionItem.mk header item.name · item.returnType))
      (unplaced_eq item.header)) (unplaced_eq item.parameters)⟩

namespace Item

mutual

/-- An item with its positions moved. -/
def movedBy (move : Position → Position) : Item → Item
  | structItem item => structItem (moved move item)
  | enumItem item => enumItem (moved move item)
  | functionItem item => functionItem (moved move item)
  | implItem header selfType trait items => implItem (moved move header) selfType trait (movedByAll move items)
  | moduleItem header name items => moduleItem (moved move header) name (movedByAll move items)

/-- Items with their positions moved. -/
def movedByAll (move : Position → Position) : List Item → List Item
  | [] => []
  | first :: rest => first.movedBy move :: movedByAll move rest

end

mutual

theorem withoutPlaces_eq : (item : Item) → item.withoutPlaces = item.movedBy fun _ => .start
  | structItem item => congrArg structItem (unplaced_eq item)
  | enumItem item => congrArg enumItem (unplaced_eq item)
  | functionItem item => congrArg functionItem (unplaced_eq item)
  | implItem header selfType trait items => by
    rw [withoutPlaces, movedBy, unplaced_eq, withoutPlacesAll_eq_movedByAll items]
  | moduleItem header name items => by
    rw [withoutPlaces, movedBy, unplaced_eq, withoutPlacesAll_eq_movedByAll items]

theorem withoutPlacesAll_eq_movedByAll :
    (items : List Item) → withoutPlacesAll items = movedByAll (fun _ => .start) items
  | [] => rfl
  | first :: rest => by
    rw [withoutPlacesAll, movedByAll, withoutPlaces_eq first, withoutPlacesAll_eq_movedByAll rest]

end

instance : Movable Item := ⟨fun move item => item.movedBy move, withoutPlaces_eq⟩

variable (move : Position → Position)

theorem movedByAll_eq (items : List Item) : movedByAll move items = moved move items := by
  induction items with
  | nil => rfl
  | cons first rest step => exact congrArg (moved move first :: ·) step

theorem moved_decorate (attributes : List Attribute) (isPublic : Bool) (span : Span) (item : Item) :
    moved move (item.decorate attributes isPublic span) =
      (moved move item).decorate (moved move attributes) isPublic (moved move span) := by
  cases item <;> rfl

end Item

/-- The stretch of tokens moves with them. -/
theorem Span.moved_ofTokens (move : Position → Position) {tokens : List Token} (proper : tokens ≠ []) :
    moved move (Span.ofTokens tokens) = Span.ofTokens (moved move tokens) := by
  obtain ⟨first, rest, rfl⟩ := List.exists_cons_of_ne_nil proper
  have last : ((first :: rest).map (moved move)).getLast? = (first :: rest).getLast?.map (moved move) := List.getLast?_map
  show Span.mk _ _ = Span.mk _ ((((first :: rest).map (moved move)).getLast?.map (·.stop)).getD .start)
  rw [last, List.getLast?_eq_some_getLast (List.cons_ne_nil first rest)]
  rfl

theorem moved_eq_iff_forall₂ {value : Type} [Placed value] [Movable value] {move : Position → Position} {xs ys : List value} :
    moved move xs = ys ↔ List.Forall₂ (fun x y => moved move x = y) xs ys := by
  change xs.map (moved move) = ys ↔ _
  rw [← List.forall₂_eq_eq_eq, List.forall₂_map_left_iff]

/-- A rule reads values that are moved from tokens that are moved in the same way. -/
abbrev RuleName.movesTo (move : Position → Position) : (which : RuleName) → which.Meaning → which.Meaning → Prop
  | .tree => fun (one two : TokenTree) => moved move one = two
  | .type => fun (one two : Spine TypeExpr) => moved move one = two
  | .item => fun (one two : Option Item) => moved move one = two

namespace Rule

/-- Tokens that are moved are read as values that are moved in the same way. -/
abbrev Moves {value : Type} [Placed value] [Movable value] (move : Position → Position) (rule : Rule value) : Prop :=
  Grammar.Alike (fun one two : Token => moved move one = two) (RuleName.movesTo move)
    (fun one two : value => moved move one = two) rule rule

variable {move : Position → Position}

section Combinators

variable {value other final one two three four five : Type} [Placed value] [Movable value] [Placed other] [Movable other]
  [Placed final] [Movable final] [Placed one] [Movable one] [Placed two] [Movable two] [Placed three] [Movable three]
  [Placed four] [Movable four] [Placed five] [Movable five]

theorem single_moves {accepts : Token → Bool} {result : Token → value}
    (looksAtTerminal : ∀ token, accepts token = accepts (moved move token))
    (commutes : ∀ token, moved move (result token) = result (moved move token)) :
    Moves move (.single accepts result : Rule value) := by
  refine .single ?_ ?_
  · rintro token _ rfl
    exact looksAtTerminal token
  · rintro token _ rfl
    exact commutes token

theorem satisfying_moves (wanted : Terminal → Bool) : (satisfying wanted).Moves move :=
  single_moves (fun _ => rfl) fun _ => rfl

theorem terminal_moves (move : Position → Position) (wanted : Terminal) : (terminal wanted).Moves move :=
  single_moves (fun _ => rfl) fun _ => rfl

/-! A function that commutes with moving positions gives moved results, whatever the number of values. -/

theorem keeps {transform : one → final} (commutes : ∀ x, moved move (transform x) = transform (moved move x)) :
    ∀ x x', moved move x = x' → moved move (transform x) = transform x' := by
  rintro x _ rfl
  exact commutes x

theorem keeps₂ {transform : one → two → final}
    (commutes : ∀ x y, moved move (transform x y) = transform (moved move x) (moved move y)) :
    ∀ x x', moved move x = x' → ∀ y y', moved move y = y' → moved move (transform x y) = transform x' y' := by
  rintro x _ rfl y _ rfl
  exact commutes x y

theorem keeps₃ {transform : one → two → three → final}
    (commutes : ∀ x y z, moved move (transform x y z) = transform (moved move x) (moved move y) (moved move z)) :
    ∀ x x', moved move x = x' → ∀ y y', moved move y = y' → ∀ z z', moved move z = z' →
      moved move (transform x y z) = transform x' y' z' := by
  rintro x _ rfl y _ rfl z _ rfl
  exact commutes x y z

theorem keeps₄ {transform : one → two → three → four → final}
    (commutes : ∀ x y z w,
      moved move (transform x y z w) = transform (moved move x) (moved move y) (moved move z) (moved move w)) :
    ∀ x x', moved move x = x' → ∀ y y', moved move y = y' → ∀ z z', moved move z = z' → ∀ w w', moved move w = w' →
      moved move (transform x y z w) = transform x' y' z' w' := by
  rintro x _ rfl y _ rfl z _ rfl w _ rfl
  exact commutes x y z w

theorem keeps₅ {transform : one → two → three → four → five → final}
    (commutes : ∀ x y z w v, moved move (transform x y z w v) =
      transform (moved move x) (moved move y) (moved move z) (moved move w) (moved move v)) :
    ∀ x x', moved move x = x' → ∀ y y', moved move y = y' → ∀ z z', moved move z = z' → ∀ w w', moved move w = w' →
      ∀ v v', moved move v = v' → moved move (transform x y z w v) = transform x' y' z' w' v' := by
  rintro x _ rfl y _ rfl z _ rfl w _ rfl v _ rfl
  exact commutes x y z w v

variable {rule : Rule value} {otherRule : Rule other}

theorem skip_moves (moves : rule.Moves move) : (skip rule).Moves move :=
  moves.functorMap fun _ _ _ => rfl

theorem within_moves (delimiter : Delimiter) (moves : rule.Moves move) :
    (within delimiter rule).Moves move :=
  .seqLeft (.seqRight (terminal_moves move _) moves) (terminal_moves move _)

theorem many_moves (moves : rule.Moves move) : Moves move (Grammar.many rule) :=
  .repeated moves fun _ _ same => moved_eq_iff_forall₂.mpr same

theorem several_moves (moves : rule.Moves move) : Moves move (Grammar.several rule) :=
  .seq (.functorMap moves (keeps₂ fun _ _ => rfl)) (many_moves moves)

theorem optional_moves (moves : rule.Moves move) : Moves move (Grammar.optional rule) :=
  .choice (.functorMap moves (keeps fun _ => rfl)) (.unit rfl)

theorem joined_moves (ofSeparator : otherRule.Moves move) (moves : rule.Moves move) :
    Moves move (Grammar.joined otherRule rule) :=
  .seq (.functorMap moves (keeps₂ fun _ _ => rfl)) (many_moves (.seqRight ofSeparator moves))

theorem commaList_moves (moves : rule.Moves move) : (commaList rule).Moves move := by
  have comma := terminal_moves move (.mark .comma)
  have others := many_moves (.seqRight comma moves)
  exact .choice (.seqLeft (.seq (.functorMap moves (keeps₂ fun _ _ => rfl)) others) (optional_moves comma))
    (.unit rfl)

end Combinators

/-! Token trees -/

theorem plainLeaf_moves : plainLeaf.Moves move :=
  (satisfying_moves _).functorMap (keeps fun _ => rfl)

theorem tree_moves : tree.Moves move := .rule fun _ _ same => same

theorem trees_moves : trees.Moves move := many_moves tree_moves

theorem group_moves (delimiter : Delimiter) : (group delimiter).Moves move :=
  .seq ((terminal_moves move _).functorMap (keeps₂ fun opening inside =>
    congrArg (TokenTree.group delimiter · (move opening.start)) (TokenTree.movedByAll_eq move inside))) (.seqLeft trees_moves (terminal_moves move _))

theorem anyGroup_moves : anyGroup.Moves move :=
  .choice (group_moves .paren) (.choice (group_moves .bracket) (group_moves .brace))

theorem treeInStatement_moves : treeInStatement.Moves move :=
  .choice anyGroup_moves plainLeaf_moves

theorem treeRule_moves : treeRule.Moves move :=
  .choice anyGroup_moves
    (.choice plainLeaf_moves ((terminal_moves move _).functorMap (keeps fun _ => rfl)))

/-! Attributes -/

theorem identPath_moves : identPath.Moves move :=
  (joined_moves (terminal_moves move _) (terminal_moves move _)).functorMap
    (keeps fun (first, rest) => by simp [moved])

theorem attributeInput_moves : attributeInput.Moves move :=
  .choice ((within_moves _ trees_moves).functorMap (keeps fun _ => rfl))
    ((Grammar.Alike.seqRight (terminal_moves move _) tree_moves).functorMap (keeps fun _ => rfl))

theorem bracketAttribute_moves : bracketAttribute.Moves move := by
  refine .seqRight (terminal_moves move _) (within_moves _
    (.seq (identPath_moves.functorMap (keeps₂ ?_)) (optional_moves attributeInput_moves)))
  intro (path, position) input
  cases input <;> simp [moved]

theorem outerAttribute_moves : outerAttribute.Moves move :=
  .choice bracketAttribute_moves ((terminal_moves move _).functorMap (keeps fun _ => rfl))

theorem outerAttributes_moves : outerAttributes.Moves move :=
  many_moves outerAttribute_moves

theorem innerAttribute_moves : innerAttribute.Moves move :=
  .seqRight (.seqRight (terminal_moves move _) (terminal_moves move _))
    (skip_moves (within_moves _ trees_moves))

theorem visibility_moves : visibility.Moves move :=
  .seqRight (terminal_moves move _)
    (skip_moves (optional_moves (within_moves _ trees_moves)))

theorem isVisible_moves : isVisible.Moves move :=
  (optional_moves visibility_moves).functorMap (keeps fun found => by cases found <;> rfl)

/-! Types -/

theorem openType_moves : openType.Moves move := .rule fun _ _ same => same

theorem typeExpr_moves : typeExpr.Moves move := openType_moves.functorMap (keeps fun _ => rfl)

theorem output_moves : output.Moves move := .seqRight (terminal_moves move _) openType_moves

theorem lifetimeExpr_moves : lifetimeExpr.Moves move :=
  (terminal_moves move _).functorMap (keeps fun _ => rfl)

theorem typeArgument_moves : typeArgument.Moves move := by
  refine .choice typeExpr_moves (.choice lifetimeExpr_moves (.choice
    (.seq ((terminal_moves move _).functorMap (keeps₂ fun name value => rfl))
      (.seqRight (terminal_moves move _) typeExpr_moves))
    (.choice ((terminal_moves move _).functorMap (keeps fun _ => rfl))
      ((group_moves _).functorMap (keeps fun block => ?_)))))
  exact congrArg TypeExpr.const (block.render_movedBy move).symm

theorem typeArguments_moves : typeArguments.Moves move :=
  .seqRight (optional_moves (terminal_moves move _))
    (.seqLeft (.seqRight (terminal_moves move _) (commaList_moves typeArgument_moves))
      (terminal_moves move _))

theorem pathSegment_moves : pathSegment.Moves move := by
  refine .choice
    (.seq ((terminal_moves move _).functorMap (keeps₂ fun name arguments => ?_))
      (optional_moves typeArguments_moves))
    (.seq (.seq ((terminal_moves move _).functorMap (keeps₃ fun name inputs output => ?_))
      (within_moves _ (commaList_moves typeExpr_moves)))
      (optional_moves output_moves))
  · simp [moved]
  · cases output <;> simp [moved, callSegment]

theorem pathType_moves : pathType.Moves move :=
  (Grammar.Alike.seqRight (optional_moves (terminal_moves move _))
    (joined_moves (terminal_moves move _) pathSegment_moves)).functorMap
      (keeps fun (first, rest) => by simp [moved])

theorem bound_moves : bound.Moves move :=
  .choice pathType_moves (.choice (lifetimeExpr_moves.functorMap (keeps fun _ => rfl))
    (.choice ((Grammar.Alike.seqRight (terminal_moves move _) pathType_moves).functorMap
        (keeps fun _ => rfl))
      ((within_moves _ pathType_moves).functorMap (keeps fun _ => rfl))))

theorem bounds_moves : bounds.Moves move :=
  joined_moves (terminal_moves move _) bound_moves

theorem boundedType_moves (kind : BoundedKind) (keyword : Keyword) :
    (boundedType kind keyword).Moves move :=
  (Grammar.Alike.seqRight (terminal_moves move _) bounds_moves).functorMap
    (keeps fun (first, rest) => by simp [moved])

theorem referenceType_moves : referenceType.Moves move := by
  refine .seq (.seq (Grammar.Alike.functorMap (.seqRight (terminal_moves move _)
    (optional_moves (terminal_moves move _))) (keeps₃ fun life mutable target => ?_))
      (optional_moves (terminal_moves move _))) openType_moves
  cases life <;> cases mutable <;> rfl

theorem pointerType_moves : pointerType.Moves move :=
  .seq (Grammar.Alike.functorMap (.seqRight (terminal_moves move _)
    (.choice ((terminal_moves move _).functorMap fun _ _ _ => rfl)
      ((terminal_moves move _).functorMap fun _ _ _ => rfl))) (keeps₂ fun _ _ => rfl)) openType_moves

theorem sequenceType_moves : sequenceType.Moves move := by
  refine within_moves _ (.seq (typeExpr_moves.functorMap (keeps₂ fun element length => ?_))
    (optional_moves (.seqRight (terminal_moves move _)
      (several_moves treeInStatement_moves))))
  cases length with
  | none => rfl
  | some trees => exact congrArg (TypeExpr.array element) (TokenTree.renderAll_moved move trees).symm

theorem typeRule_moves : typeRule.Moves move :=
  .choice pathType_moves (.choice referenceType_moves (.choice pointerType_moves
    (.choice (Grammar.Alike.functorMap ((within_moves _
        (commaList_moves typeExpr_moves)).functorMap (keeps fun _ => by simp [moved]))
          (keeps fun _ => rfl))
      (.choice (sequenceType_moves.functorMap (keeps fun _ => rfl))
        (.choice (boundedType_moves _ _) (.choice (boundedType_moves _ _)
          ((terminal_moves move _).functorMap fun _ _ _ => rfl)))))))

/-! Generics -/

theorem outlives_moves : outlives.Moves move :=
  .seqRight (terminal_moves move _)
    (skip_moves (joined_moves (terminal_moves move _) (terminal_moves move _)))

theorem genericParameter_moves : genericParameter.Moves move := by
  have lifetimeParameter := Grammar.Alike.seqRight (terminal_moves move .lifetime)
    (skip_moves (optional_moves outlives_moves))
  have constParameter := Grammar.Alike.seqRight (.seqRight (.seqRight (.seqRight
    (terminal_moves move (.word .constWord)) (terminal_moves move .ident)) (terminal_moves move (.mark .colon)))
    typeExpr_moves) (skip_moves (optional_moves
      (.seqRight (terminal_moves move (.mark .equals)) treeInStatement_moves)))
  have typeParameter := Grammar.Alike.seqRight (.seqRight (terminal_moves move .ident)
    (optional_moves (.seqRight (terminal_moves move (.mark .colon)) (optional_moves bounds_moves))))
    (skip_moves (optional_moves
      (.seqRight (terminal_moves move (.mark .equals)) typeExpr_moves)))
  exact .seqRight outerAttributes_moves (.choice lifetimeParameter (.choice constParameter typeParameter))

theorem generics_moves : generics.Moves move :=
  .seqLeft (.seqRight (terminal_moves move _)
    (skip_moves (commaList_moves genericParameter_moves))) (terminal_moves move _)

theorem maybeGenerics_moves : maybeGenerics.Moves move :=
  skip_moves (optional_moves generics_moves)

theorem whereCondition_moves : whereCondition.Moves move :=
  .choice (.seqRight (.seqRight typeExpr_moves (terminal_moves move _))
      (skip_moves (optional_moves bounds_moves)))
    (.seqRight (terminal_moves move _) outlives_moves)

theorem maybeWhere_moves : maybeWhere.Moves move :=
  skip_moves (optional_moves (.seqRight (terminal_moves move _)
    (commaList_moves whereCondition_moves)))

/-! Structures and enumerations -/

theorem namedField_moves : namedField.Moves move := by
  refine .seq (.seq (.seq (outerAttributes_moves.functorMap (keeps₄ fun attributes isPublic name type => ?_))
    isVisible_moves) (terminal_moves move _))
    (optional_moves (.seqRight (terminal_moves move _) typeExpr_moves))
  cases type <;> rfl

theorem namedFields_moves : namedFields.Moves move :=
  within_moves _ (commaList_moves namedField_moves)

theorem tupleField_moves : tupleField.Moves move := by
  refine .seq (.seq (outerAttributes_moves.functorMap (keeps₃ fun attributes isPublic type => ?_))
    isVisible_moves) typeExpr_moves
  cases attributes <;> rfl

theorem tupleFields_moves : tupleFields.Moves move := by
  refine (within_moves _ (commaList_moves tupleField_moves)).functorMap
    (keeps fun fields => ?_)
  refine List.ext_getElem? fun index => ?_
  simp only [moved, List.getElem?_map, List.getElem?_mapIdx]
  cases fields[index]? <;> rfl

theorem structDeclaration_moves : structDeclaration.Moves move := by
  have name := Grammar.Alike.seqLeft (.seqRight (terminal_moves move (.word .structWord))
    (terminal_moves move .ident)) maybeGenerics_moves
  have semicolon := terminal_moves move (.mark .semicolon)
  refine .seq (name.functorMap (keeps₂ fun _ _ => rfl)) (.choice
    (.seqRight maybeWhere_moves (.choice namedFields_moves (semicolon.functorMap fun _ _ _ => rfl)))
    (.seqLeft (.seqLeft tupleFields_moves maybeWhere_moves) semicolon))

theorem discriminant_moves : discriminant.Moves move :=
  .seqRight (terminal_moves move _) (several_moves
    (.choice anyGroup_moves ((satisfying_moves _).functorMap (keeps fun _ => rfl))))

theorem variant_moves : variant.Moves move := by
  have recordPayload : Moves move (Payload.record <$> namedFields) := namedFields_moves.functorMap (keeps fun _ => rfl)
  have tuplePayload : Moves move (Payload.tuple <$> tupleFields) := tupleFields_moves.functorMap (keeps fun _ => rfl)
  refine .seq (.seq (.seq (.seq (outerAttributes_moves.functorMap
    (keeps₅ fun attributes isPublic name payload value => ?_)) isVisible_moves)
    (terminal_moves move _)) (optional_moves (.choice recordPayload tuplePayload)))
    (optional_moves discriminant_moves)
  cases payload <;> rfl

theorem enumDeclaration_moves : enumDeclaration.Moves move :=
  .seq (Grammar.Alike.functorMap (.seqLeft (.seqLeft (.seqRight (terminal_moves move _) (terminal_moves move _))
    maybeGenerics_moves) maybeWhere_moves) (keeps₂ fun _ _ => rfl))
    (within_moves _ (commaList_moves variant_moves))

/-! Functions and blocks of functions -/

theorem functionQualifier_moves : functionQualifier.Moves move := by
  have ofWord := fun keyword => skip_moves (terminal_moves move (.word keyword))
  exact .choice (ofWord _) (.choice (ofWord _) (.choice (ofWord _) (.seqRight (terminal_moves move _)
    (skip_moves (optional_moves (terminal_moves move _))))))

theorem parameter_moves : parameter.Moves move := by
  have name := terminal_moves move .ident
  have mutable := optional_moves (terminal_moves move (.word .mutWord))
  have receiver := Grammar.Alike.seqRight (.seqRight (.seqRight (terminal_moves move (.mark .ampersand))
    (optional_moves (terminal_moves move .lifetime))) mutable) name
  have typed := optional_moves (.seqRight (terminal_moves move (.mark .colon)) typeExpr_moves)
  refine .seq (outerAttributes_moves.functorMap (keeps₂ fun attributes (found, type) => ?_))
    (.choice (receiver.functorMap (keeps fun _ => rfl))
      (.seq (Grammar.Alike.functorMap (.seqRight mutable name) (keeps₂ fun _ _ => rfl)) typed))
  cases type <;> rfl

theorem functionDeclaration_moves : functionDeclaration.Moves move := by
  have name := Grammar.Alike.seqLeft (.seqRight (.seqRight (many_moves functionQualifier_moves)
    (terminal_moves move (.word .fnWord))) (terminal_moves move .ident)) maybeGenerics_moves
  have result := optional_moves
    (.seqRight (terminal_moves move (.mark .arrow)) typeExpr_moves)
  have body := Grammar.Alike.choice (skip_moves (within_moves .brace trees_moves))
    (skip_moves (terminal_moves move (.mark .semicolon)))
  refine .seq (.seq (name.functorMap (keeps₃ fun name parameters returnType => ?_))
    (within_moves _ (commaList_moves parameter_moves)))
    (.seqLeft (.seqLeft result maybeWhere_moves) body)
  cases returnType <;> rfl

theorem item_moves : item.Moves move := .rule fun _ _ same => same

theorem items_moves : items.Moves move :=
  (many_moves item_moves).functorMap
    (keeps fun found => by simp [moved, List.map_filterMap, List.filterMap_map])

theorem implHead_moves : implHead.Moves move := by
  have target := Grammar.Alike.seqRight (terminal_moves move (.word .forWord)) typeExpr_moves
  refine .choice (.seq (typeExpr_moves.functorMap (keeps₂ fun type target => ?_)) (optional_moves target))
    (.seq (Grammar.Alike.functorMap (.seqRight (terminal_moves move _) typeExpr_moves)
      (keeps₂ fun _ _ => rfl)) target)
  cases target <;> rfl

theorem implDeclaration_moves : implDeclaration.Moves move := by
  refine .seq (.seq (.seq (Grammar.Alike.functorMap (optional_moves (terminal_moves move _))
    (keeps₄ fun hazard first (selfType, trait) functions => ?_))
    (.seqLeft (terminal_moves move _) maybeGenerics_moves))
    (.seqLeft implHead_moves maybeWhere_moves))
    (within_moves _ (.seqRight (many_moves innerAttribute_moves) items_moves))
  change Item.implItem _ _ _ _ = _
  rw [Item.movedByAll_eq]
  cases hazard <;> cases trait <;> rfl

/-! Modules and the other items -/

theorem moduleItems_moves : moduleItems.Moves move :=
  (many_moves (.choice item_moves (innerAttribute_moves.functorMap fun _ _ _ => rfl))).functorMap
    (keeps fun found => by simp [moved, List.map_filterMap, List.filterMap_map])

theorem moduleDeclaration_moves : moduleDeclaration.Moves move := by
  refine .seq (Grammar.Alike.functorMap (.seqRight (terminal_moves move _) (terminal_moves move _))
    (keeps₂ fun name inside => ?_))
    (.choice ((terminal_moves move _).functorMap fun _ _ _ => rfl)
      (within_moves _ moduleItems_moves))
  exact congrArg (Item.moduleItem (.bare (move name.start)) name.text) (Item.movedByAll_eq move inside)

theorem importDeclaration_moves : importDeclaration.Moves move :=
  .seqLeft (.seqRight (terminal_moves move _) (skip_moves
    (several_moves (satisfying_moves _)))) (terminal_moves move _)

theorem constantDeclaration_moves : constantDeclaration.Moves move := by
  have kind := Grammar.Alike.choice (skip_moves (terminal_moves move (.word .constWord)))
    (.seqRight (terminal_moves move (.word .staticWord))
      (skip_moves (optional_moves (terminal_moves move (.word .mutWord)))))
  exact .seqLeft (.seqRight (.seqRight (.seqRight (.seqRight (.seqRight kind (terminal_moves move _))
    (terminal_moves move _)) typeExpr_moves) (terminal_moves move _))
    (skip_moves (several_moves treeInStatement_moves))) (terminal_moves move _)

theorem aliasDeclaration_moves : aliasDeclaration.Moves move :=
  .seqLeft (.seqRight (.seqRight (.seqRight (.seqRight (terminal_moves move _) (terminal_moves move _))
    maybeGenerics_moves) (optional_moves (.seqRight (terminal_moves move _) bounds_moves)))
    (skip_moves (optional_moves (.seqRight (terminal_moves move _) typeExpr_moves))))
    (terminal_moves move _)

theorem traitDeclaration_moves : traitDeclaration.Moves move :=
  .seqRight (.seqRight (.seqRight (.seqRight (optional_moves (terminal_moves move _))
    (terminal_moves move _)) (terminal_moves move _)) (many_moves (.choice plainLeaf_moves
      (.choice (group_moves _) (group_moves _)))))
    (skip_moves (within_moves _ trees_moves))

theorem invocation_moves : invocation.Moves move := by
  have inside (delimiter : Delimiter) : (within delimiter trees).Moves move := within_moves delimiter trees_moves
  have semicolon := terminal_moves move (.mark .semicolon)
  exact .seqRight (.seqRight identPath_moves (terminal_moves move _))
    (.choice (.seqRight (inside _) (skip_moves semicolon))
      (.choice (.seqRight (inside _) (skip_moves semicolon))
        (.choice (.seqRight (inside _) (skip_moves (optional_moves semicolon)))
          (.seqRight (terminal_moves move _) (skip_moves (inside _))))))

theorem externDeclaration_moves : externDeclaration.Moves move :=
  .seqRight (.seqRight (.seqRight (terminal_moves move _) (terminal_moves move _)) (terminal_moves move _))
    (skip_moves (terminal_moves move _))

theorem declaration_moves : declaration.Moves move := by
  have kept : ∀ {rule : Rule Item}, rule.Moves move → Moves move (some <$> rule) :=
    fun moves => moves.functorMap (keeps fun _ => rfl)
  have others : Moves move (importDeclaration <|> constantDeclaration <|> aliasDeclaration <|> traitDeclaration <|>
      invocation <|> externDeclaration) :=
    .choice importDeclaration_moves (.choice constantDeclaration_moves (.choice aliasDeclaration_moves
      (.choice traitDeclaration_moves (.choice invocation_moves externDeclaration_moves))))
  exact .choice (kept structDeclaration_moves) (.choice (kept enumDeclaration_moves)
    (.choice (kept implDeclaration_moves) (.choice (kept functionDeclaration_moves)
      (.choice (kept moduleDeclaration_moves) (others.functorMap fun _ _ _ => rfl)))))

theorem itemRule_moves : itemRule.Moves move := by
  have parts : Moves move ((fun attributes isPublic item => (attributes, isPublic, item)) <$> outerAttributes <*> isVisible <*>
      declaration) :=
    .seq (.seq (outerAttributes_moves.functorMap (keeps₃ fun _ _ _ => rfl)) isVisible_moves) declaration_moves
  refine .witnessed parts ?_
  rintro tokens tokens' ⟨attributes, isPublic, item⟩ _ nullable same rfl
  -- an item is not empty, so the stretch that it covers is that of some tokens
  have proper : tokens ≠ [] := fun nothing => Bool.false_ne_true (nullable nothing)
  obtain rfl := moved_eq_iff_forall₂.mpr same
  cases item with
  | none => rfl
  | some found =>
    refine congrArg some ((found.moved_decorate move attributes isPublic (.ofTokens tokens)).trans ?_)
    rw [Span.moved_ofTokens move proper]
    rfl

theorem rules_move (move : Position → Position) : ∀ which, Grammar.Alike (fun one two : Token => moved move one = two)
    (RuleName.movesTo move) (RuleName.movesTo move which) (rules which) (rules which)
  | .tree => treeRule_moves
  | .type => typeRule_moves
  | .item => itemRule_moves

/-- What a rule reads from a whole token list, if it accepts it. -/
abbrev read? {value : Type} (rule : Rule value) (tokens : List Token) : Option value := Grammar.read? rules rule tokens

section Reads

variable {value : Type} [Placed value] [Movable value] {rule : Rule value}

/-- What is read from tokens that are moved is what is read from them, moved in the same way. -/
theorem read?_moved (moves : rule.Moves move) (tokens : List Token) :
    rule.read? (moved move tokens) = moved move (rule.read? tokens) := by
  have related := moves.read? (rules_move move) (moved_eq_iff_forall₂.mp (Eq.refl (moved move tokens)))
  show Grammar.read? rules rule (moved move tokens) = moved move (Grammar.read? rules rule tokens)
  generalize Grammar.read? rules rule tokens = found, Grammar.read? rules rule (moved move tokens) = found' at related ⊢
  cases related with
  | none => rfl
  | some values => exact congrArg some values.symm

/-- A rule that ignores positions reads the same up to positions from tokens that agree up to positions. -/
theorem read?_sameButPlaces (moves : ∀ move, rule.Moves move) {tokens tokens' : List Token}
    (same : SameButPlaces tokens tokens') : SameButPlaces (rule.read? tokens) (rule.read? tokens') := by
  rw [SameButPlaces, unplaced_eq, unplaced_eq] at same ⊢
  rw [← read?_moved (moves _), ← read?_moved (moves _), same]

/-- What a rule that ignores positions reads, it reads elsewhere up to positions. -/
theorem exists_of_sameButPlaces (moves : ∀ move, rule.Moves move) {tokens tokens' : List Token}
    (same : SameButPlaces tokens' tokens) {found : value} (read : rule.read? tokens = some found) :
    ∃ found', rule.read? tokens' = some found' ∧ SameButPlaces found' found := by
  have readings := read?_sameButPlaces moves same
  rw [read] at readings
  exact Option.map_eq_some_iff.mp readings

end Reads

end Rule

end Exposure
