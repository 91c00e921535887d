import Exposure.Proofs.Spelling
import Exposure.Proofs.Stretch

/-!
Brackets that hold trees: the trees in them end where the bracket is closed, and nothing but attributes and a visibility
can stand before an item.
-/

namespace Exposure

/-- A number of open brackets, if nothing stands outside of them that may not stand there, behind a further token. -/
def Terminal.nest (mayStand : Terminal → Bool) (token : Terminal) : Option Nat → Option Nat
  | none => none
  | some depth =>
    if token.opens then some (depth + 1)
    else if token.closes then if depth = 0 then none else some (depth - 1)
    else if depth = 0 && !mayStand token then none
    else some depth

namespace Rule

/-- What is relied on while brackets are counted: trees may begin where every token may stand. -/
def nesting (mayStand : Terminal → Bool) : Grammar.Contract Token (Option Nat) RuleName.Meaning where
  admits _ := True
  move depth token := token.terminal.nest mayStand depth
  begins
    | .tree, here => ∃ depth, here = some depth ∧ (depth = 0 → ∀ token, mayStand token = true)
    | _, _ => False
  promises _ here last _ := last = here

section Nesting

variable {value : Type} {mayStand : Terminal → Bool}

/-- A rule leads from one number of open brackets to another. -/
abbrev Nests (mayStand : Terminal → Bool) (rule : Rule value) (here there : Option Nat) : Prop :=
  (nesting mayStand).Passes rule here there

theorem terminal_nests {wanted : Terminal} {here there : Option Nat} (step : wanted.nest mayStand here = there) :
    (terminal wanted).Nests mayStand here there := by
  intro next _ accepted
  exact ⟨(congrArg (·.nest mayStand here) (of_decide_eq_true accepted)).trans step, trivial⟩

theorem nest_opening (delimiter : Delimiter) (depth : Nat) :
    (Terminal.mark delimiter.opening).nest mayStand (some depth) = some (depth + 1) := by
  cases delimiter <;> rfl

theorem nest_closing (delimiter : Delimiter) (depth : Nat) :
    (Terminal.mark delimiter.closing).nest mayStand (some (depth + 1)) = some depth := by
  cases delimiter <;> rfl

/-- A token that is no bracket leaves the number of open brackets alone where it may stand. -/
theorem nest_plain {token : Terminal} (plain : token.opens = false ∧ token.closes = false) {depth : Nat}
    (stands : depth = 0 → mayStand token = true) : token.nest mayStand (some depth) = some depth := by
  simp only [Terminal.nest, plain, Bool.false_eq_true, ↓reduceIte]
  split
  · rename_i outside
    simp only [Bool.and_eq_true, decide_eq_true_eq, Bool.not_eq_true'] at outside
    rw [stands outside.1] at outside
    cases outside.2
  · rfl

theorem within_nests {delimiter : Delimiter} {rule : Rule value} {depth : Nat}
    (nests : rule.Nests mayStand (some (depth + 1)) (some (depth + 1))) :
    (within delimiter rule).Nests mayStand (some depth) (some depth) :=
  .seqLeft (.seqRight (terminal_nests (nest_opening delimiter depth)) nests)
    (terminal_nests (nest_closing delimiter depth))

section Trees

variable {depth : Nat} (stands : depth = 0 → ∀ token, mayStand token = true)

include stands

theorem trees_nests : trees.Nests mayStand (some depth) (some depth) := by
  have tree : tree.Nests mayStand (some depth) (some depth) := ⟨⟨depth, rfl, stands⟩, fun _ _ same => ⟨same, trivial⟩⟩
  exact tree.many.passes

theorem treeRule_nests : treeRule.Nests mayStand (some depth) (some depth) := by
  have group (delimiter : Delimiter) : (group delimiter).Nests mayStand (some depth) (some depth) :=
    .seq (Grammar.Contract.Leads.map (terminal_nests (nest_opening delimiter depth)) fun _ _ _ _ => trivial)
      (.seqLeft (trees_nests fun outside => absurd outside depth.succ_ne_zero)
        (terminal_nests (nest_closing delimiter depth)))
  have leaf : plainLeaf.Nests mayStand (some depth) (some depth) :=
    Grammar.Contract.ensures_map.mpr fun next _ accepted =>
      ⟨nest_plain (isPlainLeaf_brackets accepted) fun outside => stands outside _, trivial⟩
  have semicolon : (mark .semicolon).Nests mayStand (some depth) (some depth) :=
    terminal_nests (nest_plain ⟨rfl, rfl⟩ fun outside => stands outside _)
  exact .orElse (.orElse (group .paren) (.orElse (group .bracket) (group .brace)))
    (.orElse leaf (semicolon.map fun _ _ => trivial))

end Trees

theorem rules_keep_nesting : (nesting mayStand).KeptBy rules := by
  intro which here begun
  cases which with
  | tree =>
    obtain ⟨depth, rfl, stands⟩ := begun
    exact (treeRule_nests stands).mono fun _ _ leads => leads.1
  | _ => exact begun.elim

/-- Behind what a rule accepts, as many brackets are open as it leads to. -/
theorem Nests.foldl {rule : Rule value} {here there : Option Nat} (nests : rule.Nests mayStand here there)
    {tokens : List Token} (accepts : rule.Accepts tokens) : tokens.foldl (nesting mayStand).move here = there := by
  obtain ⟨found, read⟩ := Option.isSome_iff_exists.mp accepts
  exact (nests.sound rules_keep_nesting (fun _ _ => trivial) read).1

/-- Where a token may not stand, it may not stand whatever follows. -/
theorem foldl_nesting_none (tokens : List Token) : tokens.foldl (nesting mayStand).move none = none := by
  induction tokens with
  | nil => rfl
  | cons next rest again => exact again

end Nesting

/-! Trees up to a closing bracket -/

theorem trees_nest_anywhere (depth : Nat) : trees.Nests (fun _ => true) (some depth) (some depth) :=
  trees_nests fun _ _ => rfl

/-- What closes all its brackets does not go on behind another closing bracket. -/
theorem not_accepts_behind_closing {value : Type} {rule : Rule value} (nests : rule.Nests (fun _ => true) (some 0) (some 0))
    {inside : List Token} (accepts : rule.Accepts inside) {closing : Token} (closes : closing.terminal.closes = true)
    (rest : List Token) : ¬ rule.Accepts (inside ++ closing :: rest) := by
  intro longer
  have noOpening : closing.terminal.opens = false := by
    cases terminal : closing.terminal with
    | mark punctuation => rw [terminal] at closes; cases punctuation <;> first | rfl | cases closes
    | _ => rfl
  have closed : (nesting fun _ => true).move (some 0) closing = none := by
    simp only [nesting, Terminal.nest, noOpening, closes, Bool.false_eq_true, ↓reduceIte]
  have behind := nests.foldl longer
  rw [List.foldl_append, nests.foldl accepts, List.foldl_cons, closed, foldl_nesting_none] at behind
  cases behind

/-- What is accepted up to one closing bracket is not accepted up to a later one. -/
theorem not_accepts_up_to_later {value : Type} {rule : Rule value} (nests : rule.Nests (fun _ => true) (some 0) (some 0))
    {inside inside' added : List Token} {closing closing' : Token} (accepts : rule.Accepts inside)
    (closes : closing.terminal.closes = true) (proper : added ≠ [])
    (same : inside ++ closing :: added = inside' ++ [closing']) : ¬ rule.Accepts inside' := by
  obtain ⟨others, last, rfl⟩ : ∃ others last, added = others ++ [last] :=
    ⟨_, _, (List.dropLast_append_getLast proper).symm⟩
  have whole : (inside ++ closing :: others) ++ [last] = inside' ++ [closing'] := by simpa using same
  obtain ⟨rfl, -⟩ := List.append_inj' whole rfl
  exact not_accepts_behind_closing nests accepts closes others

/-- Trees are not yet trees before an opening bracket. -/
theorem not_accepts_before_opening {inside : List Token} (accepts : trees.Accepts inside) {opening : Token}
    (opens : opening.terminal.opens = true) (before : List Token) : ¬ trees.Accepts (before ++ opening :: inside) := by
  intro longer
  have behind := (trees_nest_anywhere 0).foldl longer
  rw [List.foldl_append, List.foldl_cons] at behind
  cases reached : before.foldl (nesting fun _ => true).move (some 0) with
  | none =>
    rw [reached, show (nesting fun _ => true).move none opening = none from rfl, foldl_nesting_none] at behind
    cases behind
  | some depth =>
    have opened : (nesting fun _ => true).move (some depth) opening = some (depth + 1) := by
      simp only [nesting, Terminal.nest, opens, ↓reduceIte]
    rw [reached, opened, (trees_nest_anywhere (depth + 1)).foldl accepts] at behind
    cases behind

/-- A token list ends in one way only with an opening bracket and trees behind it. -/
theorem eq_of_trees_in_brackets {before before' inside inside' : List Token} {opening opening' : Token}
    (opens : opening.terminal.opens = true) (opens' : opening'.terminal.opens = true) (accepts : trees.Accepts inside)
    (accepts' : trees.Accepts inside') (same : before ++ opening :: inside = before' ++ opening' :: inside') :
    before = before' ∧ opening = opening' ∧ inside = inside' := by
  rcases List.append_eq_append_iff.mp same with ⟨_ | ⟨first, between⟩, rfl, rest⟩ | ⟨_ | ⟨first, between⟩, rfl, rest⟩
  · obtain ⟨rfl, rfl⟩ := List.cons_eq_cons.mp rest
    exact ⟨(List.append_nil before).symm, rfl, rfl⟩
  · obtain ⟨rfl, rfl⟩ := List.cons_eq_cons.mp rest
    exact absurd accepts (not_accepts_before_opening accepts' opens' between)
  · obtain ⟨rfl, rfl⟩ := List.cons_eq_cons.mp rest
    exact ⟨List.append_nil before', rfl, rfl⟩
  · obtain ⟨rfl, rfl⟩ := List.cons_eq_cons.mp rest
    exact absurd accepts' (not_accepts_before_opening accepts opens between)

/-! Attributes -/

/-- What stands in the brackets of an attribute. -/
abbrev attributeContent : Rule Attribute :=
  (fun (path, position) input => ⟨path, input.getD .absent, position⟩) <$> identPath <*> Grammar.optional attributeInput

/-- An attribute of what surrounds it is a mark, another and trees in brackets. -/
theorem exists_of_accepts_innerAttribute {tokens : List Token} (accepts : innerAttribute.Accepts tokens) :
    ∃ hash bang opening inside closing, tokens = hash :: bang :: opening :: inside ++ [closing] ∧
      hash.terminal = .mark .hash ∧ bang.terminal = .mark .bang ∧ trees.Accepts inside ∧
      closing.terminal = .mark .closeBracket := by
  obtain ⟨found, read⟩ := Option.isSome_iff_exists.mp accepts
  obtain ⟨_, _, bang, _, rfl, readMarks, readGroup, -⟩ := Grammar.exists_of_read?_sequence read
  obtain ⟨_, _, hash, _, rfl, readHash, readBang, rfl⟩ := Grammar.exists_of_read?_sequence readMarks
  obtain ⟨_, readGroup, -⟩ := Grammar.exists_of_read?_map readGroup
  obtain ⟨opening, inside, closing, rfl, -, closes, readInside⟩ := exists_of_read?_within readGroup
  obtain ⟨rfl, isHash⟩ := eq_of_read?_terminal readHash
  obtain ⟨rfl, isBang⟩ := eq_of_read?_terminal readBang
  exact ⟨hash, _, opening, inside, closing, rfl, isHash, isBang, Option.isSome_of_eq_some readInside, closes⟩

/-- No attribute of what surrounds it can be read longer. -/
theorem read?_innerAttribute_append {tokens added : List Token} (accepts : innerAttribute.Accepts tokens)
    (proper : added ≠ []) : innerAttribute.read? (tokens ++ added) = none := by
  by_contra found
  obtain ⟨hash, bang, opening, inside, closing, rfl, -, -, ofInside, closes⟩ := exists_of_accepts_innerAttribute accepts
  obtain ⟨_, _, _, inside', closing', same, -, -, ofLonger, -⟩ :=
    exists_of_accepts_innerAttribute (Option.isSome_iff_ne_none.mpr found)
  simp only [List.cons_append, List.append_assoc, List.nil_append, List.cons.injEq] at same
  obtain ⟨-, -, -, same⟩ := same
  exact not_accepts_up_to_later (trees_nest_anywhere 0) ofInside (by rw [closes]; rfl) proper same ofLonger

/-! Attributes before what they belong to -/

section Nesting

variable {mayStand : Terminal → Bool} {depth : Nat} (stands : depth = 0 → ∀ token, mayStand token = true)

include stands

theorem attributeInput_nests : attributeInput.Nests mayStand (some depth) (some depth) := by
  have equals : (mark .equals).Nests mayStand (some depth) (some depth) :=
    terminal_nests (nest_plain ⟨rfl, rfl⟩ fun outside => stands outside _)
  have tree : tree.Nests mayStand (some depth) (some depth) := ⟨⟨depth, rfl, stands⟩, fun _ _ same => ⟨same, trivial⟩⟩
  exact .orElse ((within_nests (trees_nests nofun)).map fun _ _ => trivial)
    ((Grammar.Contract.Leads.seqRight equals tree).map fun _ _ => trivial)

theorem attributeContent_nests : attributeContent.Nests mayStand (some depth) (some depth) := by
  have name : ident.Nests mayStand (some depth) (some depth) :=
    terminal_nests (nest_plain ⟨rfl, rfl⟩ fun outside => stands outside _)
  have separator : (mark .pathSeparator).Nests mayStand (some depth) (some depth) :=
    terminal_nests (nest_plain ⟨rfl, rfl⟩ fun outside => stands outside _)
  have path : identPath.Nests mayStand (some depth) (some depth) := (name.joined separator name).map fun _ _ => trivial
  exact .seq (path.map fun _ _ _ _ => trivial) (attributeInput_nests stands).optional.passes

end Nesting

/-- Attributes lead out of all brackets, where only their own marks may stand. -/
theorem outerAttributes_nests {mayStand : Terminal → Bool} (hash : mayStand (.mark .hash) = true)
    (comment : mayStand .docComment = true) : outerAttributes.Nests mayStand (some 0) (some 0) := by
  have hash : (mark .hash).Nests mayStand (some 0) (some 0) := terminal_nests (nest_plain ⟨rfl, rfl⟩ fun _ => hash)
  have comment : (terminal .docComment).Nests mayStand (some 0) (some 0) :=
    terminal_nests (nest_plain ⟨rfl, rfl⟩ fun _ => comment)
  have bracketed : bracketAttribute.Nests mayStand (some 0) (some 0) :=
    .seqRight hash (within_nests (attributeContent_nests nofun))
  exact (Grammar.Contract.Leads.many (.orElse bracketed (comment.map fun _ _ => trivial))).passes

/-- An attribute is a documentation comment, or a mark and what it says in brackets. -/
theorem exists_of_accepts_outerAttribute {tokens : List Token} (accepts : outerAttribute.Accepts tokens) :
    (∃ comment, tokens = [comment] ∧ comment.terminal = .docComment) ∨
      ∃ hash opening inside closing, tokens = hash :: opening :: inside ++ [closing] ∧ hash.terminal = .mark .hash ∧
        attributeContent.Accepts inside ∧ closing.terminal = .mark .closeBracket := by
  obtain ⟨found, read⟩ := Option.isSome_iff_exists.mp accepts
  rcases Grammar.or_of_read?_choice read with bracketed | commented
  · obtain ⟨_, _, hash, _, rfl, readHash, readGroup, -⟩ := Grammar.exists_of_read?_sequence bracketed
    obtain ⟨opening, inside, closing, rfl, -, closes, readInside⟩ := exists_of_read?_within readGroup
    obtain ⟨rfl, isHash⟩ := eq_of_read?_terminal readHash
    exact .inr ⟨hash, opening, inside, closing, rfl, isHash, Option.isSome_of_eq_some readInside, closes⟩
  · obtain ⟨comment, readComment, -⟩ := Grammar.exists_of_read?_map commented
    obtain ⟨rfl, isComment⟩ := eq_of_read?_terminal readComment
    exact .inl ⟨comment, rfl, isComment⟩

/-- No attribute can be read longer. -/
theorem read?_outerAttribute_append {tokens added : List Token} (accepts : outerAttribute.Accepts tokens)
    (proper : added ≠ []) : outerAttribute.read? (tokens ++ added) = none := by
  by_contra found
  have longer := exists_of_accepts_outerAttribute (Option.isSome_iff_ne_none.mpr found)
  rcases exists_of_accepts_outerAttribute accepts with ⟨comment, rfl, isComment⟩ |
    ⟨hash, opening, inside, closing, rfl, isHash, ofInside, closes⟩
  · rcases longer with ⟨_, same, -⟩ | ⟨_, _, _, _, same, isHash, -⟩
    · exact proper (List.cons_eq_cons.mp same).2
    · rw [← (List.cons_eq_cons.mp same).1, isComment] at isHash
      cases isHash
  · rcases longer with ⟨_, same, -⟩ | ⟨_, _, inside', closing', same, -, ofLonger, -⟩
    · cases (List.cons_eq_cons.mp same).2
    · simp only [List.cons_append, List.append_assoc, List.nil_append, List.cons.injEq] at same
      obtain ⟨-, -, same⟩ := same
      have nests : attributeContent.Nests (fun _ => true) (some 0) (some 0) := attributeContent_nests fun _ _ => rfl
      exact not_accepts_up_to_later nests ofInside (by rw [closes]; rfl) proper same ofLonger

/-- Attributes are read one behind another. -/
theorem read?_outerAttributes_append {one two : List Token} {attributes attributes' : List Attribute}
    (ofOne : outerAttributes.read? one = some attributes) (ofTwo : outerAttributes.read? two = some attributes') :
    outerAttributes.read? (one ++ two) = some (attributes ++ attributes') := by
  have anywhere {next : Token} {rest : List Token} (_ : outerAttribute.Accepts (next :: rest)) : True := trivial
  exact Grammar.read?_many_append anywhere (fun accepts proper _ => read?_outerAttribute_append accepts proper) ofOne ofTwo

/-! The beginning of an item -/

/-- The attributes and the visibility of an item. -/
abbrev beginning : Rule (Option Item → List Attribute × Bool × Option Item) :=
  (fun attributes isPublic item => (attributes, isPublic, item)) <$> outerAttributes <*> isVisible

/-- What may stand outside of brackets before an item. -/
def standsBefore : Terminal → Bool
  | .mark .hash => true
  | .docComment => true
  | .word .pubWord => true
  | _ => false

theorem beginning_nests : beginning.Nests standsBefore (some 0) (some 0) := by
  have keyword : (word .pubWord).Nests standsBefore (some 0) (some 0) := terminal_nests rfl
  have restriction : (within .paren trees).Nests standsBefore (some 0) (some 0) := within_nests (trees_nests nofun)
  have visible : isVisible.Nests standsBefore (some 0) (some 0) :=
    (Grammar.Contract.Leads.optional (.seqRight keyword restriction.optional.skip)).map fun _ _ => trivial
  exact .seq ((outerAttributes_nests rfl rfl).map fun _ _ _ _ => trivial) visible

/-- What a declaration may begin with. -/
def beginsDeclaration : Terminal → Bool
  | .ident => true
  | .word keyword => keyword ≠ .pubWord
  | _ => false

theorem beginsDeclaration_of_accepts {next : Token} {rest : List Token} (accepts : declaration.Accepts (next :: rest)) :
    beginsDeclaration next.terminal = true := by
  by_contra stays
  have excluded : declaration.mayBegin next = false := by
    obtain ⟨terminal, text, start, stop⟩ := next
    cases terminal with
    | ident => exact absurd rfl stays
    | word keyword => cases keyword <;> first | (exact absurd rfl stays) | rfl
    | mark punctuation => cases punctuation <;> rfl
    | _ => rfl
  rw [Accepts, Grammar.Accepts, Grammar.read?_of_not_mayBegin excluded] at accepts
  cases accepts

/-- What may not stand before an item spoils the beginning of one. -/
theorem nesting_move_eq_none {next : Token} (noBracket : next.terminal.opens = false ∧ next.terminal.closes = false)
    (notBefore : standsBefore next.terminal = false) : (nesting standsBefore).move (some 0) next = none := by
  simp [nesting, Terminal.nest, noBracket, notBefore]

/-- No beginning of an item goes on with what a declaration begins with. -/
theorem read?_beginning_append {front : List Token} (accepts : beginning.Accepts front) {next : Token}
    (begins : beginsDeclaration next.terminal = true) (rest : List Token) :
    beginning.read? (front ++ next :: rest) = none := by
  by_contra found
  have spoiled : (nesting standsBefore).move (some 0) next = none := by
    refine nesting_move_eq_none ?_ ?_
    · cases terminal : next.terminal <;> first | exact ⟨rfl, rfl⟩ | (rw [terminal] at begins; cases begins)
    · cases terminal : next.terminal with
      | ident => rfl
      | word keyword => rw [terminal] at begins; cases keyword <;> first | rfl | cases begins
      | _ => rw [terminal] at begins; cases begins
  have behind := beginning_nests.foldl (Option.isSome_iff_ne_none.mpr found)
  rw [List.foldl_append, beginning_nests.foldl accepts, List.foldl_cons, spoiled, foldl_nesting_none] at behind
  cases behind

/-- The beginning of an item and the declaration behind it. -/
theorem exists_of_accepts_item {tokens : List Token} (accepts : item.Accepts tokens) :
    ∃ front rest, tokens = front ++ rest ∧ beginning.Accepts front ∧ declaration.Accepts rest := by
  obtain ⟨found, read⟩ := Option.isSome_iff_exists.mp accepts
  have read : item.read? tokens = some found := read
  rw [read?_item, Rule.read?, itemRule, Grammar.read?_witnessed] at read
  obtain ⟨_, readParts, -⟩ := Option.map_eq_some_iff.mp read
  obtain ⟨front, rest, _, _, rfl, readFront, readRest, -⟩ := Grammar.exists_of_read?_sequence readParts
  exact ⟨front, rest, rfl, Option.isSome_of_eq_some readFront, Option.isSome_of_eq_some readRest⟩

end Rule

end Exposure
