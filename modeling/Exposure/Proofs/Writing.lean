import Exposure.Proofs.Contract
import Exposure.Proofs.Rendering
import Exposure.Syntax.Rules

/-!
Which words write which type: the derivations of the grammar of types, with the value that each derivation reads as. Every
reading of a type has one.
-/

namespace Exposure

/-- The members of a list in brackets: types, or type arguments. -/
inductive ListKind where
  | types | arguments

/-- The parts of a type that its grammar names. -/
inductive Part where
  | type | path | segment | bound
  | item (kind : ListKind)
  | items (kind : ListKind)
  | itemsBehind (kind : ListKind)
  | links (kind : ChainKind)
  | tree | trees

/-- What each part is read as. -/
abbrev Part.Meaning : Part → Type
  | type => Spine TypeExpr
  | path => Spine TypeExpr
  | segment => Spine PathSegment
  | bound => Spine TypeExpr
  | item _ => TypeExpr
  | items _ => List TypeExpr
  | itemsBehind _ => List TypeExpr
  | links _ => List Suffix
  | tree => TokenTree
  | trees => List TokenTree

namespace Word

/-- A word that may be left out. -/
def perhaps (written : Bool) (word : Word) : List Word := if written then [word] else []

/-- The word of the lifetime of a reference, if it has one. -/
def ofLife : Option String → List Word
  | some name => [lifetime name]
  | none => []

/-- The word behind the star of a pointer. -/
def ofPointer (mutable : Bool) : Word := reserved (if mutable then .mutWord else .constWord)

end Word

open Word

/-- Some words write a part of a type. -/
inductive Writes : (part : Part) → List Word → part.Meaning → Prop
  | path {words : List Word} {spine : Spine TypeExpr} (ofPath : Writes .path words spine) : Writes .type words spine
  | reference (life : Option String) (mutable : Bool) {words : List Word} {target : Spine TypeExpr}
      (ofTarget : Writes .type words target) :
      Writes .type (mark .ampersand :: (ofLife life ++ perhaps mutable (reserved .mutWord) ++ words))
        (target.map (.reference life mutable))
  | pointer (mutable : Bool) {words : List Word} {target : Spine TypeExpr} (ofTarget : Writes .type words target) :
      Writes .type (mark .star :: ofPointer mutable :: words) (target.map (.pointer mutable))
  | tuple {words : List Word} {elements : List TypeExpr} (ofElements : Writes (.items .types) words elements) :
      Writes .type (mark .openParen :: (words ++ [mark .closeParen])) (.single (.tuple elements))
  | slice {words : List Word} {element : TypeExpr} (ofElement : Writes (.item .types) words element) :
      Writes .type (mark .openBracket :: (words ++ [mark .closeBracket])) (.single (.slice element))
  | array {words length : List Word} {element : TypeExpr} {tree : TokenTree} {trees : List TokenTree}
      (ofElement : Writes (.item .types) words element) (ofLength : Writes .trees length (tree :: trees)) :
      Writes .type (mark .openBracket :: (words ++ mark .semicolon :: (length ++ [mark .closeBracket])))
        (.single (.array element (TokenTree.renderAll (tree :: trees))))
  | bounded (kind : BoundedKind) {words words' : List Word} {first : Spine TypeExpr} {rest : List Suffix}
      (ofFirst : Writes .bound words first) (ofRest : Writes (.links .bounds) words' rest) :
      Writes .type (reserved kind.keyword :: (words ++ words'))
        ((first.map fun bound => .bounded kind [bound]).append rest)
  | never : Writes .type [mark .bang] (.single .never)
  | segments (rooted : Bool) {words words' : List Word} {first : Spine PathSegment} {rest : List Suffix}
      (ofFirst : Writes .segment words first) (ofRest : Writes (.links .path) words' rest) :
      Writes .path (perhaps rooted (mark .pathSeparator) ++ (words ++ words'))
        ((first.map fun segment => .path [segment]).append rest)
  | plain (name : String) : Writes .segment [ident name] (.single (.plain name []))
  | generic (name : String) (separated : Bool) {words : List Word} {arguments : List TypeExpr}
      (ofArguments : Writes (.items .arguments) words arguments) :
      Writes .segment
        (ident name :: (perhaps separated (mark .pathSeparator) ++ mark .less :: (words ++ [mark .greater])))
        (.single (.plain name arguments))
  | call (name : String) {words : List Word} {inputs : List TypeExpr} (ofInputs : Writes (.items .types) words inputs) :
      Writes .segment (ident name :: mark .openParen :: (words ++ [mark .closeParen])) (.single (.call name inputs none))
  | output (name : String) {words words' : List Word} {inputs : List TypeExpr} {output : Spine TypeExpr}
      (ofInputs : Writes (.items .types) words inputs) (ofOutput : Writes .type words' output) :
      Writes .segment (ident name :: mark .openParen :: (words ++ mark .closeParen :: mark .arrow :: words'))
        (output.map fun type => .call name inputs (some type))
  | pathBound {words : List Word} {spine : Spine TypeExpr} (ofPath : Writes .path words spine) :
      Writes .bound words spine
  | lifetimeBound (name : String) : Writes .bound [lifetime name] (.single (.lifetime name))
  | maybe {words : List Word} {spine : Spine TypeExpr} (ofPath : Writes .path words spine) :
      Writes .bound (mark .question :: words) (spine.map .maybe)
  | grouped {words : List Word} {spine : Spine TypeExpr} (ofPath : Writes .path words spine) :
      Writes .bound (mark .openParen :: (words ++ [mark .closeParen])) (.single (.grouped spine.settle))
  | settled (kind : ListKind) {words : List Word} {spine : Spine TypeExpr} (ofType : Writes .type words spine) :
      Writes (.item kind) words spine.settle
  | lifetime (name : String) : Writes (.item .arguments) [Word.lifetime name] (.lifetime name)
  | binding (name : String) {words : List Word} {value : TypeExpr} (ofValue : Writes (.item .types) words value) :
      Writes (.item .arguments) (ident name :: mark .equals :: words) (.binding name value)
  | number {text : String} (isNumber : constant text = Word.number text) :
      Writes (.item .arguments) [Word.number text] (.const text)
  | block {words : List Word} {trees : List TokenTree} (position : Position) (ofTrees : Writes .trees words trees) :
      Writes (.item .arguments) (mark .openBrace :: (words ++ [mark .closeBrace]))
        (.const (TokenTree.group .brace trees position).render)
  | noItems (kind : ListKind) : Writes (.items kind) [] []
  | someItems {kind : ListKind} (trailing : Bool) {words words' : List Word} {first : TypeExpr} {rest : List TypeExpr}
      (ofFirst : Writes (.item kind) words first) (ofRest : Writes (.itemsBehind kind) words' rest) :
      Writes (.items kind) (words ++ words' ++ perhaps trailing (mark .comma)) (first :: rest)
  | noItemsBehind (kind : ListKind) : Writes (.itemsBehind kind) [] []
  | moreItems {kind : ListKind} {words words' : List Word} {first : TypeExpr} {rest : List TypeExpr}
      (ofFirst : Writes (.item kind) words first) (ofRest : Writes (.itemsBehind kind) words' rest) :
      Writes (.itemsBehind kind) (mark .comma :: (words ++ words')) (first :: rest)
  | noLinks (kind : ChainKind) : Writes (.links kind) [] []
  | moreSegments {words words' : List Word} {first : Spine PathSegment} {rest : List Suffix}
      (ofFirst : Writes .segment words first) (ofRest : Writes (.links .path) words' rest) :
      Writes (.links .path) (mark .pathSeparator :: (words ++ words')) (first.toSuffixes .segment ++ rest)
  | moreBounds {words words' : List Word} {first : Spine TypeExpr} {rest : List Suffix}
      (ofFirst : Writes .bound words first) (ofRest : Writes (.links .bounds) words' rest) :
      Writes (.links .bounds) (mark .plus :: (words ++ words')) (first.toSuffixes .bound ++ rest)
  | leaf {word : Word} {leaf : Leaf} (isLeaf : Rule.isPlainLeaf word.1 = true ∨ word.1 = .mark .semicolon)
      (text : leaf.text = word.2) : Writes .tree [word] (.leaf leaf)
  | group (delimiter : Delimiter) {words : List Word} {trees : List TokenTree} (position : Position)
      (ofTrees : Writes .trees words trees) :
      Writes .tree (mark delimiter.opening :: (words ++ [mark delimiter.closing])) (.group delimiter trees position)
  | noTrees : Writes .trees [] []
  | moreTrees {words words' : List Word} {first : TokenTree} {rest : List TokenTree} (ofFirst : Writes .tree words first)
      (ofRest : Writes .trees words' rest) : Writes .trees (words ++ words') (first :: rest)

namespace Rule

open Grammar.Contract

/-- What is relied on of each rule: the words that it reads write what it gives. -/
def writing : Grammar.Contract Token (List Word) RuleName.Meaning where
  admits token := token.word.IsGenuine
  move words token := words ++ [token.word]
  begins _ _ := True
  promises
    | .tree, before, after, tree => ∃ words, after = before ++ words ∧ Writes .tree words tree
    | .type, before, after, spine => ∃ words, after = before ++ words ∧ Writes .type words spine
    | .item, _, _, _ => True

variable {value other final : Type} {rule : Rule value} {otherRule : Rule other}

/-- The words that a rule reads stand in a relation to what it gives. -/
def Relates (rule : Rule value) (relation : List Word → value → Prop) : Prop :=
  ∀ before, writing.Ensures rule (fun after found => ∃ words, after = before ++ words ∧ relation words found) before

/-- A list of words falls into parts that are related to some values each. -/
inductive Runs (relation : List Word → value → Prop) : List Word → List value → Prop
  | nil : Runs relation [] []
  | cons {words words' : List Word} {first : value} {rest : List value} (ofFirst : relation words first)
      (ofRest : Runs relation words' rest) : Runs relation (words ++ words') (first :: rest)

theorem Runs.append {relation : List Word → value → Prop} {words words' : List Word} {one two : List value}
    (ofOne : Runs relation words one) (ofTwo : Runs relation words' two) : Runs relation (words ++ words') (one ++ two) := by
  induction ofOne with
  | nil => exact ofTwo
  | cons ofFirst _ step =>
    rw [List.append_assoc]
    exact .cons ofFirst step

theorem Runs.single {relation : List Word → value → Prop} {words : List Word} {only : value} (holds : relation words only) :
    Runs relation words [only] := by
  have run := Runs.cons holds .nil
  rwa [List.append_nil] at run

namespace Relates

variable {relation : List Word → value → Prop} {relation' : List Word → other → Prop}
  {relation'' : List Word → final → Prop}

theorem map (relates : rule.Relates relation) {transform : value → other}
    (carried : ∀ {words found}, relation words found → relation' words (transform found)) :
    Relates (transform <$> rule) relation' := by
  intro before
  refine ensures_map.mpr (Ensures.mono ?_ (relates before))
  rintro _ found ⟨words, rfl, holds⟩
  exact ⟨words, rfl, carried holds⟩

theorem sequence (ofOne : rule.Relates relation) (ofTwo : otherRule.Relates relation') {result : value → other → final}
    (carried : ∀ {words words' x y}, relation words x → relation' words' y → relation'' (words ++ words') (result x y)) :
    Relates (.sequence rule otherRule result) relation'' := by
  intro before
  have behind : writing.Ensures rule (fun middle x => writing.Ensures otherRule (fun after y =>
      ∃ words, after = before ++ words ∧ relation'' words (result x y)) middle) before := by
    refine Ensures.mono ?_ (ofOne before)
    rintro _ x ⟨words, rfl, holds⟩
    refine Ensures.mono ?_ (ofTwo _)
    rintro _ y ⟨words', rfl, holds'⟩
    exact ⟨words ++ words', List.append_assoc .., carried holds holds'⟩
  exact behind

theorem orElse {two : Rule value} (ofOne : rule.Relates relation) (ofTwo : two.Relates relation) :
    Relates (rule <|> two) relation := fun before => ⟨ofOne before, ofTwo before⟩

theorem weaken (relates : rule.Relates relation) {weaker : List Word → value → Prop}
    (implied : ∀ {words found}, relation words found → weaker words found) : rule.Relates weaker := by
  intro before
  refine Ensures.mono ?_ (relates before)
  rintro _ found ⟨words, rfl, holds⟩
  exact ⟨words, rfl, implied holds⟩

theorem many (relates : rule.Relates relation) : Relates (Grammar.many rule) (Runs relation) := by
  intro before
  refine ⟨fun read state => ∃ words, state = before ++ words ∧ Runs relation words read, ⟨[], by simp, .nil⟩, ?_,
    fun _ _ holds => holds⟩
  rintro read _ ⟨words, rfl, runs⟩
  refine Ensures.mono ?_ (relates _)
  rintro _ found ⟨words', rfl, holds⟩
  exact ⟨words ++ words', List.append_assoc .., runs.append (.single holds)⟩

theorem seq {transforms : Rule (other → final)}
    (ofTransforms : transforms.Relates fun words transform =>
      ∀ words' y, relation' words' y → relation'' (words ++ words') (transform y))
    (relates : otherRule.Relates relation') : Relates (transforms <*> otherRule) relation'' :=
  .sequence ofTransforms relates fun carried holds => carried _ _ holds

theorem seqLeft (ofOne : rule.Relates relation) {written : List Word} {two : Rule other}
    (ofTwo : two.Relates fun words _ => words = written) :
    Relates (rule <* two) fun words found => ∃ words', words = words' ++ written ∧ relation words' found :=
  .sequence ofOne ofTwo fun holds same => ⟨_, by rw [same], holds⟩

theorem seqRight {written : List Word} {one : Rule other} (ofOne : one.Relates fun words _ => words = written)
    (ofTwo : rule.Relates relation) :
    Relates (one *> rule) fun words found => ∃ words', words = written ++ words' ∧ relation words' found :=
  .sequence ofOne ofTwo fun same holds => ⟨_, by rw [same], holds⟩

theorem optional (relates : rule.Relates relation) :
    Relates (Grammar.optional rule) fun words found =>
      (words = [] ∧ found = none) ∨ ∃ each, relation words each ∧ found = some each :=
  .orElse (relates.map fun holds => .inr ⟨_, holds, rfl⟩) fun _ => ⟨[], by simp, .inl ⟨rfl, rfl⟩⟩

theorem optional_mark {written : Word} (relates : rule.Relates fun words _ => words = [written]) :
    Relates (Grammar.optional rule) fun words found => words = perhaps found.isSome written := by
  refine relates.optional.weaken ?_
  rintro words found (⟨rfl, rfl⟩ | ⟨each, rfl, rfl⟩) <;> rfl

theorem joined {two : Rule other} {written : Word} (relates : rule.Relates relation)
    (separator : two.Relates fun words _ => words = [written]) :
    Relates (Grammar.joined two rule) fun words found => ∃ first rest, words = first ++ rest ∧ relation first found.1 ∧
      Runs (fun words value => ∃ words', words = [written] ++ words' ∧ relation words' value) rest found.2 :=
  .seq (relates.map fun holds _ _ runs => ⟨_, _, rfl, holds, runs⟩) (.many (.seqRight separator relates))

end Relates

theorem terminal_relates (wanted : Terminal) :
    (terminal wanted).Relates fun words found => words = [found.word] ∧ found.terminal = wanted ∧ found.word.IsGenuine :=
  fun _ _ genuine accepted => ⟨_, rfl, rfl, of_decide_eq_true accepted, genuine⟩

theorem mark_relates (punctuation : Punctuation) :
    (mark punctuation).Relates fun words _ => words = [Word.mark punctuation] := by
  refine (terminal_relates _).weaken ?_
  rintro words ⟨terminal, text, start, stop⟩ ⟨rfl, rfl, genuine⟩
  exact congrArg (fun text => [(Terminal.mark punctuation, text)]) genuine

theorem word_relates (keyword : Keyword) : (word keyword).Relates fun words _ => words = [reserved keyword] := by
  refine (terminal_relates _).weaken ?_
  rintro words ⟨terminal, text, start, stop⟩ ⟨rfl, rfl, genuine⟩
  exact congrArg (fun text => [(Terminal.word keyword, text)]) genuine

theorem ident_relates : ident.Relates fun words found => words = [Word.ident found.text] := by
  refine (terminal_relates _).weaken ?_
  rintro words ⟨terminal, text, start, stop⟩ ⟨rfl, rfl, -⟩
  rfl

theorem lifetime_relates : (terminal .lifetime).Relates fun words found => words = [Word.lifetime found.text] := by
  refine (terminal_relates _).weaken ?_
  rintro words ⟨terminal, text, start, stop⟩ ⟨rfl, rfl, -⟩
  rfl

theorem number_relates : (terminal .number).Relates fun words found =>
    words = [Word.number found.text] ∧ constant found.text = Word.number found.text := by
  refine (terminal_relates _).weaken ?_
  rintro words ⟨terminal, text, start, stop⟩ ⟨rfl, rfl, genuine⟩
  have isNumber : Lexeme.number? text.toList = some text.length := genuine
  exact ⟨rfl, if_pos (by rw [isNumber]; rfl)⟩

theorem within_relates {relation : List Word → value → Prop} (relates : rule.Relates relation) (delimiter : Delimiter) :
    (within delimiter rule).Relates fun words found => ∃ words',
      words = Word.mark delimiter.opening :: (words' ++ [Word.mark delimiter.closing]) ∧ relation words' found := by
  refine ((Relates.seqRight (mark_relates delimiter.opening) relates).seqLeft (mark_relates delimiter.closing)).weaken ?_
  rintro _ found ⟨_, rfl, words, rfl, holds⟩
  exact ⟨words, rfl, holds⟩

/-! Token trees -/

theorem tree_relates : tree.Relates (Writes .tree) := fun _ => ⟨trivial, fun _ _ promised => promised⟩

theorem writes_trees {words : List Word} {trees : List TokenTree} (runs : Runs (Writes .tree) words trees) :
    Writes .trees words trees := by
  induction runs with
  | nil => exact .noTrees
  | cons ofFirst _ step => exact .moreTrees ofFirst step

theorem trees_relates : trees.Relates (Writes .trees) := tree_relates.many.weaken writes_trees

theorem group_relates (delimiter : Delimiter) :
    (group delimiter).Relates fun words found => ∃ words' trees position,
      words = Word.mark delimiter.opening :: (words' ++ [Word.mark delimiter.closing]) ∧
        found = .group delimiter trees position ∧ Writes .trees words' trees := by
  refine .seq ((mark_relates delimiter.opening).map ?_) (trees_relates.seqLeft (mark_relates delimiter.closing))
  rintro _ opening rfl _ trees ⟨words, rfl, ofTrees⟩
  exact ⟨words, trees, opening.start, rfl, rfl, ofTrees⟩

theorem anyGroup_relates : anyGroup.Relates (Writes .tree) := by
  have ofDelimiter (delimiter : Delimiter) : (group delimiter).Relates (Writes .tree) := by
    refine (group_relates delimiter).weaken ?_
    rintro _ _ ⟨words, trees, position, rfl, rfl, ofTrees⟩
    exact .group delimiter position ofTrees
  exact .orElse (ofDelimiter .paren) (.orElse (ofDelimiter .bracket) (ofDelimiter .brace))

theorem satisfying_relates {wanted : Terminal → Bool}
    (isLeaf : ∀ terminal, wanted terminal = true → isPlainLeaf terminal = true ∨ terminal = .mark .semicolon) :
    ((TokenTree.leaf ∘ Leaf.ofToken) <$> satisfying wanted).Relates (Writes .tree) := by
  have ofToken : (satisfying wanted).Relates fun words found => words = [found.word] ∧ wanted found.terminal = true :=
    fun _ _ _ accepted => ⟨_, rfl, rfl, accepted⟩
  refine ofToken.map ?_
  rintro _ found ⟨rfl, accepted⟩
  exact .leaf (isLeaf _ accepted) rfl

theorem plainLeaf_relates : plainLeaf.Relates (Writes .tree) := satisfying_relates fun _ plain => .inl plain

theorem treeInStatement_relates : treeInStatement.Relates (Writes .tree) := .orElse anyGroup_relates plainLeaf_relates

theorem treeRule_relates : treeRule.Relates (Writes .tree) :=
  .orElse anyGroup_relates (.orElse plainLeaf_relates (satisfying_relates fun _ semicolon =>
    .inr (of_decide_eq_true semicolon)))

/-! Types -/

theorem openType_relates : openType.Relates (Writes .type) := fun _ => ⟨trivial, fun _ _ promised => promised⟩

theorem typeExpr_relates (kind : ListKind) : typeExpr.Relates (Writes (.item kind)) :=
  openType_relates.map fun ofType => .settled kind ofType

theorem commaList_relates {kind : ListKind} {rule : Rule TypeExpr} (relates : rule.Relates (Writes (.item kind))) :
    (commaList rule).Relates (Writes (.items kind)) := by
  have behind {words : List Word} {rest : List TypeExpr}
      (runs : Runs (fun words value => ∃ words', words = [Word.mark .comma] ++ words' ∧ Writes (.item kind) words' value)
        words rest) : Writes (.itemsBehind kind) words rest := by
    induction runs with
    | nil => exact .noItemsBehind kind
    | cons ofFirst _ step =>
      obtain ⟨words', rfl, ofFirst⟩ := ofFirst
      exact .moreItems ofFirst step
  have members : Relates (List.cons <$> rule <*> Grammar.many (mark .comma *> rule)) fun words found =>
      ∃ first rest words' words'', found = first :: rest ∧ words = words' ++ words'' ∧ Writes (.item kind) words' first ∧
        Writes (.itemsBehind kind) words'' rest := by
    refine .seq (relates.map ?_) (.many (.seqRight (mark_relates .comma) relates))
    intro words first ofFirst words' rest runs
    exact ⟨first, rest, words, words', rfl, rfl, ofFirst, behind runs⟩
  refine .orElse (.sequence members (mark_relates .comma).optional_mark ?_) fun _ => ⟨[], by simp, .noItems kind⟩
  rintro _ _ _ trailing ⟨first, rest, words, words', rfl, rfl, ofFirst, ofRest⟩ rfl
  exact .someItems _ ofFirst ofRest

theorem lifetimeExpr_relates :
    lifetimeExpr.Relates fun words found => ∃ name, words = [Word.lifetime name] ∧ found = .lifetime name :=
  lifetime_relates.map fun same => ⟨_, same, rfl⟩

theorem typeArgument_relates : typeArgument.Relates (Writes (.item .arguments)) := by
  refine .orElse (typeExpr_relates .arguments) (.orElse (lifetimeExpr_relates.weaken ?_)
    (.orElse ?_ (.orElse (number_relates.map ?_) ((group_relates .brace).map ?_))))
  · rintro _ _ ⟨name, rfl, rfl⟩
    exact .lifetime name
  · refine .seq (ident_relates.map ?_) (.seqRight (mark_relates .equals) (typeExpr_relates .types))
    rintro _ name rfl _ value ⟨words, rfl, ofValue⟩
    exact .binding name.text ofValue
  · rintro _ found ⟨rfl, isNumber⟩
    exact .number isNumber
  · rintro _ _ ⟨words, trees, position, rfl, rfl, ofTrees⟩
    exact .block position ofTrees

theorem typeArguments_relates :
    typeArguments.Relates fun words found => ∃ separated words',
      words = perhaps separated (Word.mark .pathSeparator) ++ Word.mark .less :: (words' ++ [Word.mark .greater]) ∧
        Writes (.items .arguments) words' found := by
  refine .sequence (mark_relates .pathSeparator).optional_mark (.seqLeft (.seqRight (mark_relates .less)
    (commaList_relates typeArgument_relates)) (mark_relates .greater)) ?_
  rintro _ _ separator found rfl ⟨_, rfl, words, rfl, ofArguments⟩
  exact ⟨separator.isSome, words, rfl, ofArguments⟩

theorem pathSegment_relates : pathSegment.Relates (Writes .segment) := by
  refine .orElse (.seq (ident_relates.map ?_) typeArguments_relates.optional)
    (.seq (.seq (ident_relates.map ?_) (within_relates (commaList_relates (typeExpr_relates .types)) .paren))
      (Relates.seqRight (mark_relates .arrow) openType_relates).optional)
  · rintro _ name rfl words' arguments (⟨rfl, rfl⟩ | ⟨arguments, ⟨separated, words, rfl, ofArguments⟩, rfl⟩)
    · exact .plain name.text
    · exact .generic name.text separated ofArguments
  · rintro _ name rfl _ inputs ⟨words, rfl, ofInputs⟩ words' output (⟨rfl, rfl⟩ | ⟨output, ⟨words', rfl, ofOutput⟩, rfl⟩)
    · rw [List.append_nil]
      exact .call name.text ofInputs
    · have written : Writes .segment (Word.ident name.text :: Word.mark Delimiter.paren.opening ::
          (words ++ Word.mark Delimiter.paren.closing :: Word.mark .arrow :: words')) (callSegment name inputs (some output)) :=
        .output name.text ofInputs ofOutput
      simpa using written

theorem pathType_relates : pathType.Relates (Writes .path) := by
  have links {words : List Word} {rest : List (Spine PathSegment)}
      (runs : Runs (fun words value => ∃ words', words = [Word.mark .pathSeparator] ++ words' ∧ Writes .segment words' value)
        words rest) : Writes (.links .path) words (rest.flatMap (Spine.toSuffixes .segment)) := by
    induction runs with
    | nil => exact .noLinks .path
    | cons ofFirst _ step =>
      obtain ⟨words', rfl, ofFirst⟩ := ofFirst
      exact .moreSegments ofFirst step
  have segments : Relates (Grammar.optional (mark .pathSeparator) *> Grammar.joined (mark .pathSeparator) pathSegment)
      fun words found => ∃ rooted first rest, words = perhaps rooted (Word.mark .pathSeparator) ++ (first ++ rest) ∧
        Writes .segment first found.1 ∧ Writes (.links .path) rest (found.2.flatMap (Spine.toSuffixes .segment)) := by
    refine .sequence (mark_relates .pathSeparator).optional_mark
      (pathSegment_relates.joined (mark_relates .pathSeparator)) ?_
    rintro _ _ root found rfl ⟨first, rest, rfl, ofFirst, runs⟩
    exact ⟨root.isSome, first, rest, rfl, ofFirst, links runs⟩
  refine segments.map ?_
  rintro _ found ⟨rooted, first, rest, rfl, ofFirst, ofRest⟩
  exact .segments rooted ofFirst ofRest

theorem bound_relates : bound.Relates (Writes .bound) := by
  refine .orElse (pathType_relates.weaken .pathBound) (.orElse (lifetimeExpr_relates.map ?_)
    (.orElse ((Relates.seqRight (mark_relates .question) pathType_relates).map ?_)
      ((within_relates pathType_relates .paren).map ?_)))
  · rintro _ _ ⟨name, rfl, rfl⟩
    exact .lifetimeBound name
  · rintro _ _ ⟨words, rfl, ofPath⟩
    exact .maybe ofPath
  · rintro _ _ ⟨words, rfl, ofPath⟩
    exact .grouped ofPath

theorem boundedType_relates (kind : BoundedKind) : (boundedType kind kind.keyword).Relates (Writes .type) := by
  have links {words : List Word} {rest : List (Spine TypeExpr)}
      (runs : Runs (fun words value => ∃ words', words = [Word.mark .plus] ++ words' ∧ Writes .bound words' value)
        words rest) : Writes (.links .bounds) words (rest.flatMap (Spine.toSuffixes .bound)) := by
    induction runs with
    | nil => exact .noLinks .bounds
    | cons ofFirst _ step =>
      obtain ⟨words', rfl, ofFirst⟩ := ofFirst
      exact .moreBounds ofFirst step
  refine (Relates.seqRight (word_relates kind.keyword) (bound_relates.joined (mark_relates .plus))).map ?_
  rintro _ found ⟨_, rfl, first, rest, rfl, ofFirst, runs⟩
  have written := Writes.bounded kind ofFirst (links runs)
  exact written

theorem referenceType_relates : referenceType.Relates (Writes .type) := by
  refine .seq (.seq ((Relates.seqRight (mark_relates .ampersand) lifetime_relates.optional).map ?_)
    (word_relates .mutWord).optional_mark) openType_relates
  rintro _ life ⟨words, rfl, ofLife⟩ _ mutable rfl words' target ofTarget
  rcases ofLife with ⟨rfl, rfl⟩ | ⟨name, rfl, rfl⟩
  · exact .reference none mutable.isSome ofTarget
  · exact .reference (some name.text) mutable.isSome ofTarget

theorem pointerType_relates : pointerType.Relates (Writes .type) := by
  have ofConst : Relates ((fun _ => false) <$> word .constWord) fun words found => words = [ofPointer found] := by
    refine (word_relates .constWord).map ?_
    rintro _ _ rfl
    rfl
  have ofMut : Relates ((fun _ => true) <$> word .mutWord) fun words found => words = [ofPointer found] := by
    refine (word_relates .mutWord).map ?_
    rintro _ _ rfl
    rfl
  refine .seq ((Relates.seqRight (mark_relates .star) (ofConst.orElse ofMut)).map ?_) openType_relates
  rintro _ mutable ⟨_, rfl, rfl⟩ words target ofTarget
  exact .pointer mutable ofTarget

theorem sequenceType_relates : sequenceType.Relates fun words found => Writes .type words (.single found) := by
  have length : Relates (Grammar.several treeInStatement) fun words found =>
      ∃ tree trees, found = tree :: trees ∧ Writes .trees words (tree :: trees) := by
    refine .seq (treeInStatement_relates.map ?_) treeInStatement_relates.many
    intro words tree ofTree words' trees runs
    exact ⟨tree, trees, rfl, .moreTrees ofTree (writes_trees runs)⟩
  have inside (build : TypeExpr → Option (List TokenTree) → TypeExpr) (withoutLength : ∀ element, build element none = .slice element)
      (withLength : ∀ element trees, build element (some trees) = .array element (TokenTree.renderAll trees)) :
      Relates (build <$> typeExpr <*> Grammar.optional (mark .semicolon *> Grammar.several treeInStatement)) fun words found =>
        Writes .type (Word.mark .openBracket :: (words ++ [Word.mark .closeBracket])) (.single found) := by
    refine .seq ((typeExpr_relates .types).map ?_) (Relates.seqRight (mark_relates .semicolon) length).optional
    rintro words element ofElement words' trees (⟨rfl, rfl⟩ | ⟨_, ⟨words', rfl, tree, trees, rfl, ofTrees⟩, rfl⟩)
    · rw [List.append_nil, withoutLength]
      exact .slice ofElement
    · rw [withLength]
      have written := Writes.array ofElement ofTrees
      simpa using written
  refine (within_relates (inside _ (fun _ => rfl) fun _ _ => rfl) .bracket).weaken ?_
  rintro _ _ ⟨words, rfl, written⟩
  exact written

theorem typeRule_relates : typeRule.Relates (Writes .type) := by
  have tuple : Relates (TypeExpr.tuple <$> within .paren (commaList typeExpr)) fun words found =>
      Writes .type words (.single found) := by
    refine (within_relates (commaList_relates (typeExpr_relates .types)) .paren).map ?_
    rintro _ _ ⟨words, rfl, ofElements⟩
    exact .tuple ofElements
  have never : Relates ((fun _ => Spine.single TypeExpr.never) <$> mark .bang) (Writes .type) := by
    refine (mark_relates .bang).map ?_
    rintro _ _ rfl
    exact .never
  exact .orElse (pathType_relates.weaken .path) (.orElse referenceType_relates (.orElse pointerType_relates
    (.orElse (tuple.map id) (.orElse (sequenceType_relates.map id) (.orElse (boundedType_relates .impl)
      (.orElse (boundedType_relates .dyn) never))))))

/-- Every rule gives what the words that it reads write. -/
theorem rules_relate : writing.KeptBy rules := by
  intro which before _
  cases which with
  | tree => exact treeRule_relates before
  | type => exact typeRule_relates before
  | item => exact Ensures.ofForall (fun _ _ => trivial) (fun _ _ => trivial) before

/-- The words of the tokens that are read as a type write the type. -/
theorem writes_of_read? {tokens : List Token} (genuine : ∀ token ∈ tokens, token.word.IsGenuine) {type : TypeExpr}
    (read : typeExpr.read? tokens = some type) : Writes (.item .types) (tokens.map Token.word) type := by
  obtain ⟨words, same, written⟩ := (typeExpr_relates .types []).sound rules_relate genuine read
  have moved (tokens : List Token) (before : List Word) :
      tokens.foldl writing.move before = before ++ tokens.map Token.word := by
    induction tokens generalizing before with
    | nil => rw [List.map_nil, List.append_nil, List.foldl_nil]
    | cons first rest step =>
      rw [List.foldl_cons, List.map_cons, List.append_cons, step]
      rfl
  rw [moved, List.nil_append, List.nil_append] at same
  rwa [same]

end Rule

end Exposure
