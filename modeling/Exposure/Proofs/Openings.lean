import Exposure.Proofs.Normal

/-!
The first words of types and of their parts, and what stands behind them: which part of a type some words are the words of
is told from the first of them.
-/

namespace Exposure

open Word

namespace Word

/-- The brackets at the end of a list of members. -/
def isClosing (word : Word) : Bool :=
  match word.1 with
  | .mark .closeParen | .mark .greater => true
  | _ => false

/-- What may stand behind a member: the end of a list or of a member, or the semicolon of an array. -/
def isStop (word : Word) : Bool :=
  word.isClosing ||
    match word.1 with
    | .mark .comma | .mark .closeBracket | .mark .semicolon => true
    | _ => false

/-- The marks in front of one more link of a chain. -/
def isJoint (word : Word) : Bool :=
  match word.1 with
  | .mark .pathSeparator | .mark .plus => true
  | _ => false

/-- What may stand behind a type: the end of a member, or one more link of a chain. -/
def isBoundary (word : Word) : Bool := word.isStop || word.isJoint

/-- What may stand behind the links of a type; the equality sign stands behind the name of a binding. -/
def isEnd (word : Word) : Bool := word.isStop || word.1 = .mark .equals

/-- What may stand behind the head of a type. -/
def isBehind (word : Word) : Bool := word.isBoundary || word.1 = .mark .equals

/-- The words that a path begins with. -/
def beginsPath (word : Word) : Bool :=
  match word.1 with
  | .ident | .mark .pathSeparator => true
  | _ => false

/-- The words that a type begins with. -/
def beginsType (word : Word) : Bool :=
  word.beginsPath ||
    match word.1 with
    | .word .implWord | .word .dynWord => true
    | .mark .ampersand | .mark .star | .mark .openParen | .mark .openBracket | .mark .bang => true
    | _ => false

/-- The words that a type argument begins with. -/
def beginsMember (word : Word) : Bool :=
  word.beginsType ||
    match word.1 with
    | .lifetime | .number | .mark .openBrace => true
    | _ => false

theorem ident_cons {name name' : String} {words words' : List Word} (same : ident name :: words = ident name' :: words') : name = name' ∧ words = words' := by
  cases same
  exact ⟨rfl, rfl⟩

variable (word : Word)

theorem isEnd_of_isStop (isStop : word.isStop = true) : word.isEnd = true := by
  rw [isEnd, isStop, Bool.true_or]

theorem isBoundary_of_isStop (isStop : word.isStop = true) : word.isBoundary = true := by
  rw [isBoundary, isStop, Bool.true_or]

theorem isBoundary_of_isJoint (isJoint : word.isJoint = true) : word.isBoundary = true := by
  rw [isBoundary, isJoint, Bool.or_true]

theorem isBehind_of_isBoundary (isBoundary : word.isBoundary = true) : word.isBehind = true := by
  rw [isBehind, isBoundary, Bool.true_or]

theorem isBehind_of_isEnd (isEnd : word.isEnd = true) : word.isBehind = true := by
  rcases Bool.or_eq_true_iff.mp isEnd with isStop | isEquals
  · exact isBehind_of_isBoundary word (isBoundary_of_isStop word isStop)
  · rw [isBehind, isEquals, Bool.or_true]

theorem isStop_of_isClosing (isClosing : word.isClosing = true) : word.isStop = true := by
  rw [isStop, isClosing, Bool.true_or]

theorem isClosing_of_beginsMember (begins : word.beginsMember = true) : word.isClosing = false := by
  by_contra closing
  obtain ⟨terminal, text⟩ := word
  have isClosing := Bool.of_not_eq_false closing
  unfold Word.isClosing at isClosing
  split at isClosing
  · simp_all [beginsMember, beginsType, beginsPath]
  · simp_all [beginsMember, beginsType, beginsPath]
  · cases isClosing

theorem beginsType_of_beginsPath (begins : word.beginsPath = true) : word.beginsType = true := by
  rw [beginsType, begins, Bool.true_or]

theorem beginsMember_of_beginsType (begins : word.beginsType = true) : word.beginsMember = true := by
  rw [beginsMember, begins, Bool.true_or]

end Word

/-- The first of some words, if there is one, is of a kind. -/
def Begins (kind : Word → Bool) (words : List Word) : Prop := ∀ word ∈ words.head?, kind word = true

/-- There is a first word, and it is of a kind. -/
def Starts (kind : Word → Bool) (words : List Word) : Prop := ∃ word rest, words = word :: rest ∧ kind word = true

section Begins

variable {kind kind' : Word → Bool} {words words' : List Word}

theorem begins_cons {word : Word} : Begins kind (word :: words) ↔ kind word = true := by
  simp [Begins]

theorem Begins.append (ofFirst : Begins kind words) (ofSecond : Begins kind words') : Begins kind (words ++ words') := by
  cases words with
  | nil => exact ofSecond
  | cons first rest => exact begins_cons.mpr (begins_cons.mp ofFirst)

theorem Begins.weaken (begins : Begins kind words) (weaker : ∀ word, kind word = true → kind' word = true) :
    Begins kind' words := fun word first => weaker word (begins word first)

theorem Starts.append (starts : Starts kind words) : Starts kind (words ++ words') := by
  obtain ⟨word, rest, rfl, ofKind⟩ := starts
  exact ⟨word, rest ++ words', rfl, ofKind⟩

theorem Starts.weaken (starts : Starts kind words) (weaker : ∀ word, kind word = true → kind' word = true) :
    Starts kind' words := by
  obtain ⟨word, rest, rfl, ofKind⟩ := starts
  exact ⟨word, rest, rfl, weaker word ofKind⟩

/-- No words begin in two ways that exclude each other. -/
theorem Starts.not_begins (starts : Starts kind words) (begins : Begins kind' words)
    (apart : ∀ word, kind word = true → kind' word = false) : False := by
  obtain ⟨word, rest, rfl, ofKind⟩ := starts
  exact Bool.false_ne_true ((apart word ofKind).symm.trans (begins_cons.mp begins))

end Begins

/-! Links in front of other words -/

/-- The words of some links, and what stands behind them. -/
def linked (suffixes : List Suffix) (rest : List Word) : List Word := suffixes.flatMap Suffix.words ++ rest

section Linked

variable {suffixes : List Suffix} {rest : List Word}

@[simp] theorem linked_nil (rest : List Word) : linked [] rest = rest := rfl

@[simp] theorem linked_cons (first : Suffix) (suffixes : List Suffix) (rest : List Word) :
    linked (first :: suffixes) rest = first.words ++ linked suffixes rest := by
  rw [linked, List.flatMap_cons, List.append_assoc, linked]

theorem PathSegment.exists_words (segment : PathSegment) : ∃ name behind, segment.words = ident name :: behind := by
  rcases segment with ⟨name, _ | ⟨first, rest⟩⟩ | ⟨name, inputs, output⟩
  · exact ⟨name, [], rfl⟩
  · exact ⟨name, _, PathSegment.words_plain (List.cons_ne_nil _ _) name⟩
  · exact ⟨name, _, PathSegment.words_call name inputs output⟩

/-- Links begin with their joints. -/
theorem Begins.linked {kind : Word → Bool} (begins : Begins kind rest)
    (joint : ∀ word, isJoint word = true → kind word = true) : Begins kind (linked suffixes rest) := by
  rcases suffixes with _ | ⟨added | added, others⟩
  · exact begins
  · exact begins_cons.mpr (joint _ rfl)
  · exact begins_cons.mpr (joint _ rfl)

theorem Begins.behind (ends : Begins isEnd rest) : Begins isBehind (Exposure.linked suffixes rest) :=
  (ends.weaken isBehind_of_isEnd).linked fun word isJoint => isBehind_of_isBoundary word (isBoundary_of_isJoint word isJoint)

/-- No link is a list of arguments with the path separator in front of it. -/
theorem linked_ne_turbofish (ends : Begins isEnd rest) {behind : List Word} :
    linked suffixes rest ≠ mark .pathSeparator :: mark .less :: behind := by
  intro same
  rcases suffixes with _ | ⟨added | added, others⟩
  · rw [linked_nil] at same
    rw [same] at ends
    cases begins_cons.mp ends
  · obtain ⟨name, words, isWords⟩ := added.exists_words
    rw [linked_cons, Suffix.words, isWords] at same
    cases same
  · cases same

end Linked

/-! What canonical words begin with -/

namespace TypeExpr

theorem words_path_single (segment : PathSegment) : (path [segment]).words = segment.words := by
  rw [words_path, List.map_singleton, joined_cons, List.flatMap_nil, List.append_nil]

theorem words_bounded_single (kind : BoundedKind) (bound : TypeExpr) :
    (bounded kind [bound]).words = reserved kind.keyword :: bound.words := by
  rw [words_bounded, List.map_singleton, joined_cons, List.flatMap_nil, List.append_nil]

end TypeExpr

theorem TypeExpr.IsHead.starts {type : TypeExpr} (isHead : type.IsHead) : Starts beginsType type.words := by
  cases isHead with
  | @path segment =>
    obtain ⟨name, behind, isWords⟩ := segment.exists_words
    rw [TypeExpr.words_path_single, isWords]
    exact ⟨_, _, rfl, rfl⟩
  | bounded kind => exact ⟨_, _, TypeExpr.words_bounded_single .., by cases kind <;> rfl⟩
  | _ => exact ⟨_, _, rfl, rfl⟩

theorem TypeExpr.IsMember.starts {kind : ListKind} {type : TypeExpr} (isMember : type.IsMember kind) :
    Starts beginsMember type.words := by
  cases isMember with
  | settled _ ofHead _ same =>
    rw [same]
    exact ofHead.starts.append.weaken beginsMember_of_beginsType
  | lifetime name => exact ⟨_, _, rfl, rfl⟩
  | binding name => exact ⟨_, _, rfl, rfl⟩
  | number isNumber => exact ⟨_, _, by rw [TypeExpr.words, isNumber], rfl⟩

/-! Heads, by the words that they begin with -/

namespace TypeExpr

variable {type : TypeExpr} {rest words : List Word}

theorem IsHead.of_beginsPath (isHead : type.IsHead) (same : type.words ++ rest = words) (starts : Starts beginsPath words) :
    ∃ segment, segment.IsHead ∧ type = .path [segment] := by
  obtain ⟨word, behind, rfl, ofPath⟩ := starts
  cases isHead with
  | path ofSegment => exact ⟨_, ofSegment, rfl⟩
  | bounded kind => cases kind <;> (cases same; cases ofPath)
  | _ => cases same; cases ofPath

theorem IsBoundHead.of_beginsPath (isHead : type.IsBoundHead) (same : type.words ++ rest = words) (starts : Starts beginsPath words) :
    ∃ segment, segment.IsHead ∧ type = .path [segment] := by
  obtain ⟨word, behind, rfl, ofPath⟩ := starts
  cases isHead with
  | path ofSegment => exact ⟨_, ofSegment, rfl⟩
  | _ => cases same; cases ofPath

/-- A path begins with a name. -/
theorem ident_of_path {segment : PathSegment} {word : Word}
    (same : (path [segment]).words ++ rest = word :: words) : word.1 = .ident := by
  obtain ⟨name, behind, isWords⟩ := segment.exists_words
  rw [words_path_single, isWords] at same
  cases same
  rfl

theorem IsHead.of_ampersand (isHead : type.IsHead) (same : type.words ++ rest = mark .ampersand :: words) :
    ∃ life mutable target, target.IsHead ∧ type = .reference life mutable target ∧
      ofLife life ++ perhaps mutable (reserved .mutWord) ++ (target.words ++ rest) = words := by
  cases isHead with
  | path => cases ident_of_path same
  | reference life mutable ofTarget =>
    rw [words_reference, List.cons_append, List.cons.injEq, List.append_assoc] at same
    exact ⟨life, mutable, _, ofTarget, rfl, same.2⟩
  | bounded kind => cases kind <;> cases same
  | _ => cases same

theorem IsHead.of_star (isHead : type.IsHead) (same : type.words ++ rest = mark .star :: words) :
    ∃ mutable target, target.IsHead ∧ type = .pointer mutable target ∧ ofPointer mutable :: (target.words ++ rest) = words := by
  cases isHead with
  | path => cases ident_of_path same
  | pointer mutable ofTarget => exact ⟨mutable, _, ofTarget, rfl, (List.cons.inj same).2⟩
  | bounded kind => cases kind <;> cases same
  | _ => cases same

theorem IsHead.of_openParen (isHead : type.IsHead) (same : type.words ++ rest = mark .openParen :: words) :
    ∃ elements, (∀ element ∈ elements, element.IsMember .types) ∧ type = .tuple elements ∧
      joined .comma (elements.map TypeExpr.words) ++
        (perhaps (elements.length = 1) (mark .comma) ++ mark .closeParen :: rest) = words := by
  cases isHead with
  | path => cases ident_of_path same
  | tuple each =>
    rw [words_tuple, List.cons_append, List.cons.injEq] at same
    exact ⟨_, each, rfl, by simpa using same.2⟩
  | bounded kind => cases kind <;> cases same
  | _ => cases same

theorem IsHead.of_openBracket (isHead : type.IsHead) (same : type.words ++ rest = mark .openBracket :: words) :
    ∃ element, element.IsMember .types ∧
      (type = .slice element ∧ element.words ++ mark .closeBracket :: rest = words ∨
        ∃ length, IsConstant length ∧ Text.trim length = length ∧ type = .array element length ∧
          element.words ++ mark .semicolon :: constant length :: mark .closeBracket :: rest = words) := by
  cases isHead with
  | path => cases ident_of_path same
  | slice ofElement => exact ⟨_, ofElement, .inl ⟨rfl, by simpa [TypeExpr.words] using same⟩⟩
  | array ofElement isConstant trimmed =>
    exact ⟨_, ofElement, .inr ⟨_, isConstant, trimmed, rfl, by simpa [TypeExpr.words] using same⟩⟩
  | bounded kind => cases kind <;> cases same
  | _ => cases same

theorem IsHead.of_bounded {kind : BoundedKind} (isHead : type.IsHead) (same : type.words ++ rest = reserved kind.keyword :: words) :
    ∃ bound, bound.IsBoundHead ∧ type = .bounded kind [bound] ∧ bound.words ++ rest = words := by
  cases isHead with
  | path => cases ident_of_path same
  | bounded kind' ofBound =>
    rw [words_bounded_single, List.cons_append, List.cons.injEq] at same
    cases kind <;> cases kind' <;> first | exact ⟨_, ofBound, rfl, same.2⟩ | cases same.1
  | _ => cases same

theorem IsHead.of_bang (isHead : type.IsHead) (same : type.words ++ rest = mark .bang :: words) : type = .never ∧ rest = words := by
  cases isHead with
  | path => cases ident_of_path same
  | bounded kind => cases kind <;> cases same
  | never => exact ⟨rfl, (List.cons.inj same).2⟩
  | _ => cases same

/-- What stands in front of the target of a reference is told from the target. -/
theorem reference_unique {life life' : Option String} {mutable mutable' : Bool} {words' : List Word}
    (starts : Starts beginsType words) (starts' : Starts beginsType words')
    (same : ofLife life ++ perhaps mutable (reserved .mutWord) ++ words =
      ofLife life' ++ perhaps mutable' (reserved .mutWord) ++ words') :
    life = life' ∧ mutable = mutable' ∧ words = words' := by
  obtain ⟨word, behind, rfl, ofType⟩ := starts
  obtain ⟨word', behind', rfl, ofType'⟩ := starts'
  cases life <;> cases life' <;> cases mutable <;> cases mutable' <;> cases same <;>
    first | exact ⟨rfl, rfl, rfl⟩ | cases ofType | cases ofType'

end TypeExpr

/-! Path segments, by the words behind their names -/

namespace PathSegment

variable {segment : PathSegment} {suffixes : List Suffix} {rest words words' : List Word} {name name' : String}

theorem IsHead.of_behind (isHead : segment.IsHead) (behind : Begins isBehind words)
    (same : segment.words ++ linked suffixes rest = ident name :: words) :
    segment = .plain name [] ∧ linked suffixes rest = words := by
  cases isHead with
  | @plain name' arguments each =>
    cases arguments with
    | nil =>
      cases same
      exact ⟨rfl, rfl⟩
    | cons first others =>
      cases same
      cases begins_cons.mp behind
  | call => cases same; cases begins_cons.mp behind
  | output => cases same; cases begins_cons.mp behind

theorem IsHead.of_less (isHead : segment.IsHead) (ends : Begins isEnd rest) {separated : Bool}
    (same : segment.words ++ linked suffixes rest =
      ident name :: (perhaps separated (mark .pathSeparator) ++ mark .less :: words)) :
    ∃ arguments, (∀ argument ∈ arguments, argument.IsMember .arguments) ∧ segment = .plain name arguments ∧
      joined .comma (arguments.map TypeExpr.words) ++ mark .greater :: linked suffixes rest = words := by
  cases isHead with
  | @plain name' arguments each =>
    cases arguments with
    | nil =>
      have sameRest : linked suffixes rest = _ := (ident_cons same).2
      cases separated with
      | false =>
        have behind : Begins isBehind (linked suffixes rest) := ends.behind
        rw [sameRest] at behind
        cases begins_cons.mp behind
      | true => exact absurd sameRest (linked_ne_turbofish ends)
    | cons first others =>
      rw [PathSegment.words_plain (List.cons_ne_nil _ _), List.cons_append, List.cons_append, List.append_assoc] at same
      obtain ⟨rfl, sameBehind⟩ := ident_cons same
      cases separated with
      | false => exact ⟨_, each, rfl, (List.cons.inj sameBehind).2⟩
      | true => cases sameBehind
  | call => cases separated <;> cases same
  | output => cases separated <;> cases same

theorem IsHead.of_call (isHead : segment.IsHead) (ends : Begins isEnd rest)
    (same : segment.words ++ linked suffixes rest = ident name :: mark .openParen :: words) :
    ∃ inputs output, (∀ input ∈ inputs, input.IsMember .types) ∧ (∀ type ∈ output, TypeExpr.IsHead type) ∧
      segment = .call name inputs output ∧
        joined .comma (inputs.map TypeExpr.words) ++
          mark .closeParen :: (PathSegment.wordsOfOutput output ++ linked suffixes rest) = words := by
  have called {name' : String} {inputs : List TypeExpr} {output : Option TypeExpr}
      (same : (PathSegment.call name' inputs output).words ++ linked suffixes rest = ident name :: mark .openParen :: words) :
      name' = name ∧ joined .comma (inputs.map TypeExpr.words) ++
        mark .closeParen :: (PathSegment.wordsOfOutput output ++ linked suffixes rest) = words := by
    rw [PathSegment.words_call, List.cons_append, List.cons_append, List.append_assoc] at same
    obtain ⟨sameName, sameBehind⟩ := ident_cons same
    exact ⟨sameName, (List.cons.inj sameBehind).2⟩
  cases isHead with
  | @plain name' arguments each =>
    cases arguments with
    | nil =>
      have sameRest : linked suffixes rest = _ := (ident_cons same).2
      have behind : Begins isBehind (linked suffixes rest) := ends.behind
      rw [sameRest] at behind
      cases begins_cons.mp behind
    | cons first others => cases same
  | call name' each =>
    obtain ⟨rfl, sameWords⟩ := called same
    exact ⟨_, none, each, nofun, rfl, sameWords⟩
  | output name' each ofOutput =>
    obtain ⟨rfl, sameWords⟩ := called same
    exact ⟨_, some _, each, by rintro _ ⟨⟩; exact ofOutput, rfl, sameWords⟩

end PathSegment

namespace Writes

/-- How the words of a part begin. -/
def BeginsAs : (part : Part) → List Word → Prop
  | .type, words => Starts beginsType words
  | .path, words => Starts beginsPath words
  | .segment, words => ∃ name behind, words = ident name :: behind
  | .item _, words => Starts beginsMember words
  | .itemsBehind _, words => Begins isStop words
  | .links _, words => Begins isJoint words
  | _, _ => True

theorem begins {part : Part} {words : List Word} {found : part.Meaning} (writes : Writes part words found) :
    BeginsAs part words := by
  induction writes with
  | path _ step => exact step.weaken beginsType_of_beginsPath
  | reference life mutable => exact ⟨_, _, rfl, rfl⟩
  | pointer mutable => exact ⟨_, _, rfl, rfl⟩
  | tuple => exact ⟨_, _, rfl, rfl⟩
  | slice => exact ⟨_, _, rfl, rfl⟩
  | array => exact ⟨_, _, rfl, rfl⟩
  | bounded kind => exact ⟨_, _, rfl, by cases kind <;> rfl⟩
  | never => exact ⟨_, _, rfl, rfl⟩
  | segments rooted _ _ ofFirst =>
    obtain ⟨name, behind, rfl⟩ := ofFirst
    cases rooted <;> exact ⟨_, _, rfl, rfl⟩
  | plain name => exact ⟨_, _, rfl⟩
  | generic name separated => exact ⟨_, _, rfl⟩
  | call name => exact ⟨_, _, rfl⟩
  | output name => exact ⟨_, _, rfl⟩
  | settled kind _ step => exact step.weaken beginsMember_of_beginsType
  | lifetime name => exact ⟨_, _, rfl, rfl⟩
  | binding name => exact ⟨_, _, rfl, rfl⟩
  | number => exact ⟨_, _, rfl, rfl⟩
  | block position => exact ⟨_, _, rfl, rfl⟩
  | noItemsBehind kind => exact nofun
  | moreItems => exact begins_cons.mpr rfl
  | noLinks kind => exact nofun
  | moreSegments => exact begins_cons.mpr rfl
  | moreBounds => exact begins_cons.mpr rfl
  | _ => trivial

/-! The length of an array -/

theorem trees_nil {words : List Word} {trees : List TokenTree} (writes : Writes .trees words trees) {rest rest' : List Word}
    (same : mark .closeBracket :: rest = words ++ mark .closeBracket :: rest') : trees = [] ∧ rest = rest' := by
  cases writes with
  | noTrees => exact ⟨rfl, (List.cons.inj same).2⟩
  | moreTrees ofFirst =>
    cases ofFirst with
    | leaf isLeaf =>
      obtain ⟨rfl, -⟩ := List.cons.inj same
      rcases isLeaf with isPlain | isSemicolon
      · cases isPlain
      · cases isSemicolon
    | group delimiter => cases delimiter <;> cases same

theorem constant_of_trees {words : List Word} {tree : TokenTree} {trees : List TokenTree}
    (writes : Writes .trees words (tree :: trees)) {text : String} (isConstant : IsConstant text)
    (trimmed : Text.trim text = text) {rest rest' : List Word}
    (same : constant text :: mark .closeBracket :: rest = words ++ mark .closeBracket :: rest') :
    TokenTree.renderAll (tree :: trees) = text ∧ rest = rest' := by
  cases writes with
  | moreTrees ofFirst ofRest =>
    cases ofFirst with
    | @leaf _ leaf isLeaf isText =>
      obtain ⟨rfl, sameRest⟩ := List.cons.inj same
      obtain ⟨rfl, behind⟩ := trees_nil ofRest sameRest
      rw [constant_text] at isText
      have noComma : text ≠ Punctuation.comma.text := by
        rintro rfl
        exact absurd isConstant (by decide)
      have rendered : TokenTree.renderFrom false [.leaf leaf] = text := by
        simp [TokenTree.renderFrom, TokenTree.render, TokenTree.isComma, TokenTree.leaf?, isText, noComma]
      rw [TokenTree.renderAll, rendered]
      exact ⟨trimmed, behind⟩
    | group delimiter =>
      have isText := isText_constant text
      rw [(List.cons.inj same).1] at isText
      cases isText

end Writes

end Exposure
