import Exposure.Proofs.Openings

/-!
The words that a type is rendered with are the words of no other type: whatever part of them is read as a part of a type
is that part of the type which they were rendered from.
-/

namespace Exposure

open Word

namespace Writes

/-! What is read off canonical words -/

/-- What is read of some links, and what is left of them behind it. -/
def Continues (found suffixes : List Suffix) (rest rest' : List Word) : Prop :=
  ∃ left, suffixes = found ++ left ∧ rest' = linked left rest

/-- Words at the beginning of a canonical part and of links behind it are read as that part and as the first of the links. -/
def ReadsOff {head : Type} (isHead : head → Prop) (wordsOf : head → List Word) (words : List Word)
    (found : Spine head) : Prop :=
  ∀ ⦃first suffixes rest rest'⦄, isHead first → (∀ suffix ∈ suffixes, Suffix.IsLink suffix) → Begins isEnd rest →
    Begins isBoundary rest' → wordsOf first ++ linked suffixes rest = words ++ rest' →
      found.head = first ∧ Continues found.suffixes suffixes rest rest'

/-- Words at the beginning of canonical links are read as the first of them. -/
def ReadsLinks (words : List Word) (found : List Suffix) : Prop :=
  ∀ ⦃suffixes rest rest'⦄, (∀ suffix ∈ suffixes, Suffix.IsLink suffix) → Begins isEnd rest → Begins isBoundary rest' →
    linked suffixes rest = words ++ rest' → Continues found suffixes rest rest'

/-- Words at the beginning of a canonical member are the words of that member and are read as it. -/
def ReadsMember (kind : ListKind) (words : List Word) (found : TypeExpr) : Prop :=
  ∀ ⦃type rest rest'⦄, TypeExpr.IsMember kind type → Begins isStop rest → Begins isStop rest' →
    type.words ++ rest = words ++ rest' → found = type ∧ rest = rest'

/-- Words at the beginning of a canonical list are the words of that list and are read as it. -/
def ReadsMembers (kind : ListKind) (words : List Word) (found : List TypeExpr) : Prop :=
  ∀ ⦃types trailing rest rest'⦄, (∀ type ∈ types, TypeExpr.IsMember kind type) → (trailing = true → types ≠ []) →
    Begins isClosing rest → Begins isClosing rest' →
      joined .comma (types.map TypeExpr.words) ++ (perhaps trailing (mark .comma) ++ rest) = words ++ rest' →
        found = types ∧ rest = rest'

/-- As `ReadsMembers`, behind the first member of the list. -/
def ReadsMembersBehind (kind : ListKind) (words : List Word) (found : List TypeExpr) : Prop :=
  ∀ ⦃types trailing trailing' rest rest'⦄, (∀ type ∈ types, TypeExpr.IsMember kind type) → Begins isClosing rest →
    Begins isClosing rest' →
      types.flatMap (fun each => mark .comma :: each.words) ++ (perhaps trailing (mark .comma) ++ rest) =
          words ++ (perhaps trailing' (mark .comma) ++ rest') →
        found = types ∧ rest = rest'

/-- A list without a comma behind it. -/
theorem ReadsMembers.closed {kind : ListKind} {words : List Word} {found : List TypeExpr}
    (reads : ReadsMembers kind words found) {types : List TypeExpr} {rest rest' : List Word}
    (each : ∀ type ∈ types, TypeExpr.IsMember kind type) (closing : Begins isClosing rest) (closing' : Begins isClosing rest')
    (same : joined .comma (types.map TypeExpr.words) ++ rest = words ++ rest') : found = types ∧ rest = rest' :=
  @reads types false rest rest' each nofun closing closing' same

namespace ReadsOff

variable {head result : Type} {isHead : head → Prop} {wordsOf : head → List Word} {isHead' : result → Prop}
  {wordsOf' : result → List Word} {words words' : List Word} {spine : Spine head}

/-- A part with no links of its own. -/
theorem single {part : head}
    (only : ∀ ⦃first suffixes rest rest'⦄, isHead first → Begins isEnd rest → Begins isBoundary rest' →
      wordsOf first ++ linked suffixes rest = words ++ rest' → part = first ∧ linked suffixes rest = rest') :
    ReadsOff isHead wordsOf words (.single part) := by
  intro first suffixes rest rest' ofHead _ ends boundary same
  obtain ⟨isPart, behind⟩ := only ofHead ends boundary same
  exact ⟨isPart, suffixes, rfl, behind.symm⟩

/-- A part that ends with another one. -/
theorem map (reads : ReadsOff isHead wordsOf words spine) {front : List Word} {within : head → result}
    (inner : ∀ ⦃first suffixes rest rest'⦄, isHead' first → Begins isEnd rest →
      wordsOf' first ++ linked suffixes rest = front ++ (words ++ rest') →
        ∃ part, isHead part ∧ first = within part ∧ wordsOf part ++ linked suffixes rest = words ++ rest') :
    ReadsOff isHead' wordsOf' (front ++ words) (spine.map within) := by
  intro first suffixes rest rest' ofHead links ends boundary same
  rw [List.append_assoc] at same
  obtain ⟨part, ofPart, rfl, samePart⟩ := inner ofHead ends same
  obtain ⟨isPart, continues⟩ := reads ofPart links ends boundary samePart
  exact ⟨congrArg within isPart, continues⟩

/-- A part with further links behind it. -/
theorem append (reads : ReadsOff isHead wordsOf words spine) {others : List Suffix} (ofOthers : ReadsLinks words' others)
    (joints : Begins isJoint words') : ReadsOff isHead wordsOf (words ++ words') (spine.append others) := by
  intro first suffixes rest rest' ofHead links ends boundary same
  rw [List.append_assoc] at same
  have boundary' : Begins isBoundary (words' ++ rest') :=
    (joints.weaken isBoundary_of_isJoint).append boundary
  obtain ⟨isFirst, left, rfl, sameLeft⟩ := reads ofHead links ends boundary' same
  obtain ⟨left', rfl, behind⟩ := ofOthers (List.forall_mem_append.mp links).2 ends boundary sameLeft.symm
  exact ⟨isFirst, left', (List.append_assoc ..).symm, behind⟩

end ReadsOff

/-! Types -/

section Spines

variable {words words' : List Word} {spine : Spine TypeExpr} {segment : Spine PathSegment}

/-- A path that is canonical. -/
def IsPathHead (type : TypeExpr) : Prop := ∃ segment, PathSegment.IsHead segment ∧ type = .path [segment]

theorem reads_reference (reads : ReadsOff TypeExpr.IsHead TypeExpr.words words spine) (starts : Starts beginsType words)
    (life : Option String) (mutable : Bool) :
    ReadsOff TypeExpr.IsHead TypeExpr.words
      (mark .ampersand :: (ofLife life ++ perhaps mutable (reserved .mutWord)) ++ words)
      (spine.map (.reference life mutable)) := by
  refine reads.map fun first suffixes rest rest' isHead _ same => ?_
  obtain ⟨life', mutable', target, ofTarget, rfl, sameTarget⟩ := isHead.of_ampersand same
  obtain ⟨rfl, rfl, sameWords⟩ := TypeExpr.reference_unique ofTarget.starts.append starts.append sameTarget
  exact ⟨target, ofTarget, rfl, sameWords⟩

theorem reads_pointer (reads : ReadsOff TypeExpr.IsHead TypeExpr.words words spine) (mutable : Bool) :
    ReadsOff TypeExpr.IsHead TypeExpr.words ([mark .star, ofPointer mutable] ++ words) (spine.map (.pointer mutable)) := by
  refine reads.map fun first suffixes rest rest' isHead _ same => ?_
  obtain ⟨mutable', target, ofTarget, rfl, sameTarget⟩ := isHead.of_star same
  cases mutable <;> cases mutable' <;> first | exact ⟨target, ofTarget, rfl, (List.cons.inj sameTarget).2⟩ | cases sameTarget

theorem reads_tuple {elements : List TypeExpr} (reads : ReadsMembers .types words elements) :
    ReadsOff TypeExpr.IsHead TypeExpr.words (mark .openParen :: (words ++ [mark .closeParen])) (.single (.tuple elements)) := by
  refine .single fun first suffixes rest rest' isHead _ _ same => ?_
  rw [List.cons_append, List.append_assoc] at same
  obtain ⟨elements', each, rfl, sameElements⟩ := isHead.of_openParen same
  have several : decide (elements'.length = 1) = true → elements' ≠ [] := by
    rintro one rfl
    cases one
  obtain ⟨rfl, behind⟩ := reads each several (begins_cons.mpr rfl) (begins_cons.mpr rfl) sameElements
  exact ⟨rfl, (List.cons.inj behind).2⟩

theorem reads_slice {element : TypeExpr} (reads : ReadsMember .types words element) :
    ReadsOff TypeExpr.IsHead TypeExpr.words (mark .openBracket :: (words ++ [mark .closeBracket]))
      (.single (.slice element)) := by
  refine .single fun first suffixes rest rest' isHead _ _ same => ?_
  rw [List.cons_append, List.append_assoc] at same
  obtain ⟨element', ofElement, ⟨rfl, sameElement⟩ | ⟨length, -, -, rfl, sameElement⟩⟩ := isHead.of_openBracket same
  · obtain ⟨rfl, behind⟩ := reads ofElement (begins_cons.mpr rfl) (begins_cons.mpr rfl) sameElement
    exact ⟨rfl, (List.cons.inj behind).2⟩
  · cases (reads ofElement (begins_cons.mpr rfl) (begins_cons.mpr rfl) sameElement).2

theorem reads_array {element : TypeExpr} (reads : ReadsMember .types words element) {tree : TokenTree}
    {trees : List TokenTree} (ofLength : Writes .trees words' (tree :: trees)) :
    ReadsOff TypeExpr.IsHead TypeExpr.words
      (mark .openBracket :: (words ++ mark .semicolon :: (words' ++ [mark .closeBracket])))
      (.single (.array element (TokenTree.renderAll (tree :: trees)))) := by
  refine .single fun first suffixes rest rest' isHead _ _ same => ?_
  rw [List.cons_append, List.append_assoc, List.cons_append, List.append_assoc] at same
  obtain ⟨element', ofElement, ⟨rfl, sameElement⟩ | ⟨length, isConstant, trimmed, rfl, sameElement⟩⟩ :=
    isHead.of_openBracket same
  · cases (reads ofElement (begins_cons.mpr rfl) (begins_cons.mpr rfl) sameElement).2
  · obtain ⟨rfl, behind⟩ := reads ofElement (begins_cons.mpr rfl) (begins_cons.mpr rfl) sameElement
    obtain ⟨sameLength, sameRest⟩ := constant_of_trees ofLength isConstant trimmed (List.cons.inj behind).2
    exact ⟨congrArg _ sameLength, sameRest⟩

theorem reads_never : ReadsOff TypeExpr.IsHead TypeExpr.words [mark .bang] (.single .never) := by
  refine .single fun first suffixes rest rest' isHead _ _ same => ?_
  obtain ⟨rfl, behind⟩ := isHead.of_bang same
  exact ⟨rfl, behind⟩

theorem reads_bounded (reads : ReadsOff TypeExpr.IsBoundHead TypeExpr.words words spine) (kind : BoundedKind) :
    ReadsOff TypeExpr.IsHead TypeExpr.words ([reserved kind.keyword] ++ words)
      (spine.map fun bound => .bounded kind [bound]) := by
  refine reads.map fun first suffixes rest rest' isHead _ same => ?_
  obtain ⟨bound, ofBound, rfl, sameBound⟩ := isHead.of_bounded same
  exact ⟨bound, ofBound, rfl, sameBound⟩

theorem reads_segments (reads : ReadsOff PathSegment.IsHead PathSegment.words words segment) (rooted : Bool) :
    ReadsOff IsPathHead TypeExpr.words (perhaps rooted (mark .pathSeparator) ++ words)
      (segment.map fun segment => .path [segment]) := by
  refine reads.map fun first suffixes rest rest' isHead _ same => ?_
  obtain ⟨part, ofPart, rfl⟩ := isHead
  cases rooted with
  | false => exact ⟨part, ofPart, rfl, by rwa [TypeExpr.words_path_single] at same⟩
  | true => cases TypeExpr.ident_of_path same

theorem reads_path (reads : ReadsOff IsPathHead TypeExpr.words words spine) (starts : Starts beginsPath words) :
    ReadsOff TypeExpr.IsHead TypeExpr.words words spine := by
  intro first suffixes rest rest' isHead links ends boundary same
  exact reads (isHead.of_beginsPath same starts.append) links ends boundary same

theorem reads_pathBound (reads : ReadsOff IsPathHead TypeExpr.words words spine) (starts : Starts beginsPath words) :
    ReadsOff TypeExpr.IsBoundHead TypeExpr.words words spine := by
  intro first suffixes rest rest' isHead links ends boundary same
  exact reads (isHead.of_beginsPath same starts.append) links ends boundary same

theorem reads_lifetimeBound (name : String) :
    ReadsOff TypeExpr.IsBoundHead TypeExpr.words [Word.lifetime name] (.single (.lifetime name)) := by
  refine .single fun first suffixes rest rest' isHead _ _ same => ?_
  cases isHead with
  | path => cases TypeExpr.ident_of_path same
  | lifetime name' =>
    cases same
    exact ⟨rfl, rfl⟩
  | maybe => cases same

theorem reads_maybe (reads : ReadsOff IsPathHead TypeExpr.words words spine) :
    ReadsOff TypeExpr.IsBoundHead TypeExpr.words ([mark .question] ++ words) (spine.map .maybe) := by
  refine reads.map fun first suffixes rest rest' isHead _ same => ?_
  cases isHead with
  | path => cases TypeExpr.ident_of_path same
  | lifetime => cases same
  | maybe ofSegment => exact ⟨_, ⟨_, ofSegment, rfl⟩, rfl, (List.cons.inj same).2⟩

theorem reads_grouped (bound : TypeExpr) :
    ReadsOff TypeExpr.IsBoundHead TypeExpr.words (mark .openParen :: words) (.single (.grouped bound)) := by
  refine .single fun first suffixes rest rest' isHead _ _ same => ?_
  cases isHead with
  | path => cases TypeExpr.ident_of_path same
  | _ => cases same

/-! Path segments -/

theorem reads_plain (name : String) :
    ReadsOff PathSegment.IsHead PathSegment.words [ident name] (.single (.plain name [])) := by
  refine .single fun first suffixes rest rest' isHead _ boundary same => ?_
  obtain ⟨isPlain, behind⟩ := isHead.of_behind (boundary.weaken isBehind_of_isBoundary) same
  exact ⟨isPlain.symm, behind⟩

theorem reads_generic {arguments : List TypeExpr} (reads : ReadsMembers .arguments words arguments) (name : String)
    (separated : Bool) :
    ReadsOff PathSegment.IsHead PathSegment.words
      (ident name :: (perhaps separated (mark .pathSeparator) ++ mark .less :: (words ++ [mark .greater])))
      (.single (.plain name arguments)) := by
  refine .single fun first suffixes rest rest' isHead ends _ same => ?_
  rw [List.cons_append, List.append_assoc, List.cons_append, List.append_assoc] at same
  obtain ⟨arguments', each, rfl, sameArguments⟩ := isHead.of_less ends same
  obtain ⟨rfl, behind⟩ := reads.closed each (begins_cons.mpr rfl) (begins_cons.mpr rfl) sameArguments
  exact ⟨rfl, (List.cons.inj behind).2⟩

theorem reads_call {inputs : List TypeExpr} (reads : ReadsMembers .types words inputs) (name : String) :
    ReadsOff PathSegment.IsHead PathSegment.words (ident name :: mark .openParen :: (words ++ [mark .closeParen]))
      (.single (.call name inputs none)) := by
  refine .single fun first suffixes rest rest' isHead ends boundary same => ?_
  rw [List.cons_append, List.cons_append, List.append_assoc] at same
  obtain ⟨inputs', output, each, -, rfl, sameInputs⟩ := isHead.of_call ends same
  obtain ⟨rfl, behind⟩ := reads.closed each (begins_cons.mpr rfl) (begins_cons.mpr rfl) sameInputs
  obtain ⟨-, sameRest⟩ := List.cons.inj behind
  cases output with
  | none => exact ⟨rfl, sameRest⟩
  | some type =>
    obtain rfl : _ = rest' := sameRest
    cases begins_cons.mp boundary

theorem reads_output {inputs : List TypeExpr} (reads : ReadsMembers .types words inputs)
    (ofOutput : ReadsOff TypeExpr.IsHead TypeExpr.words words' spine) (name : String) :
    ReadsOff PathSegment.IsHead PathSegment.words
      (ident name :: mark .openParen :: (words ++ [mark .closeParen, mark .arrow]) ++ words')
      (spine.map fun type => .call name inputs (some type)) := by
  refine ofOutput.map fun first suffixes rest rest' isHead ends same => ?_
  rw [List.cons_append, List.cons_append, List.append_assoc] at same
  obtain ⟨inputs', output, each, heads, rfl, sameInputs⟩ := isHead.of_call ends same
  obtain ⟨rfl, behind⟩ := reads.closed each (begins_cons.mpr rfl) (begins_cons.mpr rfl) sameInputs
  obtain ⟨-, sameRest⟩ := List.cons.inj behind
  cases output with
  | none =>
    have behind : Begins isBehind (linked suffixes rest) := ends.behind
    rw [show linked suffixes rest = _ from sameRest] at behind
    cases begins_cons.mp behind
  | some type => exact ⟨type, heads type rfl, rfl, (List.cons.inj sameRest).2⟩

end Spines

/-! Links -/

theorem reads_noLinks : ReadsLinks [] [] := fun suffixes _ _ _ _ _ same => ⟨suffixes, rfl, same.symm⟩

theorem ReadsLinks.cons {head : Type} {isHead : head → Prop} {wordsOf : head → List Word} {words words' : List Word}
    {spine : Spine head} {others : List Suffix} (reads : ReadsOff isHead wordsOf words spine)
    (ofOthers : ReadsLinks words' others) (joints : Begins isJoint words') {suffix : head → Suffix} {joint : Punctuation}
    (first : ∀ ⦃link rest behind⦄, Suffix.IsLink link → link.words ++ rest = mark joint :: behind →
      ∃ part, isHead part ∧ link = suffix part ∧ wordsOf part ++ rest = behind)
    (noEnd : isEnd (mark joint) = false) :
    ReadsLinks (mark joint :: (words ++ words')) (spine.toSuffixes suffix ++ others) := by
  intro suffixes rest rest' links ends boundary same
  cases suffixes with
  | nil =>
    obtain rfl : rest = _ := same
    cases noEnd.symm.trans (begins_cons.mp ends)
  | cons link suffixes =>
    obtain ⟨ofLink, ofLinks⟩ := List.forall_mem_cons.mp links
    rw [linked_cons] at same
    obtain ⟨part, ofPart, rfl, samePart⟩ := first ofLink same
    obtain ⟨rfl, left, rfl, behind⟩ := reads.append ofOthers joints ofPart ofLinks ends boundary samePart
    exact ⟨left, by rw [Spine.toSuffixes, List.cons_append, List.cons_append]; rfl, behind⟩

theorem segment_of_joint {link : Suffix} {rest behind : List Word} (isLink : link.IsLink)
    (same : link.words ++ rest = mark .pathSeparator :: behind) :
    ∃ part, PathSegment.IsHead part ∧ link = .segment part ∧ part.words ++ rest = behind := by
  cases isLink with
  | segment ofSegment => exact ⟨_, ofSegment, rfl, (List.cons.inj same).2⟩
  | bound => cases same

theorem bound_of_joint {link : Suffix} {rest behind : List Word} (isLink : link.IsLink)
    (same : link.words ++ rest = mark .plus :: behind) :
    ∃ part, TypeExpr.IsBoundHead part ∧ link = .bound part ∧ part.words ++ rest = behind := by
  cases isLink with
  | segment => cases same
  | bound ofBound => exact ⟨_, ofBound, rfl, (List.cons.inj same).2⟩

/-! Members of lists -/

section Members

variable {kind : ListKind} {words words' : List Word}

/-- What is left in front of the end of a member is no link. -/
theorem Continues.stops {found suffixes : List Suffix} {rest rest' : List Word}
    (continues : Continues found suffixes rest rest') (stops : Begins isStop rest') : found = suffixes ∧ rest = rest' := by
  obtain ⟨left, rfl, rfl⟩ := continues
  rcases left with _ | ⟨added | added, others⟩
  · exact ⟨(List.append_nil found).symm, rfl⟩
  · cases begins_cons.mp stops
  · cases begins_cons.mp stops

theorem reads_settled {spine : Spine TypeExpr} (reads : ReadsOff TypeExpr.IsHead TypeExpr.words words spine)
    (starts : Starts beginsType words) (kind : ListKind) : ReadsMember kind words spine.settle := by
  intro type rest rest' isMember stops stops' same
  have boundary : Begins isBoundary rest' := stops'.weaken isBoundary_of_isStop
  cases isMember with
  | @settled _ spine' ofHead links isWords =>
    rw [isWords, List.append_assoc] at same
    obtain ⟨isHead, continues⟩ := reads ofHead links (stops.weaken isEnd_of_isStop) boundary same
    obtain ⟨areSuffixes, behind⟩ := continues.stops stops'
    obtain rfl : spine = spine' := by
      cases spine
      cases spine'
      cases isHead
      cases areSuffixes
      rfl
    exact ⟨rfl, behind⟩
  | lifetime =>
    obtain ⟨word, behind, rfl, ofType⟩ := starts
    cases same
    cases ofType
  | @binding name value =>
    -- read as a type, the name is a path, in front of what is no end of a type
    have isName : TypeExpr.IsHead (.path [.plain name []]) := .path (.plain name nofun)
    have asPath : (TypeExpr.path [.plain name []]).words ++ linked [] (mark .equals :: (value.words ++ rest)) =
        words ++ rest' := same
    obtain ⟨-, continues⟩ := reads isName (List.forall_mem_nil _) (begins_cons.mpr rfl) boundary asPath
    obtain rfl := (continues.stops stops').2
    cases begins_cons.mp stops'
  | number isNumber =>
    obtain ⟨word, behind, rfl, ofType⟩ := starts
    rw [TypeExpr.words, isNumber] at same
    cases same
    cases ofType

/-- A type is not taken for an argument of another kind. -/
theorem not_beginsType {type : TypeExpr} (isHead : type.IsHead) {rest : List Word} {word : Word}
    (same : type.words ++ rest = word :: words) : word.beginsType = true := by
  obtain ⟨word', behind, isWords, ofType⟩ := isHead.starts
  rw [isWords] at same
  cases same
  exact ofType

theorem reads_lifetime (name : String) : ReadsMember .arguments [Word.lifetime name] (.lifetime name) := by
  intro type rest rest' isMember _ _ same
  cases isMember with
  | settled _ ofHead _ isWords =>
    rw [isWords, List.append_assoc] at same
    cases not_beginsType ofHead same
  | lifetime =>
    cases same
    exact ⟨rfl, rfl⟩
  | binding => cases same
  | number isNumber =>
    rw [TypeExpr.words, isNumber] at same
    cases same

theorem reads_number (text : String) : ReadsMember .arguments [Word.number text] (.const text) := by
  intro type rest rest' isMember _ _ same
  cases isMember with
  | settled _ ofHead _ isWords =>
    rw [isWords, List.append_assoc] at same
    cases not_beginsType ofHead same
  | lifetime => cases same
  | binding => cases same
  | number isNumber =>
    rw [TypeExpr.words, isNumber] at same
    cases same
    exact ⟨rfl, rfl⟩

theorem reads_block (text : String) : ReadsMember .arguments (mark .openBrace :: words) (.const text) := by
  intro type rest rest' isMember _ _ same
  cases isMember with
  | settled _ ofHead _ isWords =>
    rw [isWords, List.append_assoc] at same
    cases not_beginsType ofHead same
  | lifetime => cases same
  | binding => cases same
  | number isNumber =>
    rw [TypeExpr.words, isNumber] at same
    cases same

theorem reads_binding {value : TypeExpr} (reads : ReadsMember .types words value) (name : String) :
    ReadsMember .arguments (ident name :: mark .equals :: words) (.binding name value) := by
  intro type rest rest' isMember stops stops' same
  cases isMember with
  | @settled _ spine ofHead links isWords =>
    rw [isWords, List.append_assoc] at same
    obtain ⟨segment, ofSegment, isPath⟩ := ofHead.of_beginsPath same ⟨_, _, rfl, rfl⟩
    rw [isPath, TypeExpr.words_path_single] at same
    obtain ⟨-, behind⟩ := ofSegment.of_behind (begins_cons.mpr rfl) same
    have boundary : Begins isBoundary (linked spine.suffixes rest) :=
      (stops.weaken isBoundary_of_isStop).linked isBoundary_of_isJoint
    rw [behind] at boundary
    cases begins_cons.mp boundary
  | lifetime => cases same
  | binding name' ofValue =>
    obtain ⟨rfl, sameBehind⟩ := ident_cons same
    obtain ⟨rfl, behind⟩ := reads ofValue stops stops' (List.cons.inj sameBehind).2
    exact ⟨rfl, behind⟩
  | number isNumber =>
    rw [TypeExpr.words, isNumber] at same
    cases same

/-! Lists of members -/

section Comma

variable {trailing trailing' : Bool} {rest rest' : List Word}

theorem begins_perhaps (closing : Begins isClosing rest) : Begins isStop (perhaps trailing (mark .comma) ++ rest) := by
  cases trailing with
  | false => exact closing.weaken isStop_of_isClosing
  | true => exact begins_cons.mpr rfl

theorem perhaps_unique (closing : Begins isClosing rest) (closing' : Begins isClosing rest')
    (same : perhaps trailing (mark .comma) ++ rest = perhaps trailing' (mark .comma) ++ rest') : rest = rest' := by
  cases trailing <;> cases trailing'
  · exact same
  · obtain rfl : rest = _ := same
    cases begins_cons.mp closing
  · obtain rfl : _ = rest' := same
    cases begins_cons.mp closing'
  · exact (List.cons.inj same).2

/-- No member stands behind the comma at the end of a list. -/
theorem perhaps_ne_member (closing : Begins isClosing rest) (starts : Starts beginsMember words) :
    perhaps trailing (mark .comma) ++ rest ≠ mark .comma :: words := by
  intro same
  cases trailing with
  | false =>
    obtain rfl : rest = _ := same
    cases begins_cons.mp closing
  | true =>
    obtain rfl : rest = words := (List.cons.inj same).2
    exact starts.not_begins closing isClosing_of_beginsMember

end Comma

theorem reads_noItems (kind : ListKind) : ReadsMembers kind [] [] := by
  intro types trailing rest rest' each proper _ closing' same
  cases types with
  | nil =>
    cases trailing with
    | false => exact ⟨rfl, same⟩
    | true => exact absurd rfl (proper rfl)
  | cons first others =>
    have starts := (List.forall_mem_cons.mp each).1.starts
    rw [List.map_cons, joined_cons, List.append_assoc] at same
    obtain rfl : _ = rest' := same
    exact (starts.append.not_begins closing' isClosing_of_beginsMember).elim

theorem reads_noItemsBehind (kind : ListKind) : ReadsMembersBehind kind [] [] := by
  intro types trailing trailing' rest rest' each closing closing' same
  cases types with
  | nil => exact ⟨rfl, perhaps_unique closing closing' same⟩
  | cons type types =>
    have starts := (List.forall_mem_cons.mp each).1.starts
    rw [List.flatMap_cons, List.cons_append, List.cons_append, List.append_assoc] at same
    exact absurd same.symm (perhaps_ne_member closing' starts.append)

section Cons

variable {first : TypeExpr} {others : List TypeExpr} (reads : ReadsMember kind words first)
  (starts : Starts beginsMember words) (ofOthers : ReadsMembersBehind kind words' others) (commas : Begins isStop words')
include reads ofOthers commas

/-- A member in front of others, behind the start of a list or behind a comma. -/
theorem ReadsMember.cons {type : TypeExpr} {types : List TypeExpr} {trailing trailing' : Bool} {rest rest' : List Word}
    (each : ∀ each ∈ type :: types, TypeExpr.IsMember kind each) (closing : Begins isClosing rest)
    (closing' : Begins isClosing rest')
    (same : type.words ++ (types.flatMap (fun each => mark .comma :: each.words) ++ (perhaps trailing (mark .comma) ++ rest)) =
      words ++ (words' ++ (perhaps trailing' (mark .comma) ++ rest'))) : first :: others = type :: types ∧ rest = rest' := by
  obtain ⟨isMember, eachOther⟩ := List.forall_mem_cons.mp each
  have commas' : Begins isStop (types.flatMap fun each => mark .comma :: each.words) := by
    cases types with
    | nil => exact nofun
    | cons second others => exact begins_cons.mpr rfl
  obtain ⟨rfl, behind⟩ :=
    reads isMember (commas'.append (begins_perhaps closing)) (commas.append (begins_perhaps closing')) same
  obtain ⟨rfl, sameRest⟩ := ofOthers eachOther closing closing' behind
  exact ⟨rfl, sameRest⟩

include starts

theorem ReadsMembers.cons (trailing : Bool) :
    ReadsMembers kind (words ++ words' ++ perhaps trailing (mark .comma)) (first :: others) := by
  intro types trailing' rest rest' each proper closing closing' same
  rw [List.append_assoc, List.append_assoc] at same
  cases types with
  | nil =>
    cases trailing' with
    | false =>
      obtain rfl : rest = _ := same
      exact (starts.append.not_begins closing isClosing_of_beginsMember).elim
    | true => exact absurd rfl (proper rfl)
  | cons type types =>
    rw [List.map_cons, joined_cons, List.flatMap_map, List.append_assoc] at same
    exact reads.cons ofOthers commas each closing closing' same

theorem ReadsMembersBehind.cons : ReadsMembersBehind kind (mark .comma :: (words ++ words')) (first :: others) := by
  intro types trailing trailing' rest rest' each closing closing' same
  rw [List.cons_append, List.append_assoc] at same
  cases types with
  | nil => exact absurd same (perhaps_ne_member closing starts.append)
  | cons type types =>
    rw [List.flatMap_cons, List.cons_append, List.cons_append, List.append_assoc] at same
    exact reads.cons ofOthers commas each closing closing' (List.cons.inj same).2

end Cons

end Members

/-- The words of a part are read as it wherever they stand in the words of a canonical type. -/
def IsReadOff : (part : Part) → List Word → part.Meaning → Prop
  | .type, words, spine => ReadsOff TypeExpr.IsHead TypeExpr.words words spine
  | .path, words, spine => ReadsOff IsPathHead TypeExpr.words words spine
  | .segment, words, spine => ReadsOff PathSegment.IsHead PathSegment.words words spine
  | .bound, words, spine => ReadsOff TypeExpr.IsBoundHead TypeExpr.words words spine
  | .item kind, words, found => ReadsMember kind words found
  | .items kind, words, types => ReadsMembers kind words types
  | .itemsBehind kind, words, types => ReadsMembersBehind kind words types
  | .links _, words, suffixes => ReadsLinks words suffixes
  | .tree, _, _ => True
  | .trees, _, _ => True

theorem isReadOff {part : Part} {words : List Word} {found : part.Meaning} (writes : Writes part words found) :
    IsReadOff part words found := by
  induction writes with
  | path ofPath step => exact reads_path step ofPath.begins
  | reference life mutable ofTarget step => exact reads_reference step ofTarget.begins life mutable
  | pointer mutable _ step => exact reads_pointer step mutable
  | tuple _ step => exact reads_tuple step
  | slice _ step => exact reads_slice step
  | array _ ofLength ofElement => exact reads_array ofElement ofLength
  | bounded kind _ ofRest first rest => exact (reads_bounded first kind).append rest ofRest.begins
  | never => exact reads_never
  | segments rooted _ ofRest first rest =>
    rw [← List.append_assoc]
    exact (reads_segments first rooted).append rest ofRest.begins
  | plain name => exact reads_plain name
  | generic name separated _ step => exact reads_generic step name separated
  | call name _ step => exact reads_call step name
  | @output name words words' _ _ _ _ inputs output =>
    have reads := reads_output inputs output name
    rwa [List.cons_append, List.cons_append, List.append_assoc] at reads
  | pathBound ofPath step => exact reads_pathBound step ofPath.begins
  | lifetimeBound name => exact reads_lifetimeBound name
  | maybe _ step => exact reads_maybe step
  | grouped => exact reads_grouped _
  | settled kind ofType step => exact reads_settled step ofType.begins kind
  | lifetime name => exact reads_lifetime name
  | binding name _ step => exact reads_binding step name
  | number => exact reads_number _
  | block => exact reads_block _
  | noItems kind => exact reads_noItems kind
  | someItems trailing ofFirst ofRest first rest => exact .cons first ofFirst.begins rest ofRest.begins trailing
  | noItemsBehind kind => exact reads_noItemsBehind kind
  | moreItems ofFirst ofRest first rest => exact .cons first ofFirst.begins rest ofRest.begins
  | noLinks => exact reads_noLinks
  | moreSegments _ ofRest first rest => exact .cons first rest ofRest.begins (fun _ _ _ => segment_of_joint) rfl
  | moreBounds _ ofRest first rest => exact .cons first rest ofRest.begins (fun _ _ _ => bound_of_joint) rfl
  | _ => trivial

/-- Only a type itself is read from the words that it is rendered with. -/
theorem eq_of_words {type found : TypeExpr} (writes : Writes (.item .types) type.words found)
    (isMember : type.IsMember .types) : found = type :=
  (@isReadOff _ _ _ writes type [] [] isMember nofun nofun rfl).1

end Writes

end Exposure
