import Exposure.Proofs.Settling
import Mathlib.Data.List.DropRight

/-!
The words that a plain type is rendered with: they are words of the language, the grammar accepts them, and the type has
the shape that the grammar gives to types.
-/

namespace Exposure

open Word

/-! The words of each kind of type -/

namespace TypeExpr

theorem words_reference (life : Option String) (mutable : Bool) (target : TypeExpr) :
    (reference life mutable target).words =
      mark .ampersand :: (ofLife life ++ perhaps mutable (reserved .mutWord) ++ target.words) := by
  cases life <;> rfl

theorem words_tuple (elements : List TypeExpr) :
    (tuple elements).words = mark .openParen :: (joined .comma (elements.map words) ++
      perhaps (elements.length = 1) (mark .comma) ++ [mark .closeParen]) := by
  rw [← wordsOfAll_eq]
  rcases elements with _ | ⟨first, _ | ⟨second, rest⟩⟩
  · rfl
  · rfl
  · have several : ¬(first :: second :: rest).length = 1 := by simp
    simp [words, perhaps]

end TypeExpr

namespace PathSegment

theorem words_plain {arguments : List TypeExpr} (proper : arguments ≠ []) (name : String) :
    (plain name arguments).words =
      ident name :: mark .less :: (joined .comma (arguments.map TypeExpr.words) ++ [mark .greater]) := by
  obtain ⟨first, rest, rfl⟩ := List.exists_cons_of_ne_nil proper
  rw [← TypeExpr.wordsOfAll_eq, words]
  nofun

theorem words_call (name : String) (inputs : List TypeExpr) (output : Option TypeExpr) :
    (call name inputs output).words = ident name :: mark .openParen ::
      (joined .comma (inputs.map TypeExpr.words) ++ mark .closeParen :: wordsOfOutput output) := by
  rw [← TypeExpr.wordsOfAll_eq, words]

end PathSegment

theorem Word.joined_cons (separator : Punctuation) (first : List Word) (rest : List (List Word)) :
    joined separator (first :: rest) = first ++ rest.flatMap (mark separator :: ·) := rfl

/-! Constants -/

namespace Text

theorem trim_trim (text : String) : trim (trim text) = trim text := by
  have front (chars : List Char) : (trimEnds isBlank chars).dropWhile isBlank = trimEnds isBlank chars := by
    have inside : trimEnds isBlank chars <+: chars.dropWhile isBlank := List.rdropWhile_prefix _ _
    rw [List.dropWhile_eq_self_iff]
    intro proper
    have noBlank := List.dropWhile_get_zero_not isBlank chars (Nat.lt_of_lt_of_le proper inside.length_le)
    rwa [List.get_eq_getElem, ← inside.getElem proper] at noBlank
  have ends : trimEnds isBlank (trimEnds isBlank text.toList) = trimEnds isBlank text.toList := by
    rw [trimEnds, front]
    exact List.rdropWhile_idempotent isBlank _
  rw [trim, trim, String.toList_ofList, ends]

end Text

namespace IsConstant

open Lexeme

theorem class?_isSome {text : String} (isConstant : IsConstant text) :
    ident? text.toList = some text.length ∨ number? text.toList = some text.length :=
  isConstant.imp (fun ident => (first?_word ident).1 rfl) fun number => (first?_word number).2 rfl

theorem isGenuine {text : String} (isConstant : IsConstant text) : (constant text).IsGenuine := by
  have named (absent : number? text.toList = none) : (name text).IsGenuine := by
    unfold Word.name
    cases reserved : Keyword.ofText? text with
    | some keyword => exact isGenuine_reserved keyword
    | none =>
      rcases isConstant.class?_isSome with ident | number
      · exact ⟨ident, reserved⟩
      · cases absent.symm.trans number
  unfold constant
  cases found : number? text.toList with
  | none => exact named found
  | some length =>
    rcases isConstant.class?_isSome with ident | number
    · cases (number?_of_ident? ident).symm.trans found
    · exact number

theorem not_group (delimiter : Delimiter) (trees : List TokenTree) (position : Position) :
    ¬IsConstant (TokenTree.group delimiter trees position).render := by
  intro isConstant
  have found := isConstant.class?_isSome
  rw [TokenTree.render, String.append_assoc, String.toList_append] at found
  have opening (rest : List Char) : ident? (delimiter.opening.text.toList ++ rest) = none ∧
      number? (delimiter.opening.text.toList ++ rest) = none := by
    cases delimiter <;> exact ⟨ident?_of_not_beginsIdent _ rfl, number?_of_not_isDigit _ rfl⟩
  rw [(opening _).1, (opening _).2] at found
  simp at found

end IsConstant

/-! Words of the language -/

/-- Every word of a list is a word of the language. -/
def AllGenuine (words : List Word) : Prop := ∀ word ∈ words, word.IsGenuine

section AllGenuine

variable {words words' : List Word} {lists : List (List Word)} {separator : Punctuation}

@[simp] theorem allGenuine_nil : AllGenuine [] := List.forall_mem_nil _

@[simp] theorem allGenuine_cons {word : Word} : AllGenuine (word :: words) ↔ word.IsGenuine ∧ AllGenuine words :=
  List.forall_mem_cons

@[simp] theorem allGenuine_append : AllGenuine (words ++ words') ↔ AllGenuine words ∧ AllGenuine words' :=
  List.forall_mem_append

@[simp] theorem allGenuine_perhaps {written : Bool} {word : Word} :
    AllGenuine (perhaps written word) ↔ (written = true → word.IsGenuine) := by
  cases written <;> simp [perhaps]

theorem allGenuine_flatMap {value : Type} {values : List value} {wordsOf : value → List Word} :
    AllGenuine (values.flatMap wordsOf) ↔ ∀ each ∈ values, AllGenuine (wordsOf each) := by
  induction values with
  | nil => simp
  | cons first rest step => simp [step]

@[simp] theorem allGenuine_joined :
    AllGenuine (joined separator lists) ↔ ∀ words ∈ lists, AllGenuine words := by
  cases lists with
  | nil => simp [joined]
  | cons first rest => simp [joined, allGenuine_flatMap, isGenuine_mark]

attribute [simp] isGenuine_mark isGenuine_reserved

end AllGenuine

/-! The shape of types -/

mutual

/-- A type as its grammar begins it: every chain that is open at its end has one link. -/
inductive TypeExpr.IsHead : TypeExpr → Prop
  | path {segment : PathSegment} (ofSegment : PathSegment.IsHead segment) : TypeExpr.IsHead (.path [segment])
  | reference (life : Option String) (mutable : Bool) {target : TypeExpr} (ofTarget : TypeExpr.IsHead target) :
      TypeExpr.IsHead (.reference life mutable target)
  | pointer (mutable : Bool) {target : TypeExpr} (ofTarget : TypeExpr.IsHead target) : TypeExpr.IsHead (.pointer mutable target)
  | tuple {elements : List TypeExpr} (each : ∀ element ∈ elements, TypeExpr.IsMember .types element) : TypeExpr.IsHead (.tuple elements)
  | slice {element : TypeExpr} (ofElement : TypeExpr.IsMember .types element) : TypeExpr.IsHead (.slice element)
  | array {element : TypeExpr} (ofElement : TypeExpr.IsMember .types element) {length : String}
      (isConstant : IsConstant length) (trimmed : Text.trim length = length) : TypeExpr.IsHead (.array element length)
  | bounded (kind : BoundedKind) {bound : TypeExpr} (ofBound : TypeExpr.IsBoundHead bound) : TypeExpr.IsHead (.bounded kind [bound])
  | never : TypeExpr.IsHead .never

/-- A path segment as its grammar begins it. -/
inductive PathSegment.IsHead : PathSegment → Prop
  | plain (name : String) {arguments : List TypeExpr} (each : ∀ argument ∈ arguments, TypeExpr.IsMember .arguments argument) :
      PathSegment.IsHead (.plain name arguments)
  | call (name : String) {inputs : List TypeExpr} (each : ∀ input ∈ inputs, TypeExpr.IsMember .types input) :
      PathSegment.IsHead (.call name inputs none)
  | output (name : String) {inputs : List TypeExpr} (each : ∀ input ∈ inputs, TypeExpr.IsMember .types input) {output : TypeExpr}
      (ofOutput : TypeExpr.IsHead output) : PathSegment.IsHead (.call name inputs (some output))

/-- A bound as its grammar begins it. -/
inductive TypeExpr.IsBoundHead : TypeExpr → Prop
  | path {segment : PathSegment} (ofSegment : PathSegment.IsHead segment) : TypeExpr.IsBoundHead (.path [segment])
  | lifetime (name : String) : TypeExpr.IsBoundHead (.lifetime name)
  | maybe {segment : PathSegment} (ofSegment : PathSegment.IsHead segment) : TypeExpr.IsBoundHead (.maybe (.path [segment]))

/-- One more link of a chain as the grammar has it. -/
inductive Suffix.IsLink : Suffix → Prop
  | segment {segment : PathSegment} (ofSegment : PathSegment.IsHead segment) : Suffix.IsLink (.segment segment)
  | bound {bound : TypeExpr} (ofBound : TypeExpr.IsBoundHead bound) : Suffix.IsLink (.bound bound)

/-- A member of a list of types or of type arguments as the grammar has it. -/
inductive TypeExpr.IsMember : ListKind → TypeExpr → Prop
  | settled (kind : ListKind) {spine : Spine TypeExpr} (ofHead : TypeExpr.IsHead spine.head)
      (ofSuffixes : ∀ suffix ∈ spine.suffixes, Suffix.IsLink suffix)
      (same : spine.settle.words = spine.head.words ++ spine.suffixes.flatMap Suffix.words) : TypeExpr.IsMember kind spine.settle
  | lifetime (name : String) : TypeExpr.IsMember .arguments (.lifetime name)
  | binding (name : String) {value : TypeExpr} (ofValue : TypeExpr.IsMember .types value) : TypeExpr.IsMember .arguments (.binding name value)
  | number {text : String} (isNumber : constant text = Word.number text) : TypeExpr.IsMember .arguments (.const text)

end

namespace Part

/-- The words that a part is rendered with. -/
def words : (part : Part) → part.Meaning → List Word
  | type, spine => spine.head.words ++ spine.suffixes.flatMap Suffix.words
  | path, spine => spine.head.words ++ spine.suffixes.flatMap Suffix.words
  | bound, spine => spine.head.words ++ spine.suffixes.flatMap Suffix.words
  | segment, spine => spine.head.words ++ spine.suffixes.flatMap Suffix.words
  | item _, found => found.words
  | items _, types => joined .comma (types.map TypeExpr.words)
  | itemsBehind _, types => types.flatMap fun each => mark .comma :: each.words
  | links _, suffixes => suffixes.flatMap Suffix.words
  | tree, _ => []
  | trees, _ => []

/-- The types in a part are plain. -/
def IsPlain : (part : Part) → part.Meaning → Prop
  | type, spine => spine.head.IsPlain ∧ ∀ suffix ∈ spine.suffixes, suffix.IsPlain
  | path, spine => spine.head.IsPlain ∧ ∀ suffix ∈ spine.suffixes, suffix.IsPlain
  | bound, spine => spine.head.IsPlain ∧ ∀ suffix ∈ spine.suffixes, suffix.IsPlain
  | segment, spine => spine.head.IsPlain ∧ ∀ suffix ∈ spine.suffixes, suffix.IsPlain
  | item _, found => found.IsPlain
  | items _, types => ∀ each ∈ types, each.IsPlain
  | itemsBehind _, types => ∀ each ∈ types, each.IsPlain
  | links _, suffixes => ∀ suffix ∈ suffixes, suffix.IsPlain
  | tree, _ => True
  | trees, _ => True

/-- A part has the shape that the grammar gives to it. -/
def IsShaped : (part : Part) → part.Meaning → Prop
  | type, spine => spine.head.IsHead ∧ ∀ suffix ∈ spine.suffixes, suffix.IsLink
  | path, spine => (∃ segment, spine.head = .path [segment] ∧ segment.IsHead) ∧ ∀ suffix ∈ spine.suffixes, suffix.IsLink
  | bound, spine => spine.head.IsBoundHead ∧ ∀ suffix ∈ spine.suffixes, suffix.IsLink
  | segment, spine => spine.head.IsHead ∧ ∀ suffix ∈ spine.suffixes, suffix.IsLink
  | item kind, found => found.IsMember kind
  | items kind, types => ∀ each ∈ types, each.IsMember kind
  | itemsBehind kind, types => ∀ each ∈ types, each.IsMember kind
  | links _, suffixes => ∀ suffix ∈ suffixes, suffix.IsLink
  | tree, _ => True
  | trees, _ => True

end Part

namespace Writes

open Spine (IsSound)

/-- What writes a plain part is shaped by the grammar. -/
theorem shaped {part : Part} {words : List Word} {found : part.Meaning} (writes : Writes part words found)
    (plain : part.IsPlain found) : part.IsShaped found := by
  induction writes with
  | path _ step =>
    obtain ⟨⟨segment, isPath, ofSegment⟩, links⟩ := step plain
    exact ⟨isPath ▸ .path ofSegment, links⟩
  | reference life mutable _ step =>
    obtain ⟨ofTarget, links⟩ := step plain
    exact ⟨.reference life mutable ofTarget, links⟩
  | pointer mutable _ step =>
    obtain ⟨ofTarget, links⟩ := step plain
    exact ⟨.pointer mutable ofTarget, links⟩
  | tuple _ step => exact ⟨.tuple (step (TypeExpr.allPlain_iff.mp plain.1)), nofun⟩
  | slice _ step => exact ⟨.slice (step plain.1), nofun⟩
  | array _ _ ofElement => exact ⟨.array (ofElement plain.1.1) plain.1.2 (Text.trim_trim _), nofun⟩
  | bounded kind _ _ ofFirst ofRest =>
    obtain ⟨ofSuffixes, ofLinks⟩ := List.forall_mem_append.mp plain.2
    obtain ⟨ofBound, links⟩ := ofFirst ⟨plain.1.1, ofSuffixes⟩
    exact ⟨.bounded kind ofBound, List.forall_mem_append.mpr ⟨links, ofRest ofLinks⟩⟩
  | never => exact ⟨.never, nofun⟩
  | segments rooted _ _ ofFirst ofRest =>
    obtain ⟨ofSuffixes, ofLinks⟩ := List.forall_mem_append.mp plain.2
    obtain ⟨ofSegment, links⟩ := ofFirst ⟨plain.1.1, ofSuffixes⟩
    exact ⟨⟨_, rfl, ofSegment⟩, List.forall_mem_append.mpr ⟨links, ofRest ofLinks⟩⟩
  | plain name => exact ⟨.plain name nofun, nofun⟩
  | generic name separated _ step => exact ⟨.plain name (step (TypeExpr.allPlain_iff.mp plain.1)), nofun⟩
  | call name _ step => exact ⟨.call name (step (TypeExpr.allPlain_iff.mp plain.1.1)), nofun⟩
  | output name _ _ ofInputs ofOutput =>
    obtain ⟨ofType, links⟩ := ofOutput ⟨plain.1.2, plain.2⟩
    exact ⟨.output name (ofInputs (TypeExpr.allPlain_iff.mp plain.1.1)) ofType, links⟩
  | pathBound _ step =>
    obtain ⟨⟨segment, isPath, ofSegment⟩, links⟩ := step plain
    exact ⟨isPath ▸ .path ofSegment, links⟩
  | lifetimeBound name => exact ⟨.lifetime name, nofun⟩
  | @maybe _ spine _ step =>
    obtain ⟨⟨segment, isPath, ofSegment⟩, links⟩ := step plain
    refine ⟨?_, links⟩
    rw [Spine.map, isPath]
    exact .maybe ofSegment
  | grouped => exact plain.1.elim
  | settled kind ofType step =>
    have sound := ofType.sound
    obtain ⟨ofHead, links⟩ := step (IsSound.isPlain_settle sound |>.mp plain)
    exact .settled kind ofHead links sound.words_settle
  | lifetime name => exact .lifetime name
  | binding name _ step => exact .binding name (step plain)
  | number isNumber => exact .number isNumber
  | block position => exact (IsConstant.not_group _ _ _ plain).elim
  | noItems kind => exact nofun
  | someItems trailing _ _ ofFirst ofRest =>
    obtain ⟨plainFirst, plainRest⟩ := List.forall_mem_cons.mp plain
    exact List.forall_mem_cons.mpr ⟨ofFirst plainFirst, ofRest plainRest⟩
  | noItemsBehind kind => exact nofun
  | moreItems _ _ ofFirst ofRest =>
    obtain ⟨plainFirst, plainRest⟩ := List.forall_mem_cons.mp plain
    exact List.forall_mem_cons.mpr ⟨ofFirst plainFirst, ofRest plainRest⟩
  | noLinks kind => exact nofun
  | moreSegments _ _ ofFirst ofRest =>
    obtain ⟨ofSuffixes, ofLinks⟩ := List.forall_mem_append.mp plain
    obtain ⟨plainSegment, plainSuffixes⟩ := List.forall_mem_cons.mp ofSuffixes
    obtain ⟨ofSegment, links⟩ := ofFirst ⟨plainSegment, plainSuffixes⟩
    exact List.forall_mem_append.mpr ⟨List.forall_mem_cons.mpr ⟨.segment ofSegment, links⟩, ofRest ofLinks⟩
  | moreBounds _ _ ofFirst ofRest =>
    obtain ⟨ofSuffixes, ofLinks⟩ := List.forall_mem_append.mp plain
    obtain ⟨plainBound, plainSuffixes⟩ := List.forall_mem_cons.mp ofSuffixes
    obtain ⟨ofBound, links⟩ := ofFirst ⟨plainBound, plainSuffixes⟩
    exact List.forall_mem_append.mpr ⟨List.forall_mem_cons.mpr ⟨.bound ofBound, links⟩, ofRest ofLinks⟩
  | _ => trivial

/-- A plain part is rendered with words of the language if it was written with such. -/
theorem genuine {part : Part} {words : List Word} {found : part.Meaning} (writes : Writes part words found)
    (plain : part.IsPlain found) (genuine : AllGenuine words) : AllGenuine (part.words found) := by
  induction writes with
  | path _ step => exact step plain genuine
  | reference life mutable _ step =>
    have ofTarget := step plain (by simp_all)
    simp_all [Part.words, Spine.map, TypeExpr.words_reference]
  | pointer mutable _ step =>
    have ofTarget := step plain (by simp_all)
    simp_all [Part.words, Spine.map, TypeExpr.words, ofPointer]
  | tuple _ step =>
    have ofElements := step (TypeExpr.allPlain_iff.mp plain.1) (by simp_all)
    simp_all [Part.words, Spine.single, TypeExpr.words_tuple]
  | slice _ step =>
    have ofElement := step plain.1 (by simp_all)
    simp_all [Part.words, Spine.single, TypeExpr.words]
  | @array _ _ element tree trees _ _ ofElement =>
    generalize TokenTree.renderAll (tree :: trees) = length at plain
    have ofElement := ofElement plain.1.1 (by simp_all)
    have ofLength := IsConstant.isGenuine plain.1.2
    simp_all [Part.words, Spine.single, TypeExpr.words]
  | bounded kind _ _ ofFirst ofRest =>
    obtain ⟨ofSuffixes, ofLinks⟩ := List.forall_mem_append.mp plain.2
    have ofFirst := ofFirst ⟨plain.1.1, ofSuffixes⟩ (by simp_all)
    have ofRest := ofRest ofLinks (by simp_all)
    simp_all [Part.words, Spine.map, Spine.append, TypeExpr.words_bounded]
  | never => simp [Part.words, Spine.single, TypeExpr.words]
  | segments rooted _ _ ofFirst ofRest =>
    obtain ⟨ofSuffixes, ofLinks⟩ := List.forall_mem_append.mp plain.2
    have ofFirst := ofFirst ⟨plain.1.1, ofSuffixes⟩ (by simp_all)
    have ofRest := ofRest ofLinks (by simp_all)
    simp_all [Part.words, Spine.map, Spine.append, TypeExpr.words_path]
  | plain name => simpa [Part.words, Spine.single, PathSegment.words] using genuine
  | @generic name separated _ arguments _ step =>
    have ofArguments := step (TypeExpr.allPlain_iff.mp plain.1) (by simp_all)
    cases arguments with
    | nil => simp_all [Part.words, Spine.single, PathSegment.words]
    | cons first rest => simp_all [Part.words, Spine.single, PathSegment.words_plain]
  | call name _ step =>
    have ofInputs := step (TypeExpr.allPlain_iff.mp plain.1.1) (by simp_all)
    simp_all [Part.words, Spine.single, PathSegment.words_call, PathSegment.wordsOfOutput]
  | output name _ _ ofInputs ofOutput =>
    have ofInputs := ofInputs (TypeExpr.allPlain_iff.mp plain.1.1) (by simp_all)
    have ofOutput := ofOutput ⟨plain.1.2, plain.2⟩ (by simp_all)
    simp_all [Part.words, Spine.map, PathSegment.words_call, PathSegment.wordsOfOutput]
  | pathBound _ step => exact step plain genuine
  | lifetimeBound name => simpa [Part.words, Spine.single, TypeExpr.words] using genuine
  | maybe _ step =>
    have ofPath := step plain (by simp_all)
    simp_all [Part.words, Spine.map, TypeExpr.words]
  | grouped => exact plain.1.elim
  | settled kind ofType step =>
    have sound := ofType.sound
    have ofSpine := step (IsSound.isPlain_settle sound |>.mp plain) genuine
    rw [Part.words, IsSound.words_settle sound]
    exact ofSpine
  | lifetime name => exact genuine
  | binding name _ step =>
    have ofValue := step plain (by simp_all)
    simp_all [Part.words, TypeExpr.words]
  | number isNumber =>
    rw [Part.words, TypeExpr.words, isNumber]
    exact genuine
  | block position => exact (IsConstant.not_group _ _ _ plain).elim
  | noItems kind => exact allGenuine_nil
  | someItems trailing _ _ ofFirst ofRest =>
    obtain ⟨plainFirst, plainRest⟩ := List.forall_mem_cons.mp plain
    have ofFirst := ofFirst plainFirst (by simp_all)
    have ofRest := ofRest plainRest (by simp_all)
    simp_all [Part.words, allGenuine_flatMap]
  | noItemsBehind kind => exact allGenuine_nil
  | moreItems _ _ ofFirst ofRest =>
    obtain ⟨plainFirst, plainRest⟩ := List.forall_mem_cons.mp plain
    have ofFirst := ofFirst plainFirst (by simp_all)
    have ofRest := ofRest plainRest (by simp_all)
    simp_all [Part.words]
  | noLinks kind => exact allGenuine_nil
  | moreSegments _ _ ofFirst ofRest =>
    obtain ⟨ofSuffixes, ofLinks⟩ := List.forall_mem_append.mp plain
    obtain ⟨plainSegment, plainSuffixes⟩ := List.forall_mem_cons.mp ofSuffixes
    have ofFirst := ofFirst ⟨plainSegment, plainSuffixes⟩ (by simp_all)
    have ofRest := ofRest ofLinks (by simp_all)
    simp_all [Part.words, Spine.toSuffixes, Suffix.words]
  | moreBounds _ _ ofFirst ofRest =>
    obtain ⟨ofSuffixes, ofLinks⟩ := List.forall_mem_append.mp plain
    obtain ⟨plainBound, plainSuffixes⟩ := List.forall_mem_cons.mp ofSuffixes
    have ofFirst := ofFirst ⟨plainBound, plainSuffixes⟩ (by simp_all)
    have ofRest := ofRest ofLinks (by simp_all)
    simp_all [Part.words, Spine.toSuffixes, Suffix.words]
  | _ => exact allGenuine_nil

end Writes

end Exposure
