import Exposure.Proofs.Loose

/-!
The texts of types are loose: their names are made of name characters, their constants are single words or numbers, and
no lifetime is left in them.
-/

namespace Exposure

/-- A text is one identifier or one number. -/
def IsConstant (text : String) : Prop :=
  Lexeme.first? text.toList = some (some .ident, text.length) ∨
    Lexeme.first? text.toList = some (some .number, text.length)

instance (text : String) : Decidable (IsConstant text) := inferInstanceAs (Decidable (_ ∨ _))

/-- A text is loose wherever it stands. -/
def IsLoose (text : String) : Prop := Loose false text.toList

/-- A text is loose behind a blank or an opening bracket. -/
def IsValue (text : String) : Prop := Loose true text.toList

namespace IsLoose

open Lexeme

theorem isValue {text : String} (loose : IsLoose text) : IsValue text := Loose.weaken loose

theorem ofPlain {text : String} (plain : text.toList.all isPlain = true) : IsLoose text :=
  Loose.ofPlain (List.all_eq_true.mp plain)

theorem ofName {text : String} (isName : IsName text) : IsLoose text :=
  Loose.ofPlain fun char inText => isPlain_of_isNameChar (isName char inText)

theorem ofConstant {text : String} (isConstant : IsConstant text) : IsLoose text := by
  have whole : text.toList.take text.length = text.toList :=
    List.take_of_length_le (Nat.le_of_eq text.length_toList)
  rw [IsLoose, ← whole]
  refine Loose.ofPlain (mem_of_le_run ?_)
  rcases isConstant with ident | number
  · refine Nat.le_trans (ident?_le_run ((first?_word ident).1 rfl)).2 ?_
    exact run_le_run (fun _ ofName => isPlain_of_isNameChar ofName) _
  · exact (number?_le_run ((first?_word number).2 rfl)).2

theorem append {one two : String} (ofOne : IsLoose one) (ofTwo : IsLoose two) : IsLoose (one ++ two) := by
  rw [IsLoose, String.toList_append]
  exact Loose.append ofOne ofTwo

theorem intercalate {separator : String} (ofSeparator : IsLoose separator) {texts : List String}
    (each : ∀ text ∈ texts, IsLoose text) : IsLoose (separator.intercalate texts) := by
  induction texts with
  | nil => exact .nil
  | cons first rest step =>
    obtain ⟨ofFirst, ofRest⟩ := List.forall_mem_cons.mp each
    cases rest with
    | nil =>
      rw [String.intercalate_singleton]
      exact ofFirst
    | cons second others =>
      rw [String.intercalate_cons_cons]
      exact (ofFirst.append ofSeparator).append (step ofRest)

theorem within (delimiter : Delimiter) {text : String} (value : IsValue text) :
    IsLoose (delimiter.opening.text ++ text ++ delimiter.closing.text) := by
  have grouped : Loose false (delimiter.opening.text.toList ++ (text.toList ++ (delimiter.closing.text.toList ++ []))) :=
    .group delimiter value .nil
  rwa [List.append_nil, ← String.toList_append, ← String.toList_append, ← String.append_assoc] at grouped

end IsLoose

/-! Constants -/

mutual

/-- The array lengths and the constant arguments in a type. -/
def TypeExpr.constants : TypeExpr → List String
  | .path segments => PathSegment.constantsOfAll segments
  | .reference _ _ target => target.constants
  | .pointer _ target => target.constants
  | .tuple elements => TypeExpr.constantsOfAll elements
  | .slice element => element.constants
  | .array element length => length :: element.constants
  | .bounded _ bounds => TypeExpr.constantsOfAll bounds
  | .never => []
  | .lifetime _ => []
  | .binding _ value => value.constants
  | .const text => [text]
  | .maybe bound => bound.constants
  | .grouped bound => bound.constants

/-- The constants in some types. -/
def TypeExpr.constantsOfAll : List TypeExpr → List String
  | [] => []
  | first :: rest => first.constants ++ TypeExpr.constantsOfAll rest

/-- The constants in a path segment. -/
def PathSegment.constants : PathSegment → List String
  | .plain _ arguments => TypeExpr.constantsOfAll arguments
  | .call _ inputs output => TypeExpr.constantsOfAll inputs ++ PathSegment.constantsOfOutput output

/-- The constants in the output of a call. -/
def PathSegment.constantsOfOutput : Option TypeExpr → List String
  | none => []
  | some output => output.constants

/-- The constants in some path segments. -/
def PathSegment.constantsOfAll : List PathSegment → List String
  | [] => []
  | first :: rest => first.constants ++ PathSegment.constantsOfAll rest

end

/-! Types of loose texts -/

mutual

/-- The names and constants in a type are loose, and it has no lifetimes. -/
def TypeExpr.IsWorded : TypeExpr → Prop
  | .path segments => PathSegment.AllWorded segments
  | .reference life _ target => life = none ∧ target.IsWorded
  | .pointer _ target => target.IsWorded
  | .tuple elements => TypeExpr.AllWorded elements
  | .slice element => element.IsWorded
  | .array element length => element.IsWorded ∧ IsLoose length
  | .bounded _ bounds => TypeExpr.AllWorded bounds
  | .never => True
  | .lifetime _ => False
  | .binding name value => IsLoose name ∧ value.IsWorded
  | .const text => IsLoose text
  | .maybe bound => bound.IsWorded
  | .grouped bound => bound.IsWorded

/-- Every type of a list is worded. -/
def TypeExpr.AllWorded : List TypeExpr → Prop
  | [] => True
  | first :: rest => first.IsWorded ∧ TypeExpr.AllWorded rest

/-- The names and constants in a path segment are loose. -/
def PathSegment.IsWorded : PathSegment → Prop
  | .plain name arguments => IsLoose name ∧ TypeExpr.AllWorded arguments
  | .call name inputs output => IsLoose name ∧ TypeExpr.AllWorded inputs ∧ PathSegment.OutputWorded output

/-- The output of a call is worded if there is one. -/
def PathSegment.OutputWorded : Option TypeExpr → Prop
  | none => True
  | some output => output.IsWorded

/-- Every segment of a list is worded. -/
def PathSegment.AllWorded : List PathSegment → Prop
  | [] => True
  | first :: rest => first.IsWorded ∧ PathSegment.AllWorded rest

end

namespace TypeExpr

/-! Writing -/

mutual

theorem render_isLoose : (type : TypeExpr) → type.IsWorded → IsLoose type.render
  | path segments, worded => by
    rw [render]
    exact .intercalate (.ofPlain rfl) (renderSegments_isLoose segments worded)
  | reference life mutable target, worded => by
    obtain ⟨rfl, ofTarget⟩ := worded
    have ofTarget := render_isLoose target ofTarget
    cases mutable <;> exact ((IsLoose.ofPlain rfl).append (.ofPlain rfl)).append ofTarget
  | pointer mutable target, worded => by
    have ofTarget := render_isLoose target worded
    cases mutable <;> exact (IsLoose.ofPlain rfl).append ofTarget
  | tuple elements, worded => by
    have ofElements := renderAll_isLoose elements worded
    have inside := IsLoose.intercalate (.ofPlain rfl : IsLoose ", ") ofElements
    have grouped {comma : String} (ofComma : IsLoose comma) :
        IsLoose ("(" ++ ", ".intercalate (renderAll elements) ++ comma ++ ")") := by
      have whole := IsLoose.within .paren (inside.append ofComma).isValue
      rwa [← String.append_assoc] at whole
    rcases elements with _ | ⟨first, _ | ⟨second, rest⟩⟩
    · exact grouped (.ofPlain rfl : IsLoose "")
    · exact grouped (.ofPlain rfl : IsLoose ",")
    · exact grouped (.ofPlain rfl : IsLoose "")
  | slice element, worded => .within .bracket (render_isLoose element worded).isValue
  | array element length, worded => by
    have ofElement := render_isLoose element worded.1
    have grouped := IsLoose.within .bracket
      ((ofElement.append (.ofPlain rfl : IsLoose "; ")).append worded.2).isValue
    rw [render]
    rwa [← String.append_assoc, ← String.append_assoc] at grouped
  | bounded kind bounds, worded => by
    rw [render]
    have ofBounds := renderAll_isLoose bounds worded
    have ofKind : IsLoose kind.text := .ofPlain (by cases kind <;> rfl)
    exact (ofKind.append (.ofPlain rfl)).append (.intercalate (.ofPlain rfl) ofBounds)
  | never, _ => .ofPlain rfl
  | lifetime _, worded => worded.elim
  | binding name value, worded =>
    (worded.1.append (.ofPlain rfl)).append (render_isLoose value worded.2)
  | const _, worded => worded
  | maybe bound, worded => (IsLoose.ofPlain rfl).append (render_isLoose bound worded)
  | grouped bound, worded => render_isLoose bound worded

theorem renderAll_isLoose : (types : List TypeExpr) → AllWorded types → ∀ text ∈ renderAll types, IsLoose text
  | [], _ => nofun
  | first :: rest, worded =>
    List.forall_mem_cons.mpr ⟨render_isLoose first worded.1, renderAll_isLoose rest worded.2⟩

theorem renderSegment_isLoose : (segment : PathSegment) → segment.IsWorded → IsLoose (renderSegment segment)
  | .plain name [], worded => worded.1
  | .plain name (first :: rest), worded => by
    have ofArguments := renderAll_isLoose (first :: rest) worded.2
    have inside := IsLoose.intercalate (.ofPlain rfl : IsLoose ", ") ofArguments
    exact ((worded.1.append (.ofPlain rfl)).append inside).append (.ofPlain rfl)
  | .call name inputs output, worded => by
    have ofInputs := renderAll_isLoose inputs worded.2.1
    have ofOutput := renderOutput_isLoose output worded.2.2
    have inside := IsLoose.intercalate (.ofPlain rfl : IsLoose ", ") ofInputs
    have grouped := IsLoose.within .paren inside.isValue
    have whole := (worded.1.append grouped).append ofOutput
    rw [renderSegment]
    rwa [← String.append_assoc, ← String.append_assoc] at whole

theorem renderOutput_isLoose : (output : Option TypeExpr) → PathSegment.OutputWorded output →
    IsLoose (renderOutput output)
  | none, _ => .nil
  | some output, worded => (IsLoose.ofPlain rfl).append (render_isLoose output worded)

theorem renderSegments_isLoose : (segments : List PathSegment) → PathSegment.AllWorded segments →
    ∀ text ∈ renderSegments segments, IsLoose text
  | [], _ => nofun
  | first :: rest, worded =>
    List.forall_mem_cons.mpr ⟨renderSegment_isLoose first worded.1, renderSegments_isLoose rest worded.2⟩

end

/-! Lifetimes and the surrounding type -/

/-- A segment of a proper path is proper, and its constants are constants of the path. -/
theorem segment_of_path {segment : PathSegment} {segments : List PathSegment} (member : segment ∈ segments)
    (proper : PathSegment.AllProper segments) :
    segment.IsProper ∧ ∀ text ∈ segment.constants, text ∈ PathSegment.constantsOfAll segments := by
  induction segments with
  | nil => cases member
  | cons first rest step =>
    rcases List.mem_cons.mp member with rfl | member
    · exact ⟨proper.1, fun text inSegment => List.mem_append_left _ inSegment⟩
    · obtain ⟨ofSegment, inRest⟩ := step member proper.2
      exact ⟨ofSegment, fun text inSegment => List.mem_append_right _ (inRest text inSegment)⟩

/-- The constants of a list are those of its members. -/
theorem constantsOfAll_eq (types : List TypeExpr) : constantsOfAll types = types.flatMap constants := by
  induction types with
  | nil => rfl
  | cons first rest step => rw [constantsOfAll, step, List.flatMap_cons]

mutual

/-- Without its lifetimes a proper type of loose constants is worded. -/
theorem stripLifetimes_isWorded : (type : TypeExpr) → type.IsProper → (∀ text ∈ type.constants, IsConstant text) →
    type.stripLifetimes.IsWorded
  | path segments, proper, each => stripSegments_allWorded segments proper each
  | reference _ _ target, proper, each => ⟨rfl, stripLifetimes_isWorded target proper each⟩
  | pointer _ target, proper, each => stripLifetimes_isWorded target proper each
  | tuple elements, proper, each => stripAll_allWorded elements proper each
  | slice element, proper, each => stripLifetimes_isWorded element proper each
  | array element _, proper, each =>
    have ofConstants := List.forall_mem_cons.mp each
    ⟨stripLifetimes_isWorded element proper ofConstants.2, .ofConstant ofConstants.1⟩
  | bounded _ bounds, proper, each => stripAll_allWorded bounds proper each
  | never, _, _ => trivial
  | lifetime _, proper, _ => proper.elim
  | binding _ value, proper, each => ⟨.ofName proper.1, stripLifetimes_isWorded value proper.2 each⟩
  | const text, _, each => .ofConstant (each text List.mem_cons_self)
  | maybe bound, proper, each => stripLifetimes_isWorded bound proper each
  | grouped bound, proper, each => stripLifetimes_isWorded bound proper each

theorem stripAll_allWorded : (types : List TypeExpr) → AllProper types →
    (∀ text ∈ constantsOfAll types, IsConstant text) → AllWorded (stripAll types)
  | [], _, _ => trivial
  | first :: rest, proper, each => by
    have ofConstants := List.forall_mem_append.mp each
    have ofRest := stripAll_allWorded rest proper.2 ofConstants.2
    rw [stripAll]
    split
    · exact ofRest
    · rename_i noLifetime
      exact ⟨stripLifetimes_isWorded first (proper.1.resolve_left noLifetime) ofConstants.1, ofRest⟩

theorem stripSegment_isWorded : (segment : PathSegment) → segment.IsProper →
    (∀ text ∈ segment.constants, IsConstant text) → (stripSegment segment).IsWorded
  | .plain _ arguments, proper, each => ⟨.ofName proper.1, stripAll_allWorded arguments proper.2 each⟩
  | .call _ inputs output, proper, each =>
    have ofConstants := List.forall_mem_append.mp each
    ⟨.ofName proper.1, stripAll_allWorded inputs proper.2.1 ofConstants.1,
      stripOutput_outputWorded output proper.2.2 ofConstants.2⟩

theorem stripOutput_outputWorded : (output : Option TypeExpr) → PathSegment.OutputProper output →
    (∀ text ∈ PathSegment.constantsOfOutput output, IsConstant text) → PathSegment.OutputWorded (stripOutput output)
  | none, _, _ => trivial
  | some output, proper, each => stripLifetimes_isWorded output proper each

theorem stripSegments_allWorded : (segments : List PathSegment) → PathSegment.AllProper segments →
    (∀ text ∈ PathSegment.constantsOfAll segments, IsConstant text) → PathSegment.AllWorded (stripSegments segments)
  | [], _, _ => trivial
  | first :: rest, proper, each =>
    have ofConstants := List.forall_mem_append.mp each
    ⟨stripSegment_isWorded first proper.1 ofConstants.1, stripSegments_allWorded rest proper.2 ofConstants.2⟩

end

variable {owner : String}

mutual

/-- A loose name may stand for the surrounding type. -/
theorem replaceSelf_isWorded (ofOwner : IsLoose owner) : (type : TypeExpr) → type.IsWorded →
    (type.replaceSelf owner).IsWorded
  | path segments, worded => by
    rw [replaceSelf]
    split
    · exact ⟨⟨ofOwner, trivial⟩, trivial⟩
    · exact replaceSegments_allWorded ofOwner segments worded
  | reference _ _ target, worded => ⟨worded.1, replaceSelf_isWorded ofOwner target worded.2⟩
  | pointer _ target, worded => replaceSelf_isWorded ofOwner target worded
  | tuple elements, worded => replaceAll_allWorded ofOwner elements worded
  | slice element, worded => replaceSelf_isWorded ofOwner element worded
  | array element _, worded => ⟨replaceSelf_isWorded ofOwner element worded.1, worded.2⟩
  | bounded _ bounds, worded => replaceAll_allWorded ofOwner bounds worded
  | never, _ => trivial
  | lifetime _, worded => worded
  | binding _ value, worded => ⟨worded.1, replaceSelf_isWorded ofOwner value worded.2⟩
  | const _, worded => worded
  | maybe bound, worded => replaceSelf_isWorded ofOwner bound worded
  | grouped bound, worded => replaceSelf_isWorded ofOwner bound worded

theorem replaceAll_allWorded (ofOwner : IsLoose owner) : (types : List TypeExpr) → AllWorded types →
    AllWorded (replaceAll owner types)
  | [], _ => trivial
  | first :: rest, worded =>
    ⟨replaceSelf_isWorded ofOwner first worded.1, replaceAll_allWorded ofOwner rest worded.2⟩

theorem replaceSegment_isWorded (ofOwner : IsLoose owner) : (segment : PathSegment) → segment.IsWorded →
    (replaceSegment owner segment).IsWorded
  | .plain _ arguments, worded => ⟨worded.1, replaceAll_allWorded ofOwner arguments worded.2⟩
  | .call _ inputs output, worded =>
    ⟨worded.1, replaceAll_allWorded ofOwner inputs worded.2.1, replaceOutput_outputWorded ofOwner output worded.2.2⟩

theorem replaceOutput_outputWorded (ofOwner : IsLoose owner) : (output : Option TypeExpr) →
    PathSegment.OutputWorded output → PathSegment.OutputWorded (replaceOutput owner output)
  | none, _ => trivial
  | some output, worded => replaceSelf_isWorded ofOwner output worded

theorem replaceSegments_allWorded (ofOwner : IsLoose owner) : (segments : List PathSegment) →
    PathSegment.AllWorded segments → PathSegment.AllWorded (replaceSegments owner segments)
  | [], _ => trivial
  | first :: rest, worded =>
    ⟨replaceSegment_isWorded ofOwner first worded.1, replaceSegments_allWorded ofOwner rest worded.2⟩

end

/-! Signatures -/

/-- A proper type whose constants are single words or numbers. -/
structure IsWritable (type : TypeExpr) : Prop where
  proper : type.IsProper
  constants : ∀ text ∈ type.constants, IsConstant text

/-- The text of a writable type is loose, whatever loose name its surrounding type has. -/
theorem signature_isLoose {type : TypeExpr} (writable : type.IsWritable) {owner : Option String}
    (ofOwner : ∀ name ∈ owner, IsLoose name) : IsLoose (type.signature owner) := by
  have worded := stripLifetimes_isWorded type writable.proper writable.constants
  unfold signature
  cases owner with
  | none => exact render_isLoose _ worded
  | some name =>
    simp only
    split
    · exact render_isLoose _ worded
    · exact render_isLoose _ (replaceSelf_isWorded (ofOwner name rfl) _ worded)

theorem isWritable_of_mem_lastArguments {type argument : TypeExpr} (writable : type.IsWritable)
    (member : argument ∈ type.lastArguments) (noLifetime : argument.isLifetime = false) : argument.IsWritable := by
  obtain ⟨proper, each⟩ := writable
  unfold lastArguments lastSegment? at member
  split at member
  · rename_i segments
    cases found : segments.getLast? with
    | none => simp [found] at member
    | some segment =>
      simp only [found, Option.map_some, Option.getD_some] at member
      have ofSegment := segment_of_path (List.mem_of_getLast? found) proper
      cases segment with
      | plain name arguments =>
        refine ⟨(allProper_iff.mp ofSegment.1.2 argument member).resolve_left (by simp [noLifetime]), ?_⟩
        intro text inArgument
        refine each text (ofSegment.2 text ?_)
        rw [PathSegment.constants, constantsOfAll_eq]
        exact List.mem_flatMap.mpr ⟨argument, member, inArgument⟩
      | call name inputs output => cases member
  · cases member

/-- What a result type stands for is writable. -/
theorem unwrapResult_isWritable {type : TypeExpr} (writable : type.IsWritable) : type.unwrapResult.IsWritable := by
  unfold unwrapResult
  split
  · cases found : (type.lastArguments.filter (!·.isLifetime)).head? with
    | none => exact writable
    | some inner =>
      have member := List.mem_of_head? found
      rw [List.mem_filter, Bool.not_eq_true'] at member
      exact isWritable_of_mem_lastArguments writable member.1 member.2
  · exact writable

end TypeExpr

end Exposure
