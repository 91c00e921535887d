import Exposure.Proofs.Rereading

/-!
# Types without lifetimes

A lifetime stands among type arguments, among bounds, or behind the ampersand of a reference. Stripping drops those and
nothing else, at any depth, so that types that are alike but for lifetimes are stripped to the same type and have the same
signature.
-/

namespace Exposure

mutual

/-- Nothing in a type is a lifetime. -/
def TypeExpr.IsTimeless : TypeExpr → Prop
  | .path segments => PathSegment.AllTimeless segments
  | .reference life _ target => life = none ∧ target.IsTimeless
  | .pointer _ target => target.IsTimeless
  | .tuple elements => TypeExpr.AllTimeless elements
  | .slice element => element.IsTimeless
  | .array element _ => element.IsTimeless
  | .bounded _ bounds => TypeExpr.AllTimeless bounds
  | .never => True
  | .lifetime _ => False
  | .binding _ value => value.IsTimeless
  | .const _ => True
  | .maybe bound => bound.IsTimeless
  | .grouped bound => bound.IsTimeless

/-- Nothing in a list of types is a lifetime. -/
def TypeExpr.AllTimeless : List TypeExpr → Prop
  | [] => True
  | first :: rest => first.IsTimeless ∧ TypeExpr.AllTimeless rest

/-- Nothing in a path segment is a lifetime. -/
def PathSegment.IsTimeless : PathSegment → Prop
  | .plain _ arguments => TypeExpr.AllTimeless arguments
  | .call _ inputs output => TypeExpr.AllTimeless inputs ∧ PathSegment.OutputTimeless output

/-- Nothing in the output of a call is a lifetime. -/
def PathSegment.OutputTimeless : Option TypeExpr → Prop
  | none => True
  | some output => output.IsTimeless

/-- Nothing in some path segments is a lifetime. -/
def PathSegment.AllTimeless : List PathSegment → Prop
  | [] => True
  | first :: rest => first.IsTimeless ∧ PathSegment.AllTimeless rest

end

mutual

/-- Two types are alike but for lifetimes: a reference may have another lifetime or none, and either type may have lifetimes
anywhere in a list. -/
inductive TypeExpr.Resembles : TypeExpr → TypeExpr → Prop
  | path {segments others : List PathSegment} (each : PathSegment.AllResemble segments others) :
    TypeExpr.Resembles (.path segments) (.path others)
  | reference {life otherLife : Option String} {mutable : Bool} {target other : TypeExpr}
    (inner : target.Resembles other) : TypeExpr.Resembles (.reference life mutable target) (.reference otherLife mutable other)
  | pointer {mutable : Bool} {target other : TypeExpr} (inner : target.Resembles other) :
    TypeExpr.Resembles (.pointer mutable target) (.pointer mutable other)
  | tuple {elements others : List TypeExpr} (each : TypeExpr.AllResemble elements others) :
    TypeExpr.Resembles (.tuple elements) (.tuple others)
  | slice {element other : TypeExpr} (inner : element.Resembles other) : TypeExpr.Resembles (.slice element) (.slice other)
  | array {element other : TypeExpr} {length : String} (inner : element.Resembles other) :
    TypeExpr.Resembles (.array element length) (.array other length)
  | bounded {kind : BoundedKind} {bounds others : List TypeExpr} (each : TypeExpr.AllResemble bounds others) :
    TypeExpr.Resembles (.bounded kind bounds) (.bounded kind others)
  | never : TypeExpr.Resembles .never .never
  | binding {name : String} {value other : TypeExpr} (inner : value.Resembles other) :
    TypeExpr.Resembles (.binding name value) (.binding name other)
  | const {text : String} : TypeExpr.Resembles (.const text) (.const text)
  | maybe {bound other : TypeExpr} (inner : bound.Resembles other) : TypeExpr.Resembles (.maybe bound) (.maybe other)
  | grouped {bound other : TypeExpr} (inner : bound.Resembles other) : TypeExpr.Resembles (.grouped bound) (.grouped other)

/-- Two lists of types are alike but for lifetimes. -/
inductive TypeExpr.AllResemble : List TypeExpr → List TypeExpr → Prop
  | nil : TypeExpr.AllResemble [] []
  | cons {first other : TypeExpr} {rest others : List TypeExpr} (inner : first.Resembles other)
    (each : TypeExpr.AllResemble rest others) : TypeExpr.AllResemble (first :: rest) (other :: others)
  | left (name : String) {rest others : List TypeExpr} (each : TypeExpr.AllResemble rest others) :
    TypeExpr.AllResemble (.lifetime name :: rest) others
  | right (name : String) {rest others : List TypeExpr} (each : TypeExpr.AllResemble rest others) :
    TypeExpr.AllResemble rest (.lifetime name :: others)

/-- Two path segments are alike but for lifetimes. -/
inductive PathSegment.Resembles : PathSegment → PathSegment → Prop
  | plain {name : String} {arguments others : List TypeExpr} (each : TypeExpr.AllResemble arguments others) :
    PathSegment.Resembles (.plain name arguments) (.plain name others)
  | call {name : String} {inputs others : List TypeExpr} {output otherOutput : Option TypeExpr}
    (each : TypeExpr.AllResemble inputs others) (ofOutput : PathSegment.OutputResembles output otherOutput) :
    PathSegment.Resembles (.call name inputs output) (.call name others otherOutput)

/-- The outputs of two calls are alike but for lifetimes. -/
inductive PathSegment.OutputResembles : Option TypeExpr → Option TypeExpr → Prop
  | none : PathSegment.OutputResembles none none
  | some {output other : TypeExpr} (inner : output.Resembles other) : PathSegment.OutputResembles (some output) (some other)

/-- Two lists of path segments are alike but for lifetimes. -/
inductive PathSegment.AllResemble : List PathSegment → List PathSegment → Prop
  | nil : PathSegment.AllResemble [] []
  | cons {first other : PathSegment} {rest others : List PathSegment} (inner : first.Resembles other)
    (each : PathSegment.AllResemble rest others) : PathSegment.AllResemble (first :: rest) (other :: others)

end

namespace TypeExpr

/-! What stripping leaves -/

mutual

theorem stripLifetimes_isTimeless : (type : TypeExpr) → type.IsProper → type.stripLifetimes.IsTimeless
  | path segments, proper => stripSegments_allTimeless segments proper
  | reference _ _ target, proper => ⟨rfl, stripLifetimes_isTimeless target proper⟩
  | pointer _ target, proper => stripLifetimes_isTimeless target proper
  | tuple elements, proper => stripAll_allTimeless elements proper
  | slice element, proper => stripLifetimes_isTimeless element proper
  | array element _, proper => stripLifetimes_isTimeless element proper
  | bounded _ bounds, proper => stripAll_allTimeless bounds proper
  | never, _ => trivial
  | lifetime _, proper => proper.elim
  | binding _ value, proper => stripLifetimes_isTimeless value proper.2
  | const _, _ => trivial
  | maybe bound, proper => stripLifetimes_isTimeless bound proper
  | grouped bound, proper => stripLifetimes_isTimeless bound proper

theorem stripAll_allTimeless : (types : List TypeExpr) → AllProper types → AllTimeless (stripAll types)
  | [], _ => trivial
  | first :: rest, proper => by
    have ofRest := stripAll_allTimeless rest proper.2
    rw [stripAll]
    split
    case isTrue => exact ofRest
    case isFalse noLifetime => exact ⟨stripLifetimes_isTimeless first (proper.1.resolve_left noLifetime), ofRest⟩

theorem stripSegment_isTimeless : (segment : PathSegment) → segment.IsProper → (stripSegment segment).IsTimeless
  | .plain _ arguments, proper => stripAll_allTimeless arguments proper.2
  | .call _ inputs output, proper =>
    ⟨stripAll_allTimeless inputs proper.2.1, stripOutput_outputTimeless output proper.2.2⟩

theorem stripOutput_outputTimeless : (output : Option TypeExpr) → PathSegment.OutputProper output →
    PathSegment.OutputTimeless (stripOutput output)
  | none, _ => trivial
  | some output, proper => stripLifetimes_isTimeless output proper

theorem stripSegments_allTimeless : (segments : List PathSegment) → PathSegment.AllProper segments →
    PathSegment.AllTimeless (stripSegments segments)
  | [], _ => trivial
  | first :: rest, proper => ⟨stripSegment_isTimeless first proper.1, stripSegments_allTimeless rest proper.2⟩

end

mutual

theorem stripLifetimes_isProper : (type : TypeExpr) → type.IsProper → type.stripLifetimes.IsProper
  | path segments, proper => stripSegments_allProper segments proper
  | reference _ _ target, proper => stripLifetimes_isProper target proper
  | pointer _ target, proper => stripLifetimes_isProper target proper
  | tuple elements, proper => stripAll_allProper elements proper
  | slice element, proper => stripLifetimes_isProper element proper
  | array element _, proper => stripLifetimes_isProper element proper
  | bounded _ bounds, proper => stripAll_allProper bounds proper
  | never, _ => trivial
  | lifetime _, proper => proper.elim
  | binding _ value, proper => ⟨proper.1, stripLifetimes_isProper value proper.2⟩
  | const _, _ => trivial
  | maybe bound, proper => stripLifetimes_isProper bound proper
  | grouped bound, proper => stripLifetimes_isProper bound proper

theorem stripAll_allProper : (types : List TypeExpr) → AllProper types → AllProper (stripAll types)
  | [], _ => trivial
  | first :: rest, proper => by
    have ofRest := stripAll_allProper rest proper.2
    rw [stripAll]
    split
    case isTrue => exact ofRest
    case isFalse noLifetime => exact ⟨.inr (stripLifetimes_isProper first (proper.1.resolve_left noLifetime)), ofRest⟩

theorem stripSegment_isProper : (segment : PathSegment) → segment.IsProper → (stripSegment segment).IsProper
  | .plain _ arguments, proper => ⟨proper.1, stripAll_allProper arguments proper.2⟩
  | .call _ inputs output, proper =>
    ⟨proper.1, stripAll_allProper inputs proper.2.1, stripOutput_outputProper output proper.2.2⟩

theorem stripOutput_outputProper : (output : Option TypeExpr) → PathSegment.OutputProper output →
    PathSegment.OutputProper (stripOutput output)
  | none, _ => trivial
  | some output, proper => stripLifetimes_isProper output proper

theorem stripSegments_allProper : (segments : List PathSegment) → PathSegment.AllProper segments →
    PathSegment.AllProper (stripSegments segments)
  | [], _ => trivial
  | first :: rest, proper => ⟨stripSegment_isProper first proper.1, stripSegments_allProper rest proper.2⟩

end

theorem isLifetime_stripLifetimes (type : TypeExpr) : type.stripLifetimes.isLifetime = type.isLifetime := by
  cases type <;> rfl

mutual

/-- Nothing is left to strip. -/
theorem stripLifetimes_idem : (type : TypeExpr) → type.stripLifetimes.stripLifetimes = type.stripLifetimes
  | path segments => congrArg path (stripSegments_idem segments)
  | reference _ mutable target => congrArg (reference none mutable) (stripLifetimes_idem target)
  | pointer mutable target => congrArg (pointer mutable) (stripLifetimes_idem target)
  | tuple elements => congrArg tuple (stripAll_idem elements)
  | slice element => congrArg slice (stripLifetimes_idem element)
  | array element length => congrArg (array · length) (stripLifetimes_idem element)
  | bounded kind bounds => congrArg (bounded kind) (stripAll_idem bounds)
  | never => rfl
  | lifetime _ => rfl
  | binding name value => congrArg (binding name) (stripLifetimes_idem value)
  | const _ => rfl
  | maybe bound => congrArg maybe (stripLifetimes_idem bound)
  | grouped bound => congrArg grouped (stripLifetimes_idem bound)

theorem stripAll_idem : (types : List TypeExpr) → stripAll (stripAll types) = stripAll types
  | [] => rfl
  | first :: rest => by
    have ofRest := stripAll_idem rest
    rw [stripAll]
    split
    case isTrue => exact ofRest
    case isFalse noLifetime =>
      rw [stripAll, isLifetime_stripLifetimes, if_neg noLifetime, ofRest, stripLifetimes_idem first]

theorem stripSegment_idem : (segment : PathSegment) → stripSegment (stripSegment segment) = stripSegment segment
  | .plain name arguments => congrArg (PathSegment.plain name) (stripAll_idem arguments)
  | .call name inputs output => congrArg₂ (PathSegment.call name) (stripAll_idem inputs) (stripOutput_idem output)

theorem stripOutput_idem : (output : Option TypeExpr) → stripOutput (stripOutput output) = stripOutput output
  | none => rfl
  | some output => congrArg some (stripLifetimes_idem output)

theorem stripSegments_idem : (segments : List PathSegment) →
    stripSegments (stripSegments segments) = stripSegments segments
  | [] => rfl
  | first :: rest => congrArg₂ List.cons (stripSegment_idem first) (stripSegments_idem rest)

end

end TypeExpr

/-! Likeness -/

open TypeExpr

/-- A type that is like another is no lifetime. -/
theorem TypeExpr.Resembles.noLifetime {type other : TypeExpr} (resembles : type.Resembles other) :
    type.isLifetime = false ∧ other.isLifetime = false := by
  cases resembles <;> exact ⟨rfl, rfl⟩

mutual

/-- Types that are alike but for lifetimes are stripped to the same type. -/
theorem TypeExpr.Resembles.stripLifetimes_eq {type other : TypeExpr} :
    type.Resembles other → type.stripLifetimes = other.stripLifetimes
  | .path each => congrArg path each.stripSegments_eq
  | .reference inner => congrArg (TypeExpr.reference none _) inner.stripLifetimes_eq
  | .pointer inner => congrArg (TypeExpr.pointer _) inner.stripLifetimes_eq
  | .tuple each => congrArg TypeExpr.tuple each.stripAll_eq
  | .slice inner => congrArg TypeExpr.slice inner.stripLifetimes_eq
  | .array inner => congrArg (TypeExpr.array · _) inner.stripLifetimes_eq
  | .bounded each => congrArg (TypeExpr.bounded _) each.stripAll_eq
  | .never => rfl
  | .binding inner => congrArg (TypeExpr.binding _) inner.stripLifetimes_eq
  | .const => rfl
  | .maybe inner => congrArg TypeExpr.maybe inner.stripLifetimes_eq
  | .grouped inner => congrArg TypeExpr.grouped inner.stripLifetimes_eq

theorem TypeExpr.AllResemble.stripAll_eq {types others : List TypeExpr} :
    TypeExpr.AllResemble types others → stripAll types = stripAll others
  | .nil => rfl
  | .cons inner each => by
    obtain ⟨ofFirst, ofOther⟩ := inner.noLifetime
    rw [stripAll, stripAll, ofFirst, ofOther, inner.stripLifetimes_eq, each.stripAll_eq]
  | .left _ each => each.stripAll_eq
  | .right _ each => each.stripAll_eq

theorem PathSegment.Resembles.stripSegment_eq {segment other : PathSegment} :
    segment.Resembles other → stripSegment segment = stripSegment other
  | .plain each => congrArg (PathSegment.plain _) each.stripAll_eq
  | .call each ofOutput => congrArg₂ (PathSegment.call _) each.stripAll_eq ofOutput.stripOutput_eq

theorem PathSegment.OutputResembles.stripOutput_eq {output other : Option TypeExpr} :
    PathSegment.OutputResembles output other → stripOutput output = stripOutput other
  | .none => rfl
  | .some inner => congrArg some inner.stripLifetimes_eq

theorem PathSegment.AllResemble.stripSegments_eq {segments others : List PathSegment} :
    PathSegment.AllResemble segments others → stripSegments segments = stripSegments others
  | .nil => rfl
  | .cons inner each => congrArg₂ List.cons inner.stripSegment_eq each.stripSegments_eq

end

namespace TypeExpr

/-- Only lifetimes are stripped to nothing. -/
theorem allResemble_nil {others : List TypeExpr} (same : stripAll others = []) : AllResemble [] others := by
  induction others with
  | nil => exact .nil
  | cons other others step =>
    rw [stripAll] at same
    split at same
    case isTrue life =>
      cases other with
      | lifetime name => exact .right name (step same)
      | _ => cases life
    case isFalse => cases same

/-- Where a list is stripped to the stripped first type and the stripped rest, it has a type like the first behind some
lifetimes. -/
theorem allResemble_cons {first : TypeExpr} {rest : List TypeExpr}
    (ofFirst : ∀ other : TypeExpr, other.IsProper → first.stripLifetimes = other.stripLifetimes → first.Resembles other)
    (ofRest : ∀ others, AllProper others → stripAll rest = stripAll others → AllResemble rest others)
    {others : List TypeExpr} (proper : AllProper others)
    (same : first.stripLifetimes :: stripAll rest = stripAll others) : AllResemble (first :: rest) others := by
  induction others with
  | nil => cases same
  | cons other others step =>
    rw [stripAll] at same
    split at same
    case isTrue life =>
      cases other with
      | lifetime name => exact .right name (step proper.2 same)
      | _ => cases life
    case isFalse noLifetime =>
      obtain ⟨sameFirst, sameRest⟩ := List.cons.inj same
      exact .cons (ofFirst other (proper.1.resolve_left noLifetime) sameFirst) (ofRest others proper.2 sameRest)

mutual

/-- Proper types that are stripped to the same type are alike but for lifetimes. -/
theorem resembles_of_stripLifetimes_eq : (type other : TypeExpr) → type.IsProper → other.IsProper →
    type.stripLifetimes = other.stripLifetimes → type.Resembles other
  | path segments, other, proper, ofOther, same => by
    cases other with
    | path others => exact .path (allResemble_of_stripSegments_eq segments others proper ofOther (path.inj same))
    | _ => cases same
  | reference life mutable target, other, proper, ofOther, same => by
    cases other with
    | reference otherLife otherMutable other =>
      obtain ⟨-, rfl, inner⟩ := reference.inj same
      exact .reference (resembles_of_stripLifetimes_eq target other proper ofOther inner)
    | _ => cases same
  | pointer mutable target, other, proper, ofOther, same => by
    cases other with
    | pointer otherMutable other =>
      obtain ⟨rfl, inner⟩ := pointer.inj same
      exact .pointer (resembles_of_stripLifetimes_eq target other proper ofOther inner)
    | _ => cases same
  | tuple elements, other, proper, ofOther, same => by
    cases other with
    | tuple others => exact .tuple (allResemble_of_stripAll_eq elements others proper ofOther (tuple.inj same))
    | _ => cases same
  | slice element, other, proper, ofOther, same => by
    cases other with
    | slice other => exact .slice (resembles_of_stripLifetimes_eq element other proper ofOther (slice.inj same))
    | _ => cases same
  | array element length, other, proper, ofOther, same => by
    cases other with
    | array other otherLength =>
      obtain ⟨inner, rfl⟩ := array.inj same
      exact .array (resembles_of_stripLifetimes_eq element other proper ofOther inner)
    | _ => cases same
  | bounded kind bounds, other, proper, ofOther, same => by
    cases other with
    | bounded otherKind others =>
      obtain ⟨rfl, each⟩ := bounded.inj same
      exact .bounded (allResemble_of_stripAll_eq bounds others proper ofOther each)
    | _ => cases same
  | never, other, _, _, same => by
    cases other with
    | never => exact .never
    | _ => cases same
  | lifetime _, _, proper, _, _ => proper.elim
  | binding name value, other, proper, ofOther, same => by
    cases other with
    | binding otherName other =>
      obtain ⟨rfl, inner⟩ := binding.inj same
      exact .binding (resembles_of_stripLifetimes_eq value other proper.2 ofOther.2 inner)
    | _ => cases same
  | const text, other, _, _, same => by
    cases other with
    | const otherText =>
      obtain rfl := const.inj same
      exact .const
    | _ => cases same
  | maybe bound, other, proper, ofOther, same => by
    cases other with
    | maybe other => exact .maybe (resembles_of_stripLifetimes_eq bound other proper ofOther (maybe.inj same))
    | _ => cases same
  | grouped bound, other, proper, ofOther, same => by
    cases other with
    | grouped other => exact .grouped (resembles_of_stripLifetimes_eq bound other proper ofOther (grouped.inj same))
    | _ => cases same

theorem allResemble_of_stripAll_eq : (types others : List TypeExpr) → AllProper types → AllProper others →
    stripAll types = stripAll others → AllResemble types others
  | [], _, _, _, same => allResemble_nil same.symm
  | first :: rest, others, proper, ofOthers, same => by
    have ofRest := allResemble_of_stripAll_eq rest
    rw [stripAll] at same
    split at same
    case isTrue life =>
      cases first with
      | lifetime name => exact .left name (ofRest others proper.2 ofOthers same)
      | _ => cases life
    case isFalse noLifetime =>
      have properFirst := proper.1.resolve_left noLifetime
      exact allResemble_cons (fun other ofOther => resembles_of_stripLifetimes_eq first other properFirst ofOther)
        (fun others ofOthers => ofRest others proper.2 ofOthers) ofOthers same

theorem resembles_of_stripSegment_eq : (segment other : PathSegment) → segment.IsProper → other.IsProper →
    stripSegment segment = stripSegment other → segment.Resembles other
  | .plain name arguments, other, proper, ofOther, same => by
    cases other with
    | plain otherName others =>
      obtain ⟨rfl, each⟩ := PathSegment.plain.inj same
      exact .plain (allResemble_of_stripAll_eq arguments others proper.2 ofOther.2 each)
    | call => cases same
  | .call name inputs output, other, proper, ofOther, same => by
    cases other with
    | plain => cases same
    | call otherName others otherOutput =>
      obtain ⟨rfl, each, sameOutput⟩ := PathSegment.call.inj same
      exact .call (allResemble_of_stripAll_eq inputs others proper.2.1 ofOther.2.1 each)
        (outputResembles_of_stripOutput_eq output otherOutput proper.2.2 ofOther.2.2 sameOutput)

theorem outputResembles_of_stripOutput_eq : (output other : Option TypeExpr) → PathSegment.OutputProper output →
    PathSegment.OutputProper other → stripOutput output = stripOutput other → PathSegment.OutputResembles output other
  | none, none, _, _, _ => .none
  | none, some _, _, _, same => nomatch same
  | some _, none, _, _, same => nomatch same
  | some output, some other, proper, ofOther, same =>
    .some (resembles_of_stripLifetimes_eq output other proper ofOther (Option.some.inj same))

theorem allResemble_of_stripSegments_eq : (segments others : List PathSegment) → PathSegment.AllProper segments →
    PathSegment.AllProper others → stripSegments segments = stripSegments others → PathSegment.AllResemble segments others
  | [], [], _, _, _ => .nil
  | [], _ :: _, _, _, same => nomatch same
  | _ :: _, [], _, _, same => nomatch same
  | first :: rest, other :: others, proper, ofOthers, same => by
    obtain ⟨sameFirst, sameRest⟩ := List.cons.inj same
    exact .cons (resembles_of_stripSegment_eq first other proper.1 ofOthers.1 sameFirst)
      (allResemble_of_stripSegments_eq rest others proper.2 ofOthers.2 sameRest)

end

/-! The types of a text -/

/-- A type that stands in a text is proper. -/
theorem StandsIn.isProper {type : TypeExpr} {text : String} (stands : type.StandsIn text) : type.IsProper := by
  obtain ⟨pieces, covers, lexemes⟩ := Lexeme.exists_pieces stands.complete
  have tokens : (Lexing.ofText text).tokens = Lexeme.tokensFrom .start pieces := by
    rw [Lexing.tokens, Lexing.ofText, lexemes, Lexeme.tokensFrom]
  obtain ⟨stretch, inText, read⟩ := stands.read
  have admitted : Rule.Admitted stretch := fun token member =>
    Lexeme.isName_of_pieces covers .start token (tokens ▸ inText.subset member)
  exact ((Rule.typeExpr_steady (Course.steady_trees [])).sound Rule.rules_keep_contract admitted read).2

/-- Of a type of a text, stripping leaves a type without lifetimes that is like it but for lifetimes, and of which nothing
more is stripped. Types of texts are alike but for lifetimes exactly if they are stripped to the same type, and then they
have the same signature under every owner. -/
theorem stripLifetimes_canonical {type : TypeExpr} {text : String} (stands : type.StandsIn text) :
    type.stripLifetimes.IsTimeless ∧ type.Resembles type.stripLifetimes ∧
      type.stripLifetimes.stripLifetimes = type.stripLifetimes ∧
      ∀ (other : TypeExpr) (otherText : String), other.StandsIn otherText →
        (type.Resembles other ↔ type.stripLifetimes = other.stripLifetimes) ∧
          (type.Resembles other → ∀ owner, type.signature owner = other.signature owner) := by
  have proper := stands.isProper
  have idem := stripLifetimes_idem type
  refine ⟨stripLifetimes_isTimeless type proper, ?_, idem, fun other otherText ofOther => ⟨?_, fun resembles owner => ?_⟩⟩
  · exact resembles_of_stripLifetimes_eq type type.stripLifetimes proper (stripLifetimes_isProper type proper) idem.symm
  · exact ⟨Resembles.stripLifetimes_eq, resembles_of_stripLifetimes_eq type other proper ofOther.isProper⟩
  · simp only [signature, resembles.stripLifetimes_eq]

/-- A lifetime of a reference and one among type arguments against neither. -/
theorem stripLifetimes_canonical_arguments : ∃ type other : TypeExpr,
    type.StandsIn "&'a T<'b, Self>" ∧ other.StandsIn "&T<Self>" ∧ type.Resembles other ∧
      type.signature (some "A") = "&T<A>" ∧ other.signature (some "A") = "&T<A>" := by
  have read : Rule.typeExpr.read? (Lexing.ofText "&'a T<'b, Self>").tokens =
      some (reference (some "'a") false (path [.plain "T" [lifetime "'b", named "Self"]])) := by rfl
  have readOther : Rule.typeExpr.read? (Lexing.ofText "&T<Self>").tokens =
      some (reference none false (path [.plain "T" [named "Self"]])) := by rfl
  have stands : StandsIn _ "&'a T<'b, Self>" := ⟨by decide +kernel, _, List.infix_rfl, read⟩
  have standsOther : StandsIn _ "&T<Self>" := ⟨by decide +kernel, _, List.infix_rfl, readOther⟩
  obtain ⟨alike, signed⟩ := (stripLifetimes_canonical stands).2.2.2 _ _ standsOther
  have resembles := alike.mpr rfl
  have signature : signature (some "A") (reference none false (path [.plain "T" [named "Self"]])) = "&T<A>" := by decide
  exact ⟨_, _, stands, standsOther, resembles, (signed resembles _).trans signature, signature⟩

end TypeExpr

end Exposure
