import Exposure.Proofs.Contract
import Exposure.Proofs.Places
import Exposure.Proofs.Shape

/-!
The course of an item: a watcher that follows the tokens of one item and knows where the item ends, without reading it.
-/

namespace Exposure

/-- The part of an item that a token stands in: before its keyword, or behind `const` there; in a declaration that a
brace or a semicolon ends outside angle brackets, or behind an equals sign in it; in one that any brace or semicolon ends;
in one that only a semicolon ends; in an import; or in brackets. -/
inductive Stage where
  | head | constant
  | shape (holdsItems : Bool) (angles : Nat)
  | default (holdsItems : Bool) (angles : Nat)
  | block | statement | import | trees | ended | lost
  deriving DecidableEq, Repr

/-- The stage of the innermost open bracket, and the stages to go on with behind each closing bracket. -/
structure Course where
  stage : Stage
  below : List Stage
  deriving DecidableEq, Repr

/-- An opening bracket. -/
def Terminal.opens : Terminal → Bool
  | .mark .openParen => true
  | .mark .openBracket => true
  | .mark .openBrace => true
  | _ => false

/-- A closing bracket. -/
def Terminal.closes : Terminal → Bool
  | .mark .closeParen => true
  | .mark .closeBracket => true
  | .mark .closeBrace => true
  | _ => false

namespace Stage

/-- The stage inside a bracket. -/
def inner (stage : Stage) (opening : Terminal) : Stage :=
  match stage with
  | shape true 0 => if opening = .mark .openBrace then head else trees
  | lost => lost
  | _ => trees

/-- The stage behind a bracket, given the stage behind an item. -/
def resumed (stage afterItem : Stage) (opening : Terminal) : Stage :=
  match stage with
  | shape holdsItems 0 => if opening = .mark .openBrace then afterItem else shape holdsItems 0
  | default holdsItems angles => shape holdsItems angles
  | block => if opening = .mark .openBrace then afterItem else block
  | other => other

/-- The stage behind a token that is no bracket, given the stage behind an item. -/
def next (stage afterItem : Stage) (token : Terminal) : Stage :=
  match stage, token with
  | head, .word .constWord => constant
  | head, .word .structWord => shape false 0
  | head, .word .enumWord => shape false 0
  | head, .word .fnWord => shape false 0
  | head, .word .implWord => shape true 0
  | head, .word .modWord => shape true 0
  | head, .word .traitWord => block
  | head, .word .typeWord => statement
  | head, .word .staticWord => statement
  | head, .word .useWord => .import
  | head, .ident => block
  | constant, .word .fnWord => shape false 0
  | constant, .ident => statement
  | shape holdsItems angles, .mark .less => shape holdsItems (angles + 1)
  | shape holdsItems angles, .mark .greater => shape holdsItems (angles - 1)
  | shape holdsItems angles, .mark .equals => default holdsItems angles
  | shape _ _, .mark .semicolon => afterItem
  | default holdsItems angles, _ => shape holdsItems angles
  | block, .mark .semicolon => afterItem
  | statement, .mark .semicolon => afterItem
  | .import, .mark .semicolon => afterItem
  | ended, .mark .semicolon => ended
  | ended, _ => lost
  | other, _ => other

/-- A type may stand in this stage. -/
def takesType : Stage → Bool
  | shape _ _ => true
  | default _ _ => true
  | statement => true
  | trees => true
  | _ => false

/-- The stage behind a token that is no angle bracket, equals sign or semicolon, where a type may stand. -/
def rest : Stage → Stage
  | default holdsItems angles => shape holdsItems angles
  | other => other

/-- The stage behind an opening angle bracket, where a type may stand. -/
def angled : Stage → Stage
  | shape holdsItems angles => shape holdsItems (angles + 1)
  | default holdsItems angles => shape holdsItems angles
  | other => other

end Stage

namespace Course

/-- The stage behind an item: nothing may follow the outermost one. -/
def afterItem (course : Course) : Stage := if course.below = [] then .ended else .head

/-- Pass a token. -/
def pass (course : Course) (token : Terminal) : Course :=
  if course.stage = .import || !(token.opens || token.closes) then
    { course with stage := course.stage.next course.afterItem token }
  else if token.opens then
    ⟨course.stage.inner token, course.stage.resumed course.afterItem token :: course.below⟩
  else
    match course.below with
    | [] => ⟨.lost, []⟩
    | outer :: others => ⟨outer, others⟩

/-- Go on behind a token that changes no brackets. -/
def rest (course : Course) : Course := { course with stage := course.stage.rest }

/-- Go on in brackets. -/
def inside (course : Course) : Course := ⟨.trees, course.stage.rest :: course.below⟩

/-- Go on in angle brackets. -/
def angled (course : Course) : Course := { course with stage := course.stage.angled }

/-- A type may stand here. -/
def TakesType (course : Course) : Prop := course.stage.takesType = true

/-- A type may stand here, and no equals sign stands before it. -/
structure Steady (course : Course) : Prop where
  takesType : course.TakesType
  rest : course.rest = course

/-- A steady place that a brace does not end. -/
structure Sheltered (course : Course) : Prop extends course.Steady where
  brace : course.pass (.mark .openBrace) = course.inside

/-- The tokens that leave a steady place alone. -/
def isNeutral : Terminal → Bool
  | .mark punctuation =>
    !([.openParen, .closeParen, .openBracket, .closeBracket, .openBrace, .closeBrace, .less, .greater, .equals,
      .semicolon] : List Punctuation).contains punctuation
  | _ => true

variable {course : Course}

theorem pass_of_isNeutral (takes : course.TakesType) {token : Terminal} (neutral : isNeutral token = true) :
    course.pass token = course.rest := by
  obtain ⟨stage, below⟩ := course
  have noBracket : token.opens = false ∧ token.closes = false := by
    cases token with
    | mark punctuation => cases punctuation <;> first | exact ⟨rfl, rfl⟩ | cases neutral
    | _ => exact ⟨rfl, rfl⟩
  simp only [pass, noBracket, Bool.or_self, Bool.not_false, Bool.or_true, ↓reduceIte, rest]
  cases stage with
  | shape _ _ =>
    cases token with
    | mark punctuation => cases punctuation <;> first | rfl | cases neutral
    | _ => rfl
  | statement =>
    cases token with
    | mark punctuation => cases punctuation <;> first | rfl | cases neutral
    | _ => rfl
  | default _ _ => rfl
  | trees => rfl
  | _ => cases takes

theorem TakesType.rest (takes : course.TakesType) : course.rest.Steady := by
  obtain ⟨stage, below⟩ := course
  cases stage <;> first | exact ⟨rfl, rfl⟩ | cases takes

theorem Steady.pass (steady : course.Steady) {token : Terminal} (neutral : isNeutral token = true) :
    course.pass token = course :=
  (pass_of_isNeutral steady.takesType neutral).trans steady.rest

theorem pass_paren (takes : course.TakesType) : course.pass (.mark .openParen) = course.inside := by
  obtain ⟨stage, below⟩ := course
  cases stage with
  | shape holdsItems angles => cases holdsItems <;> cases angles <;> rfl
  | _ => first | rfl | cases takes

theorem pass_bracket (takes : course.TakesType) : course.pass (.mark .openBracket) = course.inside := by
  obtain ⟨stage, below⟩ := course
  cases stage with
  | shape holdsItems angles => cases holdsItems <;> cases angles <;> rfl
  | _ => first | rfl | cases takes

theorem inside_pass {token : Terminal} (closes : token.closes = true) : course.inside.pass token = course.rest := by
  cases token with
  | mark punctuation => cases punctuation <;> first | rfl | cases closes
  | _ => cases closes

/-- The steady places. -/
theorem Steady.stage (steady : course.Steady) :
    (∃ holdsItems angles, course.stage = .shape holdsItems angles) ∨ course.stage = .statement ∨
      course.stage = .trees := by
  obtain ⟨stage, below⟩ := course
  have takes : stage.takesType = true := steady.takesType
  have resting : stage.rest = stage := congrArg Course.stage steady.rest
  cases stage with
  | shape holdsItems angles => exact .inl ⟨holdsItems, angles, rfl⟩
  | statement => exact .inr (.inl rfl)
  | trees => exact .inr (.inr rfl)
  | _ => simp [Stage.takesType, Stage.rest] at takes resting

theorem pass_less (steady : course.Steady) : course.pass (.mark .less) = course.angled := by
  have stage := steady.stage
  obtain ⟨_, below⟩ := course
  obtain ⟨_, _, rfl⟩ | rfl | rfl := stage <;> rfl

/-- Angle brackets shelter what stands in them. -/
theorem Steady.angled (steady : course.Steady) : course.angled.Sheltered := by
  have stage := steady.stage
  obtain ⟨_, below⟩ := course
  obtain ⟨holdsItems, _, rfl⟩ | rfl | rfl := stage
  · cases holdsItems <;> exact ⟨⟨rfl, rfl⟩, rfl⟩
  · exact ⟨⟨rfl, rfl⟩, rfl⟩
  · exact ⟨⟨rfl, rfl⟩, rfl⟩

theorem pass_greater (steady : course.Steady) : course.angled.pass (.mark .greater) = course := by
  have stage := steady.stage
  obtain ⟨_, below⟩ := course
  obtain ⟨_, _, rfl⟩ | rfl | rfl := stage <;> rfl

/-! Brackets that hold anything -/

theorem steady_trees (below : List Stage) : Steady ⟨.trees, below⟩ := ⟨rfl, rfl⟩

theorem pass_opens_trees (below : List Stage) {token : Terminal} (opens : token.opens = true) :
    Course.pass ⟨.trees, below⟩ token = ⟨.trees, .trees :: below⟩ := by
  cases token with
  | mark punctuation => cases punctuation <;> first | rfl | cases opens
  | _ => cases opens

theorem pass_closes_trees (outer : Stage) (below : List Stage) {token : Terminal} (closes : token.closes = true) :
    Course.pass ⟨.trees, outer :: below⟩ token = ⟨outer, below⟩ := by
  cases token with
  | mark punctuation => cases punctuation <;> first | rfl | cases closes
  | _ => cases closes

theorem pass_trees (below : List Stage) {token : Terminal} (noOpening : token.opens = false)
    (noClosing : token.closes = false) : Course.pass ⟨.trees, below⟩ token = ⟨.trees, below⟩ := by
  simp [pass, noOpening, noClosing, Stage.next]

/-! Behind an equals sign -/

theorem pass_equals (steady : course.Steady) :
    (course.pass (.mark .equals)).TakesType ∧ (course.pass (.mark .equals)).rest = course := by
  have stage := steady.stage
  obtain ⟨_, below⟩ := course
  obtain ⟨_, _, rfl⟩ | rfl | rfl := stage <;> exact ⟨rfl, rfl⟩

/-- Brackets behind an equals sign end nothing. -/
theorem pass_opens_behind_equals (steady : course.Steady) {token : Terminal} (opens : token.opens = true) :
    (course.pass (.mark .equals)).pass token = course.inside := by
  have stage := steady.stage
  obtain ⟨_, below⟩ := course
  cases token with
  | mark punctuation =>
    obtain ⟨_, _, rfl⟩ | rfl | rfl := stage <;> cases punctuation <;> first | rfl | cases opens
  | _ => cases opens

/-- The token behind an equals sign is no angle bracket. -/
theorem pass_leaf_behind_equals (steady : course.Steady) {token : Terminal} (noOpening : token.opens = false)
    (noClosing : token.closes = false) (noSemicolon : token ≠ .mark .semicolon) :
    (course.pass (.mark .equals)).pass token = course := by
  have stage := steady.stage
  obtain ⟨_, below⟩ := course
  have unbracketed : (!(token.opens || token.closes)) = true := by rw [noOpening, noClosing]; rfl
  obtain ⟨_, _, rfl⟩ | rfl | rfl := stage
  · change Course.pass ⟨.default _ _, below⟩ token = _
    simp [pass, unbracketed, Stage.next]
  · change Course.pass ⟨.statement, below⟩ token = _
    simp [pass, unbracketed, Stage.next, noSemicolon]
  · exact pass_trees below noOpening noClosing

/-! The beginning of an item -/

/-- Attributes and a visibility may stand here. -/
structure TakesAttributes (course : Course) : Prop where
  plain : ∀ token, token = .mark .hash ∨ token = .mark .bang ∨ token = .docComment ∨ token = .word .pubWord →
    course.pass token = course
  brackets : ∀ token, token = .mark .openBracket ∨ token = .mark .openParen →
    course.pass token = ⟨.trees, course.stage :: course.below⟩

theorem Steady.takesAttributes (steady : course.Steady) : course.TakesAttributes where
  plain := by
    rintro token (rfl | rfl | rfl | rfl) <;> exact steady.pass rfl
  brackets := by
    have sameStage : course.stage.rest = course.stage := congrArg Course.stage steady.rest
    have same : course.inside = ⟨.trees, course.stage :: course.below⟩ := by rw [inside, sameStage]
    rintro token (rfl | rfl)
    · exact (pass_bracket steady.takesType).trans same
    · exact (pass_paren steady.takesType).trans same

theorem head_takesAttributes (below : List Stage) : TakesAttributes ⟨.head, below⟩ where
  plain := by
    rintro token (rfl | rfl | rfl | rfl) <;> rfl
  brackets := by
    rintro token (rfl | rfl) <;> rfl

/-- The place behind an item: nothing may follow the outermost one. -/
def finished (below : List Stage) : Course := ⟨if below = [] then .ended else .head, below⟩

end Course

/-! Values -/

/-- A field of a proper type, if it has a type. -/
def Field.IsProper (field : Field) : Prop := ∀ type, field.type = some type → type.IsProper

/-- A function with proper types. -/
structure FunctionItem.IsProper (function : FunctionItem) : Prop where
  parameters : ∀ parameter ∈ function.parameters, ∀ type, parameter.type = some type → type.IsProper
  returnType : ∀ type, function.returnType = some type → type.IsProper

namespace Item

mutual

/-- An item with proper types, and a name of name characters if it is a structure or an enumeration. -/
def IsProper : Item → Prop
  | structItem item => IsName item.name ∧ ∀ field ∈ item.fields, field.IsProper
  | enumItem item => IsName item.name
  | functionItem item => item.IsProper
  | implItem _ selfType _ items => selfType.IsProper ∧ AllProper items
  | moduleItem _ _ items => AllProper items

/-- Every item of a list is proper. -/
def AllProper : List Item → Prop
  | [] => True
  | first :: rest => first.IsProper ∧ AllProper rest

end

theorem allProper_iff {items : List Item} : AllProper items ↔ ∀ item ∈ items, item.IsProper := by
  induction items with
  | nil => simp [AllProper]
  | cons first rest step => simp [AllProper, step]

theorem isProper_decorate {item : Item} (proper : item.IsProper) (attributes : List Attribute) (isPublic : Bool)
    (span : Span) : (item.decorate attributes isPublic span).IsProper := by
  cases item with
  | functionItem item => exact ⟨proper.parameters, proper.returnType⟩
  | _ => exact proper

end Item

namespace Rule

/-- What is relied on while an item is read: trees leave brackets as they are, a type is read to its end, and an item in
brackets leads to where the next may begin; the types read are proper. -/
def contract : Grammar.Contract Token Course RuleName.Meaning where
  admits token := token.terminal = .ident → IsName token.text
  move course token := course.pass token.terminal
  begins
    | .tree, course => course.stage = .trees
    | .type, course => course.TakesType
    | .item, course => course.stage = .head ∧ course.below ≠ []
  promises
    | .tree, course, last, _ => last = course
    | .type, course, last, found => last = course.rest ∧ Spine.IsProper TypeExpr.IsProper found
    | .item, course, last, found => last = course ∧ ∀ item, found = some item → item.IsProper

variable {value other : Type}

/-- A rule leads from one place to another and gives values with a property. -/
abbrev Leads (rule : Rule value) (here there : Course) (gives : value → Prop) : Prop :=
  contract.Leads rule here there gives

/-- A rule leads from one place to another. -/
abbrev Passes (rule : Rule value) (here there : Course) : Prop := rule.Leads here there fun _ => True

end Rule

end Exposure
