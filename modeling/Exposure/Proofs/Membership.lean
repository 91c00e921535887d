import Exposure.Item.Member
import Exposure.Proofs.Outcome
import Mathlib.Data.List.Nodup

/-!
# Which fields are members

The fields of a structure are described in order, and each of them against the names of those before it. `Field.IsAdmissible`
says what is asked of a field by itself, and `MemberDescriptor.Describable` what is asked of all of them: that, and names that
differ from each other. The members are then the visible fields, one by one.
-/

namespace Exposure

/-- The text of every documentation literal of some attributes can be read. -/
def Documentation.IsReadable (attributes : List Attribute) : Prop :=
  ∀ attr ∈ attributes, attr.name = "doc" → ∀ leaf, attr.value? = some (.leaf leaf) → leaf.kind = .string →
    ∃ text, Literal.decode leaf.text = .ok text

theorem Documentation.exists_linesOf_iff {attr : Attribute} :
    (∃ lines, linesOf attr = .ok lines) ↔ (attr.name = "doc" → ∀ leaf, attr.value? = some (.leaf leaf) →
      leaf.kind = .string → ∃ text, Literal.decode leaf.text = .ok text) := by
  unfold linesOf
  split
  case h_1 leaf value =>
    simp only [value, Option.some.injEq, TokenTree.leaf.injEq, forall_eq']
    split
    case isTrue other => exact iff_of_true ⟨_, rfl⟩ fun named => absurd named other
    case isFalse named =>
      simp only [not_not.mp named, forall_true_left]
      split
      case isTrue comment => exact iff_of_true ⟨_, rfl⟩ fun literal => by simp [comment] at literal
      case isFalse =>
        split
        case isTrue literal => simp [literal]
        case isFalse other => exact iff_of_true ⟨_, rfl⟩ fun literal => absurd literal other
  case h_2 noLeaf => exact iff_of_true ⟨_, rfl⟩ fun _ leaf value => absurd value (noLeaf leaf)

/-- There is documentation exactly when the documentation literals can be read. -/
theorem Documentation.exists_ofAttributes_iff {attributes : List Attribute} :
    (∃ doc, ofAttributes attributes = .ok doc) ↔ IsReadable attributes := by
  have lines : (∃ doc, ofAttributes attributes = .ok doc) ↔ ∃ lines, attributes.mapM linesOf = .ok lines := by
    simp only [ofAttributes, Outcome.bind_eq_ok, Outcome.pure_eq_ok]
    constructor
    · rintro ⟨_, lines, run, -⟩
      exact ⟨lines, run⟩
    · rintro ⟨lines, run⟩
      exact ⟨_, lines, run, rfl⟩
  rw [lines, Outcome.exists_mapM_eq_ok_iff]
  exact forall_congr' fun attr => imp_congr_right fun _ => exists_linesOf_iff

namespace Field

/-- The options of a field by itself; options that cannot be read are none. -/
def own (field : Field) : Options := (Options.ofAttributes .ofField "pyo3" field.attributes []).toOption.getD .empty

/-- The documentation of a field; documentation that cannot be read is none. -/
def doc (field : Field) : String := (Documentation.ofAttributes field.attributes).toOption.getD ""

variable (options : Options)

/-- A field can be read: it is so by itself, or its class makes all fields so. -/
def isReadable (field : Field) : Bool := field.own.has .get || options.has .getAll

/-- A field can be written: it is so by itself, or its class makes all fields so. -/
def isWritable (field : Field) : Bool := field.own.has .set || options.has .setAll

/-- A field can be read or written. -/
def isVisible (field : Field) : Bool := field.isReadable options || field.isWritable options

/-- The name that a field is exposed under: its own, or else its declared one as its class renames it. -/
def exposedName (field : Field) : String := field.own.nameOr (RenameRule.rename options.renameAll field.name)

/-- What a field is described as, if it is visible. -/
def member (owner : String) (field : Field) : MemberDescriptor :=
  ⟨field.exposedName options, (field.type.map (TypeExpr.signature (some owner))).getD MemberDescriptor.untyped,
    field.isReadable options, field.isWritable options, field.doc⟩

/-- A field by itself is not at fault: its options can be read, and if it is visible its documentation can; if it can be
written its class is not frozen, and it has a type unless it can be read too. -/
structure IsAdmissible (field : Field) : Prop where
  wellFormed : ∃ own, Options.ofAttributes .ofField "pyo3" field.attributes [] = .ok own
  documented : field.isVisible options = true → Documentation.IsReadable field.attributes
  unfrozen : field.isWritable options = true → options.has .frozen = false
  typed : field.isWritable options = true → field.isReadable options = true ∨ field.type.isSome = true

end Field

namespace MemberDescriptor

variable {options : Options} {owner : String} {field : Field} {members after : List MemberDescriptor}

/-- Where documentation can be read, it is that of the field. -/
theorem exists_doc_iff {making : String → Prop} :
    (∃ doc, Documentation.ofAttributes field.attributes = .ok doc ∧ making doc) ↔
      Documentation.IsReadable field.attributes ∧ making field.doc := by
  rw [← Documentation.exists_ofAttributes_iff]
  constructor
  · rintro ⟨doc, read, made⟩
    have same : field.doc = doc := by simp [Field.doc, read, Except.toOption]
    exact ⟨⟨doc, read⟩, same ▸ made⟩
  · rintro ⟨⟨doc, read⟩, made⟩
    have same : field.doc = doc := by simp [Field.doc, read, Except.toOption]
    exact ⟨doc, read, same ▸ made⟩

/-- A field that is not at fault is described if it is visible. -/
theorem ofField?_eq_ok_iff {found : Option MemberDescriptor} :
    ofField? options owner field = .ok found ↔
      field.IsAdmissible options ∧ (if field.isVisible options then some (field.member options owner) else none) = found := by
  cases read : Options.ofAttributes .ofField "pyo3" field.attributes [] with
  | error fault =>
    refine iff_of_false (by simp [ofField?, read]) ?_
    rintro ⟨⟨⟨own, given⟩, -, -, -⟩, -⟩
    cases read.symm.trans given
  | ok own =>
    obtain rfl : field.own = own := by simp [Field.own, read, Except.toOption]
    have readable : (field.own.has .get || options.has .getAll) = field.isReadable options := rfl
    have writable : (field.own.has .set || options.has .setAll) = field.isWritable options := rfl
    have admissible : field.IsAdmissible options ↔
        (field.isVisible options = true → Documentation.IsReadable field.attributes) ∧
          (field.isWritable options = true → options.has .frozen = false) ∧
          (field.isWritable options = true → field.isReadable options = true ∨ field.type.isSome = true) :=
      ⟨fun asked => ⟨asked.documented, asked.unfrozen, asked.typed⟩,
        fun asked => ⟨⟨_, read⟩, asked.1, asked.2.1, asked.2.2⟩⟩
    simp only [ofField?, Outcome.bind_eq_ok, read, Except.ok.injEq, exists_eq_left', readable, writable, admissible]
    by_cases hidden : (!field.isReadable options && !field.isWritable options) = true
    · rw [if_pos hidden]
      rw [Bool.and_eq_true, Bool.not_eq_true', Bool.not_eq_true'] at hidden
      simp [Field.isVisible, hidden]
    rw [if_neg hidden]
    have visible : field.isVisible options = true := by
      simpa [Field.isVisible, or_iff_not_imp_left] using hidden
    by_cases stuck : (field.isWritable options && options.has .frozen) = true
    · rw [if_pos stuck]
      rw [Bool.and_eq_true] at stuck
      simp [report, stuck]
    rw [if_neg stuck]
    have unfrozen : field.isWritable options = true → options.has .frozen = false := by simpa using stuck
    rw [and_iff_right unfrozen]
    cases typed : field.type with
    | some type => simp [visible, exists_doc_iff, Field.member, Field.exposedName, typed]
    | none =>
      cases ofGet : field.isReadable options with
      | true => simp [visible, exists_doc_iff, Field.member, Field.exposedName, typed, ofGet]
      | false =>
        have ofSet : field.isWritable options = true := by simpa [Field.isVisible, ofGet] using visible
        simp [report, ofSet]

/-- One more field is added if it is not at fault and, if it is visible, has a name of its own. -/
theorem addField_eq_ok_iff :
    addField options owner members field = .ok after ↔
      field.IsAdmissible options ∧
        (field.isVisible options = true → field.exposedName options ∉ members.map (·.name)) ∧
        members ++ ([field].filter (·.isVisible options)).map (·.member options owner) = after := by
  have taken : (members.any fun other => other.name = (field.member options owner).name) = true ↔
      field.exposedName options ∈ members.map (·.name) := by
    rw [show (field.member options owner).name = field.exposedName options from rfl]
    simp
  simp only [addField, Outcome.bind_eq_ok, ofField?_eq_ok_iff, and_assoc]
  cases visible : field.isVisible options with
  | false => simp [visible]
  | true =>
    by_cases named : field.exposedName options ∈ members.map (·.name)
    · simp [taken.mpr named, report, named]
    · simp [Bool.eq_false_iff.mpr (mt taken.mp named), visible, named]

theorem exposedNames_eq (fields : List Field) :
    ((fields.filter (·.isVisible options)).map (·.member options owner)).map (·.name) =
      (fields.filter (·.isVisible options)).map (·.exposedName options) := by
  rw [List.map_map]
  rfl

/-- Fields are described as members exactly when none of them is at fault and no two visible ones share a name; the members
are then the visible fields, in order. -/
theorem ofFields_eq_ok_iff {fields : List Field} :
    ofFields options owner fields = .ok members ↔
      (∀ field ∈ fields, field.IsAdmissible options) ∧
        ((fields.filter (·.isVisible options)).map (·.exposedName options)).Nodup ∧
        (fields.filter (·.isVisible options)).map (·.member options owner) = members := by
  induction fields using List.reverseRecOn generalizing members with
  | nil => simp [ofFields]
  | append_singleton past field again =>
    have split : ofFields options owner (past ++ [field]) = ofFields options owner past >>= fun before =>
        addField options owner before field := by
      simp [ofFields, List.foldlM_append]
    have fresh (names : List String) : (names ++ ([field].filter (·.isVisible options)).map (·.exposedName options)).Nodup ↔
        names.Nodup ∧ (field.isVisible options = true → field.exposedName options ∉ names) := by
      cases visible : field.isVisible options with
      | false => simp [visible]
      | true =>
        have alone : ([field].filter (·.isVisible options)).map (·.exposedName options) = [field.exposedName options] := by
          simp [visible]
        rw [alone, List.nodup_append_comm, List.singleton_append, List.nodup_cons, and_comm]
        simp only [forall_const]
    simp only [split, Outcome.bind_eq_ok, again, addField_eq_ok_iff, List.filter_append, List.map_append,
      List.forall_mem_append, List.forall_mem_singleton, fresh]
    constructor
    · rintro ⟨before, ⟨admissible, distinct, rfl⟩, asked, free, rfl⟩
      exact ⟨⟨admissible, asked⟩, ⟨distinct, exposedNames_eq past ▸ free⟩, rfl⟩
    · rintro ⟨⟨admissible, asked⟩, ⟨distinct, free⟩, rfl⟩
      exact ⟨_, ⟨admissible, distinct, rfl⟩, asked, exposedNames_eq past ▸ free, rfl⟩

/-- Fields can be described as members: the options of every field can be read, and the documentation of every visible one;
no field that can be written is in a frozen class; every field that can be written and not be read has a type; and no two
visible fields are exposed under one name. -/
structure Describable (options : Options) (fields : List Field) : Prop where
  wellFormed : ∀ field ∈ fields, ∃ own, Options.ofAttributes .ofField "pyo3" field.attributes [] = .ok own
  documented : ∀ field ∈ fields, field.isVisible options = true → Documentation.IsReadable field.attributes
  unfrozen : ∀ field ∈ fields, field.isWritable options = true → options.has .frozen = false
  typed : ∀ field ∈ fields, field.isWritable options = true → field.isReadable options = false → field.type.isSome = true
  distinct : ((fields.filter (·.isVisible options)).map (·.exposedName options)).Nodup

theorem describable_iff {fields : List Field} :
    Describable options fields ↔ (∀ field ∈ fields, field.IsAdmissible options) ∧
      ((fields.filter (·.isVisible options)).map (·.exposedName options)).Nodup := by
  constructor
  · intro describable
    refine ⟨fun field listed => ?_, describable.distinct⟩
    refine ⟨describable.wellFormed field listed, describable.documented field listed, describable.unfrozen field listed, ?_⟩
    intro ofSet
    rw [or_iff_not_imp_left, Bool.not_eq_true]
    exact describable.typed field listed ofSet
  · rintro ⟨admissible, distinct⟩
    refine ⟨fun field listed => (admissible field listed).wellFormed, fun field listed => (admissible field listed).documented,
      fun field listed => (admissible field listed).unfrozen, fun field listed ofSet unread => ?_, distinct⟩
    exact ((admissible field listed).typed ofSet).resolve_left (by simp [unread])

end MemberDescriptor

end Exposure
