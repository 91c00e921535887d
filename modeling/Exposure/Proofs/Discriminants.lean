import Exposure.Proofs.IntegerLiteral
import Exposure.Proofs.Makings

/-!
# The values of variants

The variants of an enumeration are numbered as they are described: a counter starts at zero, each variant takes its
discriminant or else the counter, and the counter goes on from the value that was taken. It is lost at a discriminant that
cannot be evaluated, and found again at the next one that can. `FollowsDiscriminants` says so of the values by their places.
-/

namespace Exposure

/-- The integer that the discriminant of a variant is evaluated to. -/
def Variant.evaluated? (variant : Variant) : Option Int := variant.discriminant.bind DefaultValue.integer?

namespace EnumDescriptor

/-- The values that variants have, given the one that the first of them would have without a discriminant. -/
def numbered (expected : Option Int) : List Variant → List (Option Int)
  | [] => []
  | variant :: rest => valueOf expected variant :: numbered ((valueOf expected variant).map (· + 1)) rest

/-- A value is written as its decimal text, and a placeholder stands for an unknown one. -/
def written (value : Option Int) : String := (value.map toString).getD Signature.placeholder

/-- The values of variants follow their discriminants: an integer literal, negated or not, is the value itself, and so is any
discriminant that can be evaluated; without a discriminant the first value is zero, and every other is the one before it plus
one; and behind a discriminant that cannot be evaluated no value is known before the next discriminant that can be. -/
structure FollowsDiscriminants (variants : List Variant) (values : List (Option Int)) : Prop where
  length_eq : values.length = variants.length
  spelled : ∀ {index : Nat} {variant : Variant} {trees : List TokenTree} {value : Int}, variants[index]? = some variant →
    variant.discriminant = some trees → DefaultValue.SpellsInteger trees value → values[index]? = some (some value)
  evaluated : ∀ {index : Nat} {variant : Variant} {value : Int}, variants[index]? = some variant →
    variant.evaluated? = some value → values[index]? = some (some value)
  first : ∀ {variant : Variant}, variants[0]? = some variant → variant.discriminant = none → values[0]? = some (some 0)
  next : ∀ {index : Nat} {variant : Variant} {value : Int}, variants[index + 1]? = some variant →
    variant.discriminant = none → values[index]? = some (some value) → values[index + 1]? = some (some (value + 1))
  unknown : ∀ {index : Nat} {variant : Variant} {trees : List TokenTree}, variants[index]? = some variant →
    variant.discriminant = some trees → variant.evaluated? = none →
    ∀ {later : Nat}, index ≤ later → later < variants.length →
      (∀ between, index < between → between ≤ later → variants[between]?.bind Variant.evaluated? = none) →
      values[later]? = some none

variable {variant : Variant} {expected : Option Int}

/-! A variant is numbered after the one before it -/

theorem valueOf_eq_some {value : Int} (evaluated : variant.evaluated? = some value) (expected : Option Int) :
    valueOf expected variant = some value := by
  obtain ⟨trees, explicit, read⟩ := Option.bind_eq_some_iff.mp evaluated
  rw [valueOf, explicit]
  exact read

theorem valueOf_eq_none {trees : List TokenTree} (explicit : variant.discriminant = some trees)
    (unevaluated : variant.evaluated? = none) (expected : Option Int) : valueOf expected variant = none := by
  rw [Variant.evaluated?, explicit, Option.bind_some] at unevaluated
  rw [valueOf, explicit]
  exact unevaluated

theorem valueOf_implicit (implicit : variant.discriminant = none) (expected : Option Int) :
    valueOf expected variant = expected := by
  rw [valueOf, implicit]

/-- A lost counter stays lost at a variant whose discriminant is not evaluated. -/
theorem valueOf_lost (unevaluated : variant.evaluated? = none) : valueOf none variant = none := by
  cases explicit : variant.discriminant with
  | none => exact valueOf_implicit explicit none
  | some trees => exact valueOf_eq_none explicit unevaluated none

theorem length_numbered (expected : Option Int) (variants : List Variant) :
    (numbered expected variants).length = variants.length := by
  induction variants generalizing expected with
  | nil => rfl
  | cons variant rest step => rw [numbered, List.length_cons, List.length_cons, step]

theorem numbered_zero {variants : List Variant} (listed : variants[0]? = some variant) (expected : Option Int) :
    (numbered expected variants)[0]? = some (valueOf expected variant) := by
  cases variants with
  | nil => simp at listed
  | cons first rest =>
    obtain rfl : first = variant := by simpa using listed
    rfl

theorem numbered_succ {variants : List Variant} {index : Nat} {value : Option Int}
    (listed : variants[index + 1]? = some variant) (before : (numbered expected variants)[index]? = some value) :
    (numbered expected variants)[index + 1]? = some (valueOf (value.map (· + 1)) variant) := by
  induction variants generalizing expected index with
  | nil => simp at listed
  | cons first rest step =>
    rw [List.getElem?_cons_succ] at listed
    cases index with
    | zero =>
      obtain rfl : valueOf expected first = value := by simpa [numbered] using before
      exact numbered_zero listed _
    | succ index => exact step listed before

/-- Every variant is numbered with some counter. -/
theorem exists_numbered_eq {variants : List Variant} {index : Nat} (listed : variants[index]? = some variant)
    (expected : Option Int) : ∃ counter, (numbered expected variants)[index]? = some (valueOf counter variant) := by
  cases index with
  | zero => exact ⟨_, numbered_zero listed expected⟩
  | succ index =>
    have inside : index < (numbered expected variants).length := by
      rw [length_numbered]
      exact Nat.lt_of_succ_lt (List.getElem?_eq_some_iff.mp listed).1
    exact ⟨_, numbered_succ listed (List.getElem?_eq_getElem inside)⟩

/-- A counter that is lost at a variant stays lost up to the next discriminant that can be evaluated. -/
theorem numbered_lost {variants : List Variant} {index later : Nat}
    (lost : (numbered expected variants)[index]? = some none) (behind : index ≤ later) (inside : later < variants.length)
    (unevaluated : ∀ between, index < between → between ≤ later → variants[between]?.bind Variant.evaluated? = none) :
    (numbered expected variants)[later]? = some none := by
  induction later, behind using Nat.le_induction with
  | base => exact lost
  | succ later behind step =>
    have before := step (Nat.lt_of_succ_lt inside) fun between after upTo =>
      unevaluated between after (Nat.le_succ_of_le upTo)
    have listed := List.getElem?_eq_getElem inside
    have own := unevaluated (later + 1) (Nat.lt_succ_of_le behind) le_rfl
    rw [listed, Option.bind_some] at own
    rw [numbered_succ listed before, Option.map_none, valueOf_lost own]

/-- Counting from zero, the values of variants follow their discriminants. -/
theorem followsDiscriminants_numbered (variants : List Variant) :
    FollowsDiscriminants variants (numbered (some 0) variants) := by
  have evaluated {index : Nat} {value : Int} {variant : Variant} (listed : variants[index]? = some variant)
      (read : variant.evaluated? = some value) : (numbered (some 0) variants)[index]? = some (some value) := by
    obtain ⟨counter, numbered⟩ := exists_numbered_eq listed (some 0)
    rw [numbered, valueOf_eq_some read]
  exact {
    length_eq := length_numbered _ variants
    spelled := fun listed explicit spells => evaluated listed <| by
      rw [Variant.evaluated?, explicit, Option.bind_some, DefaultValue.integer?_of_spells spells]
    evaluated := evaluated
    first := fun listed implicit => by rw [numbered_zero listed, valueOf_implicit implicit]
    next := fun listed implicit before => by
      rw [numbered_succ listed before, valueOf_implicit implicit, Option.map_some]
    unknown := fun listed explicit unevaluated _ behind inside others => by
      obtain ⟨counter, numbered⟩ := exists_numbered_eq listed (some 0)
      rw [valueOf_eq_none explicit unevaluated] at numbered
      exact numbered_lost numbered behind inside others }

/-! A run describes the variants with their numbers -/

variable {renameAll : Option RenameRule} {described result : List VariantDescriptor}

theorem eq_written_of_valueText {value : Option Int} {text : String} (run : valueText value = .ok text) :
    text = written value := by
  cases value with
  | none => exact (Except.ok.inj run).symm
  | some value =>
    simp only [valueText, Numeral.decimal] at run
    split at run
    · exact (Except.ok.inj run).symm
    · cases run

/-- Behind variants with names that differ, variants are described under further names, with their numbers as values. -/
theorem ofVariants_numbered {variants : List Variant}
    (run : ofVariants renameAll described expected variants = .ok result) (distinct : (described.map (·.name)).Nodup) :
    (result.map (·.name)).Nodup ∧
      result.map (·.value) = described.map (·.value) ++ (numbered expected variants).map written := by
  induction variants generalizing described expected with
  | nil =>
    obtain rfl := Except.ok.inj run
    exact ⟨distinct, (List.append_nil _).symm⟩
  | cons variant rest step =>
    obtain ⟨one, -, fresh, ofValue, run⟩ := ofVariants_cons_eq_ok run
    have extended : (described.map (·.name) ++ [one.name]).Nodup :=
      List.nodup_append_comm.mpr (List.nodup_cons.mpr ⟨fresh, distinct⟩)
    obtain ⟨names, values⟩ := step run (by rw [List.map_append]; exact extended)
    refine ⟨names, ?_⟩
    rw [values, List.map_append, List.append_assoc, List.map_singleton, eq_written_of_valueText ofValue]
    rfl

/-- An enumeration that is described has one variant for each declared one, in order, under its own or its renamed name;
no two of the names are equal; and the values follow the discriminants. -/
theorem ofEnum_followsDiscriminants {item : EnumItem} {options : Options} {descriptor : EnumDescriptor}
    (run : ofEnum item options = .ok descriptor) :
    List.Forall₂ (Describes options.renameAll) item.variants descriptor.variants ∧
      (descriptor.variants.map (·.name)).Nodup ∧
      ∃ values, FollowsDiscriminants item.variants values ∧ descriptor.variants.map (·.value) = values.map written := by
  obtain ⟨-, -, numbering⟩ := ofVariants_of_ofEnum run
  obtain ⟨distinct, values⟩ := ofVariants_numbered numbering List.nodup_nil
  exact ⟨(ofEnum_eq_ok run).2.2, distinct, _, followsDiscriminants_numbered item.variants, values⟩

/-- A negated hexadecimal literal with an underscore and a type, a computed discriminant, an octal literal, and variants
without a discriminant behind each of them. -/
theorem ofEnum_followsDiscriminants_computed :
    let leaf (kind : LeafKind) (text : String) : TokenTree := .leaf ⟨kind, text, .start⟩
    let variant (name : String) (discriminant : Option (List TokenTree)) : Variant :=
      ⟨name, .absent, discriminant, [], .start⟩
    let negative := [leaf .punctuation "-", leaf .number "0x1F_u8"]
    let computed := [leaf .ident "X", leaf .punctuation "+", leaf .number "1"]
    let item : EnumItem := ⟨⟨[], true, ⟨.start, .start⟩, .start⟩, "E", [variant "A" (some negative), variant "B" none,
      variant "C" (some computed), variant "D" none, variant "F" (some [leaf .number "0o017"]), variant "G" none]⟩
    ∃ descriptor, ofEnum item .empty = .ok descriptor ∧ DefaultValue.SpellsInteger negative (-31) ∧
      DefaultValue.integer? computed = none ∧
      descriptor.variants.map (·.value) = ["-31", "-30", "...", "...", "15", "16"] ∧
      List.Forall₂ (Describes none) item.variants descriptor.variants ∧ (descriptor.variants.map (·.name)).Nodup ∧
      ∃ values, FollowsDiscriminants item.variants values ∧ descriptor.variants.map (·.value) = values.map written := by
  intro leaf variant negative computed item
  have counted : (ofEnum item .empty).toOption.map (fun descriptor => descriptor.variants.map (·.value)) =
      some ["-31", "-30", "...", "...", "15", "16"] := by
    simp only [item, variant, leaf, negative, computed, ofEnum, ofVariants, valueOf, DefaultValue.integer?,
      DefaultValue.render]
    decide +kernel
  obtain ⟨descriptor, accepted, values⟩ := Option.map_eq_some_iff.mp counted
  have run := Outcome.toOption_eq_some.mp accepted
  let literal : IntegerLiteral :=
    ⟨.hexadecimal, ['1', 'F', '_'], ['u', '8'], List.all_iff_forall_prop.mp (by decide),
      ⟨'1', by decide, by decide⟩, Radix.noConfusion, by decide⟩
  have readable : literal.IsReadable := Radix.noConfusion
  have spells : DefaultValue.SpellsInteger negative (-(literal.value : Int)) := .negated literal rfl rfl rfl readable
  have unread : DefaultValue.integer? computed = none := by
    simp only [computed, leaf, DefaultValue.integer?, DefaultValue.render, Option.bind_none]
  exact ⟨descriptor, run, spells, unread, values, ofEnum_followsDiscriminants run⟩

end EnumDescriptor

end Exposure
