import Exposure.Proofs.ElementOrder
import Exposure.Proofs.ParameterList

/-!
# The defaults of an override

A named element of an override gives its parameter a default by an expression, or has one recorded. `SignatureEntry.flags`
tells for each named element whether it gives one, `Signature.Progress.flags` for each described parameter of a group
whether it has one. In both lists the defaults stand last when they do in what the lists are made of.
-/

namespace Exposure

/-- Behind a default there are defaults only. -/
def IsLast (flags : List Bool) : Prop := flags.Pairwise fun before behind => before = true → behind = true

namespace SignatureEntry

/-- The default text that an element gives its parameter. -/
def default? (options : Options) (entry : SignatureEntry) : Option String :=
  match entry.form with
  | .named name expression => Signature.Progress.defaultOf options name expression
  | _ => none

/-- Whether a named element gives its parameter a default. -/
def flag? (options : Options) (entry : SignatureEntry) : Option Bool :=
  if entry.kind = .named then some (entry.default? options).isSome else none

/-- Whether the named elements of a list give their parameters defaults. -/
def flags (options : Options) (entries : List SignatureEntry) : List Bool := entries.filterMap (flag? options)

variable {options : Options} {entry : SignatureEntry}

theorem flag?_of_isStar (starred : entry.isStar = true) : entry.flag? options = none := by
  apply if_neg
  intro named
  simp [isStar, named] at starred

theorem flags_beforeStar_concat (past : List SignatureEntry) (entry : SignatureEntry) :
    flags options (beforeStar (past ++ [entry])) =
      flags options (beforeStar past) ++ if (past.find? isStar).isSome then [] else (entry.flag? options).toList := by
  rw [flags, flags, beforeStar_concat, List.filterMap_append]
  cases starred : entry.isStar with
  | true => simp [flag?_of_isStar starred]
  | false => cases (past.find? isStar).isSome <;> cases flagged : entry.flag? options <;> simp [flagged]

theorem flags_fromStar_concat (past : List SignatureEntry) (entry : SignatureEntry) :
    flags options (fromStar (past ++ [entry])) =
      flags options (fromStar past) ++ if (past.find? isStar).isSome then (entry.flag? options).toList else [] := by
  rw [flags, flags, fromStar_concat, List.filterMap_append]
  cases starred : entry.isStar with
  | true => simp [flag?_of_isStar starred]
  | false => cases (past.find? isStar).isSome <;> cases flagged : entry.flag? options <;> simp [flagged]

/-- A named element gives its parameter a default: an expression of its own, or a recorded text. -/
inductive IsDefaulted (recorded : String → Prop) (entry : SignatureEntry) : Prop
  | written {name : String} {expression : List TokenTree} (form : entry.form = .named name (some expression))
  | recorded {name : String} {expression : Option (List TokenTree)} (form : entry.form = .named name expression)
      (given : recorded name)

/-- A named element gives its parameter no default. -/
def IsRequired (recorded : String → Prop) (entry : SignatureEntry) : Prop :=
  ∃ name, entry.form = .named name none ∧ ¬ recorded name

/-- No required element stands behind one with a default. -/
def DefaultsLast (recorded : String → Prop) (entries : List SignatureEntry) : Prop :=
  entries.Pairwise fun before behind => before.IsDefaulted recorded → ¬ behind.IsRequired recorded

variable {recorded : String → Prop}

theorem flag?_eq_true_iff (records : ∀ name, (options.defaultFor? name).isSome = true ↔ recorded name) :
    entry.flag? options = some true ↔ entry.IsDefaulted recorded := by
  rw [flag?, kind, default?]
  cases form : entry.form with
  | named name expression =>
    cases expression with
    | none =>
      simp only [EntryForm.kind, if_true, Signature.Progress.defaultOf, Option.some.injEq, records]
      constructor
      · exact .recorded form
      · intro isDefaulted
        cases isDefaulted with
        | written same => simp [form] at same
        | recorded same given =>
          simp only [form, EntryForm.named.injEq] at same
          exact same.1 ▸ given
    | some expression =>
      simp only [EntryForm.kind, if_true, Signature.Progress.defaultOf, Option.isSome_some, true_iff]
      exact .written form
  | _ =>
    simp only [EntryForm.kind, reduceCtorEq, if_false, false_iff]
    intro isDefaulted
    cases isDefaulted <;> simp_all

theorem flag?_eq_false_iff (records : ∀ name, (options.defaultFor? name).isSome = true ↔ recorded name) :
    entry.flag? options = some false ↔ entry.IsRequired recorded := by
  rw [flag?, kind, default?, IsRequired]
  cases form : entry.form with
  | named name expression =>
    cases expression <;> simp [EntryForm.kind, Signature.Progress.defaultOf, ← records]
  | _ => simp [EntryForm.kind]

theorem isLast_flags_iff (records : ∀ name, (options.defaultFor? name).isSome = true ↔ recorded name)
    {entries : List SignatureEntry} : IsLast (flags options entries) ↔ DefaultsLast recorded entries := by
  rw [IsLast, flags, DefaultsLast, List.pairwise_filterMap]
  apply iff_of_eq
  congr 1
  funext before behind
  rw [← flag?_eq_true_iff records, ← flag?_eq_false_iff records]
  cases before.flag? options with
  | none => simp
  | some flag => cases flag <;> cases behind.flag? options <;> simp

end SignatureEntry

namespace Signature

/-- Whether the parameters that have been described in a group have defaults. -/
def Progress.flags (progress : Progress) (group : PassingKind → Bool) : List Bool :=
  (progress.described.filter (group ·.passing)).map (·.hasDefault)

open ParameterDescriptor in
theorem isLast_flags_iff {progress : Progress} {group : PassingKind → Bool} :
    IsLast (progress.flags group) ↔ DefaultsFrom group false progress.described := by
  rw [IsLast, Progress.flags, List.pairwise_map, List.pairwise_filter, DefaultsFrom, DefaultsLast]
  simp

end Signature

end Exposure
