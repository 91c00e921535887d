import Exposure.Item.Function
import Mathlib.Data.List.Basic

/-!
# Interpreter tokens

A function may take the interpreter token at any place among its parameters. An analysis asks for the parameters that callers
pass and for nothing else, and dropping the first of these, for the module, drops the first of them wherever tokens stand. So
a function has one description with a token and without it, or one fault.
-/

namespace Exposure

/-- A parameter is an interpreter token: its type is a path that ends in the name of that token, whatever arguments stand
behind the name, whatever the parameter is called, and whatever attributes it has. -/
def Parameter.IsInterpreterToken (parameter : Parameter) : Prop :=
  ∃ leading last, parameter.type = some (.path (leading ++ [last])) ∧ last.name = "Python"

namespace Signature

variable {parameters others : List Parameter} {token : Parameter}

theorem visible_cons (first : Parameter) (rest : List Parameter) :
    visible (first :: rest) = visible [first] ++ visible rest :=
  List.filter_append [first] rest

/-- Callers do not pass an interpreter token. -/
theorem visible_token (isToken : token.IsInterpreterToken) : visible [token] = [] := by
  obtain ⟨leading, last, typed, named⟩ := isToken
  have hidden : token.type.any (·.isInterpreterToken) = true := by
    simp [typed, TypeExpr.isInterpreterToken, TypeExpr.isPathTo, TypeExpr.lastSegment?, named]
  simp [visible, hidden]

/-- Wherever a token is inserted, callers pass the same parameters. -/
theorem visible_insertIdx (isToken : token.IsInterpreterToken) (parameters : List Parameter) (index : Nat) :
    visible (parameters.insertIdx index token) = visible parameters := by
  induction parameters generalizing index with
  | nil =>
    cases index with
    | zero => exact visible_token isToken
    | succ => rfl
  | cons first rest step =>
    cases index with
    | zero => rw [List.insertIdx_zero, visible_cons, visible_token isToken, List.nil_append]
    | succ before => rw [List.insertIdx_succ_cons, visible_cons, step, ← visible_cons]

/-- An analysis depends on the parameters that callers pass. -/
theorem analyze_eq_of_visible_eq (same : visible parameters = visible others) (options : Options)
    (owner : Option String) : analyze parameters options owner = analyze others options owner := by
  rw [analyze, analyze, same]

end Signature

open Signature (visible)

namespace CallableDescriptor

/-- Of what callers pass, the first parameter is dropped, whatever stands before it. -/
theorem visible_dropFirstVisible (parameters : List Parameter) :
    visible (dropFirstVisible parameters) = (visible parameters).tail := by
  induction parameters with
  | nil => rfl
  | cons first rest step =>
    have alone : visible [first] = [] ∨ visible [first] = [first] := by
      simp only [visible, List.filter_cons, List.filter_nil]
      split <;> simp
    rw [dropFirstVisible, Signature.visible_cons first rest]
    rcases alone with hidden | passed
    · rw [hidden, if_pos List.isEmpty_nil, Signature.visible_cons, hidden, step, List.nil_append, List.nil_append]
    · rw [passed, if_neg (by simp), List.singleton_append, List.tail_cons]

end CallableDescriptor

namespace FunctionDescriptor

/-- A declaration is described by what callers pass: two parameter lists of which callers pass the same parameters give one
description, or one fault. -/
theorem ofDeclaration_eq_of_visible_eq (item : FunctionItem) {parameters : List Parameter}
    (same : visible parameters = visible item.parameters) (signature : Option (List SignatureEntry)) :
    ofDeclaration { item with parameters := parameters } signature = ofDeclaration item signature := by
  have analysed (passModule : Bool) (options : Options) :
      Signature.analyze (if passModule then CallableDescriptor.dropFirstVisible parameters else parameters) options none =
        Signature.analyze (if passModule then CallableDescriptor.dropFirstVisible item.parameters else item.parameters)
          options none := by
    apply Signature.analyze_eq_of_visible_eq
    cases passModule with
    | false => exact same
    | true => simp only [if_true, CallableDescriptor.visible_dropFirstVisible, same]
  simp only [ofDeclaration, analysed]
  rfl

/-- An interpreter token is invisible: wherever it is inserted among the parameters of a function, the function has the
description that it has without it, or the same fault. -/
theorem ofFunction_insertIdx_token (item : FunctionItem) (options : Options) {token : Parameter}
    (isToken : token.IsInterpreterToken) (index : Nat) :
    ofFunction { item with parameters := item.parameters.insertIdx index token } options = ofFunction item options := by
  have declared := ofDeclaration_eq_of_visible_eq item (Signature.visible_insertIdx isToken item.parameters index)
  simp only [ofFunction, declared]
  rfl

/-- A token with an unreadable stub attribute is invisible between the module and the parameters of a function with an
override, a recorded default text and a trailing optional parameter. -/
theorem ofFunction_insertIdx_token_passModule :
    let leaf (kind : LeafKind) (text : String) : TokenTree := .leaf ⟨kind, text, .start⟩
    let attr (name : String) (trees : List TokenTree) : Attribute := ⟨[name], .arguments trees, .start⟩
    let recorded := attr "gen_stub" [leaf .ident "default", leaf .punctuation "=", leaf .string "\"1\""]
    let parameters : List Parameter := [⟨"m", some (.named "Module"), [], .start⟩,
      ⟨"a", some (.named "i32"), [recorded], .start⟩, ⟨"b", some (.path [.plain "Option" [.named "i32"]]), [], .start⟩]
    let item : FunctionItem :=
      ⟨⟨[attr "pyo3" [leaf .ident "pass_module"]], true, ⟨.start, .start⟩, .start⟩, "f", parameters, none⟩
    let options := { Options.empty with
      signature := some [⟨.named "a" none, .start⟩, ⟨.positionalMarker, .start⟩,
        ⟨.named "b" (some [leaf .ident "None"]), .start⟩] }
    let token : Parameter :=
      ⟨"a", some (.path [.plain "pyo3" [], .plain "Python" [.lifetime "'py"]]), [attr "gen_stub" [leaf .ident "x"]],
        .start⟩
    token.IsInterpreterToken ∧ (ofFunction item options).toOption.isSome = true ∧
      ofFunction { item with parameters := parameters.insertIdx 1 token } options = ofFunction item options := by
  intro leaf attr recorded parameters item options token
  have isToken : token.IsInterpreterToken := ⟨[_], _, rfl, rfl⟩
  exact ⟨isToken, by decide +kernel, ofFunction_insertIdx_token item options isToken 1⟩

end FunctionDescriptor

end Exposure
