import Exposure.Options.Entry
import Mathlib.Computability.RegularExpressions

/-!
# The order of the elements of an override

The kinds of the elements of an override, one behind another, are a word over five letters. `EntryKind.order` is the regular
expression of the words that an override may have. A `Phase` is how far such a word has come, and `Phase.mem_remaining_iff`
says that going from phase to phase accepts exactly the words of the expression.
-/

namespace Exposure

/-- What an element of an override is, whatever it names. -/
inductive EntryKind where
  | slash | star | variadicPositional | variadicKeyword | named
  deriving DecidableEq, Repr

/-- The kind of a form. -/
def EntryForm.kind : EntryForm → EntryKind
  | positionalMarker => .slash
  | keywordMarker => .star
  | variadicPositional _ => .variadicPositional
  | variadicKeyword _ => .variadicKeyword
  | named .. => .named

namespace SignatureEntry

/-- The kind of an element. -/
def kind (entry : SignatureEntry) : EntryKind := entry.form.kind

/-- From a star on, bare or with a name, parameters are passed by name. -/
def isStar (entry : SignatureEntry) : Bool := entry.kind = .star || entry.kind = .variadicPositional

/-- The elements before the star. -/
def beforeStar (entries : List SignatureEntry) : List SignatureEntry := entries.takeWhile (!·.isStar)

/-- The star and the elements behind it. -/
def fromStar (entries : List SignatureEntry) : List SignatureEntry := entries.dropWhile (!·.isStar)

theorem beforeStar_concat (past : List SignatureEntry) (entry : SignatureEntry) :
    beforeStar (past ++ [entry]) =
      beforeStar past ++ if (past.find? isStar).isSome || entry.isStar then [] else [entry] := by
  induction past with
  | nil => cases starred : entry.isStar <;> simp [beforeStar, starred]
  | cons first rest step =>
    cases starred : first.isStar with
    | true => simp [beforeStar, starred]
    | false =>
      rw [beforeStar, beforeStar, List.cons_append, List.takeWhile_cons_of_pos (by simpa using starred),
        List.takeWhile_cons_of_pos (by simpa using starred), List.find?_cons_of_neg (by simpa using starred)]
      exact congrArg (first :: ·) step

theorem fromStar_concat (past : List SignatureEntry) (entry : SignatureEntry) :
    fromStar (past ++ [entry]) =
      fromStar past ++ if (past.find? isStar).isSome || entry.isStar then [entry] else [] := by
  induction past with
  | nil => cases starred : entry.isStar <;> simp [fromStar, starred]
  | cons first rest step =>
    cases starred : first.isStar with
    | true => simp [fromStar, starred]
    | false =>
      rw [fromStar, fromStar, List.cons_append, List.dropWhile_cons_of_pos (by simpa using starred),
        List.dropWhile_cons_of_pos (by simpa using starred), List.find?_cons_of_neg (by simpa using starred)]
      exact step

end SignatureEntry

namespace EntryKind

open RegularExpression (char)

/-- A part that may be missing. -/
def perhaps (part : RegularExpression EntryKind) : RegularExpression EntryKind := part + 1

/-- A part once or more often. -/
def several (part : RegularExpression EntryKind) : RegularExpression EntryKind := part * part.star

/-- Named parameters behind a variadic one, or one at least behind a bare star. -/
def starred : RegularExpression EntryKind :=
  char variadicPositional * (char named).star + char star * several (char named)

/-- What may stand behind the slash. -/
def unslashed : RegularExpression EntryKind :=
  (char named).star * (perhaps starred * perhaps (char variadicKeyword))

/-- The order of the elements of an override: parameters with a slash behind them, if any, further parameters, a star with
what it needs, and the parameter that takes any keywords. -/
def order : RegularExpression EntryKind := perhaps (several (char named) * char slash) * unslashed

end EntryKind

/-- How far the elements of an override have come. -/
inductive Phase where
  | opening | positional | behindSlash | behindBareStar | behindStar | closed
  deriving DecidableEq, Repr

namespace Phase

open EntryKind (order unslashed starred several perhaps)
open RegularExpression (char)

/-- The phase behind one more element, if it may stand there. -/
def next : Phase → EntryKind → Option Phase
  | opening, .named => some positional
  | positional, .named => some positional
  | positional, .slash => some behindSlash
  | behindSlash, .named => some behindSlash
  | behindBareStar, .named => some behindStar
  | behindStar, .named => some behindStar
  | opening, .star => some behindBareStar
  | positional, .star => some behindBareStar
  | behindSlash, .star => some behindBareStar
  | opening, .variadicPositional => some behindStar
  | positional, .variadicPositional => some behindStar
  | behindSlash, .variadicPositional => some behindStar
  | opening, .variadicKeyword => some closed
  | positional, .variadicKeyword => some closed
  | behindSlash, .variadicKeyword => some closed
  | behindStar, .variadicKeyword => some closed
  | _, _ => none

/-- What may stand behind a phase. -/
def remaining : Phase → RegularExpression EntryKind
  | opening => order
  | positional => (char EntryKind.named).star * char EntryKind.slash * unslashed + unslashed
  | behindSlash => unslashed
  | behindBareStar => several (char EntryKind.named) * perhaps (char EntryKind.variadicKeyword)
  | behindStar => (char EntryKind.named).star * perhaps (char EntryKind.variadicKeyword)
  | closed => 1

theorem nil_mem_remaining_iff (phase : Phase) : [] ∈ phase.remaining.matches' ↔ phase ≠ behindBareStar := by
  rw [← RegularExpression.rmatch_iff_matches']
  cases phase <;> decide

/-- What may stand behind a phase is what may stand behind the phase that its first element leads to. -/
theorem cons_mem_remaining_iff (phase : Phase) (first : EntryKind) (rest : List EntryKind) :
    first :: rest ∈ phase.remaining.matches' ↔
      ∃ after, phase.next first = some after ∧ rest ∈ after.remaining.matches' := by
  rw [← RegularExpression.rmatch_iff_matches', RegularExpression.rmatch, RegularExpression.rmatch_iff_matches']
  -- The derivative by an element is, up to the laws of a semiring, what remains of the next phase.
  cases phase <;> cases first <;>
    simp [remaining, next, order, unslashed, starred, several, perhaps, RegularExpression.deriv,
      RegularExpression.matchEpsilon]

/-- Going from phase to phase accepts exactly what may stand behind the first of them. -/
theorem mem_remaining_iff (phase : Phase) (kinds : List EntryKind) :
    kinds ∈ phase.remaining.matches' ↔ ∃ last, kinds.foldlM next phase = some last ∧ last ≠ behindBareStar := by
  induction kinds generalizing phase with
  | nil => simp [nil_mem_remaining_iff]
  | cons first rest step =>
    rw [cons_mem_remaining_iff, List.foldlM_cons]
    cases phase.next first with
    | none => simp
    | some after => simp [step]

/-- Named parameters alone stand in order. -/
theorem replicate_named_mem_order (count : Nat) : List.replicate count EntryKind.named ∈ order.matches' := by
  apply (mem_remaining_iff opening _).mpr
  -- Only the first of them leads to another phase.
  have behindFirst : ∀ more, (List.replicate more EntryKind.named).foldlM next positional = some positional := by
    intro more
    induction more with
    | zero => rfl
    | succ more step => simpa [List.replicate_succ, next] using step
  cases count with
  | zero => exact ⟨opening, rfl, nofun⟩
  | succ more => exact ⟨positional, behindFirst more, nofun⟩

example : [EntryKind.named, .slash, .star, .named, .variadicKeyword] ∈ order.matches' := by decide

end Phase

end Exposure
