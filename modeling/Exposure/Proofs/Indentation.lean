import Exposure.Fragment.Layout
import Mathlib.Data.List.Basic
import Mathlib.Data.List.TakeWhile

/-!
Tidy layouts can be told from their texts: no line feed stands in a line, a line ends with a comma where a block does not
begin with one, and what closes a block is not indented as its inside is.
-/

namespace Exposure.Fragment.Layout

/-- A text that is one line. -/
def IsLine (text : String) : Prop := '\n' ∉ text.toList

instance (text : String) : Decidable (IsLine text) := inferInstanceAs (Decidable ('\n' ∉ text.toList))

namespace IsLine

theorem append {one two : String} (ofOne : IsLine one) (ofTwo : IsLine two) : IsLine (one ++ two) := by
  rw [IsLine, String.toList_append, List.mem_append, not_or]
  exact ⟨ofOne, ofTwo⟩

theorem intercalate {separator : String} (ofSeparator : IsLine separator) {texts : List String}
    (each : ∀ text ∈ texts, IsLine text) : IsLine (separator.intercalate texts) := by
  induction texts with
  | nil => exact List.not_mem_nil
  | cons first rest step =>
    obtain ⟨ofFirst, ofRest⟩ := List.forall_mem_cons.mp each
    cases rest with
    | nil =>
      rw [String.intercalate_singleton]
      exact ofFirst
    | cons second others =>
      rw [String.intercalate_cons_cons]
      exact (ofFirst.append ofSeparator).append (step ofRest)

end IsLine

mutual

/-- The lines of a layout are lines indeed; single lines end with commas, openings of blocks do not, and closings do not
begin with blanks. -/
def IsTidy : Layout → Prop
  | line text => IsLine text ∧ text.toList.getLast? = some ','
  | block opening inside closing =>
    (IsLine opening ∧ opening.toList.getLast? ≠ some ',') ∧ (IsLine closing ∧ closing.toList.head? ≠ some ' ') ∧
      AllTidy inside

/-- Every layout of a list is tidy. -/
def AllTidy : List Layout → Prop
  | [] => True
  | first :: rest => first.IsTidy ∧ AllTidy rest

end

theorem allTidy_iff {layouts : List Layout} : AllTidy layouts ↔ ∀ layout ∈ layouts, layout.IsTidy := by
  induction layouts with
  | nil => simp [AllTidy]
  | cons first rest step => simp [AllTidy, step]

theorem AllTidy.append {one two : List Layout} (ofOne : AllTidy one) (ofTwo : AllTidy two) : AllTidy (one ++ two) :=
  allTidy_iff.mpr (List.forall_mem_append.mpr ⟨allTidy_iff.mp ofOne, allTidy_iff.mp ofTwo⟩)

/-! From lines to layouts -/

theorem indent_injective : Function.Injective indent := fun _ _ same => (String.append_right_inj _).mp same

/-- A line that begins with a blank, as an indented one does. -/
def beginsBlank (line : String) : Bool := line.toList.head? = some ' '

theorem beginsBlank_indent (line : String) : beginsBlank (indent line) = true := by
  have blanks : "    ".toList = [' ', ' ', ' ', ' '] := rfl
  rw [beginsBlank, indent, String.toList_append, blanks]
  rfl

/-- Indented lines end where a line begins without a blank. -/
theorem indented_unique {one two rest rest' : List String} {stop stop' : String} (ofStop : beginsBlank stop = false)
    (ofStop' : beginsBlank stop' = false) (same : one.map indent ++ stop :: rest = two.map indent ++ stop' :: rest') :
    one = two ∧ stop = stop' ∧ rest = rest' := by
  have taken (lines others : List String) {last : String} (ofLast : beginsBlank last = false) :
      (lines.map indent ++ last :: others).takeWhile beginsBlank = lines.map indent := by
    rw [List.takeWhile_append_of_pos (List.forall_mem_map.mpr fun line _ => beginsBlank_indent line),
      List.takeWhile_cons_of_neg (by simp [ofLast]), List.append_nil]
  have fronts := congrArg (List.takeWhile beginsBlank) same
  rw [taken one rest ofStop, taken two rest' ofStop'] at fronts
  rw [fronts, List.append_cancel_left_eq] at same
  obtain ⟨stops, rests⟩ := List.cons.inj same
  exact ⟨indent_injective.list_map fronts, stops, rests⟩

mutual

/-- A tidy layout can be told from its lines, whatever lines follow. -/
theorem lines_unique {rest rest' : List String} : (one two : Layout) → one.IsTidy → two.IsTidy →
    one.lines ++ rest = two.lines ++ rest' → one = two ∧ rest = rest'
  | line text, line text', _, _, same => by
    obtain ⟨texts, rests⟩ := List.cons.inj same
    exact ⟨congrArg line texts, rests⟩
  | line text, block opening inside closing, tidy, tidy', same => by
    obtain ⟨texts, -⟩ := List.cons.inj same
    exact absurd (texts ▸ tidy.2) tidy'.1.2
  | block opening inside closing, line text, tidy, tidy', same => by
    obtain ⟨texts, -⟩ := List.cons.inj same
    exact absurd (texts ▸ tidy'.2) tidy.1.2
  | block opening inside closing, block opening' inside' closing', tidy, tidy', same => by
    simp only [lines, List.cons_append, List.append_assoc, List.nil_append] at same
    obtain ⟨openings, others⟩ := List.cons.inj same
    have noBlank : beginsBlank closing = false := decide_eq_false tidy.2.1.2
    have noBlank' : beginsBlank closing' = false := decide_eq_false tidy'.2.1.2
    obtain ⟨insides, closings, rests⟩ := indented_unique noBlank noBlank' others
    rw [openings, closings, linesOfAll_unique inside inside' tidy.2.2 tidy'.2.2 insides]
    exact ⟨rfl, rests⟩

/-- Tidy layouts can be told from their lines. -/
theorem linesOfAll_unique : (one two : List Layout) → AllTidy one → AllTidy two → linesOfAll one = linesOfAll two →
    one = two
  | [], [], _, _, _ => rfl
  | [], first :: rest, _, _, same => by
    cases first <;> cases same
  | first :: rest, [], _, _, same => by
    cases first <;> cases same
  | first :: rest, first' :: rest', tidy, tidy', same => by
    obtain ⟨firsts, rests⟩ := lines_unique first first' tidy.1 tidy'.1 same
    rw [firsts, linesOfAll_unique rest rest' tidy.2 tidy'.2 rests]

end

/-! From texts to lines -/

mutual

theorem isLine_of_lines : (layout : Layout) → layout.IsTidy → ∀ text ∈ layout.lines, IsLine text
  | line text, tidy => List.forall_mem_singleton.mpr tidy.1
  | block opening inside closing, tidy => by
    refine List.forall_mem_cons.mpr ⟨tidy.1.1, List.forall_mem_append.mpr ⟨List.forall_mem_map.mpr ?_, ?_⟩⟩
    · intro text member
      exact IsLine.append (by decide) (isLine_of_linesOfAll inside tidy.2.2 text member)
    · exact List.forall_mem_singleton.mpr tidy.2.1.1

theorem isLine_of_linesOfAll : (layouts : List Layout) → AllTidy layouts → ∀ text ∈ linesOfAll layouts, IsLine text
  | [], _ => nofun
  | first :: rest, tidy =>
    List.forall_mem_append.mpr ⟨isLine_of_lines first tidy.1, isLine_of_linesOfAll rest tidy.2⟩

end

/-- The first line of a text ends with its first line feed. -/
theorem firstLine_unique {line line' rest rest' : List Char} (isLine : '\n' ∉ line) (isLine' : '\n' ∉ line')
    (same : line ++ '\n' :: rest = line' ++ '\n' :: rest') : line = line' ∧ rest = rest' := by
  have taken {front : List Char} (isLine : '\n' ∉ front) (behind : List Char) :
      (front ++ '\n' :: behind).takeWhile (· != '\n') = front := by
    have proper : ∀ char ∈ front, (char != '\n') = true := fun char member =>
      bne_iff_ne.mpr fun feed => isLine (feed ▸ member)
    rw [List.takeWhile_append_of_pos proper, List.takeWhile_cons_of_neg (by decide), List.append_nil]
  have lines := congrArg (List.takeWhile (· != '\n')) same
  rw [taken isLine, taken isLine'] at lines
  rw [lines, List.append_cancel_left_eq] at same
  exact ⟨lines, (List.cons.inj same).2⟩

/-- Lines that end with a line feed each can be told from their text. -/
theorem feeds_unique {one two : List String} (ofOne : ∀ text ∈ one, IsLine text) (ofTwo : ∀ text ∈ two, IsLine text)
    (same : (one.flatMap fun text => text.toList ++ ['\n']) = two.flatMap fun text => text.toList ++ ['\n']) :
    one = two := by
  induction one generalizing two with
  | nil =>
    cases two with
    | nil => rfl
    | cons first rest => simp at same
  | cons first rest step =>
    cases two with
    | nil => simp at same
    | cons first' rest' =>
      obtain ⟨ofFirst, ofRest⟩ := List.forall_mem_cons.mp ofOne
      obtain ⟨ofFirst', ofRest'⟩ := List.forall_mem_cons.mp ofTwo
      simp only [List.flatMap_cons, List.append_assoc, List.singleton_append] at same
      obtain ⟨firsts, rests⟩ := firstLine_unique ofFirst ofFirst' same
      rw [String.toList_inj.mp firsts, step ofRest ofRest' rests]

theorem toList_text (layout : Layout) : layout.text.toList = layout.lines.flatMap fun text => text.toList ++ ['\n'] := by
  have joined (first : String) (rest : List String) : ("\n".intercalate (first :: rest) ++ "\n").toList =
      (first :: rest).flatMap fun text => text.toList ++ ['\n'] := by
    induction rest generalizing first with
    | nil => simp
    | cons second others step =>
      have further := step second
      rw [String.toList_append] at further
      rw [String.intercalate_cons_cons, List.flatMap_cons, ← further]
      simp
  rw [text]
  cases layout with
  | line text => exact joined text []
  | block opening inside closing => exact joined opening _

/-- Tidy layouts of one text are the same. -/
theorem text_unique {one two : Layout} (ofOne : one.IsTidy) (ofTwo : two.IsTidy) (same : one.text = two.text) :
    one = two := by
  have feeds := congrArg String.toList same
  rw [toList_text, toList_text] at feeds
  have lines := feeds_unique (isLine_of_lines one ofOne) (isLine_of_lines two ofTwo) feeds
  exact (lines_unique one two ofOne ofTwo (congrArg (· ++ []) lines)).1

end Exposure.Fragment.Layout
