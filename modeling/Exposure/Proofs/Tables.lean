import Exposure.Proofs.Markings
import Exposure.Proofs.Wrapping
import Mathlib.Algebra.Order.BigOperators.Group.List
import Mathlib.Algebra.Order.Group.Nat
import Mathlib.Data.List.GetD
import Mathlib.Data.List.Perm.Basic

/-!
# The rows of a table

A row is written in as many lines as its highest cell has. A table that fits its width writes a row without tabs so that
every line shows the lines of its cells side by side (`Report.Table.showsRow_of_fits`). If some lines show a row, then
nothing of it was lost: no cell had markup, a code of an emoji, a dropped control or a tab
(`Report.Table.isLegible_of_showsRow`).
-/

namespace Exposure.Report.Table

open Text (IsMadeOf)
open Text.Width (blanks ofText)

/-- A line shows some texts in their order as they are, with nothing but blanks beside them. -/
inductive Shows : List (List Char) → List Char → Prop
  | nil (count : Nat) : Shows [] (blanks count)
  | cons (count : Nat) (text : List Char) {texts : List (List Char)} {line : List Char} (behind : Shows texts line) :
      Shows (text :: texts) (blanks count ++ text ++ line)

/-- A line of a cell, which is empty behind its last one. -/
def cellLine (index : Nat) (cell : List Char) : List Char := (cellLines cell).getD index []

/-- The number of lines of the highest cell of a row. -/
def height (row : List (List Char)) : Nat := (row.map fun cell => (cellLines cell).length).foldl max 0

/-- Some lines show a row: each of them shows the lines of the cells that stand side by side there. -/
def ShowsRow (row lines : List (List Char)) : Prop :=
  List.Forall₂ (fun index line => Shows (row.map (cellLine index)) line) (List.range (height row)) lines

theorem Shows.before {texts : List (List Char)} {line : List Char} (isShown : Shows texts line) (count : Nat) :
    Shows texts (blanks count ++ line) := by
  have join (others : Nat) : blanks count ++ blanks others = blanks (count + others) := List.replicate_append_replicate
  cases isShown with
  | nil others =>
    rw [join]
    exact .nil _
  | cons others text behind =>
    rw [← List.append_assoc, ← List.append_assoc, join]
    exact .cons _ text behind

/-! The shown characters -/

theorem count_blanks {char : Char} (noBlank : char ≠ ' ') (count : Nat) : (blanks count).count char = 0 := by
  rw [blanks, List.count_replicate, if_neg (by simpa using noBlank.symm)]

theorem Shows.count_eq {texts : List (List Char)} {line : List Char} (isShown : Shows texts line) {char : Char}
    (noBlank : char ≠ ' ') : line.count char = texts.flatten.count char := by
  induction isShown with
  | nil count => exact count_blanks noBlank count
  | cons count text _ step =>
    rw [List.count_append, List.count_append, count_blanks noBlank, step, List.flatten_cons, List.count_append,
      Nat.zero_add]

theorem le_foldl_max {number : Nat} {numbers : List Nat} (member : number ∈ numbers) (start : Nat) :
    number ≤ numbers.foldl max start := by
  have start_le (numbers : List Nat) (start : Nat) : start ≤ numbers.foldl max start := by
    induction numbers generalizing start with
    | nil => exact Nat.le_refl start
    | cons first rest step => exact (Nat.le_max_left start first).trans (step _)
  induction numbers generalizing start with
  | nil => cases member
  | cons first rest step =>
    rcases List.mem_cons.mp member with rfl | member
    · exact (Nat.le_max_right start number).trans (start_le rest _)
    · exact step member _

theorem length_le_height {row : List (List Char)} {cell : List Char} (member : cell ∈ row) :
    (cellLines cell).length ≤ height row :=
  le_foldl_max (List.mem_map_of_mem (f := fun cell => (cellLines cell).length) member) 0

/-- Line after line a cell is read from its lines. -/
theorem flatMap_getD {lines : List (List Char)} {count : Nat} (enough : lines.length ≤ count) :
    ((List.range count).flatMap fun index => lines.getD index []) = lines.flatten := by
  induction count generalizing lines with
  | zero => simp [List.length_eq_zero_iff.mp (Nat.le_zero.mp enough)]
  | succ count step =>
    rw [List.range_succ_eq_map, List.flatMap_cons, List.flatMap_map]
    cases lines with
    | nil => simp
    | cons first rest => simpa using step (Nat.le_of_succ_le_succ enough)

/-- Reading the cells of a row line by line, or cell by cell, comes to the same characters. -/
theorem perm_flatMap_flatten {cell : Type} (indices : List Nat) (cells : List cell) (line : Nat → cell → List Char) :
    (indices.flatMap fun index => (cells.map (line index)).flatten).Perm
      (cells.flatMap fun cell => indices.flatMap fun index => line index cell) := by
  induction cells with
  | nil => simp
  | cons first rest step =>
    simp only [List.map_cons, List.flatten_cons, List.flatMap_cons]
    exact (List.flatMap_append_perm _ _ _).symm.trans (step.append_left _)

theorem ShowsRow.count_eq {row lines : List (List Char)} (isShown : ShowsRow row lines) {char : Char}
    (noBlank : char ≠ ' ') (noBreak : char ≠ '\n') : lines.flatten.count char = row.flatten.count char := by
  have byLines {indices : List Nat} {lines : List (List Char)}
      (each : List.Forall₂ (fun index line => Shows (row.map (cellLine index)) line) indices lines) :
      lines.flatten.count char = (indices.flatMap fun index => (row.map (cellLine index)).flatten).count char := by
    induction each with
    | nil => rfl
    | cons first _ step =>
      rw [List.flatten_cons, List.count_append, first.count_eq noBlank, step, List.flatMap_cons, List.count_append]
  have byCells : (row.flatMap fun cell => (List.range (height row)).flatMap fun index => cellLine index cell) =
      row.flatMap fun cell => (cellLines cell).flatten :=
    List.flatMap_congr fun cell member => flatMap_getD (length_le_height member)
  rw [byLines isShown, (perm_flatMap_flatten _ row cellLine).count_eq, byCells]
  simp only [flatten_cellLines]
  rw [List.flatMap_def, ← List.filter_flatten, List.count_filter (by simpa using noBreak)]

/-! Rows of a table that fits -/

/-- Blanks stand beside every line of a cell, and nothing else. -/
def IsPadded (cell : List Char) (written : List (List Char)) : Prop :=
  List.Forall₂ (fun line padded => ∃ before behind, padded = blanks before ++ line ++ blanks behind)
    (cellLines cell) written

theorem shows_of_isPadded {row : List (List Char)} {written : List (Nat × List (List Char))}
    (each : List.Forall₂ (fun cell pair => IsPadded cell pair.2) row written) (index : Nat) :
    Shows (row.map (cellLine index))
      (written.map fun (width, lines) => lines.getD index (blanks width)).flatten := by
  induction each with
  | nil => exact .nil 0
  | @cons cell pair row written first _ step =>
    simp only [List.map_cons, List.flatten_cons]
    have length := first.length_eq
    rcases Nat.lt_or_ge index (cellLines cell).length with inside | beyond
    · obtain ⟨before, behind, padded⟩ := first.get inside (length ▸ inside)
      rw [cellLine, List.getD_eq_getElem _ _ inside, List.getD_eq_getElem _ _ (length ▸ inside)]
      simp only [List.get_eq_getElem] at padded
      rw [padded, List.append_assoc]
      exact .cons before _ (step.before behind)
    · rw [cellLine, List.getD_eq_default _ _ beyond, List.getD_eq_default _ _ (length ▸ beyond)]
      exact .cons 0 [] (step.before _)

theorem height_of_isPadded {row : List (List Char)} {written : List (Nat × List (List Char))}
    (each : List.Forall₂ (fun cell pair => IsPadded cell pair.2) row written) :
    (written.map fun (_, lines) => lines.length).foldl max 0 = height row := by
  have lengths : (written.map fun (_, lines) => lines.length) = row.map fun cell => (cellLines cell).length := by
    induction each with
    | nil => rfl
    | cons first _ step => rw [List.map_cons, List.map_cons, step, first.length_eq]
  rw [lengths, height]

/-- The number of columns that a column takes with its gap when it is not narrowed. -/
def breadthAt (table : Table) (index : Nat) : Nat :=
  ((table.allRows.map fun row => cellWidth (row.getD index [])).foldl max 0) + gap

/-- No line of a table is wider than a limit, and so no column is narrowed. -/
def Fits (limit : Nat) (table : Table) : Prop :=
  ((List.range table.columns.length).map table.breadthAt).sum ≤ limit

theorem widths_of_fits {limit : Nat} {table : Table} (fits : table.Fits limit) :
    table.widths limit = (List.range table.columns.length).map table.breadthAt := by
  have natural : (List.range table.columns.length).map (naturalWidth limit table) =
      (List.range table.columns.length).map table.breadthAt := by
    refine List.map_congr_left fun index member => Nat.min_eq_right ?_
    exact (List.le_sum_of_mem (List.mem_map_of_mem member)).trans fits
  rw [widths, natural]
  exact if_pos (Nat.sub_eq_zero_of_le fits)

/-- A cell is measured line by line, and its lines end in no blanks that are cut away. -/
structure IsOrdinary (side : Side) (cell : List Char) : Prop where
  breaks : ∀ char ∈ cell, Text.endsLine char → char = '\n'
  ends : ∀ line ∈ cellLines cell, EndsPlainly side line

theorem splitOnP_endsLine {cell : List Char} (breaks : ∀ char ∈ cell, Text.endsLine char → char = '\n') :
    cell.splitOnP Text.endsLine = cellLines cell := by
  rw [cellLines, List.splitOn_eq_splitOnP]
  induction cell with
  | nil => rfl
  | cons char rest step =>
    have same : Text.endsLine char = (char == '\n') := by
      rw [Bool.eq_iff_iff, beq_iff_eq]
      exact ⟨breaks char List.mem_cons_self, fun isBreak => isBreak ▸ rfl⟩
    rw [List.splitOnP_cons_eq_if_modifyHead, List.splitOnP_cons_eq_if_modifyHead, same,
      step fun char member => breaks char (List.mem_cons_of_mem _ member)]

theorem IsOrdinary.ofText_le {side : Side} {cell : List Char} (ordinary : IsOrdinary side cell) {line : List Char}
    (member : line ∈ cellLines cell) : ofText line ≤ cellWidth cell := by
  rw [cellWidth, splitOnP_endsLine ordinary.breaks]
  exact le_foldl_max (List.mem_map_of_mem member) 0

/-- A cell of a row is no wider than its column without its gap. -/
theorem cellWidth_le {table : Table} {row : List (List Char)} (member : row ∈ table.allRows) (index : Nat) :
    cellWidth (row.getD index []) ≤ table.breadthAt index - gap := by
  rw [breadthAt, Nat.add_sub_cancel]
  exact le_foldl_max (List.mem_map_of_mem (f := fun row => cellWidth (row.getD index [])) member) 0

section Fitting

variable {limit : Nat} {table : Table} (fits : table.Fits limit) {row : List (List Char)} (member : row ∈ table.allRows)
  (ordinary : List.Forall₂ (fun column cell => IsOrdinary column.side cell) table.columns row)
  (noTab : ∀ cell ∈ row, '\t' ∉ cell)

include fits member ordinary noTab

theorem isPadded_of_fits : List.Forall₂ (fun cell pair => IsPadded cell pair.2) row
    (((table.columns.zip (table.widths limit)).zip row).map fun ((column, width), cell) =>
      (width, formatCell column width cell)) := by
  have complete := ordinary.length_eq
  have lengths : (table.widths limit).length = table.columns.length := by simp [widths_of_fits fits]
  rw [List.forall₂_iff_get]
  refine ⟨by simp [complete, lengths], fun index inside inside' => ?_⟩
  have isOrdinary := ordinary.get (complete ▸ inside) inside
  have inColumns : index < (table.widths limit).length := by omega
  have width : (table.widths limit)[index] = table.breadthAt index := by simp [widths_of_fits fits]
  have narrow := cellWidth_le member index
  rw [List.getD_eq_getElem _ _ inside] at narrow
  simp only [List.get_eq_getElem, List.getElem_map, List.getElem_zip, width]
  exact formatCell_of_fits (noTab _ (List.getElem_mem inside)) isOrdinary.ends fun line isLine =>
    (isOrdinary.ofText_le isLine).trans narrow

/-- Every line of an ordinary row shows the lines of its cells, if the table fits and the row has no tabs. -/
theorem showsRow_of_fits : ShowsRow row (formatRow (table.columns.zip (table.widths limit)) row) := by
  have padded := isPadded_of_fits fits member ordinary noTab
  rw [formatRow, ShowsRow, height_of_isPadded padded, List.forall₂_map_right_iff, List.forall₂_same]
  exact fun index _ => shows_of_isPadded padded index

end Fitting

theorem flatMap_getD_isMadeOf (lines : List (List Char)) (width count : Nat) :
    IsMadeOf ((List.range count).flatMap fun index => lines.getD index (blanks width)) lines.flatten := by
  induction count generalizing lines with
  | zero => exact .of_sublist (List.nil_sublist _)
  | succ count step =>
    rw [List.range_succ_eq_map, List.flatMap_cons, List.flatMap_map]
    cases lines with
    | nil => simpa using (step []).before width
    | cons first rest => exact (IsMadeOf.refl first).append (by simpa using step rest)

/-- A row has no tabs in its columns, and no other characters than its cells. -/
theorem formatRow_isMadeOf (columns : List (Column × Nat)) (row : List (List Char)) :
    IsMadeOf (formatRow columns row).flatten (row.flatten.filter (· ≠ '\t')) := by
  have inColumns : IsMadeOf
      (((columns.zip row).map fun ((column, width), cell) => (width, formatCell column width cell)).flatMap
        fun pair => pair.2.flatten)
      (row.flatten.filter (· ≠ '\t')) := by
    induction columns generalizing row with
    | nil => exact .of_sublist (List.nil_sublist _)
    | cons column columns step =>
      cases row with
      | nil => exact .of_sublist (List.nil_sublist _)
      | cons cell row =>
        rw [List.flatten_cons, List.filter_append]
        exact (formatCell_isMadeOf column.1 column.2 cell).append (step row)
  rw [formatRow, ← List.flatMap_def]
  exact (IsMadeOf.of_perm (perm_flatMap_flatten _ _ _)).trans
    ((IsMadeOf.flatMap fun (width, lines) _ => flatMap_getD_isMadeOf lines width _).trans inColumns)

/-- The texts of a row are literal and have no tabs. -/
def IsLegible (row : List String) : Prop := ∀ text ∈ row, Markup.IsLiteral text.toList ∧ '\t' ∉ text.toList

section Cells

variable {row : List String} {cells : List (List Char)}
  (areShown : List.Forall₂ (fun text cell => Markup.shown text = .ok cell) row cells)

include areShown

theorem count_cells_le {char : Char} (volatile : Markup.isVolatile char) :
    cells.flatten.count char ≤ (row.flatMap (·.toList)).count char := by
  induction areShown with
  | nil => exact Nat.le_refl 0
  | cons first _ step =>
    rw [List.flatten_cons, List.flatMap_cons, List.count_append, List.count_append]
    exact Nat.add_le_add (Markup.count_shown_le first volatile) step

/-- If together the cells have all marks and controls of their texts, then each cell has all of its text. -/
theorem count_text_le {char : Char} (volatile : Markup.isVolatile char)
    (kept : (row.flatMap (·.toList)).count char ≤ cells.flatten.count char) :
    List.Forall₂ (fun text cell => text.toList.count char ≤ cell.count char) row cells := by
  induction areShown with
  | nil => exact .nil
  | cons first others step =>
    rw [List.flatten_cons, List.flatMap_cons, List.count_append, List.count_append] at kept
    have fewer := Markup.count_shown_le first volatile
    have fewerBehind := count_cells_le others volatile
    exact .cons (by omega) (step (by omega))

/-- Some lines of a table show a row only if its texts have neither markup nor codes, dropped controls or tabs. -/
theorem isLegible_of_showsRow {columns : List (Column × Nat)}
    (isShown : ShowsRow (row.map (·.toList)) (formatRow columns cells)) : IsLegible row := by
  have inCells {char : Char} (noBlank : char ≠ ' ') (noEllipsis : char ≠ '…') (noBreak : char ≠ '\n') :
      (row.flatMap (·.toList)).count char ≤ (cells.flatten.filter (· ≠ '\t')).count char := by
    rw [List.flatMap_def, ← isShown.count_eq noBlank noBreak]
    exact formatRow_isMadeOf columns cells char noBlank noEllipsis
  have kept (char : Char) (volatile : Markup.isVolatile char) :
      (row.flatMap (·.toList)).count char ≤ cells.flatten.count char := by
    have differs {other : Char} (stable : Markup.isVolatile other = false) : char ≠ other := by
      rintro rfl
      rw [volatile] at stable
      cases stable
    exact (inCells (differs (by decide)) (differs (by decide)) (differs (by decide))).trans
      (List.Sublist.count_le char List.filter_sublist)
  have noTabs : '\t' ∉ row.flatMap (·.toList) := by
    have none : (cells.flatten.filter (· ≠ '\t')).count '\t' = 0 := List.count_eq_zero.mpr (by simp)
    exact List.count_eq_zero.mp (Nat.le_zero.mp (none ▸ inCells (by decide) (by decide) (by decide)))
  intro text member
  refine ⟨?_, fun inside => noTabs (List.mem_flatMap.mpr ⟨text, member, inside⟩)⟩
  obtain ⟨index, inside, rfl⟩ := List.mem_iff_getElem.mp member
  have inside' : index < cells.length := areShown.length_eq ▸ inside
  exact Markup.isLiteral_of_shown (areShown.get inside inside') fun char volatile =>
    (count_text_le areShown volatile (kept char volatile)).get inside inside'

theorem eq_of_isLegible (legible : IsLegible row) : cells = row.map (·.toList) := by
  induction areShown with
  | nil => rfl
  | cons first _ step =>
    obtain ⟨⟨literal, -⟩, others⟩ := List.forall_mem_cons.mp legible
    rw [Markup.shown_of_isLiteral literal] at first
    rw [List.map_cons, ← step others, Except.ok.inj first]

end Cells

end Exposure.Report.Table
