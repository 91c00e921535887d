import Exposure.Text.Wrap

namespace Exposure.Report

/-- The side of its column that a cell stands on. -/
inductive Side where
  | left | right
  deriving DecidableEq, Repr

/-- A column has a heading and a side. -/
structure Column where
  heading : String
  side : Side
  deriving DecidableEq, Repr

/-- A table of columns and of rows that have a cell for every column. -/
structure Table where
  columns : List Column
  rows : List (List (List Char))
  deriving Repr

namespace Table

/-- The number of blank columns behind every cell. -/
def gap : Nat := 2

/-- The lines that a cell is written in. -/
def cellLines (cell : List Char) : List (List Char) := cell.splitOn '\n'

/-- The number of columns that a cell takes, with a line for every character that ends one. -/
def cellWidth (cell : List Char) : Nat := ((cell.splitOnP Text.endsLine).map Text.Width.ofText).foldl max 0

/-- The rows with the row of headings. -/
def allRows (table : Table) : List (List (List Char)) := table.columns.map (·.heading.toList) :: table.rows

/-- The width of a column that is not narrowed, with its gap. -/
def naturalWidth (limit : Nat) (table : Table) (index : Nat) : Nat :=
  min limit (((table.allRows.map fun row => cellWidth (row.getD index [])).foldl max 0) + gap)

/-- Half of a whole goes to the even neighbour. -/
def roundDiv (dividend divisor : Nat) : Nat :=
  let quotient := dividend / divisor
  let doubled := 2 * (dividend % divisor)
  if divisor < doubled || (doubled = divisor && quotient % 2 = 1) then quotient + 1 else quotient

/-- Take a total from the widest columns in equal shares of which none exceeds a bound. -/
def takeShares (widest bound : Nat) : Nat → Nat → List Nat → List Nat
  | _, _, [] => []
  | total, count, width :: rest =>
    if width = widest && 0 < count then
      let share := min bound (roundDiv total count)
      (width - share) :: takeShares widest bound (total - share) (count - 1) rest
    else width :: takeShares widest bound total count rest

/-- Narrow the widest columns to the next widest, as often as is needed and the fuel allows. -/
def narrow (limit : Nat) : Nat → List Nat → List Nat
  | 0, widths => widths
  | fuel + 1, widths =>
    let excess := widths.sum - limit
    if excess = 0 then widths
    else
      let widest := widths.foldl max 0
      let next := (widths.filter (· ≠ widest)).foldl max 0
      narrow limit fuel (takeShares widest (min excess (widest - next)) excess (widths.count widest) widths)

/-- The widths of all columns of a table that fits. -/
def widths (limit : Nat) (table : Table) : List Nat :=
  narrow limit (table.columns.length + 1) ((List.range table.columns.length).map (naturalWidth limit table))

/-- Put blanks behind a line that is too short. -/
def fillUp (width : Nat) (line : List Char) : List Char := line ++ Text.Width.blanks (width - Text.Width.ofText line)

/-- Put a line on one side of its column, cut where it is too long; a blank that a joiner hides is made up for. -/
def place (side : Side) (width : Nat) (line : List Char) : List Char :=
  match side with
  | .left => fillUp width (fillUp width (Text.Wrap.truncate width .ellipsis line))
  | .right =>
    let text := Text.Wrap.truncate width .ellipsis (Text.dropTail Text.isBlank line)
    fillUp width (Text.Width.blanks (width - Text.Width.ofText text) ++ text)

/-- The lines of a cell in its column, each with the gap behind it. -/
def formatCell (column : Column) (width : Nat) (cell : List Char) : List (List Char) :=
  ((cellLines cell).flatMap (Text.Wrap.lines (width - gap) .ellipsis)).map fun line =>
    place column.side (width - gap) line ++ Text.Width.blanks gap

/-- The lines of a row, as many as its highest cell has. -/
def formatRow (columns : List (Column × Nat)) (row : List (List Char)) : List (List Char) :=
  let cells := (columns.zip row).map fun ((column, width), cell) => (width, formatCell column width cell)
  let height := (cells.map fun (_, lines) => lines.length).foldl max 0
  (List.range height).map fun index =>
    (cells.map fun (width, lines) => lines.getD index (Text.Width.blanks width)).flatten

/-- The lines of a table that is no wider than a limit. -/
def format (limit : Nat) (table : Table) : List (List Char) :=
  let columns := table.columns.zip (table.widths limit)
  table.allRows.flatMap (formatRow columns)

end Table

end Exposure.Report
