import Exposure.Text.Blank

namespace Exposure.Fragment

/-- Lines of code: one line, or lines that stand indented between an opening and a closing line. -/
inductive Layout where
  | line (text : String)
  | block (opening : String) (inside : List Layout) (closing : String)
  deriving Repr

namespace Layout

/-- Indent a line by one level. -/
def indent (line : String) : String := "    " ++ line

mutual

/-- The lines of a layout. -/
def lines : Layout → List String
  | line text => [text]
  | block opening inside closing => opening :: (linesOfAll inside).map indent ++ [closing]

/-- The lines of layouts that follow each other. -/
def linesOfAll : List Layout → List String
  | [] => []
  | first :: rest => first.lines ++ linesOfAll rest

end

/-- The text of a layout, of which every line ends with a line feed. -/
def text (layout : Layout) : String := "\n".intercalate layout.lines ++ "\n"

end Layout

end Exposure.Fragment
