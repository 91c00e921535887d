namespace Exposure.Text

/-- The characters that count as blank at the ends of a text. -/
def isBlank (char : Char) : Bool :=
  let code := char.toNat
  (9 ≤ code && code ≤ 13) || (28 ≤ code && code ≤ 32) || code = 0x85 || code = 0xA0 || code = 0x1680 ||
    (0x2000 ≤ code && code ≤ 0x200A) || code = 0x2028 || code = 0x2029 || code = 0x202F || code = 0x205F ||
    code = 0x3000

/-- A character ends a line when the lines of a text are measured. -/
def endsLine (char : Char) : Bool :=
  let code := char.toNat
  (10 ≤ code && code ≤ 13) || (28 ≤ code && code ≤ 30) || code = 0x85 || code = 0x2028 || code = 0x2029

/-- Drop the elements of one kind from the end of a list. -/
def dropTail {element : Type} (kind : element → Bool) (elements : List element) : List element :=
  (elements.reverse.dropWhile kind).reverse

/-- Drop the elements of one kind from both ends of a list. -/
def trimEnds {element : Type} (kind : element → Bool) (elements : List element) : List element :=
  dropTail kind (elements.dropWhile kind)

/-- Drop the blanks at both ends of a text. -/
def trim (text : String) : String := String.ofList (trimEnds isBlank text.toList)

/-- The words of a text between its blanks. -/
def wordsOf (text : List Char) : List (List Char) := (text.splitOnP isBlank).filter (!·.isEmpty)

/-- Cut a text at every occurrence of a character. -/
def splitAt (separator : Char) (text : String) : List String := (text.toList.splitOn separator).map String.ofList

end Exposure.Text
