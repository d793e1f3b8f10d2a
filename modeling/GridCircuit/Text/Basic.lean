/-!
# Characters and lines

A property of characters is given as a table of code point ranges, both ends included.  The blank
characters are the 25 with the Unicode property White_Space.

A line ends with a line feed, before which one carriage return is dropped.  What follows the last
line feed is a line too, unless it is empty.
-/

namespace GridCircuit.Text

/-- Whether a character is in one of some ranges of code points. -/
def inRanges (ranges : List (Nat × Nat)) (c : Char) : Bool :=
  ranges.any fun range => range.1 ≤ c.toNat && c.toNat ≤ range.2

/-! ### Blanks -/

/-- The code points with the property White_Space. -/
def blankRanges : List (Nat × Nat) :=
  [(0x9, 0xD), (0x20, 0x20), (0x85, 0x85), (0xA0, 0xA0), (0x1680, 0x1680), (0x2000, 0x200A),
    (0x2028, 0x2029), (0x202F, 0x202F), (0x205F, 0x205F), (0x3000, 0x3000)]

/-- Whether a character has the property White_Space. -/
def isBlank (c : Char) : Bool := inRanges blankRanges c

/-- A text without the blanks at its end. -/
def trimRight (text : List Char) : List Char :=
  (text.reverse.dropWhile isBlank).reverse

/-- A text without the blanks at its two ends. -/
def trim (text : List Char) : List Char :=
  trimRight (text.dropWhile isBlank)

/-! ### Lines -/

/-- Drops the carriage return before a line feed. -/
def dropReturn (line : List Char) : List Char :=
  if line.getLast? = some '\r' then line.dropLast else line

/-- The lines of a text that continues the line `current`, which is held in reverse. -/
def linesAfter (current : List Char) : List Char → List (List Char)
  | [] => if current.isEmpty then [] else [current.reverse]
  | c :: rest =>
    if c = '\n' then dropReturn current.reverse :: linesAfter [] rest
    else linesAfter (c :: current) rest

/-- The lines of a text. -/
def lines (text : List Char) : List (List Char) := linesAfter [] text

end GridCircuit.Text
