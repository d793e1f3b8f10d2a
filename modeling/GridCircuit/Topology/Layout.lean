import GridCircuit.Text.Alphanumeric
import GridCircuit.Text.Basic
import GridCircuit.Topology.Basic

/-!
# Topologies drawn in text

In a drawing every letter or digit is a site.  Its column is its position in the line and its row
is the number of lines from the first line that is not blank; blank lines at the two ends do not
count.
-/

namespace GridCircuit.Topology

/-- Whether a line shows nothing. -/
def isBlankLine (line : List Char) : Bool := line.all Text.isBlank

/-- The lines of a drawing without the blank lines at its two ends. -/
def drawnLines (drawing : List Char) : List (List Char) :=
  (((Text.lines drawing).dropWhile isBlankLine).reverse.dropWhile isBlankLine).reverse

/-- The sites of a line from a column on. -/
def sitesOfLine (row : Nat) : Nat → List Char → List Site
  | _, [] => []
  | col, c :: rest =>
    if Text.isAlphanumeric c then
      ⟨Int32.ofNat row, Int32.ofNat col⟩ :: sitesOfLine row (col + 1) rest
    else sitesOfLine row (col + 1) rest

/-- The sites of lines from a row on. -/
def sitesOfLines : Nat → List (List Char) → List Site
  | _, [] => []
  | row, line :: rest => sitesOfLine row 0 line ++ sitesOfLines (row + 1) rest

/-- The topology that a drawing shows. -/
def ofDrawing (drawing : String) : Topology :=
  ofList (sitesOfLines 0 (drawnLines drawing.toList))

end GridCircuit.Topology
