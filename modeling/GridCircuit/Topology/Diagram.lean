import GridCircuit.Text.Basic
import GridCircuit.Topology.Basic

/-!
# Diagrams of topologies

A diagram writes every site into a cell of its own and draws a line to its neighbours on the right
and below.  Rows and columns that hold no site are left out, which cannot separate neighbours,
since the neighbours of a site lie in the next row or column.
-/

namespace GridCircuit.Topology

/-- The link to the neighbour on the right. -/
def rightLink : List Char := ['─', '─', '─']

/-- The link to the neighbour below. -/
def downLink : Char := '│'

/-- A number of spaces. -/
def spaces (count : Nat) : List Char := List.replicate count ' '

/-- Fills a text with spaces up to a width. -/
def padded (width : Nat) (text : List Char) : List Char :=
  text ++ spaces (width - text.length)

/-- The rows that hold a site, in ascending order. -/
def rows (topology : Topology) : List Int32 :=
  sortDistinct (topology.sites.map Site.row)

/-- The columns that hold a site, in ascending order. -/
def columns (topology : Topology) : List Int32 :=
  sortDistinct (topology.sites.map Site.col)

/-- The length of the longest label. -/
def labelWidth (topology : Topology) : Nat :=
  (topology.sites.map fun site => site.label.length).foldl max 0

/-- Whether the site some rows and columns away exists. -/
def hasAt (topology : Topology) (site : Site) (rows cols : Int) : Bool :=
  match site.offset? rows cols with
  | some neighbor => neighbor ∈ topology
  | none => false

/-- A cell of a line of sites: the label, filled up to a width, and the link to the right. -/
def siteCell (topology : Topology) (width : Nat) (row col : Int32) : List Char :=
  match topology.at? row col with
  | none => spaces (width + rightLink.length)
  | some site =>
    padded width site.label.toList ++
      if topology.hasAt site 0 1 then rightLink else spaces rightLink.length

/-- A cell of a line of links: the link to the site below. -/
def linkCell (topology : Topology) (width : Nat) (row col : Int32) : List Char :=
  let cellWidth := width + rightLink.length
  match topology.at? row col with
  | none => spaces cellWidth
  | some site =>
    if topology.hasAt site 1 0 then padded cellWidth [downLink] else spaces cellWidth

/-- The line of the sites of a row. -/
def siteLine (topology : Topology) (width : Nat) (row : Int32) : List Char :=
  Text.trimRight (topology.columns.flatMap (topology.siteCell width row))

/-- The line of the links below a row. -/
def linkLine (topology : Topology) (width : Nat) (row : Int32) : List Char :=
  Text.trimRight (topology.columns.flatMap (topology.linkCell width row))

/-- The lines of some rows, with lines of links between them. -/
def diagramLines (topology : Topology) (width : Nat) : List Int32 → List (List Char)
  | [] => []
  | [row] => [topology.siteLine width row]
  | row :: rest =>
    topology.siteLine width row :: topology.linkLine width row ::
      topology.diagramLines width rest

/-- The diagram of a topology. -/
def diagram (topology : Topology) : String :=
  let lines := topology.diagramLines topology.labelWidth topology.rows
  "\n".intercalate (lines.map String.ofList)

end GridCircuit.Topology
