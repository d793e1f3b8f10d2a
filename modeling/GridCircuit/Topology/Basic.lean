import GridCircuit.Qubit.Pair

/-!
# Topologies

A topology is the set of sites that exist on a device.  Which sites are neighbours is a matter of
coordinates alone, so the couplers of a topology are the pairs of neighbours in it.
-/

namespace GridCircuit

/-- A set of sites, kept in strictly ascending order. -/
structure Topology where
  sites : List Site
  ascending : sites.Pairwise (· < ·)
  deriving DecidableEq

namespace Topology

/-- The set of some sites. -/
def ofList (sites : List Site) : Topology :=
  ⟨sortDistinct sites, pairwise_sortDistinct sites⟩

@[simp] theorem mem_sites_ofList {site : Site} {sites : List Site} :
    site ∈ (ofList sites).sites ↔ site ∈ sites := mem_sortDistinct

/-- A rectangle of sites whose first corner is the origin. -/
def rectangle (rows cols : Int32) : Topology := ofList (Site.rectangle rows cols)

/-- The number of sites. -/
def size (topology : Topology) : Nat := topology.sites.length

instance : Membership Site Topology := ⟨fun topology site => site ∈ topology.sites⟩

theorem mem_def {site : Site} {topology : Topology} : site ∈ topology ↔ site ∈ topology.sites :=
  Iff.rfl

instance (site : Site) (topology : Topology) : Decidable (site ∈ topology) :=
  inferInstanceAs (Decidable (site ∈ topology.sites))

/-- The steps to the four neighbours of a site: down, up, right and left. -/
def neighborSteps : List (Int × Int) := [(1, 0), (-1, 0), (0, 1), (0, -1)]

/-- The neighbours of a coordinate that exist, in the order of `neighborSteps`. -/
def neighbors (topology : Topology) (site : Site) : List Site :=
  (neighborSteps.filterMap fun step => site.offset? step.1 step.2).filter (· ∈ topology)

/-- The site at a row and a column, if it exists. -/
def at? (topology : Topology) (row col : Int32) : Option Site :=
  if (⟨row, col⟩ : Site) ∈ topology then some ⟨row, col⟩ else none

/-- The sites from a first to a last coordinate, in ascending order. -/
def between (topology : Topology) (first last : Site) : List Site :=
  (topology.sites.dropWhile (· < first)).takeWhile fun site => ¬ last < site

/-- The sites of a row, which stand together in the order of sites. -/
def row (topology : Topology) (row : Int32) : List Site :=
  topology.between ⟨row, Int32.minValue⟩ ⟨row, Int32.maxValue⟩

/-- The sites of a column. -/
def column (topology : Topology) (col : Int32) : List Site :=
  topology.sites.filter (·.col = col)

/-- The neighbours of a site to the right and below, the right one first. -/
def forwardNeighbors (topology : Topology) (site : Site) : List Site :=
  ([(0, 1), (1, 0)].filterMap fun (step : Int × Int) => site.offset? step.1 step.2).filter
    (· ∈ topology)

/-- The couplers, one for every two neighbours, in ascending order. -/
def couplers (topology : Topology) : List QubitPair :=
  topology.sites.flatMap fun site =>
    (topology.forwardNeighbors site).map fun neighbor => ⟨.grid site, .grid neighbor⟩

/-- The first and the last row and column that hold a site. -/
structure Bounds where
  firstRow : Int32
  lastRow : Int32
  firstCol : Int32
  lastCol : Int32
  deriving DecidableEq

/-- The smallest rectangle that holds all sites.  The first and the last row are those of the first
and the last site, the columns are looked through. -/
def bounds? (topology : Topology) : Option Bounds := do
  let first ← topology.sites.head?
  let last ← topology.sites.getLast?
  let cols := topology.sites.map Site.col
  return ⟨first.row, last.row, ← cols.min?, ← cols.max?⟩

end Topology

end GridCircuit
