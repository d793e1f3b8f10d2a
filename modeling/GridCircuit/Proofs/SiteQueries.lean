import GridCircuit.Topology.Basic
import Mathlib.Order.Bounds.Image

/-!
# What is asked of a set of sites

A topology keeps its sites in the order of rows, and within a row in that of columns.  Questions
about it make use of this in different ways.  A row is a stretch of the list, found by where it
begins and where it ends; a column is picked from the whole list; the first and the last row are
read off the ends of the list, and only the columns at the sides are looked for.  Here each answer
is told by the members alone (`mem_row`, `mem_column`, `bounds?_eq_some_iff`), and the rows are put
together to the whole again (`flatMap_row_eq_sites`).
-/

namespace GridCircuit

section Prefixes

variable {α : Type} {p : α → Bool} {values : List α}

/-- A condition that holds of whatever precedes a value of which it holds is met by an initial
stretch. -/
theorem takeWhile_eq_filter (hinitial : values.Pairwise fun a b => p b = true → p a = true) :
    values.takeWhile p = values.filter p := by
  induction values with
  | nil => rfl
  | cons a rest ih =>
      obtain ⟨hfirst, hrest⟩ := List.pairwise_cons.mp hinitial
      by_cases ha : p a = true
      · simp [ha, ih hrest]
      · have hnone : rest.filter p = [] :=
          List.filter_eq_nil_iff.mpr fun b hb hholds => ha (hfirst b hb hholds)
        simp [ha, hnone]

/-- What follows this stretch does not meet the condition. -/
theorem dropWhile_eq_filter (hinitial : values.Pairwise fun a b => p b = true → p a = true) :
    values.dropWhile p = values.filter (!p ·) := by
  induction values with
  | nil => rfl
  | cons a rest ih =>
      obtain ⟨hfirst, hrest⟩ := List.pairwise_cons.mp hinitial
      by_cases ha : p a = true
      · simp [ha, ih hrest]
      · have hall : rest.filter (!p ·) = rest :=
          List.filter_eq_self.mpr fun b hb => by
            have hfails : ¬ p b = true := fun hholds => ha (hfirst b hb hholds)
            simpa using hfails
        simp [ha, hall]

end Prefixes

/-- The greater of two 32-bit integers is one of them, and at most what both are at most. -/
instance lawfulOrderMaxInt32 : Std.LawfulOrderMax Int32 where
  max_eq_or a b := by
    by_cases hle : a ≤ b
    · exact .inr (if_pos hle)
    · exact .inl (if_neg hle)
  max_le_iff a b c := by
    have hmax : max a b = if a ≤ b then b else a := rfl
    rw [hmax]
    simp only [Int32.le_iff_toInt_le]
    split <;> omega

namespace Topology

variable {topology other : Topology} {site : Site} {bounds : Bounds}

/-! ## Sets -/

/-- Topologies with the same sites are equal. -/
theorem ext_mem (hmem : ∀ site, site ∈ topology ↔ site ∈ other) : topology = other := by
  obtain ⟨sites, hascending⟩ := topology
  obtain ⟨sites', hascending'⟩ := other
  obtain rfl : sites = sites' := eq_of_ascending hascending hascending' hmem
  rfl

/-- Two lists make the same topology when they have the same members. -/
theorem ofList_eq_ofList_iff {first second : List Site} :
    ofList first = ofList second ↔ ∀ site, site ∈ first ↔ site ∈ second := by
  constructor
  · intro hsame site
    rw [← mem_sites_ofList, hsame, mem_sites_ofList]
  · intro hmem
    exact ext_mem fun site => by rw [mem_def, mem_def, mem_sites_ofList, mem_sites_ofList, hmem]

/-! ## Rows and columns -/

/-- The sites between two coordinates neither precede the first nor follow the last. -/
theorem between_eq_filter (topology : Topology) (first last : Site) :
    topology.between first last =
      topology.sites.filter fun site => ¬ last < site ∧ ¬ site < first := by
  have hbefore : topology.sites.Pairwise fun a b =>
      decide (b < first) = true → decide (a < first) = true := by
    refine topology.ascending.imp fun hless => ?_
    simpa using StrictTotalOrder.trans hless
  have hafter : (topology.sites.filter fun site => !decide (site < first)).Pairwise fun a b =>
      decide (¬ last < b) = true → decide (¬ last < a) = true := by
    refine (topology.ascending.filter _).imp fun hless => ?_
    simpa using mt fun hlast => StrictTotalOrder.trans hlast hless
  rw [between, dropWhile_eq_filter hbefore, takeWhile_eq_filter hafter, List.filter_filter]
  simp

/-- The sites between the ends of a row are those in the row. -/
theorem mem_row {row : Int32} : site ∈ topology.row row ↔ site ∈ topology ∧ site.row = row := by
  rw [Topology.row, between_eq_filter, List.mem_filter, decide_eq_true_eq, mem_def]
  -- no column lies beyond the ends of the row, so only the row of a site is compared
  have hfirst := site.col.minValue_le_toInt
  have hlast := site.col.toInt_le
  simp only [Site.lt_iff_toInt, ← Int32.toInt_inj]
  refine and_congr_right fun _ => ?_
  omega

theorem mem_column {col : Int32} :
    site ∈ topology.column col ↔ site ∈ topology ∧ site.col = col := by
  rw [column, List.mem_filter, decide_eq_true_eq, mem_def]

theorem pairwise_row (topology : Topology) (row : Int32) :
    (topology.row row).Pairwise (· < ·) := by
  rw [Topology.row, between_eq_filter]
  exact topology.ascending.filter _

theorem pairwise_column (topology : Topology) (col : Int32) :
    (topology.column col).Pairwise (· < ·) :=
  topology.ascending.filter _

/-- Rows in ascending order that leave out no site make up the whole. -/
theorem flatMap_row_eq_sites {rows : List Int32} (hascending : rows.Pairwise (· < ·))
    (hrows : ∀ site ∈ topology, site.row ∈ rows) : rows.flatMap topology.row = topology.sites := by
  apply eq_of_ascending
  · rw [List.pairwise_flatMap]
    refine ⟨fun row _ => topology.pairwise_row row, hascending.imp fun {row row'} hless => ?_⟩
    intro site hsite below hbelow
    obtain ⟨-, rfl⟩ := mem_row.mp hsite
    obtain ⟨-, rfl⟩ := mem_row.mp hbelow
    exact .inl hless
  · exact topology.ascending
  · intro site
    rw [List.mem_flatMap]
    constructor
    · rintro ⟨row, -, hsite⟩
      exact (mem_row.mp hsite).1
    · intro hsite
      exact ⟨site.row, hrows site hsite, mem_row.mpr ⟨hsite, rfl⟩⟩

/-! ## Bounds -/

theorem min?_map_eq_some_iff {coordinate : Site → Int32} {value : Int32} :
    (topology.sites.map coordinate).min? = some value ↔
      IsLeast (coordinate '' {site | site ∈ topology}) value := by
  simp [List.min?_eq_some_iff, IsLeast, lowerBounds, mem_def]

theorem max?_map_eq_some_iff {coordinate : Site → Int32} {value : Int32} :
    (topology.sites.map coordinate).max? = some value ↔
      IsGreatest (coordinate '' {site | site ∈ topology}) value := by
  simp [List.max?_eq_some_iff, IsGreatest, upperBounds, mem_def]

/-- Sites are in the order of their rows. -/
theorem row_le_of_lt {a b : Site} (hless : a < b) : a.row ≤ b.row := by
  rw [Int32.le_iff_toInt_le]
  rcases Site.lt_iff_toInt.mp hless with hrow | ⟨hrow, -⟩
  · exact Int.le_of_lt hrow
  · exact Int.le_of_eq hrow

theorem min?_map_row (topology : Topology) :
    (topology.sites.map Site.row).min? = topology.sites.head?.map Site.row := by
  have hascending := topology.ascending
  cases hsites : topology.sites with
  | nil => rfl
  | cons first rest =>
      rw [hsites, List.pairwise_cons] at hascending
      rw [List.head?_cons, Option.map_some, List.min?_eq_some_iff]
      refine ⟨List.mem_map_of_mem List.mem_cons_self, List.forall_mem_map.mpr ?_⟩
      exact List.forall_mem_cons.mpr ⟨Int32.le_refl _, fun site hsite =>
        row_le_of_lt (hascending.1 site hsite)⟩

theorem max?_map_row (topology : Topology) :
    (topology.sites.map Site.row).max? = topology.sites.getLast?.map Site.row := by
  have hascending := topology.ascending
  rcases List.eq_nil_or_concat topology.sites with hsites | ⟨before, last, hsites⟩
  · simp [hsites]
  · rw [List.concat_eq_append] at hsites
    rw [hsites, List.pairwise_append] at hascending
    rw [hsites, List.getLast?_concat, Option.map_some, List.max?_eq_some_iff]
    refine ⟨List.mem_map_of_mem (by simp), List.forall_mem_map.mpr ?_⟩
    refine List.forall_mem_append.mpr ⟨fun site hsite => ?_, ?_⟩
    · exact row_le_of_lt (hascending.2.2 site hsite last (List.mem_singleton_self _))
    · exact List.forall_mem_singleton.mpr (Int32.le_refl _)

/-- Bounds whose sides are the outermost rows and columns that hold a site. -/
structure Bounds.Tight (bounds : Bounds) (topology : Topology) : Prop where
  firstRow : IsLeast (Site.row '' {site | site ∈ topology}) bounds.firstRow
  lastRow : IsGreatest (Site.row '' {site | site ∈ topology}) bounds.lastRow
  firstCol : IsLeast (Site.col '' {site | site ∈ topology}) bounds.firstCol
  lastCol : IsGreatest (Site.col '' {site | site ∈ topology}) bounds.lastCol

/-- The ends of the list give the same rows as looking through all of them. -/
theorem bounds?_eq_bind (topology : Topology) : topology.bounds? =
    (topology.sites.map Site.row).min?.bind fun firstRow =>
      (topology.sites.map Site.row).max?.bind fun lastRow =>
        (topology.sites.map Site.col).min?.bind fun firstCol =>
          (topology.sites.map Site.col).max?.bind fun lastCol =>
            some ⟨firstRow, lastRow, firstCol, lastCol⟩ := by
  rw [bounds?, min?_map_row, max?_map_row]
  cases topology.sites.head? with
  | none => rfl
  | some first => cases topology.sites.getLast? <;> rfl

theorem bounds?_eq_some_iff : topology.bounds? = some bounds ↔ bounds.Tight topology := by
  simp only [bounds?_eq_bind, Option.bind_eq_some_iff, Option.some.injEq, min?_map_eq_some_iff,
    max?_map_eq_some_iff]
  constructor
  · rintro ⟨firstRow, hfirstRow, lastRow, hlastRow, firstCol, hfirstCol, lastCol, hlastCol, rfl⟩
    exact ⟨hfirstRow, hlastRow, hfirstCol, hlastCol⟩
  · intro htight
    exact ⟨_, htight.firstRow, _, htight.lastRow, _, htight.firstCol, _, htight.lastCol, rfl⟩

/-- Only the topology without sites has no bounds. -/
theorem bounds?_eq_none_iff : topology.bounds? = none ↔ ∀ site, site ∉ topology := by
  have hempty : (∀ site, site ∉ topology) ↔ topology.sites = [] :=
    List.eq_nil_iff_forall_not_mem.symm
  rw [hempty, bounds?_eq_bind]
  cases topology.sites with
  | nil => simp
  | cons first rest => simp

/-! ## Queries -/

/-- A topology is the set of its sites, and what is asked of it is answered from this set alone.
Lists make the same topology when they have the same members.  A row and a column list their sites
in ascending order; rows in ascending order, all those there are or any that leave out no site, make
up the whole.  There are bounds unless there are no sites, and they are tight. -/
theorem queries_answer_from_sites :
    (∀ first second : List Site,
      ofList first = ofList second ↔ ∀ site, site ∈ first ↔ site ∈ second) ∧
    ∀ topology : Topology,
      (∀ row, (topology.row row).Pairwise (· < ·) ∧
        ∀ site, site ∈ topology.row row ↔ site ∈ topology ∧ site.row = row) ∧
      (∀ col, (topology.column col).Pairwise (· < ·) ∧
        ∀ site, site ∈ topology.column col ↔ site ∈ topology ∧ site.col = col) ∧
      (∀ rows : List Int32, rows.Pairwise (· < ·) → (∀ site ∈ topology, site.row ∈ rows) →
        rows.flatMap topology.row = topology.sites) ∧
      (topology.bounds? = none ↔ ∀ site, site ∉ topology) ∧
      ∀ bounds, topology.bounds? = some bounds ↔ bounds.Tight topology := by
  refine ⟨fun first second => ofList_eq_ofList_iff, fun topology => ⟨?_, ?_, ?_, ?_, ?_⟩⟩
  · exact fun row => ⟨topology.pairwise_row row, fun site => mem_row⟩
  · exact fun col => ⟨topology.pairwise_column col, fun site => mem_column⟩
  · exact fun rows => flatMap_row_eq_sites
  · exact bounds?_eq_none_iff
  · exact fun bounds => bounds?_eq_some_iff

/-- Sites at the ends of the range of coordinates, out of order and with a repetition. -/
def outermostProbe : List Site :=
  [⟨3, 2147483647⟩, ⟨2147483647, 5⟩, ⟨3, -2147483648⟩, ⟨-2147483648, 5⟩, ⟨3, 2147483647⟩]

/-- The rows of `outermostProbe` with an empty one among them. -/
theorem outermostProbe_rows :
    [-2147483648, 3, 4, 2147483647].flatMap (ofList outermostProbe).row =
      [⟨-2147483648, 5⟩, ⟨3, -2147483648⟩, ⟨3, 2147483647⟩, ⟨2147483647, 5⟩] := by
  obtain ⟨-, -, hrows, -⟩ := queries_answer_from_sites.2 (ofList outermostProbe)
  exact hrows [-2147483648, 3, 4, 2147483647] (by decide) (by decide)

end Topology

end GridCircuit
