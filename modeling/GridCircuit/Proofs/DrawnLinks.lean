import GridCircuit.Proofs.Couplings
import GridCircuit.Proofs.Diagrams

/-!
# The links in a diagram

The links in a diagram make up the coupling graph.  Here they are taken as a reader finds them: at a
place between two cells, with a label on either side (`Place.Joins`).  Nothing but `Frame` and
`ShowsSites` is known of the lines.

## Strategy

A link is drawn when there is a site one step away (`Place.isDrawn_iff`).  It has to lead to the
label of that site, but rows and columns without a site are left out.  There is nothing to leave out
between two integers that are one apart, so the next cell is the right one (`Place.joins_of_step`).

A site has one cell and a place has two ends, so one place at most lies between two labels
(`Place.Joins.place_eq`).
-/

namespace GridCircuit.Topology

variable {topology : Topology}

/-- A place for a link, in the cell of a row and a column of the diagram. -/
inductive Place where
  | right (i k : Nat)
  | below (i k : Nat)

namespace Place

/-- The row and the column of the two labels that a place lies between. -/
def ends : Place → (Nat × Nat) × (Nat × Nat)
  | right i k => ((i, k), (i, k + 1))
  | below i k => ((i, k), (i + 1, k))

/-- The step from a site to its neighbour across a place. -/
def step : Place → Int × Int
  | right _ _ => (0, 1)
  | below _ _ => (1, 0)

theorem step_mem (place : Place) : place.step ∈ [((0 : Int), (1 : Int)), (1, 0)] := by
  cases place <;> simp [step]

theorem ends_injective : Function.Injective ends := by
  intro first second hends
  cases first <;> cases second <;> simp only [ends, Prod.mk.injEq] at hends
  case right.right => rw [hends.1.1, hends.1.2]
  case below.below => rw [hends.1.1, hends.1.2]
  all_goals omega

end Place

/-- The label of a site stands in a cell of some lines. -/
def ShowsLabel (width : Nat) (lines : List (List Char)) (index : Nat × Nat) (site : Site) : Prop :=
  (siteCellAt width lines index.1 index.2).take width = padded width site.label.toList

/-- A link is drawn at a place. -/
def Place.IsDrawn (width : Nat) (lines : List (List Char)) : Place → Prop
  | right i k => (siteCellAt width lines i k).drop width = rightLink
  | below i k => (linkCellAt width lines i k).head? = some downLink

/-- A place lies between the labels of two sites. -/
def Place.Joins (width : Nat) (lines : List (List Char)) (place : Place) (a b : Site) : Prop :=
  ShowsLabel width lines place.ends.1 a ∧ ShowsLabel width lines place.ends.2 b

theorem padded_label_ne_spaces {width count : Nat} {site : Site} :
    padded width site.label.toList ≠ spaces count := by
  intro hsame
  have hmem : 'q' ∈ spaces count := by
    rw [← hsame, padded, Site.toList_label]
    simp
  exact absurd (List.eq_of_mem_replicate hmem) (by decide)

theorem hasSiteAt_iff_exists_stepTo {a : Site} {rows cols : Int} :
    topology.HasSiteAt (a.row.toInt + rows) (a.col.toInt + cols) ↔
      ∃ b ∈ topology, a.stepTo b = (rows, cols) := by
  simp only [HasSiteAt, ← Site.offset?_eq_some_iff, ← Site.offset?_eq_some_iff_stepTo, mem_def]

/-! ## Reading links -/

section Reading

variable {rows columns : List Int32} {width i k : Nat} {lines : List (List Char)} {a b : Site}
  {place : Place}

/-- At most one label stands in a cell. -/
theorem ShowsLabel.site_eq {index : Nat × Nat} (ha : ShowsLabel width lines index a)
    (hb : ShowsLabel width lines index b) : a = b :=
  padded_label_inj.mp (ha.symm.trans hb)

variable (hshows : ShowsSites topology rows columns width lines)

include hshows

/-- Outside of the rows and columns nothing is drawn. -/
theorem ShowsSites.blank_or_exists (i k : Nat) :
    (siteCellAt width lines i k = spaces (width + 3) ∧
        linkCellAt width lines i k = spaces (width + 3)) ∨
      ∃ site : Site, rows[i]? = some site.row ∧ columns[k]? = some site.col := by
  cases hrow : rows[i]? with
  | none =>
      have hlength := hshows.length_eq
      have hi := List.getElem?_eq_none_iff.mp hrow
      left
      constructor
      · rw [siteCellAt, List.getElem?_eq_none (by omega), Option.getD_none, cell_nil]
      · rw [linkCellAt, List.getElem?_eq_none (by omega), Option.getD_none, cell_nil]
  | some row =>
      cases hcol : columns[k]? with
      | none =>
          have hblank (index : Nat) :
              cell (width + 3) (lines[index]?.getD []) k = spaces (width + 3) := by
            cases hline : lines[index]? with
            | none => exact cell_nil _ k
            | some line =>
                exact hshows.blank line (List.mem_of_getElem? hline) k
                  (List.getElem?_eq_none_iff.mp hcol)
          exact .inl ⟨hblank _, hblank _⟩
      | some col => exact .inr ⟨⟨row, col⟩, rfl, rfl⟩

/-- The cells that hold something are those of the sites. -/
theorem ShowsSites.siteCellAt_eq_spaces_or (i k : Nat) :
    siteCellAt width lines i k = spaces (width + 3) ∨
      ∃ a ∈ topology, rows[i]? = some a.row ∧ columns[k]? = some a.col := by
  rcases hshows.blank_or_exists i k with ⟨hblank, -⟩ | ⟨site, hrow, hcol⟩
  · exact .inl hblank
  · by_cases hsite : site ∈ topology
    · exact .inr ⟨site, hsite, hrow, hcol⟩
    · exact .inl (by rw [hshows.siteCellAt_eq i k site hrow hcol, if_neg hsite])

theorem ShowsSites.below_isDrawn_iff : (Place.below i k).IsDrawn width lines ↔
    ∃ a ∈ topology, rows[i]? = some a.row ∧ columns[k]? = some a.col ∧
      topology.HasSiteAt (a.row.toInt + 1) a.col.toInt := by
  have hspaces : (spaces (width + 3)).head? ≠ some downLink := by
    simp [spaces, downLink, List.replicate_succ]
  simp only [Place.IsDrawn]
  constructor
  · intro hdrawn
    rcases hshows.blank_or_exists i k with ⟨-, hblank⟩ | ⟨site, hrow, hcol⟩
    · rw [hblank] at hdrawn
      exact absurd hdrawn hspaces
    · rw [hshows.linkCellAt_eq i k site hrow hcol] at hdrawn
      split at hdrawn
      · rename_i hboth
        exact ⟨site, hboth.1, hrow, hcol, hboth.2⟩
      · exact absurd hdrawn hspaces
  · rintro ⟨a, ha, hrow, hcol, hbelow⟩
    rw [hshows.linkCellAt_eq i k a hrow hcol, if_pos ⟨ha, hbelow⟩, List.head?_cons]

variable (hframe : Frame topology rows columns width)

include hframe

/-- The cell of a site falls into its label and the link on its right. -/
theorem ShowsSites.take_drop_siteCellAt (ha : a ∈ topology) (hrow : rows[i]? = some a.row)
    (hcol : columns[k]? = some a.col) :
    (siteCellAt width lines i k).take width = padded width a.label.toList ∧
    (siteCellAt width lines i k).drop width =
      if topology.HasSiteAt a.row.toInt (a.col.toInt + 1) then rightLink else spaces 3 := by
  have hlength : (padded width a.label.toList).length = width :=
    length_padded (hframe.width_greatest.2 ⟨a, ha, rfl⟩)
  rw [hshows.siteCellAt_eq i k a hrow hcol, if_pos ha]
  exact ⟨List.take_left' hlength, List.drop_left' hlength⟩

/-- A label stands in the one cell of its site. -/
theorem ShowsSites.showsLabel_iff : ShowsLabel width lines (i, k) a ↔
    a ∈ topology ∧ rows[i]? = some a.row ∧ columns[k]? = some a.col := by
  constructor
  · intro hlabel
    rcases hshows.siteCellAt_eq_spaces_or i k with hblank | ⟨site, hsite, hrow, hcol⟩
    · have htake : (spaces (width + 3)).take width = padded width a.label.toList := hblank ▸ hlabel
      rw [spaces, List.take_replicate] at htake
      exact absurd htake.symm padded_label_ne_spaces
    · have hlabel' : ShowsLabel width lines (i, k) site :=
        (hshows.take_drop_siteCellAt hframe hsite hrow hcol).1
      obtain rfl := hlabel'.site_eq hlabel
      exact ⟨hsite, hrow, hcol⟩
  · rintro ⟨ha, hrow, hcol⟩
    exact (hshows.take_drop_siteCellAt hframe ha hrow hcol).1

theorem ShowsSites.right_isDrawn_iff : (Place.right i k).IsDrawn width lines ↔
    ∃ a ∈ topology, rows[i]? = some a.row ∧ columns[k]? = some a.col ∧
      topology.HasSiteAt a.row.toInt (a.col.toInt + 1) := by
  have hne : spaces 3 ≠ rightLink := by decide
  simp only [Place.IsDrawn]
  constructor
  · intro hdrawn
    rcases hshows.siteCellAt_eq_spaces_or i k with hblank | ⟨site, hsite, hrow, hcol⟩
    · rw [hblank, spaces, List.drop_replicate, Nat.add_sub_cancel_left] at hdrawn
      exact absurd hdrawn hne
    · rw [(hshows.take_drop_siteCellAt hframe hsite hrow hcol).2] at hdrawn
      split at hdrawn
      · rename_i hright
        exact ⟨site, hsite, hrow, hcol, hright⟩
      · exact absurd hdrawn hne
  · rintro ⟨a, ha, hrow, hcol, hright⟩
    rw [(hshows.take_drop_siteCellAt hframe ha hrow hcol).2, if_pos hright]

/-- A link is drawn where a label has a neighbour across the place. -/
theorem Place.isDrawn_iff : place.IsDrawn width lines ↔
    ∃ a, ShowsLabel width lines place.ends.1 a ∧ ∃ b ∈ topology, a.stepTo b = place.step := by
  cases place with
  | right i k =>
      simp only [hshows.right_isDrawn_iff hframe, Place.ends, Place.step,
        hshows.showsLabel_iff hframe, ← hasSiteAt_iff_exists_stepTo, Int.add_zero, and_assoc]
  | below i k =>
      simp only [hshows.below_isDrawn_iff, Place.ends, Place.step, hshows.showsLabel_iff hframe,
        ← hasSiteAt_iff_exists_stepTo, Int.add_zero, and_assoc]

/-- Where the label of a site stands at one end of a place, that of its neighbour stands at the
other. -/
theorem Place.joins_of_step (ha : ShowsLabel width lines place.ends.1 a) (hb : b ∈ topology)
    (hstep : a.stepTo b = place.step) : place.Joins width lines a b := by
  refine ⟨ha, ?_⟩
  have hrows := (hframe.mem_rows b.row).mpr ⟨b, hb, rfl⟩
  have hcolumns := (hframe.mem_columns b.col).mpr ⟨b, hb, rfl⟩
  cases place with
  | right i k =>
      obtain ⟨-, hrow, hcol⟩ := (hshows.showsLabel_iff hframe).mp ha
      simp only [Site.stepTo, Place.step, Prod.mk.injEq] at hstep
      have hsame : a.row = b.row := Int32.toInt_inj.mp (by omega)
      exact (hshows.showsLabel_iff hframe).mpr ⟨hb, hsame ▸ hrow,
        getElem?_succ_of_ascending hframe.columns_ascending hcol hcolumns (by omega)⟩
  | below i k =>
      obtain ⟨-, hrow, hcol⟩ := (hshows.showsLabel_iff hframe).mp ha
      simp only [Site.stepTo, Place.step, Prod.mk.injEq] at hstep
      have hsame : a.col = b.col := Int32.toInt_inj.mp (by omega)
      exact (hshows.showsLabel_iff hframe).mpr ⟨hb,
        getElem?_succ_of_ascending hframe.rows_ascending hrow hrows (by omega), hsame ▸ hcol⟩

/-- Every drawn link joins the labels of two neighbouring sites. -/
theorem Place.exists_joins_of_isDrawn (hdrawn : place.IsDrawn width lines) :
    ∃ a ∈ topology, ∃ b ∈ topology, a.Adjacent b ∧ a < b ∧ place.Joins width lines a b := by
  obtain ⟨a, ha, b, hb, hstep⟩ := (Place.isDrawn_iff hshows hframe).mp hdrawn
  obtain ⟨hadjacent, hless⟩ := Site.adjacent_and_lt_iff_stepTo.mpr (hstep ▸ place.step_mem)
  exact ⟨a, ((hshows.showsLabel_iff hframe).mp ha).1, b, hb, hadjacent, hless,
    Place.joins_of_step hshows hframe ha hb hstep⟩

/-- Every two neighbouring sites are joined by a drawn link. -/
theorem Place.exists_of_adjacent (ha : a ∈ topology) (hb : b ∈ topology) (hadjacent : a.Adjacent b)
    (hless : a < b) : ∃ place : Place, place.IsDrawn width lines ∧ place.Joins width lines a b := by
  obtain ⟨i, hrow⟩ := List.getElem?_of_mem ((hframe.mem_rows a.row).mpr ⟨a, ha, rfl⟩)
  obtain ⟨k, hcol⟩ := List.getElem?_of_mem ((hframe.mem_columns a.col).mpr ⟨a, ha, rfl⟩)
  have hlabel : ShowsLabel width lines (i, k) a :=
    (hshows.showsLabel_iff hframe).mpr ⟨ha, hrow, hcol⟩
  have hdraw (place : Place) (hend : place.ends.1 = (i, k)) (hstep : a.stepTo b = place.step) :
      place.IsDrawn width lines ∧ place.Joins width lines a b :=
    ⟨(Place.isDrawn_iff hshows hframe).mpr ⟨a, hend ▸ hlabel, b, hb, hstep⟩,
      Place.joins_of_step hshows hframe (hend ▸ hlabel) hb hstep⟩
  have hsteps := Site.adjacent_and_lt_iff_stepTo.mp ⟨hadjacent, hless⟩
  rcases List.mem_cons.mp hsteps with hright | hbelow
  · exact ⟨_, hdraw (.right i k) rfl hright⟩
  · exact ⟨_, hdraw (.below i k) rfl (List.mem_singleton.mp hbelow)⟩

/-- A label stands in one cell at most. -/
theorem ShowsSites.index_eq {first second : Nat × Nat} (hfirst : ShowsLabel width lines first a)
    (hsecond : ShowsLabel width lines second a) : first = second := by
  obtain ⟨-, hrow, hcol⟩ := (hshows.showsLabel_iff hframe).mp hfirst
  obtain ⟨-, hrow', hcol'⟩ := (hshows.showsLabel_iff hframe).mp hsecond
  refine Prod.ext ?_ ?_
  · exact (List.getElem?_inj (List.getElem?_eq_some_iff.mp hrow).1
      (nodup_of_ascending hframe.rows_ascending)).mp (hrow.trans hrow'.symm)
  · exact (List.getElem?_inj (List.getElem?_eq_some_iff.mp hcol).1
      (nodup_of_ascending hframe.columns_ascending)).mp (hcol.trans hcol'.symm)

/-- A place is known by the labels that it lies between. -/
theorem Place.Joins.place_eq {place' : Place} (hjoins : place.Joins width lines a b)
    (hjoins' : place'.Joins width lines a b) : place = place' :=
  Place.ends_injective <| Prod.ext (hshows.index_eq hframe hjoins.1 hjoins'.1)
    (hshows.index_eq hframe hjoins.2 hjoins'.2)

end Reading

/-- The diagram draws the coupling graph.  It shows every site in the cell of its row and column and
a link to each neighbour.  Every drawn link joins the labels of two neighbouring sites, and for
every coupler exactly one link is drawn that joins its ends. -/
theorem diagram_draws_couplings (topology : Topology) (hsome : topology.sites ≠ []) :
    Frame topology topology.rows topology.columns topology.labelWidth ∧
    ShowsSites topology topology.rows topology.columns topology.labelWidth
      topology.printedLines ∧
    (∀ place : Place, place.IsDrawn topology.labelWidth topology.printedLines →
      ∃ a ∈ topology, ∃ b ∈ topology, a.Adjacent b ∧
        place.Joins topology.labelWidth topology.printedLines a b) ∧
    ∀ pair ∈ topology.couplers, ∃! place : Place,
      place.IsDrawn topology.labelWidth topology.printedLines ∧
        ∃ a b, QubitPair.of (.grid a) (.grid b) = .ok pair ∧
          place.Joins topology.labelWidth topology.printedLines a b := by
  have hframe := frame hsome
  have hshows := showsSites_printedLines hsome
  refine ⟨hframe, hshows, fun place hdrawn => ?_, fun pair hpair => ?_⟩
  · obtain ⟨a, ha, b, hb, hadjacent, -, hjoins⟩ :=
      Place.exists_joins_of_isDrawn hshows hframe hdrawn
    exact ⟨a, ha, b, hb, hadjacent, hjoins⟩
  · obtain ⟨a, ha, b, hb, hadjacent, hless, rfl⟩ := mem_couplers_iff_lt.mp hpair
    have hof : QubitPair.of (.grid a) (.grid b) = .ok ⟨.grid a, .grid b⟩ :=
      QubitPair.of_eq_ok_iff.mpr (.inl ⟨Qubit.lt_grid.mpr hless, rfl⟩)
    obtain ⟨place, hdrawn, hjoins⟩ :=
      Place.exists_of_adjacent hshows hframe ha hb hadjacent hless
    refine ⟨place, ⟨hdrawn, a, b, hof, hjoins⟩, ?_⟩
    rintro other ⟨hdrawn', c, d, hpair', hjoins'⟩
    -- links lead to the right or down, so the ends come in order
    obtain ⟨p, -, q, -, -, hpq, hends⟩ := Place.exists_joins_of_isDrawn hshows hframe hdrawn'
    obtain rfl := hends.1.site_eq hjoins'.1
    obtain rfl := hends.2.site_eq hjoins'.2
    rw [QubitPair.of_eq_ok_iff.mpr (.inl ⟨Qubit.lt_grid.mpr hpq, rfl⟩)] at hpair'
    simp only [Except.ok.injEq, QubitPair.mk.injEq, Qubit.grid.injEq] at hpair'
    obtain ⟨rfl, rfl⟩ := hpair'
    exact hends.place_eq hshows hframe hjoins

/-- Three sites in the last corner of the grid, and one far away from them. -/
def lastCorner : Topology :=
  .ofList [⟨2147483647, 2147483646⟩, ⟨2147483647, 2147483647⟩, ⟨2147483646, 2147483647⟩, ⟨0, -1⟩]

theorem lastCorner_diagram_draws_couplings :
    lastCorner.sites ≠ [] ∧ lastCorner.couplers.length = 2 ∧
    ShowsSites lastCorner [0, 2147483646, 2147483647] [-1, 2147483646, 2147483647] 25
      lastCorner.printedLines ∧
    ∀ pair ∈ lastCorner.couplers, ∃! place : Place,
      place.IsDrawn 25 lastCorner.printedLines ∧
        ∃ a b, QubitPair.of (.grid a) (.grid b) = .ok pair ∧
          place.Joins 25 lastCorner.printedLines a b := by
  have hsome : lastCorner.sites ≠ [] := by decide
  have hrows : lastCorner.rows = [0, 2147483646, 2147483647] := by decide
  have hcolumns : lastCorner.columns = [-1, 2147483646, 2147483647] := by decide
  have hwidth : lastCorner.labelWidth = 25 := by decide
  obtain ⟨-, hshows, -, honce⟩ := diagram_draws_couplings lastCorner hsome
  rw [hrows, hcolumns, hwidth] at hshows
  rw [hwidth] at honce
  exact ⟨hsome, by decide, hshows, honce⟩

end GridCircuit.Topology
