import GridCircuit.Proofs.Cells
import Mathlib.Order.Bounds.Basic

/-!
# What a diagram shows

A diagram is read cell by cell.  Line `2 * i` holds the labels of a row and the links between them,
line `2 * i + 1` the links to the next row.  `Frame` says which rows and columns have lines and
cells, and how wide the labels are; `ShowsSites` says what stands in every cell.

## Strategy

The lines of the text are those that the diagram was put together from, since no cell holds a line
feed (`printedLines_eq`), and their cells are the ones that were written (`ShowsCells`).  So the
diagram shows every site, the link on its right and the link below it (`showsSites_printedLines`).
No line follows the last row.  No link is missed there, since the row below would hold a site and
have a line (`Frame.row_lt`).
-/

namespace GridCircuit

/-- Nothing lies between an integer and its successor. -/
theorem getElem?_succ_of_ascending {values : List Int32} {k : Nat} {a b : Int32}
    (hascending : values.Pairwise (· < ·)) (ha : values[k]? = some a) (hb : b ∈ values)
    (hsucc : b.toInt = a.toInt + 1) : values[k + 1]? = some b := by
  obtain ⟨j, hj⟩ := List.getElem?_of_mem hb
  obtain ⟨hk, rfl⟩ := List.getElem?_eq_some_iff.mp ha
  obtain ⟨hj', rfl⟩ := List.getElem?_eq_some_iff.mp hj
  -- a place before the next one is too low, a place behind it too high
  have hless {i i' : Nat} (hi : i < values.length) (hi' : i' < values.length) (hii' : i < i') :
      values[i].toInt < values[i'].toInt :=
    Int32.lt_iff_toInt_lt.mp (List.pairwise_iff_getElem.mp hascending i i' hi hi' hii')
  rcases Nat.lt_trichotomy j (k + 1) with hbefore | rfl | hafter
  · rcases Nat.lt_or_eq_of_le (Nat.le_of_lt_succ hbefore) with hjk | rfl
    · have := hless hj' hk hjk
      omega
    · omega
  · exact hj
  · have hnext : k + 1 < values.length := by omega
    have := hless hk hnext (Nat.lt_succ_self k)
    have := hless hnext hj' hafter
    omega

namespace Topology

variable {topology : Topology}

/-- A site exists at a row and a column, which may lie out of range. -/
def HasSiteAt (topology : Topology) (row col : Int) : Prop :=
  ∃ site ∈ topology.sites, site.row.toInt = row ∧ site.col.toInt = col

instance (row col : Int) : Decidable (topology.HasSiteAt row col) :=
  inferInstanceAs (Decidable (∃ site ∈ topology.sites, site.row.toInt = row ∧ site.col.toInt = col))

theorem hasAt_eq_true_iff {site : Site} {rows cols : Int} : topology.hasAt site rows cols = true ↔
    topology.HasSiteAt (site.row.toInt + rows) (site.col.toInt + cols) := by
  simp only [HasSiteAt, ← Site.offset?_eq_some_iff]
  unfold hasAt
  split
  · rename_i neighbor hoffset
    simp [hoffset, mem_def]
  · rename_i hnone
    simp [hnone]

/-! ## The frame of a diagram -/

/-- Two ascending lists of the rows and columns that hold a site, and the length of the longest
label. -/
structure Frame (topology : Topology) (rows columns : List Int32) (width : Nat) : Prop where
  rows_ascending : rows.Pairwise (· < ·)
  mem_rows : ∀ row, row ∈ rows ↔ ∃ site ∈ topology, site.row = row
  columns_ascending : columns.Pairwise (· < ·)
  mem_columns : ∀ col, col ∈ columns ↔ ∃ site ∈ topology, site.col = col
  width_greatest : IsGreatest {length | ∃ site ∈ topology, site.label.length = length} width

theorem labelWidth_greatest (hsome : topology.sites ≠ []) :
    IsGreatest {length | ∃ site ∈ topology, site.label.length = length} topology.labelWidth := by
  have hmax :
      (topology.sites.map fun site => site.label.length).max? = some topology.labelWidth := by
    rw [labelWidth]
    cases hlengths : topology.sites.map fun site => site.label.length with
    | nil => exact absurd (List.map_eq_nil_iff.mp hlengths) hsome
    | cons first rest => rw [List.max?_cons', List.foldl_cons, Nat.zero_max]
  obtain ⟨hmem, hle⟩ := List.max?_eq_some_iff.mp hmax
  refine ⟨List.mem_map.mp hmem, ?_⟩
  rintro _ ⟨site, hsite, rfl⟩
  exact hle _ (List.mem_map_of_mem hsite)

theorem length_label_le {site : Site} (hsite : site ∈ topology) :
    site.label.length ≤ topology.labelWidth :=
  (labelWidth_greatest (List.ne_nil_of_mem hsite)).2 ⟨site, hsite, rfl⟩

theorem frame (hsome : topology.sites ≠ []) :
    Frame topology topology.rows topology.columns topology.labelWidth where
  rows_ascending := pairwise_sortDistinct _
  mem_rows row := by simp [rows, mem_def]
  columns_ascending := pairwise_sortDistinct _
  mem_columns col := by simp [columns, mem_def]
  width_greatest := labelWidth_greatest hsome

/-! ## The lines of a diagram -/

/-- The lines of the diagram. -/
def printedLines (topology : Topology) : List (List Char) := topology.diagram.toList.splitOn '\n'

theorem length_diagramLines {width : Nat} {rows : List Int32} :
    (topology.diagramLines width rows).length = 2 * rows.length - 1 := by
  fun_induction topology.diagramLines width rows with
  | case1 => rfl
  | case2 row => rfl
  | case3 row rest hne ih =>
      have hpos : 0 < rest.length := List.length_pos_iff.mpr hne
      simp only [List.length_cons, ih]
      omega

theorem getElem?_diagramLines_site {width : Nat} {rows : List Int32} (i : Nat) :
    (topology.diagramLines width rows)[2 * i]? = rows[i]?.map (topology.siteLine width) := by
  fun_induction topology.diagramLines width rows generalizing i with
  | case1 => rfl
  | case2 row => cases i <;> rfl
  | case3 row rest hne ih =>
      cases i with
      | zero => rfl
      | succ i => exact ih i

theorem getElem?_diagramLines_link {width : Nat} {rows : List Int32} (i : Nat) :
    (topology.diagramLines width rows)[2 * i + 1]? =
      if i + 1 < rows.length then rows[i]?.map (topology.linkLine width) else none := by
  fun_induction topology.diagramLines width rows generalizing i with
  | case1 => rfl
  | case2 row => simp
  | case3 row rest hne ih =>
      have hpos : 0 < rest.length := List.length_pos_iff.mpr hne
      cases i with
      | zero => simp [hpos]
      | succ i =>
          simp only [List.length_cons, Nat.add_lt_add_iff_right]
          exact ih i

theorem mem_diagramLines {width : Nat} {rows : List Int32} {line : List Char}
    (hline : line ∈ topology.diagramLines width rows) :
    ∃ row, line = topology.siteLine width row ∨ line = topology.linkLine width row := by
  fun_induction topology.diagramLines width rows with
  | case1 => cases hline
  | case2 row => exact ⟨row, .inl (List.mem_singleton.mp hline)⟩
  | case3 row rest hne ih =>
      rcases List.mem_cons.mp hline with hsites | hline
      · exact ⟨row, .inl hsites⟩
      · rcases List.mem_cons.mp hline with hlinks | hline
        · exact ⟨row, .inr hlinks⟩
        · exact ih hline

/-! ## The cells of a diagram -/

theorem siteCell_eq (width : Nat) (site : Site) : topology.siteCell width site.row site.col =
    if site ∈ topology then
      padded width site.label.toList ++
        if topology.HasSiteAt site.row.toInt (site.col.toInt + 1) then rightLink else spaces 3
    else spaces (width + 3) := by
  by_cases hsite : site ∈ topology
  · rw [if_pos hsite]
    simp only [siteCell, at?, if_pos hsite, hasAt_eq_true_iff, Int.add_zero]
    rfl
  · rw [if_neg hsite]
    simp only [siteCell, at?, if_neg hsite]
    rfl

theorem linkCell_eq (width : Nat) (site : Site) : topology.linkCell width site.row site.col =
    if site ∈ topology ∧ topology.HasSiteAt (site.row.toInt + 1) site.col.toInt then
      downLink :: spaces (width + 2)
    else spaces (width + 3) := by
  by_cases hsite : site ∈ topology
  · simp only [linkCell, at?, hasAt_eq_true_iff, Int.add_zero, hsite, true_and]
    rfl
  · rw [if_neg fun hboth => hsite hboth.1]
    simp only [linkCell, at?, if_neg hsite]
    rfl

theorem length_siteCell {width : Nat} (hwidth : ∀ site ∈ topology, site.label.length ≤ width)
    (site : Site) : (topology.siteCell width site.row site.col).length = width + 3 := by
  rw [siteCell_eq]
  split
  · rename_i hsite
    rw [List.length_append, length_padded (hwidth site hsite)]
    split
    · rfl
    · rw [length_spaces]
  · exact length_spaces _

theorem length_linkCell (width : Nat) (site : Site) :
    (topology.linkCell width site.row site.col).length = width + 3 := by
  rw [linkCell_eq]
  split
  · rw [List.length_cons, length_spaces]
  · exact length_spaces _

theorem spaced_siteCell (width : Nat) (site : Site) :
    Spaced (topology.siteCell width site.row site.col) := by
  have hlink : Spaced rightLink := by decide
  rw [siteCell_eq]
  split
  · refine spaced_append (spaced_padded (Site.spaced_label _)) ?_
    split
    · exact hlink
    · exact spaced_spaces 3
  · exact spaced_spaces _

theorem spaced_linkCell (width : Nat) (site : Site) :
    Spaced (topology.linkCell width site.row site.col) := by
  have hlink : Spaced [downLink] := by decide
  rw [linkCell_eq]
  split
  · exact spaced_append hlink (spaced_spaces _)
  · exact spaced_spaces _

theorem showsCells_siteLine {width : Nat} {row : Int32}
    (hwidth : ∀ site ∈ topology, site.label.length ≤ width) :
    ShowsCells (width + 3) (topology.columns.map (topology.siteCell width row))
      (topology.siteLine width row) := by
  rw [siteLine, List.flatMap_def]
  apply showsCells_trimRight
  · exact List.forall_mem_map.mpr fun col _ => length_siteCell hwidth ⟨row, col⟩
  · exact List.forall_mem_map.mpr fun col _ => spaced_siteCell width ⟨row, col⟩

theorem showsCells_linkLine {width : Nat} {row : Int32} :
    ShowsCells (width + 3) (topology.columns.map (topology.linkCell width row))
      (topology.linkLine width row) := by
  rw [linkLine, List.flatMap_def]
  apply showsCells_trimRight
  · exact List.forall_mem_map.mpr fun col _ => length_linkCell width ⟨row, col⟩
  · exact List.forall_mem_map.mpr fun col _ => spaced_linkCell width ⟨row, col⟩

/-! ## What the lines show -/

/-- The text of a cell in the line of a row's sites. -/
def siteCellAt (width : Nat) (lines : List (List Char)) (i k : Nat) : List Char :=
  cell (width + 3) (lines[2 * i]?.getD []) k

/-- The text of a cell in the line below a row's sites. -/
def linkCellAt (width : Nat) (lines : List (List Char)) (i k : Nat) : List Char :=
  cell (width + 3) (lines[2 * i + 1]?.getD []) k

/-- Some lines show the sites of a topology, with a link to the right and a link below where there
is a site to be linked with, and nothing else. -/
structure ShowsSites (topology : Topology) (rows columns : List Int32) (width : Nat)
    (lines : List (List Char)) : Prop where
  length_eq : lines.length = 2 * rows.length - 1
  trimmed : ∀ line ∈ lines, line.getLast? ≠ some ' '
  blank : ∀ line ∈ lines, ∀ k, columns.length ≤ k → cell (width + 3) line k = spaces (width + 3)
  siteCellAt_eq : ∀ i k site, rows[i]? = some site.row → columns[k]? = some site.col →
    siteCellAt width lines i k =
      if site ∈ topology then
        padded width site.label.toList ++
          if topology.HasSiteAt site.row.toInt (site.col.toInt + 1) then rightLink else spaces 3
      else spaces (width + 3)
  linkCellAt_eq : ∀ i k site, rows[i]? = some site.row → columns[k]? = some site.col →
    linkCellAt width lines i k =
      if site ∈ topology ∧ topology.HasSiteAt (site.row.toInt + 1) site.col.toInt then
        downLink :: spaces (width + 2)
      else spaces (width + 3)

theorem exists_showsCells {width : Nat} {rows : List Int32} {line : List Char}
    (hwidth : ∀ site ∈ topology, site.label.length ≤ width)
    (hline : line ∈ topology.diagramLines width rows) :
    ∃ write : Int32 → List Char, ShowsCells (width + 3) (topology.columns.map write) line := by
  obtain ⟨row, rfl | rfl⟩ := mem_diagramLines hline
  · exact ⟨_, showsCells_siteLine hwidth⟩
  · exact ⟨_, showsCells_linkLine⟩

theorem rows_ne_nil (hsome : topology.sites ≠ []) : topology.rows ≠ [] := by
  obtain ⟨site, hsite⟩ := List.exists_mem_of_ne_nil _ hsome
  exact List.ne_nil_of_mem (((frame hsome).mem_rows site.row).mpr ⟨site, hsite, rfl⟩)

/-- A site that is above a site of the topology is not in the last row. -/
theorem Frame.row_lt {rows columns : List Int32} {width i : Nat} {row : Int32} {col : Int}
    (hframe : Frame topology rows columns width) (hrow : rows[i]? = some row)
    (hbelow : topology.HasSiteAt (row.toInt + 1) col) : i + 1 < rows.length := by
  obtain ⟨below, hmem, hbelow, -⟩ := hbelow
  have hnext := getElem?_succ_of_ascending hframe.rows_ascending hrow
    ((hframe.mem_rows below.row).mpr ⟨below, hmem, rfl⟩) hbelow
  exact (List.getElem?_eq_some_iff.mp hnext).1

/-- The text falls into the lines that it was put together from. -/
theorem printedLines_eq (hsome : topology.sites ≠ []) :
    topology.printedLines = topology.diagramLines topology.labelWidth topology.rows := by
  have hne : topology.diagramLines topology.labelWidth topology.rows ≠ [] := by
    rw [← List.length_pos_iff, length_diagramLines]
    have hpos := List.length_pos_iff.mpr (rows_ne_nil hsome)
    omega
  rw [printedLines, diagram, String.toList_intercalate, List.map_map]
  have hid : String.toList ∘ String.ofList = id := funext fun _ => String.toList_ofList
  rw [hid, List.map_id]
  refine List.splitOn_intercalate '\n' (fun line hline => ?_) hne
  obtain ⟨_, hshows⟩ := exists_showsCells (fun _ => length_label_le) hline
  exact hshows.newline_notMem

theorem showsSites_printedLines (hsome : topology.sites ≠ []) :
    ShowsSites topology topology.rows topology.columns topology.labelWidth
      topology.printedLines := by
  rw [printedLines_eq hsome]
  constructor
  case length_eq => exact length_diagramLines
  case trimmed =>
    intro line hline
    obtain ⟨_, hshows⟩ := exists_showsCells (fun _ => length_label_le) hline
    exact hshows.trimmed
  case blank =>
    intro line hline k hk
    obtain ⟨_, hshows⟩ := exists_showsCells (fun _ => length_label_le) hline
    rw [hshows.cell_eq, List.getElem?_eq_none (by simpa using hk), Option.getD_none]
  case siteCellAt_eq =>
    intro i k site hrow hcol
    rw [siteCellAt, getElem?_diagramLines_site, hrow, Option.map_some, Option.getD_some,
      (showsCells_siteLine fun _ => length_label_le).cell_eq, List.getElem?_map, hcol, Option.map_some,
      Option.getD_some, siteCell_eq]
  case linkCellAt_eq =>
    intro i k site hrow hcol
    rw [linkCellAt, getElem?_diagramLines_link, hrow]
    split
    · rw [Option.map_some, Option.getD_some, showsCells_linkLine.cell_eq, List.getElem?_map, hcol,
        Option.map_some, Option.getD_some, linkCell_eq]
    · rename_i hlast
      rw [if_neg fun hboth => hlast ((frame hsome).row_lt hrow hboth.2)]
      exact cell_nil _ k

end Topology

end GridCircuit
