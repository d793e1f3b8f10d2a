import GridCircuit.Proofs.Couplings
import Mathlib.Tactic.Ring

/-!
# Rectangles of sites

The couplers of a rectangle are counted.  Each coupler is found from its smaller end, by a step to
the right or by a step down (`length_couplers_eq_countP`), so it is enough to count the sites from
which either step stays in the topology.

In a rectangle the sites with a site to their right are themselves a rectangle, with one column
less, and those with a site below are one with one row less.  This is seen without any count:
ascending lists with the same members are equal, and a step stays in the rectangle exactly when it
starts in the smaller one (`mem_rectangle_and_leads_iff`).  What is left is the number of sites of
three rectangles.
-/

namespace GridCircuit

/-- Counting up to a 32-bit integer stays in the 32-bit range. -/
theorem toInt_ofNat_of_lt {n : Nat} {bound : Int32} (hlt : n < bound.toInt.toNat) :
    (Int32.ofNat n).toInt = n := by
  have hbound : bound.toInt < 2 ^ 31 := bound.toInt_lt
  exact Int32.toInt_ofNat_of_lt (by omega)

theorem exists_toInt_eq {value : Int} (bound : Int32) (hlow : 0 ≤ value)
    (hhigh : value < bound.toInt) : ∃ n : Int32, n.toInt = value := by
  have hlt : value.toNat < bound.toInt.toNat := by omega
  refine ⟨Int32.ofNat value.toNat, ?_⟩
  rw [toInt_ofNat_of_lt hlt, Int.toNat_of_nonneg hlow]

/-! ## The sites of a rectangle -/

namespace Site

variable {rows cols : Int32} {site : Site}

/-- The first rows, and of each the first columns. -/
theorem rectangle_eq : rectangle rows cols = (List.range rows.toInt.toNat).flatMap fun row =>
    (List.range cols.toInt.toNat).map fun col => ⟨Int32.ofNat row, Int32.ofNat col⟩ := by
  unfold rectangle
  split
  · rename_i hcols
    have hnone : cols.toInt.toNat = 0 :=
      Int.toNat_of_nonpos (by simpa using Int32.le_iff_toInt_le.mp hcols)
    simp [hnone]
  · rfl

theorem mem_rectangle : site ∈ rectangle rows cols ↔
    (0 ≤ site.row ∧ site.row < rows) ∧ 0 ≤ site.col ∧ site.col < cols := by
  simp only [rectangle_eq, List.mem_flatMap, List.mem_map, List.mem_range, Int32.le_iff_toInt_le,
    Int32.lt_iff_toInt_lt, Int32.toInt_zero]
  constructor
  · rintro ⟨row, hrow, col, hcol, rfl⟩
    simp only [toInt_ofNat_of_lt hrow, toInt_ofNat_of_lt hcol]
    omega
  · rintro ⟨⟨hrow, hrow'⟩, hcol, hcol'⟩
    have hrows : site.row.toInt.toNat < rows.toInt.toNat := by omega
    have hcols : site.col.toInt.toNat < cols.toInt.toNat := by omega
    refine ⟨site.row.toInt.toNat, hrows, site.col.toInt.toNat, hcols, ext_toInt ?_ ?_⟩
    · rw [toInt_ofNat_of_lt hrows, Int.toNat_of_nonneg hrow]
    · rw [toInt_ofNat_of_lt hcols, Int.toNat_of_nonneg hcol]

theorem length_rectangle :
    (rectangle rows cols).length = rows.toInt.toNat * cols.toInt.toNat := by
  simp [rectangle_eq, List.length_flatMap]

/-- The sites of a rectangle are written row by row. -/
theorem pairwise_rectangle : (rectangle rows cols).Pairwise (· < ·) := by
  rw [rectangle_eq, List.pairwise_flatMap]
  constructor
  · intro row _
    rw [List.pairwise_map]
    refine List.pairwise_lt_range.imp_of_mem fun hcol hcol' hless => ?_
    rw [List.mem_range] at hcol hcol'
    rw [lt_iff_toInt, toInt_ofNat_of_lt hcol, toInt_ofNat_of_lt hcol']
    exact .inr ⟨rfl, Int.ofNat_lt.mpr hless⟩
  · refine List.pairwise_lt_range.imp_of_mem fun hrow hrow' hless => ?_
    rw [List.mem_range] at hrow hrow'
    simp only [List.forall_mem_map]
    intro _ _ _ _
    rw [lt_iff_toInt, toInt_ofNat_of_lt hrow, toInt_ofNat_of_lt hrow']
    exact .inl (Int.ofNat_lt.mpr hless)

end Site

namespace Topology

variable {topology : Topology} {rows cols : Int32} {site : Site}

theorem sites_rectangle : (rectangle rows cols).sites = Site.rectangle rows cols :=
  eq_of_ascending (rectangle rows cols).ascending Site.pairwise_rectangle fun _ => mem_sites_ofList

theorem mem_rectangle : site ∈ rectangle rows cols ↔
    (0 ≤ site.row ∧ site.row < rows) ∧ 0 ≤ site.col ∧ site.col < cols := by
  rw [mem_def, sites_rectangle, Site.mem_rectangle]

theorem mem_rectangle_iff_toInt : site ∈ rectangle rows cols ↔
    (0 ≤ site.row.toInt ∧ site.row.toInt < rows.toInt) ∧
      0 ≤ site.col.toInt ∧ site.col.toInt < cols.toInt := by
  simp only [mem_rectangle, Int32.le_iff_toInt_le, Int32.lt_iff_toInt_lt, Int32.toInt_zero]

theorem size_rectangle :
    (rectangle rows cols).size = rows.toInt.toNat * cols.toInt.toNat := by
  rw [size, sites_rectangle, Site.length_rectangle]

/-! ## Couplers by their direction -/

/-- Whether a step from a site leads to a site of the topology. -/
def leads (topology : Topology) (step : Int × Int) (site : Site) : Bool :=
  (site.offset? step.1 step.2).any (· ∈ topology)

theorem leads_iff {step : Int × Int} :
    topology.leads step site = true ↔ ∃ next ∈ topology, site.stepTo next = step := by
  simp [leads, Option.any_eq_true, Site.offset?_eq_some_iff_stepTo, and_comm]

/-- A site has as many forward neighbours as there are forward steps that lead to a site. -/
theorem length_forwardNeighbors : (topology.forwardNeighbors site).length =
    [(0, 1), (1, 0)].countP fun step => topology.leads step site := by
  rw [forwardNeighbors, ← List.countP_eq_length_filter, List.countP_filterMap]
  refine List.countP_congr fun step _ => ?_
  cases hoffset : site.offset? step.1 step.2 <;> simp [leads, hoffset]

/-- A coupler leads to the right or down from its smaller end. -/
theorem length_couplers_eq_countP : topology.couplers.length =
    topology.sites.countP (topology.leads (0, 1)) +
      topology.sites.countP (topology.leads (1, 0)) := by
  simp only [length_couplers, length_forwardNeighbors, List.countP_cons, List.countP_nil]
  induction topology.sites with
  | nil => rfl
  | cons site rest ih =>
      simp only [List.map_cons, List.sum_cons, ih, List.countP_cons]
      omega

/-! ## Couplers of a rectangle -/

/-- A step that leads to no lower row or column stays in a rectangle when it starts in the part that
is smaller by the step. -/
theorem mem_rectangle_and_leads_iff {down right : Int} (hdown : 0 ≤ down) (hright : 0 ≤ right)
    {rows' cols' : Int32} (hrows : rows'.toInt = rows.toInt - down)
    (hcols : cols'.toInt = cols.toInt - right) :
    site ∈ rectangle rows cols ∧ (rectangle rows cols).leads (down, right) site = true ↔
      site ∈ rectangle rows' cols' := by
  simp only [leads_iff, mem_rectangle_iff_toInt, Site.stepTo, Prod.mk.injEq]
  constructor
  · rintro ⟨hsite, next, hnext, hrow, hcol⟩
    omega
  · intro hsite
    obtain ⟨row, hrow⟩ : ∃ row : Int32, row.toInt = site.row.toInt + down :=
      exists_toInt_eq rows (by omega) (by omega)
    obtain ⟨col, hcol⟩ : ∃ col : Int32, col.toInt = site.col.toInt + right :=
      exists_toInt_eq cols (by omega) (by omega)
    refine ⟨by omega, ⟨row, col⟩, ?_⟩
    simp only [hrow, hcol]
    omega

/-- So many sites of a rectangle stay in it with a step. -/
theorem countP_leads_rectangle {down right : Int} (hdown : 0 ≤ down) (hright : 0 ≤ right)
    {rows' cols' : Int32} (hrows : rows'.toInt = rows.toInt - down)
    (hcols : cols'.toInt = cols.toInt - right) :
    (rectangle rows cols).sites.countP ((rectangle rows cols).leads (down, right)) =
      rows'.toInt.toNat * cols'.toInt.toNat := by
  have hsites : (rectangle rows cols).sites.filter ((rectangle rows cols).leads (down, right)) =
      (rectangle rows' cols').sites :=
    eq_of_ascending ((rectangle rows cols).ascending.filter _) (rectangle rows' cols').ascending
      fun _ => List.mem_filter.trans (mem_rectangle_and_leads_iff hdown hright hrows hcols)
  rw [List.countP_eq_length_filter, hsites]
  exact size_rectangle

theorem toInt_sub_one {n : Int32} (hn : 1 ≤ n) : (n - 1).toInt = n.toInt - 1 :=
  Int32.toInt_sub_of_le n 1 (by decide) hn

/-- The couplers to the right are as many as the sites of all columns but the last, and those down
as many as the sites of all rows but the last. -/
theorem length_couplers_rectangle (hrows : 1 ≤ rows) (hcols : 1 ≤ cols) :
    (rectangle rows cols).couplers.length =
      rows.toInt.toNat * (cols.toInt - 1).toNat + (rows.toInt - 1).toNat * cols.toInt.toNat := by
  have hright : (rectangle rows cols).sites.countP ((rectangle rows cols).leads (0, 1)) =
      rows.toInt.toNat * (cols - 1).toInt.toNat :=
    countP_leads_rectangle (by decide) (by decide) (by omega) (toInt_sub_one hcols)
  have hdown : (rectangle rows cols).sites.countP ((rectangle rows cols).leads (1, 0)) =
      (rows - 1).toInt.toNat * cols.toInt.toNat :=
    countP_leads_rectangle (by decide) (by decide) (toInt_sub_one hrows) (by omega)
  rw [length_couplers_eq_countP, hright, hdown, toInt_sub_one hrows, toInt_sub_one hcols]

theorem nodup_couplers : topology.couplers.Nodup := by
  refine pairwise_couplers.imp ?_
  rintro pair _ (hless | ⟨-, hless⟩) rfl
  · exact StrictTotalOrder.irrefl _ hless
  · exact StrictTotalOrder.irrefl _ hless

theorem couplers_eq_nil (hsize : topology.size = 0) : topology.couplers = [] := by
  have hsites : topology.sites = [] := List.eq_nil_of_length_eq_zero hsize
  rw [couplers, hsites, List.flatMap_nil]

/-- A rectangle holds the sites of its rows and columns and no others.  It has a coupler for every
two sites that follow each other in a row or in a column, and counts none of them twice.  Without a
row or without a column it is empty. -/
theorem rectangle_sites_and_couplers (rows cols : Int32) :
    (∀ r c : Int32, (⟨r, c⟩ : Site) ∈ rectangle rows cols ↔
      (0 ≤ r ∧ r < rows) ∧ 0 ≤ c ∧ c < cols) ∧
    (rectangle rows cols).couplers.Nodup ∧
    (1 ≤ rows → 1 ≤ cols →
      ((rectangle rows cols).size : Int) = rows.toInt * cols.toInt ∧
      ((rectangle rows cols).couplers.length : Int) =
        rows.toInt * (cols.toInt - 1) + cols.toInt * (rows.toInt - 1)) ∧
    (rows ≤ 0 ∨ cols ≤ 0 →
      (rectangle rows cols).size = 0 ∧ (rectangle rows cols).couplers = []) := by
  refine ⟨fun _ _ => mem_rectangle, nodup_couplers, fun hrows hcols => ?_, fun hnone => ?_⟩
  · have hrows' : (1 : Int) ≤ rows.toInt := Int32.le_iff_toInt_le.mp hrows
    have hcols' : (1 : Int) ≤ cols.toInt := Int32.le_iff_toInt_le.mp hcols
    have hheight : (rows.toInt.toNat : Int) = rows.toInt := Int.toNat_of_nonneg (by omega)
    have hwidth : (cols.toInt.toNat : Int) = cols.toInt := Int.toNat_of_nonneg (by omega)
    have hbelow : ((rows.toInt - 1).toNat : Int) = rows.toInt - 1 :=
      Int.toNat_of_nonneg (by omega)
    have hbeside : ((cols.toInt - 1).toNat : Int) = cols.toInt - 1 :=
      Int.toNat_of_nonneg (by omega)
    rw [size_rectangle, length_couplers_rectangle hrows hcols, Nat.cast_add, Nat.cast_mul,
      Nat.cast_mul, Nat.cast_mul, hheight, hwidth, hbelow, hbeside]
    exact ⟨rfl, by ring⟩
  · have hsize : (rectangle rows cols).size = 0 := by
      rw [size_rectangle, Nat.mul_eq_zero, Int.toNat_eq_zero, Int.toNat_eq_zero]
      exact hnone.imp Int32.le_iff_toInt_le.mp Int32.le_iff_toInt_le.mp
    exact ⟨hsize, couplers_eq_nil hsize⟩

theorem foxtailRectangle_sites_and_couplers :
    (1 : Int32) ≤ 2 ∧ (1 : Int32) ≤ 11 ∧
      ((rectangle 2 11).size : Int) = 22 ∧ ((rectangle 2 11).couplers.length : Int) = 31 ∧
      (rectangle 2 (-11)).size = 0 ∧ (rectangle 2 (-11)).couplers = [] := by
  have hrows : (1 : Int32) ≤ 2 := by decide
  have hcols : (1 : Int32) ≤ 11 := by decide
  obtain ⟨-, -, hcounts, -⟩ := rectangle_sites_and_couplers 2 11
  obtain ⟨-, -, -, hempty⟩ := rectangle_sites_and_couplers 2 (-11)
  obtain ⟨hsize, hcouplers⟩ := hcounts hrows hcols
  obtain ⟨hnone, hnoCouplers⟩ := hempty (.inr (by decide))
  exact ⟨hrows, hcols, hsize, hcouplers, hnone, hnoCouplers⟩

end Topology

end GridCircuit
