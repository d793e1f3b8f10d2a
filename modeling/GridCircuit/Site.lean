import GridCircuit.Sorted

/-!
# Sites of a grid

A site is a row and a column, each a 32-bit integer.  Sites are ordered by row, then by column,
and two sites are neighbours when their Manhattan distance is one.
-/

namespace GridCircuit

/-- The 32-bit integer of a value, if it is in range. -/
def int32? (value : Int) : Option Int32 :=
  if Int32.minValue.toInt ≤ value ∧ value ≤ Int32.maxValue.toInt then some (Int32.ofInt value)
  else none

/-- Only values out of range have no 32-bit integer. -/
theorem int32?_eq_some_iff {value : Int} {result : Int32} :
    int32? value = some result ↔ result.toInt = value := by
  unfold int32?
  split
  · rename_i hrange
    have hlt : value < 2 ^ 31 := Int.lt_of_le_of_lt hrange.2 (by decide)
    rw [Option.some.injEq, ← Int32.toInt_inj, Int32.toInt_ofInt_of_le hrange.1 hlt, eq_comm]
  · rename_i hrange
    simp only [reduceCtorEq, false_iff]
    rintro rfl
    exact hrange ⟨result.minValue_le_toInt, result.toInt_le⟩

instance : StrictTotalOrder Int32 where
  irrefl _ := Int32.lt_irrefl
  trans := Int32.lt_trans
  connected a b := by
    rw [Int32.lt_iff_toInt_lt, Int32.lt_iff_toInt_lt, ← Int32.toInt_inj]
    omega

/-- A coordinate of a two-dimensional grid. -/
structure Site where
  row : Int32
  col : Int32
  deriving DecidableEq

namespace Site

/-- Sites are compared by row first and by column within a row. -/
instance : LT Site where
  lt a b := a.row < b.row ∨ a.row = b.row ∧ a.col < b.col

theorem lt_def {a b : Site} : a < b ↔ a.row < b.row ∨ a.row = b.row ∧ a.col < b.col := Iff.rfl

instance : DecidableLT Site := fun a b =>
  inferInstanceAs (Decidable (a.row < b.row ∨ a.row = b.row ∧ a.col < b.col))

theorem ext_toInt {a b : Site} (row : a.row.toInt = b.row.toInt) (col : a.col.toInt = b.col.toInt) :
    a = b := by
  cases a
  cases b
  simp_all [Int32.toInt_inj]

theorem lt_iff_toInt {a b : Site} :
    a < b ↔ a.row.toInt < b.row.toInt ∨ a.row.toInt = b.row.toInt ∧ a.col.toInt < b.col.toInt := by
  simp [lt_def, Int32.lt_iff_toInt_lt, Int32.toInt_inj]

instance : StrictTotalOrder Site where
  irrefl a := by simp [lt_iff_toInt]
  trans := by
    intro a b c
    simp only [lt_iff_toInt]
    omega
  connected a b := by
    by_cases equal : a = b
    · exact Or.inr (Or.inl equal)
    · have differ : ¬ (a.row.toInt = b.row.toInt ∧ a.col.toInt = b.col.toInt) :=
        fun h => equal (ext_toInt h.1 h.2)
      simp only [lt_iff_toInt]
      omega

/-- The Manhattan distance of two sites. -/
def distance (a b : Site) : Nat :=
  (a.row.toInt - b.row.toInt).natAbs + (a.col.toInt - b.col.toInt).natAbs

/-- Neighbouring sites are one step apart along a row or a column. -/
def Adjacent (a b : Site) : Prop := a.distance b = 1

instance (a b : Site) : Decidable (a.Adjacent b) :=
  inferInstanceAs (Decidable (a.distance b = 1))

theorem distance_comm (a b : Site) : a.distance b = b.distance a := by
  unfold distance
  omega

theorem distance_eq_zero_iff {a b : Site} : a.distance b = 0 ↔ a = b := by
  constructor
  · intro zero
    unfold distance at zero
    apply ext_toInt <;> omega
  · rintro rfl
    simp [distance]

theorem adjacent_comm {a b : Site} : a.Adjacent b ↔ b.Adjacent a := by
  simp [Adjacent, distance_comm a b]

theorem not_adjacent_self (site : Site) : ¬ site.Adjacent site := by
  simp [Adjacent, distance]

/-- The site some rows and columns away, or nothing where a coordinate leaves the 32-bit range. -/
def offset? (site : Site) (rows cols : Int) : Option Site :=
  match int32? (site.row.toInt + rows), int32? (site.col.toInt + cols) with
  | some row, some col => some ⟨row, col⟩
  | _, _ => none

theorem offset?_eq_some_iff {site moved : Site} {rows cols : Int} :
    site.offset? rows cols = some moved ↔
      moved.row.toInt = site.row.toInt + rows ∧ moved.col.toInt = site.col.toInt + cols := by
  rw [← int32?_eq_some_iff, ← int32?_eq_some_iff]
  unfold offset?
  cases hrow : int32? (site.row.toInt + rows) with
  | none => simp
  | some row =>
    cases hcol : int32? (site.col.toInt + cols) with
    | none => simp
    | some col => cases moved; simp

/-- The sites of a rectangle whose first corner is the origin, in ascending order. -/
def rectangle (rows cols : Int32) : List Site :=
  if cols ≤ 0 then []
  else
    (List.range rows.toInt.toNat).flatMap fun row =>
      (List.range cols.toInt.toNat).map fun col => ⟨Int32.ofNat row, Int32.ofNat col⟩

/-- The text of a site, such as `q(0, 1)`. -/
def label (site : Site) : String :=
  s!"q({site.row.toInt}, {site.col.toInt})"

end Site

end GridCircuit
