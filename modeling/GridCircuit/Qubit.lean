import GridCircuit.Site

/-!
# Qubits

A circuit names its qubits by grid site, by position on a line or by an arbitrary name.  Only grid
sites live on a device; the other two exist so that circuits can be written before they are mapped.
Grid qubits come first in the order, then line qubits, then named ones.
-/

namespace GridCircuit

/-- A qubit as a circuit refers to it. -/
inductive Qubit where
  /-- A site of a grid. -/
  | grid (site : Site)
  /-- A position on a line. -/
  | line (index : UInt32)
  /-- A qubit known by its name only. -/
  | named (name : String)
  deriving DecidableEq

namespace Qubit

/-- Strictly before, in the order grid, line, named. -/
def Before : Qubit → Qubit → Prop
  | grid a, grid b => a < b
  | grid _, line _ => True
  | grid _, named _ => True
  | line a, line b => a < b
  | line _, named _ => True
  | named a, named b => a < b
  | _, _ => False

instance : LT Qubit := ⟨Before⟩

instance : DecidableLT Qubit := fun a b => by
  show Decidable (Before a b)
  cases a <;> cases b <;> unfold Before <;> infer_instance

/-- The site of a grid qubit. -/
def site? : Qubit → Option Site
  | grid site => some site
  | line _ => none
  | named _ => none

/-- The text of a qubit. -/
def label : Qubit → String
  | grid site => site.label
  | line index => s!"line({index.toNat})"
  | named name => name

@[simp] theorem lt_grid {a b : Site} : (grid a : Qubit) < grid b ↔ a < b := Iff.rfl

theorem before_iff {a b : Qubit} : a < b ↔ Before a b := Iff.rfl

instance : StrictTotalOrder Qubit where
  irrefl a := by
    cases a with
    | grid site => exact StrictTotalOrder.irrefl site
    | line index => simp [before_iff, Before]
    | named name => simp [before_iff, Before]
  trans := by
    intro a b c first second
    rw [before_iff] at *
    cases a <;> cases b <;> cases c <;> simp only [Before] at *
    · exact StrictTotalOrder.trans first second
    · rw [UInt32.lt_iff_toNat_lt] at *; omega
    · exact String.lt_trans first second
  connected a b := by
    simp only [before_iff]
    cases a <;> cases b <;> simp only [Before, reduceCtorEq, or_true, or_false,
      grid.injEq, line.injEq, named.injEq]
    · exact StrictTotalOrder.connected _ _
    · rename_i i j
      rw [UInt32.lt_iff_toNat_lt, UInt32.lt_iff_toNat_lt, ← UInt32.toNat_inj]
      omega
    · rename_i s t
      by_cases less : s < t
      · exact Or.inl less
      · by_cases greater : t < s
        · exact Or.inr (Or.inr greater)
        · exact Or.inr (Or.inl (String.le_antisymm greater less))

end Qubit

end GridCircuit
