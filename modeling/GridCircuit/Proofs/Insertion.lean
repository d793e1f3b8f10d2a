import GridCircuit.Proofs.Legality
import GridCircuit.Proofs.Placement
import Mathlib.Data.List.DropRight

/-!
# Where one operation is inserted

An insertion can be read as two searches: one backwards for the last moment that uses a qubit of the
operation, and one forwards from right behind it for the first moment that the rule accepts.  Here
the outcome of `insertEarliest` is given in these terms.  The backward search ends at `freeFrom`, an
index from which on the qubits are not used; the moments between it and the place of the operation
all refuse.

The rule may be any function, so it cannot be relied on to keep operations apart.  It need not be:
behind `freeFrom` there is nothing to overlap with (`nodup_qubits_placeEarliest`).
-/

namespace GridCircuit.Circuit

variable {canPlace : Operation → Moment → Bool} {operation : Operation}
  {moments before after : List Moment} {target passed : Moment} {qubits : List Qubit} {k : Nat}

/-- The index right behind the last moment that uses one of some qubits, or zero if none does. -/
def freeFrom (moments : List Moment) (qubits : List Qubit) : Nat :=
  (moments.rdropWhile fun moment => !moment.touches qubits).length

theorem lt_freeFrom_iff : k < freeFrom moments qubits ↔
    ∃ later ∈ moments.drop k, later.touches qubits = true := by
  induction moments using List.reverseRecOn with
  | nil => simp [freeFrom]
  | append_singleton rest last ih =>
      by_cases hlast : last.touches qubits = true
      · have hlength : freeFrom (rest ++ [last]) qubits = rest.length + 1 := by
          simp [freeFrom, hlast]
        rw [hlength]
        constructor
        · intro hk
          have hmem : last ∈ (rest ++ [last]).drop k := by
            rw [List.drop_append_of_le_length (by omega)]
            simp
          exact ⟨last, hmem, hlast⟩
        · rintro ⟨later, hlater, -⟩
          have hpos : 0 < ((rest ++ [last]).drop k).length := List.length_pos_of_mem hlater
          rw [List.length_drop, List.length_append, List.length_singleton] at hpos
          omega
      · -- a moment that does not use the qubits is dropped from the end
        have hsame : freeFrom (rest ++ [last]) qubits = freeFrom rest qubits := by
          simp [freeFrom, hlast]
        rw [hsame, ih, List.drop_append]
        constructor
        · rintro ⟨later, hlater, htouches⟩
          exact ⟨later, List.mem_append_left _ hlater, htouches⟩
        · rintro ⟨later, hlater, htouches⟩
          rcases List.mem_append.mp hlater with hmem | hmem
          · exact ⟨later, hmem, htouches⟩
          · rw [List.mem_singleton.mp (List.mem_of_mem_drop hmem)] at htouches
            exact absurd htouches hlast

/-! ### The slot of an operation against the two searches -/

theorem Slot.freeFrom_le (slot : Slot canPlace operation moments before target after) :
    freeFrom moments operation.qubits ≤ before.length := by
  by_contra hlate
  obtain ⟨later, hlater, htouches⟩ := lt_freeFrom_iff.mp (Nat.lt_of_not_le hlate)
  have hmem : later ∈ target :: after := by
    rcases slot.origin with ⟨rfl, -⟩ | ⟨rfl, -, -⟩
    · rwa [List.drop_left] at hlater
    · simp at hlater
  have hfree : later.touches operation.qubits = false := slot.free later hmem
  simp [hfree] at htouches

/-- Between the two searches' ends, every moment refuses the operation. -/
theorem Slot.refused (slot : Slot canPlace operation moments before target after)
    (hstart : freeFrom moments operation.qubits ≤ k) (hpassed : before[k]? = some passed) :
    canPlace operation passed = false := by
  rcases slot.passed.touched_or_refused hpassed with ⟨later, hlater, htouches⟩ | hrefused
  · have hmem : later ∈ moments.drop k := by
      rcases slot.origin with ⟨rfl, -⟩ | ⟨rfl, -⟩
      · rw [List.drop_append]
        exact List.mem_append_left _ hlater
      · exact hlater
    have hlt : k < freeFrom moments operation.qubits := lt_freeFrom_iff.mpr ⟨later, hmem, htouches⟩
    omega
  · exact hrefused

/-- An operation joins one moment and leaves all others as they are, or gets a new one at the
end. -/
theorem Slot.placed_eq (slot : Slot canPlace operation moments before target after) :
    (moments[before.length]? = some target ∧ canPlace operation target = true ∧
      before ++ target.add operation :: after = moments.set before.length (target.add operation)) ∨
    (before.length = moments.length ∧
      before ++ target.add operation :: after = moments ++ [⟨[operation]⟩]) := by
  rcases slot.origin with ⟨rfl, haccept⟩ | ⟨rfl, rfl, rfl⟩
  · exact .inl ⟨by simp, haccept, by simp⟩
  · exact .inr ⟨rfl, rfl⟩

/-- What an insertion does, whatever the rule.  The index it returns lies behind all moments that
use a qubit of the operation, every moment that is passed over from there on refuses, and the
operation joins an accepting moment at the index or opens a new one at the end; nothing else
changes.  Moments without overlaps stay so when the operation has none itself. -/
theorem insertEarliest_inserts_once (circuit : Circuit) (operation : Operation)
    (canPlace : Operation → Moment → Bool) :
    ∃ index inserted, circuit.insertEarliest operation canPlace = (index, inserted) ∧
      freeFrom circuit.moments operation.qubits ≤ index ∧
      (∀ k, freeFrom circuit.moments operation.qubits ≤ k → k < index →
        ∃ passed, circuit.moments[k]? = some passed ∧ canPlace operation passed = false) ∧
      ((∃ target, circuit.moments[index]? = some target ∧ canPlace operation target = true ∧
          inserted =
            { circuit with moments := circuit.moments.set index (target.add operation) }) ∨
        (index = circuit.depth ∧ inserted = circuit.pushMoment ⟨[operation]⟩)) ∧
      ((∀ moment ∈ circuit.moments, moment.overlap? = none) → operation.qubits.Nodup →
        ∀ moment ∈ inserted.moments, moment.overlap? = none) := by
  obtain ⟨before, target, after, slot⟩ := exists_slot canPlace operation circuit.moments
  have hinsert : circuit.insertEarliest operation canPlace =
      (before.length, ⟨circuit.name, before ++ target.add operation :: after⟩) := by
    rw [insertEarliest, slot.placeEarliest_eq]
  refine ⟨_, _, hinsert, slot.freeFrom_le, ?_, ?_, ?_⟩
  · intro k hstart hk
    have hpassed : before[k]? = some before[k] := List.getElem?_eq_getElem hk
    exact ⟨before[k], (slot.getElem?_of_lt hk).trans hpassed, slot.refused hstart hpassed⟩
  · rcases slot.placed_eq with ⟨htarget, haccept, hplaced⟩ | ⟨hlength, hplaced⟩
    · exact .inl ⟨target, htarget, haccept, by rw [hplaced]⟩
    · exact .inr ⟨hlength, by rw [hplaced, pushMoment]⟩
  · intro hmoments hoperation moment hmem
    simp only [Moment.overlap?_eq_none_iff] at hmoments ⊢
    have hplaced := nodup_qubits_placeEarliest canPlace hmoments hoperation
    rw [slot.placeEarliest_eq] at hplaced
    exact hplaced moment hmem

/-- A moment that uses the first site, one with an interaction on other sites and one with a phase
on yet another site. -/
def spacedProbe : Circuit :=
  ⟨"spaced", [
    ⟨[.plain (.phase 0.5 false) [.grid ⟨0, 0⟩]]⟩,
    ⟨[.plain (.interaction 1.0) [.grid ⟨0, 1⟩, .grid ⟨0, 2⟩]]⟩,
    ⟨[.plain (.phase 0.5 false) [.grid ⟨0, 5⟩]]⟩]⟩

/-- A measurement that may not join interactions passes over the second moment of `spacedProbe`. -/
theorem spacedProbe_inserted :
    freeFrom spacedProbe.moments [.grid ⟨0, 0⟩] = 1 ∧
      ∃ inserted, spacedProbe.insertEarliest (.plain (.measure "m") [.grid ⟨0, 0⟩])
          (fun _ moment => !moment.operations.any Operation.isInteraction) = (2, inserted) ∧
        ∀ moment ∈ inserted.moments, moment.overlap? = none := by
  refine ⟨by decide, ?_⟩
  obtain ⟨index, inserted, hinsert, -, -, -, hdistinct⟩ :=
    insertEarliest_inserts_once spacedProbe (.plain (.measure "m") [.grid ⟨0, 0⟩])
      (fun _ moment => !moment.operations.any Operation.isInteraction)
  have hindex : index = 2 := (congrArg Prod.fst hinsert).symm
  exact ⟨inserted, hindex ▸ hinsert, hdistinct (by decide) (by decide)⟩

end GridCircuit.Circuit
