import GridCircuit.CircuitError

/-!
# Unordered pairs of qubits

A coupler joins two different qubits in either order.  `QubitPair.of` stores the smaller end
first, so the order of its arguments does not matter.
-/

namespace GridCircuit

/-- Two qubits, written smaller first by `QubitPair.of`. -/
structure QubitPair where
  low : Qubit
  high : Qubit
  deriving DecidableEq

namespace QubitPair

/-- The pair of two qubits; a qubit makes no pair with itself. -/
def of (a b : Qubit) : Except CircuitError QubitPair :=
  if a = b then .error (.identicalPair a)
  else if a < b then .ok ⟨a, b⟩
  else .ok ⟨b, a⟩

/-- Two qubits make a pair when they differ, with the smaller one first. -/
theorem of_eq_ok_iff {a b : Qubit} {pair : QubitPair} :
    of a b = .ok pair ↔ a < b ∧ pair = ⟨a, b⟩ ∨ b < a ∧ pair = ⟨b, a⟩ := by
  have hirrefl : ¬ a < a := StrictTotalOrder.irrefl a
  have hasymm (hless : a < b) : ¬ b < a := fun hgreater =>
    hirrefl (StrictTotalOrder.trans hless hgreater)
  rcases StrictTotalOrder.connected a b with hless | rfl | hgreater
  · have hne : a ≠ b := fun hsame => hirrefl (hsame ▸ hless)
    simp [of, hne, hless, hasymm hless, eq_comm]
  · simp [of, hirrefl]
  · have hne : a ≠ b := fun hsame => hirrefl (hsame ▸ hgreater)
    have hnot : ¬ a < b := fun hless => hasymm hless hgreater
    simp [of, hne, hnot, hgreater, eq_comm]

theorem exists_of_eq_ok {a b : Qubit} (differ : a ≠ b) : ∃ pair, of a b = .ok pair := by
  rcases StrictTotalOrder.connected a b with hless | hsame | hgreater
  · exact ⟨_, of_eq_ok_iff.mpr (.inl ⟨hless, rfl⟩)⟩
  · exact absurd hsame differ
  · exact ⟨_, of_eq_ok_iff.mpr (.inr ⟨hgreater, rfl⟩)⟩

/-- Qubits that make one pair are the same, but for their order. -/
theorem eq_or_swap_of_of_eq_ok {a b c d : Qubit} {pair : QubitPair} (hpair : of a b = .ok pair)
    (hpair' : of c d = .ok pair) : a = c ∧ b = d ∨ a = d ∧ b = c := by
  rcases of_eq_ok_iff.mp hpair with ⟨-, rfl⟩ | ⟨-, rfl⟩ <;>
    rcases of_eq_ok_iff.mp hpair' with ⟨-, hsame⟩ | ⟨-, hsame⟩ <;> cases hsame <;> simp

/-- Both ends, in stored order. -/
def ends (pair : QubitPair) : List Qubit := [pair.low, pair.high]

/-- Whether a qubit is one of the ends. -/
def contains (pair : QubitPair) (qubit : Qubit) : Bool :=
  pair.low = qubit || pair.high = qubit

/-- The text of a pair, such as `q(0, 0)-q(0, 1)`. -/
def label (pair : QubitPair) : String :=
  s!"{pair.low.label}-{pair.high.label}"

end QubitPair

end GridCircuit
