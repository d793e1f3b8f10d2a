import GridCircuit.Proofs.RoundTrip

/-!
# Pairs of qubits and their order

A pair stands for two different qubits in either order, and its smaller end is written first.
`QubitPair.of` sees to that, and makes every pair of this form (`exists_of_eq_ok_iff`).  So pairs
that it has made can be compared by their ends: they are equal when they contain the same qubits
(`eq_iff_contains_eq`).

A document is decoded end by end and the ends are not compared.  Every two qubits are the ends of a
decoded pair, also a qubit twice or the greater one first, and two decoded pairs can differ though
they contain the same qubits.
-/

namespace GridCircuit

namespace QubitPair

variable {first second pair : QubitPair}

/-- The pairs that are made from two qubits are those with the smaller one first. -/
theorem exists_of_eq_ok_iff : (∃ a b, of a b = .ok pair) ↔ pair.low < pair.high := by
  simp only [of_eq_ok_iff]
  constructor
  · rintro ⟨a, b, ⟨hless, rfl⟩ | ⟨hless, rfl⟩⟩
    · exact hless
    · exact hless
  · intro hless
    exact ⟨pair.low, pair.high, .inl ⟨hless, rfl⟩⟩

theorem contains_iff {qubit : Qubit} : pair.contains qubit = true ↔ qubit ∈ pair.ends := by
  rw [contains, Bool.or_eq_true, decide_eq_true_eq, decide_eq_true_eq, ends, List.mem_pair,
    eq_comm, @eq_comm _ pair.high]

/-- Pairs contain the same qubits when they are equal up to an exchange of the ends. -/
theorem contains_eq_iff_eq_or_exchanged :
    (∀ qubit, first.contains qubit = second.contains qubit) ↔
      first = second ∨ first = ⟨second.high, second.low⟩ := by
  constructor
  · intro hsame
    have hends : ∀ qubit, qubit ∈ first.ends ↔ qubit ∈ second.ends := fun qubit => by
      rw [← contains_iff, ← contains_iff, hsame qubit]
    have hlow : first.low ∈ second.ends := (hends _).mp List.mem_cons_self
    have hhigh : first.high ∈ second.ends := (hends _).mp (List.mem_pair.mpr (.inr rfl))
    have hlow' : second.low ∈ first.ends := (hends _).mpr List.mem_cons_self
    have hhigh' : second.high ∈ first.ends := (hends _).mpr (List.mem_pair.mpr (.inr rfl))
    obtain ⟨a, b⟩ := first
    obtain ⟨c, d⟩ := second
    simp only [ends, List.mem_pair, mk.injEq] at hlow hhigh hlow' hhigh' ⊢
    grind
  · rintro (rfl | rfl) qubit
    · rfl
    · rw [contains, contains, Bool.or_comm]

/-- Pairs with the smaller end first are equal when they contain the same qubits. -/
theorem eq_iff_contains_eq (hfirst : first.low < first.high) (hsecond : second.low < second.high) :
    first = second ↔ ∀ qubit, first.contains qubit = second.contains qubit := by
  rw [contains_eq_iff_eq_or_exchanged]
  refine ⟨.inl, ?_⟩
  rintro (hsame | rfl)
  · exact hsame
  · -- both ends cannot be the smaller one
    exact absurd (StrictTotalOrder.trans hfirst hsecond) (StrictTotalOrder.irrefl _)

/-! ## Documents -/

/-- The ends of a decoded pair are those that the document names, in its order. -/
theorem decode?_eq_some_iff {tree : Json} : decode? tree = some pair ↔
    ∃ low high, tree.record? ["low", "high"] = some [some low, some high] ∧
      Qubit.decode? low = some pair.low ∧ Qubit.decode? high = some pair.high := by
  unfold decode?
  split
  · rename_i low high hrecord
    simp only [Option.bind_eq_bind, Option.bind_eq_some_iff, Option.pure_def, Option.some.injEq]
    constructor
    · rintro ⟨a, hlow, b, hhigh, rfl⟩
      exact ⟨low, high, hrecord, hlow, hhigh⟩
    · rintro ⟨low', high', hrecord', hlow, hhigh⟩
      obtain ⟨rfl, rfl⟩ : low = low' ∧ high = high' := by simpa [hrecord] using hrecord'
      exact ⟨pair.low, hlow, pair.high, hhigh, rfl⟩
  · rename_i hother
    simp only [reduceCtorEq, false_iff]
    rintro ⟨low, high, hrecord, -, -⟩
    exact hother low high hrecord

/-- Every two qubits are the ends of a decoded pair. -/
theorem decode?_encode (pair : QubitPair) : decode? pair.encode = some pair := by
  simp [decode?, encode, Json.record?, Json.fieldValues?, Qubit.decode?_encode]

/-- A pair has its smaller end first exactly when it can be made from two qubits.  A document gives
the ends as it writes them, and every pair is given by some document.  Pairs with the smaller end
first are equal when they contain the same qubits; of other pairs, one may be the other with its
ends exchanged. -/
theorem pairs_made_and_decoded (tree : Json) (first second : QubitPair) :
    (first.low < first.high ↔ ∃ a b, of a b = .ok first) ∧
    (decode? tree = some first ↔
      ∃ low high, tree.record? ["low", "high"] = some [some low, some high] ∧
        Qubit.decode? low = some first.low ∧ Qubit.decode? high = some first.high) ∧
    decode? first.encode = some first ∧
    (first.low < first.high → second.low < second.high →
      (first = second ↔ ∀ qubit, first.contains qubit = second.contains qubit)) ∧
    ((∀ qubit, first.contains qubit = second.contains qubit) ↔
      first = second ∨ first = ⟨second.high, second.low⟩) :=
  ⟨exists_of_eq_ok_iff.symm, decode?_eq_some_iff, decode?_encode first, eq_iff_contains_eq,
    contains_eq_iff_eq_or_exchanged⟩

theorem mixedEnds_compared :
    Qubit.grid ⟨0, 0⟩ < .named "a" ∧ Qubit.grid ⟨0, 0⟩ < .line 3 ∧
      ((⟨.grid ⟨0, 0⟩, .named "a"⟩ : QubitPair) = ⟨.grid ⟨0, 0⟩, .line 3⟩ ↔
        ∀ qubit, (⟨.grid ⟨0, 0⟩, .named "a"⟩ : QubitPair).contains qubit =
          (⟨.grid ⟨0, 0⟩, .line 3⟩ : QubitPair).contains qubit) := by
  have hnamed : Qubit.grid ⟨0, 0⟩ < .named "a" := by decide
  have hline : Qubit.grid ⟨0, 0⟩ < .line 3 := by decide
  obtain ⟨-, -, -, hequal, -⟩ :=
    pairs_made_and_decoded .null ⟨.grid ⟨0, 0⟩, .named "a"⟩ ⟨.grid ⟨0, 0⟩, .line 3⟩
  exact ⟨hnamed, hline, hequal hnamed hline⟩

/-- A document that writes the greater end of a pair first. -/
def swappedEnds : Json :=
  .object [("low", .object [("line", .integer 1)]), ("high", .object [("line", .integer 0)])]

/-- A decoded pair need not have its smaller end first, and it then differs from the pair that is
made from the same qubits. -/
theorem swappedEnds_decoded :
    decode? swappedEnds = some ⟨.line 1, .line 0⟩ ∧ ¬ Qubit.line 1 < Qubit.line 0 ∧
      of (.line 1) (.line 0) = .ok ⟨.line 0, .line 1⟩ ∧
      (⟨.line 1, .line 0⟩ : QubitPair) ≠ ⟨.line 0, .line 1⟩ ∧
      ∀ qubit, (⟨.line 1, .line 0⟩ : QubitPair).contains qubit =
        (⟨.line 0, .line 1⟩ : QubitPair).contains qubit := by
  refine ⟨rfl, by decide, rfl, by decide, fun qubit => ?_⟩
  rw [contains, contains, Bool.or_comm]

end QubitPair

end GridCircuit
