import GridCircuit.Proofs.Renaming

/-!
# Mapping in two steps

Two qubit maps can be applied to a circuit one after the other, or composed to one map that is
applied once.  Both ways can fail in every moment, and they judge different circuits for overlaps:
the first map alone may send two operations of a moment to one site, in which case there is no
second step, and the composed map only sees where the operations end.  All the same they succeed on
the same circuits, with the same result (`onCircuit_andThen_eq_ok_iff`).

The reason is that images which the first map has brought together stay together.  So operations
that are disjoint in the end were disjoint in between (`maps_andThen_iff`).
-/

namespace GridCircuit

namespace Operation

/-- Relabelling depends on the labels of the occurring qubits only. -/
theorem relabel_congr {label label' : Qubit → Qubit} {operation : Operation}
    (hlabel : ∀ qubit ∈ operation.occurrences, label qubit = label' qubit) :
    operation.relabel label = operation.relabel label' := by
  -- both are what renaming every qubit to its first label ends with
  have hrename : operation.mapQubits (fun qubit => Except.ok (ε := Unit) (label qubit)) =
      .ok (operation.relabel label) := mapQubits_eq_ok_relabel fun qubit _ => rfl
  have hrename' : operation.mapQubits (fun qubit => Except.ok (ε := Unit) (label qubit)) =
      .ok (operation.relabel label') :=
    mapQubits_eq_ok_relabel fun qubit hqubit => congrArg Except.ok (hlabel qubit hqubit)
  exact Except.ok.inj (hrename.symm.trans hrename')

theorem relabel_relabel (label label' : Qubit → Qubit) (operation : Operation) :
    (operation.relabel label).relabel label' = operation.relabel (label' ∘ label) := by
  induction operation with
  | plain gate qubits => simp [relabel]
  | conditional key gate qubits => simp [relabel]
  | subcircuit parts qubits ih =>
      have hparts : (parts.map (relabel label)).map (relabel label') =
          parts.map (relabel (label' ∘ label)) := by
        rw [List.map_map]
        exact List.map_congr_left ih
      simp only [relabel, relabelParts_eq_map, hparts, List.map_map]

end Operation

namespace QubitMap

variable {first second : QubitMap} {operation : Operation} {circuit : Circuit}

/-- The map that sends a qubit where the second map sends its site under the first. -/
def andThen (first second : QubitMap) : QubitMap := fun qubit =>
  (first qubit).bind fun site => second (.grid site)

theorem isSome_andThen_iff {qubit : Qubit} : (first.andThen second qubit).isSome = true ↔
    (first qubit).isSome = true ∧ (second (first.image qubit)).isSome = true := by
  cases hsite : first qubit with
  | none => simp [andThen, hsite]
  | some site => simp [andThen, hsite, image]

theorem image_andThen {qubit : Qubit} (hsome : (first.andThen second qubit).isSome = true) :
    (first.andThen second).image qubit = second.image (first.image qubit) := by
  obtain ⟨hfirst, hsecond⟩ := isSome_andThen_iff.mp hsome
  obtain ⟨site, hsite⟩ := Option.isSome_iff_exists.mp hfirst
  obtain ⟨final, hfinal⟩ := Option.isSome_iff_exists.mp hsecond
  have hcomposed : first.andThen second qubit = some final := by
    simpa [andThen, hsite, image_of_eq_some hsite] using hfinal
  rw [image_of_eq_some hcomposed, image_of_eq_some hfinal]

theorem covers_andThen_iff : (first.andThen second).Covers operation ↔
    first.Covers operation ∧ second.Covers (operation.relabel first.image) := by
  simp only [Covers, isSome_andThen_iff, Operation.occurrences_relabel, List.forall_mem_map]
  exact forall₂_and

theorem Covers.map_qubits_andThen (hcovers : (first.andThen second).Covers operation) :
    operation.qubits.map (first.andThen second).image =
      (operation.relabel first.image).qubits.map second.image := by
  rw [Operation.qubits_relabel, List.map_map]
  refine List.map_congr_left fun qubit hqubit => ?_
  exact image_andThen (hcovers qubit (Operation.mem_occurrences_of_mem_qubits hqubit))

theorem Covers.relabel_andThen (hcovers : (first.andThen second).Covers operation) :
    operation.relabel (first.andThen second).image =
      (operation.relabel first.image).relabel second.image := by
  rw [Operation.relabel_relabel]
  exact Operation.relabel_congr fun qubit hqubit => image_andThen (hcovers qubit hqubit)

/-- Operations whose sites are disjoint after both steps have disjoint sites after the first. -/
theorem pairwise_disjoint_of_relabel {moment : Moment}
    (hdisjoint : (moment.relabel first.image).operations.Pairwise fun a b =>
      (a.qubits.map second.image).Disjoint (b.qubits.map second.image)) :
    moment.operations.Pairwise fun a b =>
      (a.qubits.map first.image).Disjoint (b.qubits.map first.image) := by
  rw [Moment.relabel, List.pairwise_map] at hdisjoint
  refine hdisjoint.imp fun {a b} hab => ?_
  rw [Operation.qubits_relabel, Operation.qubits_relabel] at hab
  intro site ha hb
  exact hab (List.mem_map_of_mem ha) (List.mem_map_of_mem hb)

theorem pairwise_disjoint_andThen_iff {moment : Moment}
    (hcovers : ∀ operation ∈ moment.operations, (first.andThen second).Covers operation) :
    (moment.operations.Pairwise fun a b =>
      (a.qubits.map (first.andThen second).image).Disjoint
        (b.qubits.map (first.andThen second).image)) ↔
    (moment.relabel first.image).operations.Pairwise fun a b =>
      (a.qubits.map second.image).Disjoint (b.qubits.map second.image) := by
  rw [Moment.relabel, List.pairwise_map]
  apply List.Pairwise.iff_of_mem
  intro a b ha hb
  rw [(hcovers a ha).map_qubits_andThen, (hcovers b hb).map_qubits_andThen]

/-- A circuit can be mapped by the composed map when it can be mapped by the first map and the
result by the second. -/
theorem maps_andThen_iff : (first.andThen second).Maps circuit ↔
    first.Maps circuit ∧ second.Maps (circuit.relabel first.image) := by
  have hcovers : (∀ operation ∈ circuit.operations, (first.andThen second).Covers operation) ↔
      (∀ operation ∈ circuit.operations, first.Covers operation) ∧
        ∀ operation ∈ (circuit.relabel first.image).operations, second.Covers operation := by
    simp only [covers_andThen_iff, Circuit.operations_relabel, List.forall_mem_map]
    exact forall₂_and
  have hspread (hall : ∀ operation ∈ circuit.operations, (first.andThen second).Covers operation)
      {moment : Moment} (hmoment : moment ∈ circuit.moments) :=
    pairwise_disjoint_andThen_iff (Circuit.forall_mem_operations.mp hall moment hmoment)
  constructor
  · intro hmaps
    obtain ⟨hfirst, hsecond⟩ := hcovers.mp hmaps.covers
    have hfinal : ∀ moment ∈ circuit.moments, (moment.relabel first.image).operations.Pairwise
        fun a b => (a.qubits.map second.image).Disjoint (b.qubits.map second.image) :=
      fun moment hmoment => (hspread hmaps.covers hmoment).mp (hmaps.spread moment hmoment)
    refine ⟨⟨hfirst, fun moment hmoment => ?_⟩, ⟨hsecond, ?_⟩⟩
    · exact pairwise_disjoint_of_relabel (hfinal moment hmoment)
    · exact List.forall_mem_map.mpr hfinal
  · rintro ⟨hfirst, hsecond⟩
    have hall := hcovers.mpr ⟨hfirst.covers, hsecond.covers⟩
    refine ⟨hall, fun moment hmoment => (hspread hall hmoment).mpr ?_⟩
    exact hsecond.spread _ (List.mem_map_of_mem hmoment)

theorem Maps.relabel_andThen (hmaps : (first.andThen second).Maps circuit) :
    circuit.relabel (first.andThen second).image =
      (circuit.relabel first.image).relabel second.image := by
  have hmoment : ∀ moment ∈ circuit.moments, moment.relabel (first.andThen second).image =
      (moment.relabel first.image).relabel second.image := by
    intro moment hmoment
    simp only [Moment.relabel, List.map_map, Moment.mk.injEq]
    refine List.map_congr_left fun operation hoperation => ?_
    exact (hmaps.covers operation (Circuit.mem_operations hmoment hoperation)).relabel_andThen
  simp only [Circuit.relabel, List.map_map, Circuit.mk.injEq, true_and]
  exact List.map_congr_left hmoment

/-- Mapping a circuit by a composed map is mapping it by the first map and then, if that succeeds,
by the second. -/
theorem onCircuit_andThen_eq_ok_iff (first second : QubitMap) (circuit mapped : Circuit) :
    (first.andThen second).onCircuit circuit = .ok mapped ↔
      ∃ between, first.onCircuit circuit = .ok between ∧
        second.onCircuit between = .ok mapped := by
  simp only [onCircuit_eq_ok_iff, maps_andThen_iff]
  constructor
  · rintro ⟨⟨hfirst, hsecond⟩, rfl⟩
    have hmaps : (first.andThen second).Maps circuit := maps_andThen_iff.mpr ⟨hfirst, hsecond⟩
    exact ⟨_, ⟨hfirst, rfl⟩, hsecond, hmaps.relabel_andThen⟩
  · rintro ⟨_, ⟨hfirst, rfl⟩, hsecond, rfl⟩
    have hmaps : (first.andThen second).Maps circuit := maps_andThen_iff.mpr ⟨hfirst, hsecond⟩
    exact ⟨⟨hfirst, hsecond⟩, hmaps.relabel_andThen.symm⟩

end QubitMap

end GridCircuit
