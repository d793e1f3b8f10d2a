import GridCircuit.Proofs.Packing

/-!
# The strict strategy restricts the other one

The strategy that forbids partial interactions has one more pass than the one that allows them.  The
pass only looks at the circuit, and it stands between passes that may fail and passes that may fail.
So a strict optimization either goes on as if the pass were not there or ends there, with a partial
interaction that survives the passes before it (`optimize_xmon_cases`).

Hence whatever a strict optimization ends with, other than such a failure, is what the permissive
one ends with.  For the converse, a result of the permissive one has to tell that the strict one
does not end early.  Packing has moved the operations of the result by then, but they still are the
ones that the pass would have looked at (`mem_operations_of_optimize`).
-/

namespace GridCircuit.Circuit

variable {circuit optimized : Circuit} {device : Option Device} {map : QubitMap}
  {strategy : Strategy}

/-- A strict optimization does what the permissive one does, or it fails on a partial interaction
that survives. -/
theorem optimize_xmon_cases (circuit : Circuit) (device : Option Device) (map : QubitMap) :
    circuit.optimize device map .xmon = circuit.optimize device map .xmonPartial ∨
      ∃ operation ∈ circuit.survivors map,
        operation.isPartialInteraction defaultTolerance = true ∧
          circuit.optimize device map .xmon =
            .error (.partialInteraction operation Strategy.xmon.name) := by
  rw [optimize_eq_prepare_bind, optimize_eq_prepare_bind]
  cases hmapped : map.onCircuit circuit with
  | error cause =>
      have hprepare : ∀ strategy, circuit.prepare map strategy = .error cause := by
        intro strategy
        rw [prepare, hmapped]
        rfl
      exact .inl (by rw [hprepare, hprepare])
  | ok mapped =>
      have hprepare : ∀ strategy, circuit.prepare map strategy =
          strategy.screen defaultTolerance (mapped.dropNegligible defaultTolerance) >>= fun _ =>
            .ok (mapped.dropNegligible defaultTolerance).dropEmptyMoments := by
        intro strategy
        rw [prepare, hmapped]
        rfl
      rw [hprepare, hprepare]
      rcases Strategy.screen_xmon_cases defaultTolerance
        (mapped.dropNegligible defaultTolerance) with
        ⟨hpassed, -⟩ | ⟨operation, hmem, hpartial, hfailed⟩
      · rw [hpassed]
        exact .inl rfl
      · obtain ⟨-, rfl⟩ := QubitMap.onCircuit_eq_ok_iff.mp hmapped
        rw [operations_dropNegligible, operations_relabel] at hmem
        rw [hfailed]
        exact .inr ⟨operation, hmem, hpartial, rfl⟩

/-- With or without a device, whatever the rules of its host, the operations of an optimized circuit
are those that survive. -/
theorem mem_operations_of_optimize
    (hoptimized : circuit.optimize device map strategy = .ok optimized) {operation : Operation} :
    operation ∈ optimized.operations ↔ operation ∈ circuit.survivors map := by
  rw [← optimizeNamed_name] at hoptimized
  rw [← operations_prepared]
  cases device with
  | none =>
      obtain ⟨-, rfl⟩ := optimizeNamed_none_eq_ok_iff.mp hoptimized
      rfl
  | some device =>
      obtain ⟨-, hfinish⟩ := optimizeNamed_some_eq_ok_iff.mp hoptimized
      rw [Device.eq_arrange_of_finish hfinish]
      exact mem_arrange_operations

/-- What a strict optimization ends with, the permissive one ends with as well, be it a circuit or a
failure, unless it is a partial interaction that it fails on.  And a circuit without partial
interactions that the permissive one ends with is that of the strict one. -/
theorem strict_restricts_permissive (circuit : Circuit) (device : Option Device)
    (map : QubitMap) :
    (∀ optimized, circuit.optimize device map (.ofPartial false) = .ok optimized →
      circuit.optimize device map (.ofPartial true) = .ok optimized) ∧
    (∀ cause, circuit.optimize device map (.ofPartial false) = .error cause →
      (∀ operation name, cause ≠ .partialInteraction operation name) →
        circuit.optimize device map (.ofPartial true) = .error cause) ∧
    (∀ optimized, circuit.optimize device map (.ofPartial true) = .ok optimized →
      (∀ operation ∈ optimized.operations,
        operation.isPartialInteraction defaultTolerance = false) →
        circuit.optimize device map (.ofPartial false) = .ok optimized) := by
  have hstrict : Strategy.ofPartial false = .xmon := rfl
  have hpermissive : Strategy.ofPartial true = .xmonPartial := rfl
  rw [hstrict, hpermissive]
  rcases optimize_xmon_cases circuit device map with hsame | ⟨operation, hmem, hpartial, hfailed⟩
  · rw [hsame]
    exact ⟨fun _ hoptimized => hoptimized, fun _ hfailed _ => hfailed,
      fun _ hoptimized _ => hoptimized⟩
  · rw [hfailed]
    refine ⟨fun optimized hoptimized => ?_, fun cause hcause hother => ?_,
      fun optimized hoptimized hfull => ?_⟩
    · cases hoptimized
    · cases hcause
      exact absurd rfl (hother operation _)
    · -- the partial interaction would be an operation of the result
      have hkept := (mem_operations_of_optimize hoptimized).mpr hmem
      rw [hfull operation hkept] at hpartial
      cases hpartial

set_option maxRecDepth 20000 in
/-- A row that ends before the second interaction of `lineProbe` is refused late, by the packing. -/
theorem optimize_lineProbe_narrow :
    lineProbe.optimize (some (.ofParts .foxtail (.rectangle 1 3))) (.lineOntoRow 0)
        (.ofPartial false) =
      .error (.device (.offDevice ⟨0, 4⟩)) := by
  rfl

set_option maxRecDepth 20000 in
theorem lineProbe_strict_and_permissive :
    (lineProbe.optimize (some .foxtail) (.lineOntoRow 0) (.ofPartial false) = .ok packedProbe ∧
      lineProbe.optimize (some .foxtail) (.lineOntoRow 0) (.ofPartial true) = .ok packedProbe) ∧
    (∀ operation ∈ packedProbe.operations,
      operation.isPartialInteraction defaultTolerance = false) ∧
    lineProbe.optimize (some (.ofParts .foxtail (.rectangle 1 3))) (.lineOntoRow 0)
        (.ofPartial true) =
      .error (.device (.offDevice ⟨0, 4⟩)) := by
  obtain ⟨hforth, -, hback⟩ :=
    strict_restricts_permissive lineProbe (some .foxtail) (.lineOntoRow 0)
  obtain ⟨-, hfails, -⟩ := strict_restricts_permissive lineProbe
    (some (.ofParts .foxtail (.rectangle 1 3))) (.lineOntoRow 0)
  have hpermissive := hforth packedProbe
    ((optimizeNamed_name lineProbe (some .foxtail) (.lineOntoRow 0) .xmon).symm.trans
      optimizeNamed_lineProbe)
  have hfull : ∀ operation ∈ packedProbe.operations,
      operation.isPartialInteraction defaultTolerance = false := by
    simp only [packedProbe, Circuit.operations, List.flatMap_cons, List.flatMap_nil,
      List.append_nil, List.cons_append, List.nil_append, List.forall_mem_cons]
    exact ⟨rfl, rfl, rfl, by simp⟩
  refine ⟨⟨hback packedProbe hpermissive hfull, hpermissive⟩, hfull, ?_⟩
  exact hfails _ optimize_lineProbe_narrow (by simp)

end GridCircuit.Circuit
