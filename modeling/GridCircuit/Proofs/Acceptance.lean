import GridCircuit.Proofs.Packing
import GridCircuit.Proofs.WellFormed

/-!
# Accepted circuits

A device checks a circuit by loops: over moments, over operations, over operands, over pairs of
interactions and over keys.  Here is the rule that the loops enforce, in words that mention none of
them.  `Operation.Fits` says which operations a topology has the sites and links for, whatever their
gate, and `Circuit.Legal` adds what the operations of a circuit may not share.

Nothing is assumed of operand lists, so the rule decides circuits put together by hand as well.
-/

namespace GridCircuit

open Attempt

/-! ## Operations -/

/-- A plain native gate on as many operands as it takes, all of them sites of the topology; two
operands that are not measured are neighbours. -/
structure Operation.Fits (topology : Topology) (operation : Operation) : Prop where
  native : ∃ gate, operation.gate? = some gate ∧ (∀ name arity, gate ≠ .custom name arity) ∧
    gate.Takes operation.qubits.length
  onSites : ∀ qubit ∈ operation.qubits, ∃ site ∈ topology, qubit = .grid site
  linked : operation.isMeasurement = false →
    ∀ a b, operation.qubits = [.grid a, .grid b] → a.distance b = 1

namespace Gate

variable {gate : Gate}

theorem exists_kind?_iff :
    (∃ kind, gate.kind? = some kind) ↔ ∀ name arity, gate ≠ .custom name arity := by
  cases gate <;> simp [kind?]

theorem isMeasurement_plain_iff {kind : GateKind} (hkind : gate.kind? = some kind)
    (qubits : List Qubit) :
    (Operation.plain gate qubits).isMeasurement = true ↔ kind = .measurement := by
  cases gate <;> simp_all [kind?, Operation.isMeasurement, Operation.key?, Operation.gate?, key?,
    eq_comm]

end Gate

namespace Topology

variable {topology : Topology}

theorem areLocal_iff {kind : GateKind} {sites : List Site} : areLocal kind sites = true ↔
    kind ≠ .measurement → ∀ a b, sites = [a, b] → a.distance b = 1 := by
  unfold areLocal
  split
  · rw [Bool.or_eq_true, decide_eq_true_eq, decide_eq_true_eq, or_iff_not_imp_left]
    simp [Site.Adjacent]
  · -- other numbers of operands need not be neighbours
    rename_i hother
    simp only [true_iff]
    exact fun _ a b hsites => absurd hsites (hother a b)

theorem map_grid_injective : Function.Injective (List.map Qubit.grid) :=
  List.map_injective_iff.mpr fun _ _ => Qubit.grid.inj

/-- Operands are sites of the topology when each is one. -/
theorem exists_map_grid_iff {qubits : List Qubit} :
    (∃ sites : List Site, qubits = sites.map .grid ∧ ∀ site ∈ sites, site ∈ topology) ↔
      ∀ qubit ∈ qubits, ∃ site ∈ topology, qubit = .grid site := by
  simp only [← mapM_siteOf_eq_ok_iff, exists_mapM_eq_ok_iff, siteOf_eq_ok_iff, and_comm]

theorem checkOperation_eq_ok_iff_fits {operation : Operation} :
    topology.checkOperation operation = .ok () ↔ operation.Fits topology := by
  cases operation with
  | conditional | subcircuit =>
      simp only [checkOperation, Operation.gate?, reduceCtorEq, false_iff]
      rintro ⟨⟨_, hgate, -⟩, -, -⟩
      cases hgate
  | plain gate qubits =>
      rw [checkOperation_plain_eq_ok_iff]
      constructor
      · rintro ⟨kind, sites, hkind, rfl, hmem, haccepts, hlocal⟩
        refine ⟨⟨gate, rfl, Gate.exists_kind?_iff.mp ⟨kind, hkind⟩, ?_⟩,
          exists_map_grid_iff.mp ⟨sites, rfl, hmem⟩, fun hunmeasured a b hoperands => ?_⟩
        · rw [Operation.qubits, List.length_map]
          exact Gate.accepts_iff.mp haccepts
        · have hkind' : kind ≠ .measurement := fun hmeasurement => by
            simp [(Gate.isMeasurement_plain_iff hkind _).mpr hmeasurement] at hunmeasured
          exact areLocal_iff.mp hlocal hkind' a b (map_grid_injective hoperands)
      · rintro ⟨⟨_, ⟨rfl⟩, hnative, htakes⟩, honSites, hlinked⟩
        obtain ⟨kind, hkind⟩ := Gate.exists_kind?_iff.mpr hnative
        obtain ⟨sites, rfl, hmem⟩ := exists_map_grid_iff.mpr honSites
        refine ⟨kind, sites, hkind, rfl, hmem, ?_, areLocal_iff.mpr fun hkind' a b hsites => ?_⟩
        · rw [Operation.qubits, List.length_map] at htakes
          exact Gate.accepts_iff.mpr htakes
        · refine hlinked ?_ a b (congrArg (List.map Qubit.grid) hsites)
          exact Bool.eq_false_iff.mpr fun hmeasured =>
            hkind' ((Gate.isMeasurement_plain_iff hkind _).mp hmeasured)

end Topology

/-- The operations that a topology runs are those that fit it. -/
theorem Operation.runsOn_iff_fits {topology : Topology} {operation : Operation} :
    operation.RunsOn topology ↔ operation.Fits topology :=
  Topology.checkOperation_eq_ok_iff.symm.trans Topology.checkOperation_eq_ok_iff_fits

/-! ## Circuits -/

/-- A circuit all of whose operations fit a topology and stay out of each other's way. -/
structure Circuit.Legal (topology : Topology) (circuit : Circuit) : Prop where
  fits : ∀ operation ∈ circuit.operations, operation.Fits topology
  /-- No qubit is used twice in a moment, be it by two operations or by one. -/
  nodup : ∀ moment ∈ circuit.moments, moment.qubits.Nodup
  /-- Two interactions of a moment have no site of one next to a site of the other. -/
  apart : ∀ moment ∈ circuit.moments,
    ∀ (i j : Nat) (hi : i < moment.operations.length) (hj : j < moment.operations.length),
      i ≠ j → moment.operations[i].Apart moment.operations[j]
  /-- No two measurements of the circuit record under one key. -/
  keys : circuit.keys.Nodup

theorem pairwise_apart_iff {operations : List Operation} : operations.Pairwise Operation.Apart ↔
    ∀ (i j : Nat) (hi : i < operations.length) (hj : j < operations.length),
      i ≠ j → operations[i].Apart operations[j] := by
  rw [List.pairwise_iff_getElem]
  constructor
  · intro hbefore i j hi hj hne
    rcases Nat.lt_or_gt_of_ne hne with hlt | hgt
    · exact hbefore i j hi hj hlt
    · exact (hbefore j i hj hi hgt).symm
  · intro hapart i j hi hj hlt
    exact hapart i j hi hj (Nat.ne_of_lt hlt)

/-- A device accepts exactly the legal circuits. -/
theorem Device.checkCircuit_accepts_iff_legal (durations : GateDurations) (topology : Topology)
    (circuit : Circuit) :
    (ofParts durations topology).checkCircuit circuit = .ok () ↔ circuit.Legal topology := by
  rw [checkCircuit_eq_ok_iff]
  constructor
  · rintro ⟨hmoments, hkeys⟩
    refine ⟨fun operation hmem => ?_, fun moment hmoment => (hmoments moment hmoment).nodup,
      fun moment hmoment => pairwise_apart_iff.mp (hmoments moment hmoment).apart, hkeys⟩
    obtain ⟨moment, hmoment, hmem⟩ := List.mem_flatMap.mp hmem
    exact Operation.runsOn_iff_fits.mp ((hmoments moment hmoment).runs operation hmem)
  · rintro ⟨hfits, hnodup, hapart, hkeys⟩
    refine ⟨fun moment hmoment => ⟨fun operation hmem => ?_, hnodup moment hmoment,
      pairwise_apart_iff.mpr (hapart moment hmoment)⟩, hkeys⟩
    exact Operation.runsOn_iff_fits.mpr
      (hfits operation (List.mem_flatMap.mpr ⟨moment, hmoment, hmem⟩))

end GridCircuit
