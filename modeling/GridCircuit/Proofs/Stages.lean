import GridCircuit.Pipeline.Optimization
import GridCircuit.Proofs.Renaming

/-!
# The stages of an optimization

An optimization runs a list of passes on a workspace.  Seen from outside it has two stages.
`Circuit.prepare` needs no device: it maps the circuit, drops what is negligible, looks for partial
interactions and drops empty moments.  `Device.finish` packs the prepared circuit and verifies the
result.  `optimize_none` and `optimize_some` say that an optimization is just that, failures
included.

The first stage is settled here as well: `prepare_eq_ok_iff` says that it succeeds under the
conditions of `Preparable` and leaves the circuit `prepared`, whose operations are the `survivors`.
-/

namespace GridCircuit

open Attempt

/-- Fails on the first partial interaction, under a strategy that forbids them. -/
def Strategy.screen (strategy : Strategy) (tolerance : Float) (circuit : Circuit) :
    Except CompileError Unit :=
  if strategy.allowsPartial then .ok ()
  else
    match circuit.operations.find? (·.isPartialInteraction tolerance) with
    | some operation => .error (.partialInteraction operation strategy.name)
    | none => .ok ()

/-- Under the strategy that forbids them, the screening succeeds on circuits without partial
interactions and fails on a partial interaction otherwise. -/
theorem Strategy.screen_xmon_cases (tolerance : Float) (circuit : Circuit) :
    (xmon.screen tolerance circuit = .ok () ∧
      ∀ operation ∈ circuit.operations, operation.isPartialInteraction tolerance = false) ∨
    ∃ operation ∈ circuit.operations, operation.isPartialInteraction tolerance = true ∧
      xmon.screen tolerance circuit = .error (.partialInteraction operation xmon.name) := by
  simp only [screen, allowsPartial, Bool.false_eq_true, if_false]
  cases hfind : circuit.operations.find? (·.isPartialInteraction tolerance) with
  | none => exact .inl ⟨rfl, by simpa using hfind⟩
  | some operation =>
      exact .inr ⟨operation, List.mem_of_find?_eq_some hfind, List.find?_some hfind, rfl⟩

/-- The stage of an optimization that needs no device. -/
def Circuit.prepare (circuit : Circuit) (map : QubitMap) (strategy : Strategy) :
    Except CompileError Circuit := do
  let mapped ← map.onCircuit circuit
  strategy.screen defaultTolerance (mapped.dropNegligible defaultTolerance)
  return (mapped.dropNegligible defaultTolerance).dropEmptyMoments

/-- The stage of an optimization that makes a circuit fit a device. -/
def Device.finish (device : Device) (circuit : Circuit) : Except CompileError Circuit := do
  let packed ← (device.pack circuit).mapError .device
  let _ ← device.verify packed
  return packed

/-! ## One pass after another -/

namespace Pass

variable {rest : List Pass} {circuit : Circuit} {properties : Properties}

theorem result_runAll_mapping (map : QubitMap) :
    (runAll (.mapping map :: rest) ⟨circuit, properties⟩).result =
      map.onCircuit circuit >>= fun mapped => (runAll rest ⟨mapped, properties⟩).result := by
  rw [runAll]
  simp only [shouldRun, if_true, run]
  cases map.onCircuit circuit <;> rfl

theorem result_runAll_dropNegligible (tolerance : Float) :
    (runAll (.dropNegligible tolerance :: rest) ⟨circuit, properties⟩).result =
      (runAll rest ⟨circuit.dropNegligible tolerance, properties⟩).result := rfl

theorem result_runAll_dropEmptyMoments :
    (runAll (.dropEmptyMoments :: rest) ⟨circuit, properties⟩).result =
      (runAll rest ⟨circuit.dropEmptyMoments, properties⟩).result := rfl

theorem result_runAll_requireFull (strategy : Strategy) (tolerance : Float) :
    (runAll (.requireFull strategy tolerance :: rest) ⟨circuit, properties⟩).result =
      strategy.screen tolerance circuit >>= fun _ =>
        (runAll rest ⟨circuit, properties⟩).result := by
  rw [runAll, Strategy.screen]
  cases strategy with
  | xmonPartial => rfl
  | xmon =>
      simp only [shouldRun, Strategy.allowsPartial, Bool.not_false, if_true, run]
      cases circuit.operations.find? (·.isPartialInteraction tolerance) <;> rfl

/-- Without a device, nothing is packed or verified. -/
theorem result_runAll_device_none {summary : Option VerificationSummary} :
    (runAll [.packing, .verification] ⟨circuit, ⟨none, summary⟩⟩).result = .ok circuit := rfl

theorem result_runAll_packing (device : Device) {summary : Option VerificationSummary} :
    (runAll (.packing :: rest) ⟨circuit, ⟨some device, summary⟩⟩).result =
      (device.pack circuit).mapError .device >>= fun packed =>
        (runAll rest ⟨packed, ⟨some device, summary⟩⟩).result := by
  rw [runAll]
  simp only [shouldRun, Option.isSome_some, if_true, run]
  cases device.pack circuit <;> rfl

theorem result_runAll_verification (device : Device) {summary : Option VerificationSummary} :
    (runAll (.verification :: rest) ⟨circuit, ⟨some device, summary⟩⟩).result =
      device.verify circuit >>= fun found =>
        (runAll rest ⟨circuit, ⟨some device, some found⟩⟩).result := by
  rw [runAll]
  simp only [shouldRun, Option.isSome_some, if_true, run]
  cases device.verify circuit <;> rfl

/-- With a device, packing and verifying is the last stage. -/
theorem result_runAll_device_some (device : Device) {summary : Option VerificationSummary} :
    (runAll [.packing, .verification] ⟨circuit, ⟨some device, summary⟩⟩).result =
      device.finish circuit := by
  simp only [result_runAll_packing, result_runAll_verification]
  rfl

end Pass

namespace Circuit

variable {circuit : Circuit} {map : QubitMap} {strategy : Strategy}

theorem optimizeNamed_name (circuit : Circuit) (device : Option Device) (map : QubitMap)
    (strategy : Strategy) :
    circuit.optimizeNamed device map strategy.name = circuit.optimize device map strategy := by
  cases strategy <;> rfl

/-- Whatever device passes follow, the others come down to the first stage. -/
theorem optimize_eq_prepare_bind (circuit : Circuit) (device : Option Device) (map : QubitMap)
    (strategy : Strategy) :
    circuit.optimize device map strategy = circuit.prepare map strategy >>= fun prepared =>
      (Pass.runAll [.packing, .verification] ⟨prepared, ⟨device, none⟩⟩).result := by
  have hpasses : circuit.optimize device map strategy =
      (Pass.runAll ([.mapping map, .dropNegligible defaultTolerance,
        .requireFull strategy defaultTolerance, .dropEmptyMoments, .packing, .verification])
          ⟨circuit, ⟨device, none⟩⟩).result := by
    cases strategy with
    | xmon => rfl
    -- the pass that is missing here could not fail, so it may stand in the list
    | xmonPartial =>
        simp only [optimize, Settings.run, Settings.passes, Settings.properties,
          Strategy.allowsPartial, if_true, List.append_nil, List.cons_append, List.nil_append,
          Pass.result_runAll_mapping, Pass.result_runAll_dropNegligible,
          Pass.result_runAll_requireFull]
        rfl
  rw [hpasses, Pass.result_runAll_mapping, prepare, bind_assoc]
  congr 1
  funext mapped
  simp only [Pass.result_runAll_dropNegligible, Pass.result_runAll_requireFull,
    Pass.result_runAll_dropEmptyMoments, bind_assoc, pure_bind]

theorem optimize_none (circuit : Circuit) (map : QubitMap) (strategy : Strategy) :
    circuit.optimize none map strategy = circuit.prepare map strategy := by
  simp only [optimize_eq_prepare_bind, Pass.result_runAll_device_none]
  exact bind_pure _

theorem optimize_some (circuit : Circuit) (device : Device) (map : QubitMap)
    (strategy : Strategy) :
    circuit.optimize (some device) map strategy =
      circuit.prepare map strategy >>= device.finish := by
  simp only [optimize_eq_prepare_bind, Pass.result_runAll_device_some]

/-! ## The first stage -/

/-- The operations of a circuit that an optimization keeps, mapped and in order. -/
def survivors (circuit : Circuit) (map : QubitMap) : List Operation :=
  (circuit.operations.map (Operation.relabel map.image)).filter
    (!·.isNegligible defaultTolerance)

/-- The circuit that the first stage leaves. -/
def prepared (circuit : Circuit) (map : QubitMap) : Circuit :=
  ((circuit.relabel map.image).dropNegligible defaultTolerance).dropEmptyMoments

/-- The first stage succeeds on a circuit that can be mapped and of which no partial interaction
survives where the strategy forbids them. -/
structure Preparable (circuit : Circuit) (map : QubitMap) (strategy : Strategy) : Prop where
  maps : map.Maps circuit
  full : strategy = .xmon →
    ∀ operation ∈ circuit.survivors map, operation.isPartialInteraction defaultTolerance = false

theorem of_mem_survivors {operation : Operation} (hmem : operation ∈ circuit.survivors map) :
    (∃ original ∈ circuit.operations, operation = original.relabel map.image) ∧
      operation.isNegligible defaultTolerance = false := by
  obtain ⟨hmem, hkept⟩ := List.mem_filter.mp hmem
  obtain ⟨original, horiginal, rfl⟩ := List.mem_map.mp hmem
  exact ⟨⟨original, horiginal, rfl⟩, by simpa using hkept⟩

theorem operations_dropNegligible (tolerance : Float) (circuit : Circuit) :
    (circuit.dropNegligible tolerance).operations =
      circuit.operations.filter (!·.isNegligible tolerance) := by
  simp [dropNegligible, operations, List.flatMap_map, List.filter_flatMap]

theorem operations_dropEmptyMoments (circuit : Circuit) :
    circuit.dropEmptyMoments.operations = circuit.operations := by
  unfold dropEmptyMoments operations
  induction circuit.moments with
  | nil => rfl
  | cons moment rest ih =>
      cases hempty : moment.operations with
      | nil => simp [hempty, ih]
      | cons operation others => simp [hempty, ih]

theorem operations_prepared (circuit : Circuit) (map : QubitMap) :
    (circuit.prepared map).operations = circuit.survivors map := by
  rw [prepared, operations_dropEmptyMoments, operations_dropNegligible, operations_relabel,
    survivors]

theorem screen_eq_ok_iff {tolerance : Float} : strategy.screen tolerance circuit = .ok () ↔
    (strategy = .xmon →
      ∀ operation ∈ circuit.operations, operation.isPartialInteraction tolerance = false) := by
  cases strategy with
  | xmonPartial => simp [Strategy.screen, Strategy.allowsPartial]
  | xmon =>
      rcases Strategy.screen_xmon_cases tolerance circuit with
        ⟨hpassed, hfull⟩ | ⟨operation, hmem, hpartial, hfailed⟩
      · exact ⟨fun _ _ => hfull, fun _ => hpassed⟩
      · rw [hfailed]
        simp only [reduceCtorEq, false_iff]
        intro hfull
        rw [hfull trivial operation hmem] at hpartial
        cases hpartial

theorem prepare_eq_ok_iff {result : Circuit} : circuit.prepare map strategy = .ok result ↔
    circuit.Preparable map strategy ∧ result = circuit.prepared map := by
  have hsurvivors : ((circuit.relabel map.image).dropNegligible defaultTolerance).operations =
      circuit.survivors map := by
    rw [operations_dropNegligible, operations_relabel, survivors]
  simp only [prepare, bind_eq_ok_iff, pure_eq_ok_iff, QubitMap.onCircuit_eq_ok_iff]
  constructor
  · rintro ⟨_, ⟨hmaps, rfl⟩, _, hscreen, rfl⟩
    exact ⟨⟨hmaps, hsurvivors ▸ screen_eq_ok_iff.mp hscreen⟩, rfl⟩
  · rintro ⟨⟨hmaps, hfull⟩, rfl⟩
    exact ⟨_, ⟨hmaps, rfl⟩, (), screen_eq_ok_iff.mpr (hsurvivors ▸ hfull), rfl⟩

/-! ## Both stages -/

/-- Without a device, an optimization ends with the prepared circuit. -/
theorem optimizeNamed_none_eq_ok_iff {optimized : Circuit} :
    circuit.optimizeNamed none map strategy.name = .ok optimized ↔
      circuit.Preparable map strategy ∧ optimized = circuit.prepared map := by
  rw [optimizeNamed_name, optimize_none, prepare_eq_ok_iff]

/-- With a device, an optimization that gets through the first stage is the second one. -/
theorem Preparable.optimizeNamed_eq_finish (hpreparable : circuit.Preparable map strategy)
    (device : Device) :
    circuit.optimizeNamed (some device) map strategy.name =
      device.finish (circuit.prepared map) := by
  rw [optimizeNamed_name, optimize_some, prepare_eq_ok_iff.mpr ⟨hpreparable, rfl⟩]
  rfl

/-- With a device, an optimization goes on from the prepared circuit. -/
theorem optimizeNamed_some_eq_ok_iff {device : Device} {optimized : Circuit} :
    circuit.optimizeNamed (some device) map strategy.name = .ok optimized ↔
      circuit.Preparable map strategy ∧ device.finish (circuit.prepared map) = .ok optimized := by
  rw [optimizeNamed_name, optimize_some, bind_eq_ok_iff]
  constructor
  · rintro ⟨_, hprepare, hfinish⟩
    obtain ⟨hpreparable, rfl⟩ := prepare_eq_ok_iff.mp hprepare
    exact ⟨hpreparable, hfinish⟩
  · rintro ⟨hpreparable, hfinish⟩
    exact ⟨_, prepare_eq_ok_iff.mpr ⟨hpreparable, rfl⟩, hfinish⟩

end Circuit

end GridCircuit
