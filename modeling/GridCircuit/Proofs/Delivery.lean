import GridCircuit.Proofs.FaithfulRenaming
import GridCircuit.Proofs.FiniteExponents
import GridCircuit.Proofs.Idempotence

/-!
# What an optimization delivers

The result of an optimization for a device is stored as a document, and whoever reads the document
wants to validate it and to run it.  `Circuit.Deliverable` lists what is expected of such a result.

The passes map operations without looking at their operands again, so that a mapped operation may
well be one that no document would be decoded to.  That none such is delivered has two reasons.  The
device runs only operations with the right number of operands and refuses repeated ones, which is
what well-formed plain operations are (`Operation.RunsOn.wellFormed`).  And the exponents are those
of the circuit that went in, which are finite when it was read from a text
(`Circuit.finite_of_read_eq_ok`).  Verification judges the very circuit that is delivered, and
optimizing it again finds nothing to do, because it is refined.
-/

namespace GridCircuit

open Attempt

/-! ## Operations of a result -/

namespace Operation

variable {operation : Operation} {topology : Topology}

/-- An operation that runs and repeats no operand is well formed. -/
theorem RunsOn.wellFormed (hruns : operation.RunsOn topology) (hnodup : operation.qubits.Nodup) :
    operation.WellFormed := by
  cases hruns with
  | interaction ha hb hadjacent => exact .plain rfl hnodup
  | rotation hsite => exact .plain rfl hnodup
  | phase hsite => exact .plain rfl hnodup
  | measure hsome hsites =>
      refine .plain ?_ hnodup
      rw [List.length_map]
      exact List.length_pos_iff.mpr hsome

end Operation

namespace Circuit

variable {circuit packed optimized : Circuit} {device : Device} {map : QubitMap}
  {strategy : Strategy}

theorem finite_of_mem_prepared (hfinite : ∀ operation ∈ circuit.operations, operation.Finite) :
    ∀ operation ∈ (circuit.prepared map).operations, operation.Finite := by
  rw [operations_prepared]
  intro operation hmem
  obtain ⟨⟨original, horiginal, rfl⟩, -⟩ := of_mem_survivors hmem
  exact (Operation.finite_relabel_iff map.image).mpr (hfinite original horiginal)

end Circuit

/-! ## The result of the second stage -/

namespace Device

variable {durations : GateDurations} {topology : Topology} {circuit packed : Circuit}

/-- What the second stage leaves can be stored. -/
theorem storable_of_finish (hfinite : ∀ operation ∈ circuit.operations, operation.Finite)
    (hfinish : (ofParts durations topology).finish circuit = .ok packed) : packed.Storable := by
  obtain ⟨hvalid, -, -, rfl⟩ := finish_eq_ok_iff.mp hfinish
  constructor
  · intro operation hmem
    obtain ⟨hruns, hnodup⟩ := hvalid operation (Circuit.mem_arrange_operations.mp hmem)
    exact hruns.wellFormed hnodup
  · intro operation hmem
    exact hfinite operation (Circuit.mem_arrange_operations.mp hmem)

/-- What the second stage leaves has passed the checks of the device and has durations. -/
theorem verified_of_finish {device : Device} (hfinish : device.finish circuit = .ok packed) :
    device.checkCircuit packed = .ok () ∧
      ∃ times, device.momentDurations packed = .ok times := by
  obtain ⟨_, -, hrest⟩ := bind_eq_ok_iff.mp hfinish
  obtain ⟨summary, hverify, hpacked⟩ := bind_eq_ok_iff.mp hrest
  cases hpacked
  have hdescribes := verify_eq_ok_iff.mp hverify
  obtain ⟨times, htimes, -⟩ := hdescribes.total
  exact ⟨hdescribes.accepted, times, htimes⟩

end Device

/-! ## Deliverable circuits -/

namespace Circuit

/-- What is expected of a circuit that was optimized for a device. -/
structure Deliverable (device : Device) (strategy : Strategy) (circuit : Circuit) : Prop where
  /-- The document of the circuit is decoded to the circuit itself. -/
  decoded : decode circuit.encode = .ok circuit
  /-- So is its text, given that what is printed of the document is read as that document.  Numerals
  with many digits are read quickly rather than exactly, so that this depends on the numbers. -/
  reread : Json.read circuit.write = ⟨circuit.encode, true⟩ → read circuit.write = .ok circuit
  valid : device.checkCircuit circuit = .ok ()
  timed : ∃ times, device.momentDurations circuit = .ok times
  /-- Optimizing it again changes nothing, whatever row a line would be put on. -/
  settled : ∀ row, circuit.optimize (some device) (.lineOntoRow row) strategy = .ok circuit

example : Json.read (empty "probe").write = ⟨(empty "probe").encode, true⟩ := by
  rfl

/-- What the second stage leaves of a prepared circuit with finite exponents is deliverable. -/
theorem Deliverable.of_finish {durations : GateDurations} {topology : Topology}
    {circuit packed : Circuit} {strategy : Strategy} (hrefined : circuit.Refined strategy)
    (hfinite : ∀ operation ∈ circuit.operations, operation.Finite)
    (hfinish : (Device.ofParts durations topology).finish circuit = .ok packed) :
    packed.Deliverable (.ofParts durations topology) strategy := by
  have hdecoded : decode packed.encode = .ok packed :=
    decode_encode_eq_ok_iff.mpr ⟨Device.storable_of_finish hfinite hfinish, rfl⟩
  obtain ⟨hvalid, htimed⟩ := Device.verified_of_finish hfinish
  refine ⟨hdecoded, ?_, hvalid, htimed, ?_⟩
  · intro hprinted
    rw [read, hprinted]
    exact Json.Source.decode_eq_ok_iff.mpr ⟨hdecoded, rfl⟩
  · intro row
    have hfixes := QubitMap.fixesGrid_lineOntoRow row
    have hpacked := hrefined.finish hfinish
    rw [← optimizeNamed_name, optimizeNamed_some_eq_ok_iff, hpacked.prepared_eq hfixes]
    exact ⟨hpacked.preparable hfixes, Device.finish_finish hfinish⟩

/-- What is delivered of a circuit that was read from a text can be stored and read again, is
accepted by the device, lasts a known time and stays the same when it is optimized again. -/
theorem deliverable_of_optimize {source : String} {circuit optimized : Circuit} {device : Device}
    {row : Int32} {allowPartial : Bool} (hhost : device.host = .noOverlap)
    (hread : Circuit.read source = .ok circuit)
    (hoptimized : circuit.optimize (some device) (.lineOntoRow row) (.ofPartial allowPartial) =
      .ok optimized) :
    optimized.Deliverable device (.ofPartial allowPartial) := by
  obtain ⟨durations, topology, host⟩ := device
  obtain rfl : host = .noOverlap := hhost
  rw [← optimizeNamed_name, optimizeNamed_some_eq_ok_iff] at hoptimized
  obtain ⟨hpreparable, hfinish⟩ := hoptimized
  exact .of_finish hpreparable.refined (finite_of_mem_prepared (finite_of_read_eq_ok hread)) hfinish

/-- A text of an interaction on a line, with every record written as a list. -/
def interactionText : String :=
  "[\"\",[[[[\x7b\"gate\":[\"interaction\",1]\x7d,[\x7b\"line\":1\x7d,\x7b\"line\":2\x7d]]]]]]"

/-- The circuit of `interactionText`. -/
def lineInteraction : Circuit :=
  ⟨"", [⟨[.plain (.interaction (Float.ofInt 1)) [.line 1, .line 2]]⟩]⟩

/-- What an optimization for the preset device leaves of `lineInteraction` on the first row. -/
def gridInteraction : Circuit :=
  ⟨"", [⟨[.plain (.interaction (Float.ofInt 1)) [.grid ⟨0, 1⟩, .grid ⟨0, 2⟩]]⟩]⟩

set_option maxRecDepth 20000 in
theorem read_interactionText : read interactionText = .ok lineInteraction := by
  have hdocument : Json.read interactionText =
      ⟨.array [.text "", .array [.array [.array [.array [
        .object [("gate", .array [.text "interaction", .integer 1])],
        .array [.object [("line", .integer 1)], .object [("line", .integer 2)]]]]]]], true⟩ := by
    rfl
  rw [read, hdocument]
  rfl

set_option maxRecDepth 20000 in
theorem gridInteraction_deliverable :
    read interactionText = .ok lineInteraction ∧
      lineInteraction.optimize (some .foxtail) (.lineOntoRow 0) (.ofPartial false) =
        .ok gridInteraction ∧
      gridInteraction.Deliverable .foxtail (.ofPartial false) := by
  have hoptimized :
      lineInteraction.optimize (some .foxtail) (.lineOntoRow 0) (.ofPartial false) =
        .ok gridInteraction := by
    rfl
  exact ⟨read_interactionText, hoptimized,
    deliverable_of_optimize rfl read_interactionText hoptimized⟩

end Circuit

end GridCircuit
