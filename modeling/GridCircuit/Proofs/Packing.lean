import GridCircuit.Proofs.Arrangement
import GridCircuit.Proofs.Durations
import GridCircuit.Proofs.Stages

/-!
# Packing and verifying

Packing for a device arranges the operations of a circuit under the device's placement rule, after
each has been checked by itself; verification then checks the arrangement as a whole.

For a device whose host has no rules of its own, the two belong together.  Every operation that
joins a moment keeps it legal (`legal_of_mem_arrange`), so verification can only fail for something
that packing does not look at: an operand that is repeated within an operation, a measurement key
that is repeated in the circuit, or a circuit that takes more time than any duration.
`finish_eq_ok_iff` is the exact condition.

Packing is also stable.  A refusal outlasts the growth of a moment (`refusalsLast_canAdd`) and a
legal moment can be filled in its own order (`fillable_of_legal`), so an arrangement of legal
moments is its own arrangement (`arrange_arrange`).
-/

namespace GridCircuit

open Attempt Circuit

/-- A summary describes a circuit for a device that accepts it: the counts are those of the circuit,
and the total is the sum of its durations on the device. -/
structure VerificationSummary.Describes (summary : VerificationSummary) (device : Device)
    (circuit : Circuit) : Prop where
  passed : summary.passed = true
  accepted : device.checkCircuit circuit = .ok ()
  moments : summary.moments = circuit.depth
  operations : summary.operations = circuit.size
  keys : summary.keys = circuit.keys.length
  total : ∃ times, device.momentDurations circuit = .ok times ∧
    summary.total.nanoseconds = Duration.total times

namespace Device

variable {durations : GateDurations} {topology : Topology} {circuit packed : Circuit}

/-! ## What the two steps do -/

/-- Packing succeeds when the device runs every operation, and then arranges them. -/
theorem pack_eq_ok_iff {device : Device} : device.pack circuit = .ok packed ↔
    (∀ operation ∈ circuit.operations, operation.RunsOn device.topology) ∧
      packed = ⟨circuit.name, arrange device.canAdd circuit.operations⟩ := by
  have hpack : device.pack circuit = circuit.operations.foldlM (fun state operation => do
      device.checkOperation operation
      return (state.insertEarliest operation device.canAdd).2) (.empty circuit.name) := rfl
  rw [hpack, foldlM_guarded_eq_ok_iff, foldl_insertEarliest]
  exact and_congr (by simp only [checkOperation_eq_ok_iff]) eq_comm

theorem exists_pack_eq_ok_iff {device : Device} : (∃ packed, device.pack circuit = .ok packed) ↔
    ∀ operation ∈ circuit.operations, operation.RunsOn device.topology := by
  simp [pack_eq_ok_iff]

theorem checkCircuit_eq_ok_iff (durations : GateDurations) :
    (ofParts durations topology).checkCircuit circuit = .ok () ↔
      (∀ moment ∈ circuit.moments, moment.Legal topology) ∧ circuit.keys.Nodup := by
  have hkeys : circuit.checkKeys = .ok () ↔ circuit.keys.Nodup := by
    rw [← firstRepeat?_eq_none_iff]
    unfold Circuit.checkKeys
    cases firstRepeat? circuit.keys <;> simp
  simp only [checkCircuit, bind_eq_ok_iff, hkeys]
  constructor
  · rintro ⟨_, hmoments, hnodup⟩
    exact ⟨fun moment hmem => (checkMoment_eq_ok_iff durations).mp
      (forM_eq_ok_iff.mp hmoments moment hmem), hnodup⟩
  · rintro ⟨hlegal, hnodup⟩
    exact ⟨(), forM_eq_ok_iff.mpr fun moment hmem =>
      (checkMoment_eq_ok_iff durations).mpr (hlegal moment hmem), hnodup⟩

/-- Once a circuit is accepted and its moments have durations, it depends on the sum of these how
verification ends. -/
theorem verify_eq_of_accepted {device : Device} {times : List Duration}
    (haccepted : device.checkCircuit circuit = .ok ())
    (htimes : device.momentDurations circuit = .ok times) :
    device.verify circuit = match totalDuration? times with
      | none => .error .durationOverflow
      | some total =>
        .ok ⟨true, circuit.depth, circuit.size, circuit.keys.length, total⟩ := by
  rw [verify, haccepted, htimes]
  rfl

/-- Verification ends with the summary that describes the circuit. -/
theorem verify_eq_ok_iff {device : Device} {summary : VerificationSummary} :
    device.verify circuit = .ok summary ↔ summary.Describes device circuit := by
  constructor
  · intro hverify
    obtain ⟨_, haccepted, hrest⟩ := bind_eq_ok_iff.mp hverify
    obtain ⟨times, htimes, -⟩ := bind_eq_ok_iff.mp hrest
    rw [mapError_eq_ok_iff] at haccepted htimes
    rw [verify_eq_of_accepted haccepted htimes] at hverify
    cases htotal : totalDuration? times with
    | none => simp [htotal] at hverify
    | some total =>
        rw [htotal] at hverify
        obtain rfl := Except.ok.inj hverify
        exact ⟨rfl, haccepted, rfl, rfl, rfl, times, htimes, totalDuration?_eq_some_iff.mp htotal⟩
  · rintro ⟨hpassed, haccepted, hmoments, hoperations, hkeys, times, htimes, htotal⟩
    rw [verify_eq_of_accepted haccepted htimes, totalDuration?_eq_some_iff.mpr htotal,
      Except.ok.injEq, VerificationSummary.mk.injEq]
    exact ⟨hpassed.symm, hmoments.symm, hoperations.symm, hkeys.symm, rfl⟩

/-- Verification succeeds on the circuits that the device accepts and that take a duration. -/
theorem exists_verify_eq_ok_iff {device : Device} :
    (∃ summary, device.verify circuit = .ok summary) ↔
      device.checkCircuit circuit = .ok () ∧ device.HasDuration circuit := by
  simp only [verify_eq_ok_iff]
  constructor
  · rintro ⟨summary, hdescribes⟩
    obtain ⟨times, htimes, htotal⟩ := hdescribes.total
    exact ⟨hdescribes.accepted, times, htimes, htotal ▸ summary.total.inRange⟩
  · rintro ⟨haccepted, times, htimes, hrange⟩
    exact ⟨⟨true, circuit.depth, circuit.size, circuit.keys.length, ⟨_, hrange⟩⟩,
      rfl, haccepted, rfl, rfl, rfl, times, htimes, rfl⟩

/-- Verifying operations that run fails where the check does, or else, on a circuit that takes more
time than any duration, breaks the program off. -/
theorem verify_eq_error_iff {device : Device} {cause : CompileError}
    (hruns : ∀ operation ∈ circuit.operations, operation.RunsOn topology) :
    device.verify circuit = .error cause ↔
      (∃ reason, device.checkCircuit circuit = .error reason ∧ cause = .device reason) ∨
        device.checkCircuit circuit = .ok () ∧ ¬device.HasDuration circuit ∧
          cause = .durationOverflow := by
  cases hcheck : device.checkCircuit circuit with
  | error reason =>
      have hverify : device.verify circuit = .error (.device reason) := by
        rw [verify, hcheck]
        rfl
      simp [hverify, eq_comm]
  | ok _ =>
      rw [verify_eq_of_accepted hcheck (momentDurations_eq_ok device hruns),
        hasDuration_iff hruns, Nat.not_lt, ← totalDuration?_eq_none_iff]
      cases totalDuration? (circuit.moments.map device.durations.longest) <;> simp [eq_comm]

/-! ## Arrangements of a device -/

/-- A moment that refuses an operation goes on refusing it when it grows: what stood in the way is
still there. -/
theorem refusalsLast_canAdd (durations : GateDurations) (topology : Topology) :
    RefusalsLast (ofParts durations topology).canAdd := by
  intro operation moment joining hrefused
  rw [← Bool.not_eq_true] at hrefused ⊢
  exact fun haccept =>
    hrefused (canAdd_of_subperm (List.sublist_append_left _ [joining]).subperm haccept)

/-- Operations that run and repeat no operand are arranged into legal moments, whatever rules the
host of the device has. -/
theorem legal_of_mem_arrange (device : Device) {operations : List Operation}
    (hruns : ∀ operation ∈ operations, operation.RunsOn device.topology ∧ operation.qubits.Nodup) :
    ∀ moment ∈ arrange device.canAdd operations, moment.Legal device.topology := by
  refine forall_mem_arrange fun operation hmem target htarget hfree => ?_
  refine Moment.legal_add_iff.mpr ?_
  rcases htarget with rfl | ⟨hlegal, haccept⟩
  · exact ⟨Moment.legal_empty, Moment.hasRoom_empty, hruns operation hmem⟩
  · -- the host's answer is not used: the search itself leaves the qubits free
    have hroom : target.HasRoom operation :=
      ⟨Moment.touches_eq_false_iff.mp hfree, (canAdd_eq_true_iff.mp haccept).2.2⟩
    exact ⟨hlegal, hroom, hruns operation hmem⟩

theorem legal_of_pack {device : Device}
    (hnodup : ∀ operation ∈ circuit.operations, operation.qubits.Nodup)
    (hpack : device.pack circuit = .ok packed) :
    ∀ moment ∈ packed.moments, moment.Legal device.topology := by
  obtain ⟨hruns, rfl⟩ := pack_eq_ok_iff.mp hpack
  exact legal_of_mem_arrange device fun operation hmem =>
    ⟨hruns operation hmem, hnodup operation hmem⟩

theorem settled_of_pack (hpack : (ofParts durations topology).pack circuit = .ok packed) :
    Settled (ofParts durations topology).canAdd packed.moments := by
  obtain ⟨-, rfl⟩ := pack_eq_ok_iff.mp hpack
  exact settled_arrange (refusalsLast_canAdd durations topology) circuit.operations

/-- A legal moment can be filled in its own order. -/
theorem fillable_of_legal {moment : Moment} (hlegal : moment.Legal topology) :
    Fillable (ofParts durations topology).canAdd moment := by
  intro done operation rest hsplit
  have hfilled : ((⟨done⟩ : Moment).add operation).Legal topology := by
    have hpart : (done ++ [operation]).Sublist moment.operations := by
      rw [hsplit, List.append_cons done operation rest]
      exact List.sublist_append_left _ rest
    exact hlegal.of_subperm hpart.subperm
  obtain ⟨hdone, hroom, -⟩ := Moment.legal_add_iff.mp hfilled
  exact ⟨canAdd_iff.mpr ⟨hdone, hroom⟩, Moment.touches_eq_false_iff.mpr hroom.free⟩

/-- An arrangement of legal moments is its own arrangement. -/
theorem arrange_arrange {operations : List Operation}
    (hlegal : ∀ moment ∈ arrange (ofParts durations topology).canAdd operations,
      moment.Legal topology) :
    arrange (ofParts durations topology).canAdd
        ((arrange (ofParts durations topology).canAdd operations).flatMap Moment.operations) =
      arrange (ofParts durations topology).canAdd operations := by
  refine arrange_eq_of_settled (settled_arrange (refusalsLast_canAdd durations topology) _) ?_
  exact fun moment hmem =>
    ⟨fillable_of_legal (hlegal moment hmem), operations_ne_nil_of_mem_arrange moment hmem⟩

/-! ## The second stage -/

/-- On any device, what the second stage leaves is an arrangement of what it was given. -/
theorem eq_arrange_of_finish {device : Device} (hfinish : device.finish circuit = .ok packed) :
    packed = ⟨circuit.name, arrange device.canAdd circuit.operations⟩ := by
  simp only [finish, bind_eq_ok_iff, mapError_eq_ok_iff, pure_eq_ok_iff] at hfinish
  obtain ⟨_, hpack, _, -, rfl⟩ := hfinish
  exact (pack_eq_ok_iff.mp hpack).2

/-- The measurement keys of an arrangement are those of its operations. -/
theorem keys_arrange_perm (device : Device) (circuit : Circuit) :
    (Circuit.keys ⟨circuit.name, arrange device.canAdd circuit.operations⟩).Perm circuit.keys :=
  (arrange_perm device.canAdd circuit.operations).filterMap Operation.key?

/-- Of operations that run, an arrangement is accepted when none of them repeats an operand and no
measurement key is repeated. -/
theorem checkCircuit_arrange_eq_ok_iff (durations : GateDurations)
    (hruns : ∀ operation ∈ circuit.operations, operation.RunsOn topology) :
    (ofParts durations topology).checkCircuit
        ⟨circuit.name, arrange (ofParts durations topology).canAdd circuit.operations⟩ = .ok () ↔
      (∀ operation ∈ circuit.operations, operation.qubits.Nodup) ∧ circuit.keys.Nodup := by
  rw [checkCircuit_eq_ok_iff, (keys_arrange_perm (ofParts durations topology) circuit).nodup_iff]
  refine and_congr_left fun _ => ⟨fun hlegal operation hmem => ?_, fun hnodup => ?_⟩
  · obtain ⟨moment, hmoment, hmem⟩ := List.mem_flatMap.mp (mem_arrange_operations.mpr hmem)
    exact (List.nodup_flatMap.mp (hlegal moment hmoment).nodup).1 operation hmem
  · exact legal_of_mem_arrange (ofParts durations topology) fun operation hmem =>
      ⟨hruns operation hmem, hnodup operation hmem⟩

/-- The second stage succeeds when every operation runs and repeats no operand, no measurement key
is repeated and the arranged operations take a duration, and then leaves these. -/
theorem finish_eq_ok_iff : (ofParts durations topology).finish circuit = .ok packed ↔
    (∀ operation ∈ circuit.operations, operation.RunsOn topology ∧ operation.qubits.Nodup) ∧
      circuit.keys.Nodup ∧ (ofParts durations topology).HasDuration packed ∧ packed =
        ⟨circuit.name, arrange (ofParts durations topology).canAdd circuit.operations⟩ := by
  simp only [finish, bind_eq_ok_iff, mapError_eq_ok_iff, pure_eq_ok_iff, pack_eq_ok_iff]
  constructor
  · rintro ⟨_, ⟨hruns, rfl⟩, summary, hverify, rfl⟩
    obtain ⟨haccepted, hduration⟩ := exists_verify_eq_ok_iff.mp ⟨summary, hverify⟩
    obtain ⟨hnodup, hkeys⟩ := (checkCircuit_arrange_eq_ok_iff durations hruns).mp haccepted
    exact ⟨fun operation hmem => ⟨hruns operation hmem, hnodup operation hmem⟩, hkeys, hduration,
      rfl⟩
  · rintro ⟨hvalid, hkeys, hduration, rfl⟩
    have hruns := fun operation hmem => (hvalid operation hmem).1
    have haccepted := (checkCircuit_arrange_eq_ok_iff durations hruns).mpr
      ⟨fun operation hmem => (hvalid operation hmem).2, hkeys⟩
    obtain ⟨summary, hverify⟩ := exists_verify_eq_ok_iff.mpr ⟨haccepted, hduration⟩
    exact ⟨_, ⟨hruns, rfl⟩, summary, hverify, rfl⟩

/-- Where only the duration is missing, the second stage breaks the program off. -/
theorem finish_eq_overflow
    (hvalid : ∀ operation ∈ circuit.operations,
      operation.RunsOn topology ∧ operation.qubits.Nodup)
    (hkeys : circuit.keys.Nodup)
    (hlong : ¬(ofParts durations topology).HasDuration
      ⟨circuit.name, arrange (ofParts durations topology).canAdd circuit.operations⟩) :
    (ofParts durations topology).finish circuit = .error .durationOverflow := by
  have hruns := fun operation hmem => (hvalid operation hmem).1
  have haccepted := (checkCircuit_arrange_eq_ok_iff durations hruns).mpr
    ⟨fun operation hmem => (hvalid operation hmem).2, hkeys⟩
  have harranged : ∀ operation ∈ (⟨circuit.name,
      arrange (ofParts durations topology).canAdd circuit.operations⟩ : Circuit).operations,
      operation.RunsOn topology :=
    fun operation hmem => hruns operation (mem_arrange_operations.mp hmem)
  rw [finish, pack_eq_ok_iff.mpr ⟨hruns, rfl⟩]
  show (ofParts durations topology).verify _ >>= _ = _
  rw [(verify_eq_error_iff harranged).mpr (.inr ⟨haccepted, hlong, rfl⟩)]
  rfl

end Device

/-! ## A circuit and what is left of it -/

namespace Circuit

/-- A circuit on a line, with a phase that does nothing and two interactions that may run at
once. -/
def lineProbe : Circuit :=
  ⟨"probe", [
    ⟨[.plain (.phase 2.0 false) [.line 0], .plain (.interaction 1.0) [.line 1, .line 2]]⟩,
    ⟨[.plain (.interaction 1.0) [.line 4, .line 5]]⟩,
    ⟨[.plain (.measure "m") [.line 1]]⟩]⟩

/-- What an optimization for the preset device leaves of `lineProbe` on the first row. -/
def packedProbe : Circuit :=
  ⟨"probe", [
    ⟨[.plain (.interaction 1.0) [.grid ⟨0, 1⟩, .grid ⟨0, 2⟩],
      .plain (.interaction 1.0) [.grid ⟨0, 4⟩, .grid ⟨0, 5⟩]]⟩,
    ⟨[.plain (.measure "m") [.grid ⟨0, 1⟩]]⟩]⟩

set_option maxRecDepth 20000 in
theorem optimizeNamed_lineProbe :
    lineProbe.optimizeNamed (some .foxtail) (.lineOntoRow 0) "xmon" = .ok packedProbe := by
  rfl

set_option maxRecDepth 20000 in
theorem optimizeNamed_lineProbe_none :
    lineProbe.optimizeNamed none (.lineOntoRow 0) "xmon" =
      .ok (lineProbe.prepared (.lineOntoRow 0)) := by
  rfl

/-- Two measurements of one qubit, one after the other. -/
def readoutProbe : Circuit :=
  ⟨"readout", [
    ⟨[.plain (.measure "a") [.grid ⟨0, 0⟩]]⟩,
    ⟨[.plain (.measure "b") [.grid ⟨0, 0⟩]]⟩]⟩

/-- The durations of a device on which a measurement takes the greatest duration. -/
def slowReadout : GateDurations := ⟨⟨Duration.limit - 1, by decide⟩, .zero, .zero⟩

theorem optimizeNamed_readoutProbe :
    readoutProbe.optimizeNamed (some (.ofParts .foxtail (.rectangle 1 1))) .identity "xmon" =
      .ok readoutProbe := by
  rfl

theorem optimizeNamed_readoutProbe_slow :
    readoutProbe.optimizeNamed (some (.ofParts slowReadout (.rectangle 1 1))) .identity "xmon" =
      .error .durationOverflow := by
  rfl

end Circuit

end GridCircuit
