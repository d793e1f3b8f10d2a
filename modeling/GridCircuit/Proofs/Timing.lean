import GridCircuit.Pipeline.Pass
import GridCircuit.Proofs.Packing

/-!
# How long accepted circuits take

A moment of an accepted circuit lasts as long as the longest of its operations
(`GateDurations.Lasts`), and the circuit takes the sum of these maxima.  The sum is compared with
two others moment by moment.  A legal moment has one operation at most on each site, so what happens
on a site takes no longer than the moment (`GateDurations.total_actsOn_le_longest`); and a moment
takes no longer than its operations would in a row (`GateDurations.longest_le_total`).

The sums are compared as numbers of nanoseconds, whether or not there are such durations.  That
there is one for the circuit as a whole is what verification needs beyond the check.
-/

namespace GridCircuit

open Attempt

/-- At most one operation of a moment that uses no qubit twice acts on a given qubit. -/
theorem Moment.length_filter_actsOn_le {moment : Moment} (hnodup : moment.qubits.Nodup)
    (qubit : Qubit) : (moment.operations.filter (·.actsOn qubit)).length ≤ 1 := by
  have hspread : Spread (moment.operations.filter (·.actsOn qubit)) :=
    (nodup_qubits_iff.mp hnodup).2.filter _
  have hacts : ∀ operation ∈ moment.operations.filter (·.actsOn qubit),
      qubit ∈ operation.qubits := by
    intro operation hmem
    exact Operation.actsOn_iff.mp (List.mem_filter.mp hmem).2
  generalize moment.operations.filter (·.actsOn qubit) = acting at hspread hacts
  match acting with
  | [] => exact Nat.zero_le 1
  | [operation] => exact Nat.le_refl 1
  | first :: second :: rest =>
      have hdisjoint := (List.pairwise_cons.mp hspread).1 second List.mem_cons_self
      exact absurd (hacts second (by simp)) (hdisjoint (hacts first List.mem_cons_self))

namespace GateDurations

variable {topology : Topology} {moment : Moment}

/-- A moment lasts some time: no operation of it takes longer, one of them takes as long, and
virtual phases take no time. -/
structure Lasts (durations : GateDurations) (moment : Moment) (total : Duration) : Prop where
  covers : ∀ operation ∈ moment.operations, ∃ part ≤ total,
    durations.ofOperation operation = .ok part
  reached : moment.operations ≠ [] → ∃ operation ∈ moment.operations,
    durations.ofOperation operation = .ok total
  idle : (∀ operation ∈ moment.operations, operation.kind? = some (.phase true)) → total = .zero

/-- A moment of operations that run lasts as long as the longest of them. -/
theorem lasts_longest (durations : GateDurations)
    (hruns : ∀ operation ∈ moment.operations, operation.RunsOn topology) :
    durations.Lasts moment (durations.longest moment) where
  covers operation hmem :=
    ⟨_, time_le_longest durations hmem, ofOperation_eq_ok durations (hruns operation hmem)⟩
  reached hsome := by
    obtain ⟨operation, hmem, htime⟩ := List.mem_map.mp (durations.longest_spec hsome).1
    exact ⟨operation, hmem, htime ▸ ofOperation_eq_ok durations (hruns operation hmem)⟩
  idle hvirtual := by
    rcases eq_or_ne moment.operations [] with hnil | hsome
    · exact longest_eq_zero_of_nil durations hnil
    · obtain ⟨operation, hmem, htime⟩ := List.mem_map.mp (durations.longest_spec hsome).1
      rw [← htime, time, hvirtual operation hmem]
      rfl

/-- What happens on one qubit takes no longer than the moment. -/
theorem total_actsOn_le_longest (durations : GateDurations) (hnodup : moment.qubits.Nodup)
    (qubit : Qubit) :
    Duration.total ((moment.operations.filter (·.actsOn qubit)).map durations.time) ≤
      (durations.longest moment).nanoseconds := by
  have hone := moment.length_filter_actsOn_le hnodup qubit
  cases hacting : moment.operations.filter (·.actsOn qubit) with
  | nil => exact Nat.zero_le _
  | cons operation rest =>
      have hmem : operation ∈ moment.operations :=
        List.mem_of_mem_filter (hacting ▸ List.mem_cons_self)
      obtain rfl : rest = [] := by simpa [hacting] using hone
      simpa [Duration.total] using Duration.le_def.mp (time_le_longest durations hmem)

end GateDurations

namespace Device

/-- A circuit that a device accepts has durations.  Every moment lasts as long as its longest
operation.  If the sum of these times is a duration, verification stores it with the counts of the
circuit, and otherwise it breaks the program off.  What the operations on one site take together
does not exceed the sum, nor does the sum exceed what all operations take one after the other. -/
theorem accepted_circuit_timing (durations : GateDurations) {topology : Topology}
    {circuit : Circuit}
    (hcheck : (ofParts durations topology).checkCircuit circuit = .ok ())
    (found : Option VerificationSummary) :
    ∃ times : List Duration,
      (ofParts durations topology).momentDurations circuit = .ok times ∧
      (∀ operation ∈ circuit.operations,
        durations.ofOperation operation = .ok (durations.time operation)) ∧
      List.Forall₂ durations.Lasts circuit.moments times ∧
      (∀ hrange : Duration.total times < Duration.limit,
        Pass.verification.run ⟨circuit, ⟨some (ofParts durations topology), found⟩⟩ =
          ⟨⟨circuit, ⟨some (ofParts durations topology), some ⟨true, circuit.depth, circuit.size,
            circuit.keys.length, ⟨Duration.total times, hrange⟩⟩⟩⟩, none⟩) ∧
      (Duration.limit ≤ Duration.total times →
        Pass.verification.run ⟨circuit, ⟨some (ofParts durations topology), found⟩⟩ =
          ⟨⟨circuit, ⟨some (ofParts durations topology), found⟩⟩, some .durationOverflow⟩) ∧
      (∀ site : Site, Duration.total
        ((circuit.operations.filter (·.actsOn (.grid site))).map durations.time) ≤
          Duration.total times) ∧
      Duration.total times ≤ Duration.total (circuit.operations.map durations.time) := by
  have hlegal := ((checkCircuit_eq_ok_iff durations).mp hcheck).1
  have hruns : ∀ operation ∈ circuit.operations, operation.RunsOn topology :=
    Circuit.forall_mem_operations.mpr fun moment hmem => (hlegal moment hmem).runs
  have htimes := momentDurations_eq_ok (ofParts durations topology) hruns
  refine ⟨_, htimes, ?_, ?_, ?_, ?_, ?_, ?_⟩
  · exact fun operation hmem => durations.ofOperation_eq_ok (hruns operation hmem)
  · rw [List.forall₂_map_right_iff, List.forall₂_same]
    exact fun moment hmem => durations.lasts_longest (hlegal moment hmem).runs
  · intro hrange
    have hverify : (ofParts durations topology).verify circuit =
        .ok ⟨true, circuit.depth, circuit.size, circuit.keys.length, ⟨_, hrange⟩⟩ :=
      verify_eq_ok_iff.mpr ⟨rfl, hcheck, rfl, rfl, rfl, _, htimes, rfl⟩
    simp only [Pass.run, hverify]
  · intro hlimit
    have hlong : ¬(ofParts durations topology).HasDuration circuit := by
      rw [hasDuration_iff hruns]
      exact Nat.not_lt.mpr hlimit
    have hverify := (verify_eq_error_iff hruns).mpr (.inr ⟨hcheck, hlong, rfl⟩)
    simp only [Pass.run, hverify]
  · intro site
    rw [Circuit.operations, List.filter_flatMap, durations.total_flatMap, Duration.total,
      List.map_map]
    exact List.sum_le_sum fun moment hmem =>
      durations.total_actsOn_le_longest (hlegal moment hmem).nodup (.grid site)
  · exact durations.total_longest_le circuit

/-- A circuit with a moment of two gates, one of a virtual phase, one without operations and a
measurement. -/
def pacedProbe : Circuit :=
  ⟨"paced", [
    ⟨[.plain (.interaction 1.0) [.grid ⟨0, 0⟩, .grid ⟨0, 1⟩],
      .plain (.phase 0.5 false) [.grid ⟨0, 3⟩]]⟩,
    ⟨[.plain (.phase 0.5 true) [.grid ⟨0, 0⟩]]⟩,
    ⟨[]⟩,
    ⟨[.plain (.measure "m") [.grid ⟨0, 0⟩, .grid ⟨0, 3⟩]]⟩]⟩

theorem pacedProbe_timing :
    foxtail.checkCircuit pacedProbe = .ok () ∧
      List.Forall₂ GateDurations.foxtail.Lasts pacedProbe.moments
        ([50, 0, 0, 4000].map Duration.ofNanoseconds) ∧
      Pass.verification.run ⟨pacedProbe, ⟨some foxtail, none⟩⟩ =
        ⟨⟨pacedProbe, ⟨some foxtail, some ⟨true, 4, 4, 1, .ofNanoseconds 4050⟩⟩⟩, none⟩ ∧
      (∀ site : Site, Duration.total ((pacedProbe.operations.filter (·.actsOn (.grid site))).map
        GateDurations.foxtail.time) ≤ 4050) ∧
      Pass.verification.run ⟨Circuit.readoutProbe,
          ⟨some (ofParts Circuit.slowReadout (.rectangle 1 1)), none⟩⟩ =
        ⟨⟨Circuit.readoutProbe, ⟨some (ofParts Circuit.slowReadout (.rectangle 1 1)), none⟩⟩,
          some .durationOverflow⟩ := by
  have hcheck : foxtail.checkCircuit pacedProbe = .ok () := rfl
  have hcheckSlow : (ofParts Circuit.slowReadout (.rectangle 1 1)).checkCircuit
      Circuit.readoutProbe = .ok () := rfl
  obtain ⟨times, htimes, -, hlasts, hrun, -, hsites, -⟩ :=
    accepted_circuit_timing .foxtail hcheck none
  obtain ⟨slowTimes, hslowTimes, -, -, -, hoverflow, -, -⟩ :=
    accepted_circuit_timing Circuit.slowReadout hcheckSlow none
  obtain rfl : [50, 0, 0, 4000].map Duration.ofNanoseconds = times := Except.ok.inj htimes
  obtain rfl : [Circuit.slowReadout.measurement, Circuit.slowReadout.measurement] = slowTimes :=
    Except.ok.inj hslowTimes
  exact ⟨hcheck, hlasts, hrun (by decide), hsites, hoverflow (by decide)⟩

end Device

end GridCircuit
