import GridCircuit.Proofs.Chains
import Mathlib.Logic.Relation

/-!
# Controlled gates and the measurements they wait for

A gate that is controlled by an outcome needs the measurement that records it, but `append` asks for
shared qubits alone.  So the qubits decide which of the two comes first.  Where a chain of
operations leads from the measurement to the gate, each sharing a qubit with the next, the gate ends
in a later moment.  Where there is none, the two may end in one moment.

## Strategy

Whether an operation precedes another one is read off their qubits, and there is only one tight
schedule (`Tight.unique`).  Hence the indices that `append` returns are a function of the qubits
(`appendIndices_congr`), and the keys of measurements and controlled gates never matter.  The order
along chains holds in every schedule, by induction on the chain (`Schedule.lt_of_transGen`).
-/

namespace GridCircuit.Circuit

variable {operations others : List Operation} {indices : List Nat} {i j a b : Nat}

/-! ## Order along chains -/

/-- In a schedule, indices rise along every chain. -/
theorem Schedule.lt_of_transGen (hschedule : Schedule operations indices)
    (hlinked : Relation.TransGen (Precedes operations) i j)
    (ha : indices[i]? = some a) (hb : indices[j]? = some b) : a < b := by
  induction hlinked generalizing b with
  | single hprecedes => exact hschedule.rising _ _ hprecedes _ _ ha hb
  | @tail middle last _ hprecedes ih =>
      obtain ⟨between, hbetween⟩ : ∃ between, indices[middle]? = some between := by
        have hlt : middle < indices.length := hschedule.length_eq ▸ hprecedes.lt_length.1
        exact ⟨_, List.getElem?_eq_getElem hlt⟩
      have hfirst : a < between := ih hbetween
      have hlast : between < b := hschedule.rising _ _ hprecedes _ _ hbetween hb
      exact hfirst.trans hlast

/-- A tight schedule puts an operation later than another one exactly when a chain that ends with it
is longer than all that end with the other. -/
theorem Tight.lt_iff_longer_chain (htight : Tight operations indices)
    (ha : indices[i]? = some a) (hb : indices[j]? = some b) :
    a < b ↔ ∃ positions, Chain operations positions ∧ positions.getLast? = some j ∧
      ∀ shorter, Chain operations shorter → shorter.getLast? = some i →
        shorter.length < positions.length := by
  constructor
  · intro hlt
    obtain ⟨positions, hchain, hlast, hlength⟩ := htight.exists_chain hb
    refine ⟨positions, hchain, hlast, fun shorter hshorter hend => ?_⟩
    have hle : shorter.length ≤ a + 1 := htight.toSchedule.length_le hshorter hend ha
    omega
  · rintro ⟨positions, hchain, hlast, hlonger⟩
    obtain ⟨shorter, hshorter, hend, hlength⟩ := htight.exists_chain ha
    have hlt : shorter.length < positions.length := hlonger shorter hshorter hend
    have hle : positions.length ≤ b + 1 := htight.toSchedule.length_le hchain hlast hb
    omega

/-! ## Indices are a function of the qubits -/

theorem precedes_iff_qubits : Precedes operations i j ↔
    i < j ∧ ∃ first second, (operations.map Operation.qubits)[i]? = some first ∧
      (operations.map Operation.qubits)[j]? = some second ∧ ∃ qubit ∈ first, qubit ∈ second := by
  simp only [Precedes, List.getElem?_map, Option.map_eq_some_iff]
  constructor
  · rintro ⟨hlt, first, second, hfirst, hsecond, hshared⟩
    exact ⟨hlt, _, _, ⟨first, hfirst, rfl⟩, ⟨second, hsecond, rfl⟩, hshared⟩
  · rintro ⟨hlt, _, _, ⟨first, hfirst, rfl⟩, ⟨second, hsecond, rfl⟩, hshared⟩
    exact ⟨hlt, first, second, hfirst, hsecond, hshared⟩

/-- A tight schedule for operations is one for all operations on the same qubits. -/
theorem Tight.of_qubits (htight : Tight operations indices)
    (hqubits : others.map Operation.qubits = operations.map Operation.qubits) :
    Tight others indices := by
  have hprecedes (i j : Nat) : Precedes others i j ↔ Precedes operations i j := by
    rw [precedes_iff_qubits, precedes_iff_qubits, hqubits]
  have hlength : others.length = operations.length := by
    simpa using congrArg List.length hqubits
  obtain ⟨⟨hindices, hrising⟩, hreached⟩ := htight
  refine ⟨⟨hindices.trans hlength.symm, ?_⟩, ?_⟩
  · simpa only [hprecedes] using hrising
  · simpa only [hprecedes] using hreached

/-- There is only one tight schedule. -/
theorem Tight.unique {indices' : List Nat} (htight : Tight operations indices)
    (htight' : Tight operations indices') : indices = indices' := by
  have hle : List.Forall₂ (· ≤ ·) indices indices' := htight.le_schedule htight'.toSchedule
  have hge : List.Forall₂ (· ≤ ·) indices' indices := htight'.le_schedule htight.toSchedule
  refine List.ext_getElem hle.length_eq fun k hk hk' => ?_
  exact Nat.le_antisymm (hle.get hk hk') (hge.get hk' hk)

theorem appendIndices_congr (name : String)
    (hqubits : others.map Operation.qubits = operations.map Operation.qubits) :
    appendIndices (empty name) others = appendIndices (empty name) operations :=
  (tight_appendIndices name others).unique ((tight_appendIndices name operations).of_qubits hqubits)

/-! ## Measurements and the gates they control -/

/-- Where the operation at a position is found after all have been appended. -/
theorem exists_index_of_getElem? (name : String) {operation : Operation}
    (hoperation : operations[i]? = some operation) :
    ∃ index, (appendIndices (empty name) operations)[i]? = some index ∧
      ∃ moment, (ofOperations name operations).moments[index]? = some moment ∧
        operation ∈ moment.operations := by
  obtain ⟨index, hindex⟩ : ∃ index, (appendIndices (empty name) operations)[i]? = some index := by
    have hlt : i < (appendIndices (empty name) operations).length := by
      rw [(tight_appendIndices name operations).length_eq]
      exact (List.getElem?_eq_some_iff.mp hoperation).1
    exact ⟨_, List.getElem?_eq_getElem hlt⟩
  refine ⟨index, hindex, ?_⟩
  rw [moments_ofOperations]
  exact (holds_iff name).mpr ⟨i, hoperation, hindex⟩

/-- A measurement and a gate that its outcome controls, among operations that are appended in order.
The gate ends in a later moment whenever a chain of operations that share qubits leads from the
measurement to it.  Precisely, it does when some chain that ends with the gate is longer than all
that end with the measurement.  Keys have no part in it, since other operations on the same qubits
end in the same moments. -/
theorem append_orders_control (name : String) {key : String} {gate : Gate}
    {measured controlled : List Qubit}
    (hmeasurement : operations[i]? = some (.plain (.measure key) measured))
    (hcontrolled : operations[j]? = some (.conditional key gate controlled)) :
    (∃ before after,
      (appendIndices (empty name) operations)[i]? = some before ∧
      (∃ moment, (ofOperations name operations).moments[before]? = some moment ∧
        .plain (.measure key) measured ∈ moment.operations) ∧
      (appendIndices (empty name) operations)[j]? = some after ∧
      (∃ moment, (ofOperations name operations).moments[after]? = some moment ∧
        .conditional key gate controlled ∈ moment.operations) ∧
      (Relation.TransGen (Precedes operations) i j → before < after) ∧
      (before < after ↔ ∃ positions, Chain operations positions ∧ positions.getLast? = some j ∧
        ∀ shorter, Chain operations shorter → shorter.getLast? = some i →
          shorter.length < positions.length)) ∧
    ∀ others, others.map Operation.qubits = operations.map Operation.qubits →
      appendIndices (empty name) others = appendIndices (empty name) operations := by
  have htight := tight_appendIndices name operations
  obtain ⟨before, hbefore, hheld⟩ := exists_index_of_getElem? name hmeasurement
  obtain ⟨after, hafter, hheld'⟩ := exists_index_of_getElem? name hcontrolled
  refine ⟨⟨before, after, hbefore, hheld, hafter, hheld', fun hlinked => ?_, ?_⟩,
    fun _ hqubits => appendIndices_congr name hqubits⟩
  · exact htight.toSchedule.lt_of_transGen hlinked hbefore hafter
  · exact htight.lt_iff_longer_chain hbefore hafter

/-- A measurement, an interaction of the measured qubit with another one, and a gate on that one
which waits for the outcome. -/
def linkedProbe : List Operation :=
  [.plain (.measure "k") [.grid ⟨0, 0⟩], .plain (.interaction 1.0) [.grid ⟨0, 0⟩, .grid ⟨0, 1⟩],
    .conditional "k" (.rotation .x 1.0) [.grid ⟨0, 1⟩]]

theorem linkedProbe_ordered :
    Relation.TransGen (Precedes linkedProbe) 0 2 ∧
      ∃ before after, (appendIndices (empty "c") linkedProbe)[0]? = some before ∧
        (appendIndices (empty "c") linkedProbe)[2]? = some after ∧ before < after := by
  have hlinked : Relation.TransGen (Precedes linkedProbe) 0 2 := by
    refine Relation.TransGen.tail (.single (b := 1) ?_) ?_
    · exact ⟨by decide, _, _, rfl, rfl, .grid ⟨0, 0⟩, by decide, by decide⟩
    · exact ⟨by decide, _, _, rfl, rfl, .grid ⟨0, 1⟩, by decide, by decide⟩
  have hmeasurement : linkedProbe[0]? = some (.plain (.measure "k") [.grid ⟨0, 0⟩]) := rfl
  have hcontrolled :
      linkedProbe[2]? = some (.conditional "k" (.rotation .x 1.0) [.grid ⟨0, 1⟩]) := rfl
  obtain ⟨⟨before, after, hbefore, -, hafter, -, horder, -⟩, -⟩ :=
    append_orders_control "c" hmeasurement hcontrolled
  exact ⟨hlinked, before, after, hbefore, hafter, horder hlinked⟩

/-- A measurement, and a gate on another qubit which waits for the outcome. -/
def controlProbe : List Operation :=
  [.plain (.measure "k") [.grid ⟨0, 0⟩], .conditional "k" (.rotation .x 1.0) [.grid ⟨0, 1⟩]]

/-- The gate of `controlProbe` ends in the moment of the measurement that it waits for. -/
theorem controlProbe_unordered :
    appendIndices (empty "c") controlProbe = [0, 0] ∧
      (ofOperations "c" controlProbe).moments = [⟨controlProbe⟩] := by
  exact ⟨by decide, rfl⟩

end GridCircuit.Circuit
