import GridCircuit.Proofs.Landing

/-!
# Left-justified packings

Packing picks a moment for an operation while the circuit is being filled, and the moments keep
growing afterwards.  The packed circuit can be judged without this history all the same: in front
of an operation, every moment from which on its qubits are not used refuses the operation as the
moment is in the end.

Two facts carry a refusal from the time of the choice to the end.  What a moment refuses, it goes on
refusing when it grows (`refusalsLast_canAdd`), and a moment that uses a qubit goes on using it.
Both are part of `settled_of_pack`, which is read here at the indices of the moments.  It remains to
see why a legal moment refuses an operation whose qubits it leaves free: it can only be a conflict
between interactions (`Moment.exists_conflict_of_not_hasRoom`).
-/

namespace GridCircuit

namespace Circuit

variable {canPlace : Operation → Moment → Bool} {operation : Operation} {moments : List Moment}
  {moment target : Moment} {i j : Nat}

/-- From one index up to another, no moment uses any of some qubits. -/
def Idle (moments : List Moment) (qubits : List Qubit) (first last : Nat) : Prop :=
  ∀ k, first ≤ k → k < last → ∀ moment, moments[k]? = some moment → moment.touches qubits = false

/-- An operation of the moment with some index could run earlier: there is an earlier moment from
which on its qubits are not used, and which the device also accepts with the operation. -/
def Movable (device : Device) (moments : List Moment) (i : Nat) (operation : Operation) : Prop :=
  ∃ j < i, ∃ target, moments[j]? = some target ∧ Idle moments operation.qubits j i ∧
    device.checkMoment (target.add operation) = .ok ()

/-- In settled moments, an operation is refused by every earlier moment from which on its qubits are
not used. -/
theorem Settled.refused_of_idle (hsettled : Settled canPlace moments)
    (hmoment : moments[i]? = some moment) (hmem : operation ∈ moment.operations)
    (hj : j < i) (htarget : moments[j]? = some target)
    (hidle : Idle moments operation.qubits j i) : canPlace operation target = false := by
  obtain ⟨hi, hget⟩ := List.getElem?_eq_some_iff.mp hmoment
  have hsplit : moments = moments.take i ++ moment :: moments.drop (i + 1) := by
    rw [← hget, ← List.drop_eq_getElem_cons hi, List.take_append_drop]
  have hpassed : PassedOver canPlace operation (moments.take i) :=
    hsettled _ _ _ hsplit operation hmem
  have hbefore : (moments.take i)[j]? = some target := by
    rw [List.getElem?_take_of_lt hj]
    exact htarget
  rcases hpassed.touched_or_refused hbefore with ⟨later, hlater, htouches⟩ | hrefused
  · -- the moment that uses one of the qubits has an index between the two
    obtain ⟨k, hk⟩ := List.mem_iff_getElem?.mp hlater
    rw [List.getElem?_drop] at hk
    have hlt : j + k < i := by
      have hlength := (List.getElem?_eq_some_iff.mp hk).1
      rw [List.length_take] at hlength
      omega
    rw [List.getElem?_take_of_lt hlt] at hk
    have hfree : later.touches operation.qubits = false :=
      hidle (j + k) (Nat.le_add_right j k) hlt later hk
    simp [hfree] at htouches
  · exact hrefused

end Circuit

namespace Moment

variable {moment : Moment} {operation : Operation}

/-- A moment that leaves the qubits of an operation free can only lack room for it because of a
conflict between interactions. -/
theorem exists_conflict_of_not_hasRoom (hfree : moment.touches operation.qubits = false)
    (hroom : ¬ moment.HasRoom operation) :
    operation.isInteraction = true ∧ ∃ other ∈ moment.operations,
      other.isInteraction = true ∧ operation.conflicts other = true := by
  have hnear : ¬ ∀ other ∈ moment.operations, operation.Apart other :=
    fun hapart => hroom ⟨touches_eq_false_iff.mp hfree, hapart⟩
  push Not at hnear
  obtain ⟨other, hmem, hnear⟩ := hnear
  have hconflict : operation.conflicts other = true := by
    rw [← Bool.not_eq_false, Operation.conflicts_eq_false_iff]
    exact hnear
  have hboth : operation.isInteraction = true ∧ other.isInteraction = true := by
    rw [Operation.conflicts, Bool.and_eq_true, Bool.and_eq_true] at hconflict
    exact hconflict.1
  exact ⟨hboth.1, other, hmem, hboth.2, hconflict⟩

end Moment

namespace Device

open Circuit

variable {durations : GateDurations} {topology : Topology}

/-- Among settled legal moments, a moment from which on the qubits of a later operation are not used
holds an interaction that conflicts with the operation. -/
theorem exists_conflict_of_idle {moments : List Moment} {moment : Moment} {operation : Operation}
    {i j : Nat} (hsettled : Settled (ofParts durations topology).canAdd moments)
    (hlegal : ∀ moment ∈ moments, moment.Legal topology) (hmoment : moments[i]? = some moment)
    (hmem : operation ∈ moment.operations) (hj : j < i)
    (hidle : Idle moments operation.qubits j i) :
    operation.isInteraction = true ∧ ∃ target, moments[j]? = some target ∧
      ∃ other ∈ target.operations,
        other.isInteraction = true ∧ operation.conflicts other = true := by
  have hi : i < moments.length := (List.getElem?_eq_some_iff.mp hmoment).1
  have htarget : moments[j]? = some moments[j] := List.getElem?_eq_getElem (by omega)
  have hfree : moments[j].touches operation.qubits = false :=
    hidle j (Nat.le_refl j) hj _ htarget
  -- the moment is legal, so that it refuses the operation for want of room
  have hroom : ¬ moments[j].HasRoom operation := by
    intro hroom
    have haccept : (ofParts durations topology).canAdd operation moments[j] = true :=
      canAdd_iff.mpr ⟨hlegal _ (List.getElem_mem _), hroom⟩
    simp [hsettled.refused_of_idle hmoment hmem hj htarget hidle] at haccept
  obtain ⟨hinteraction, hother⟩ := Moment.exists_conflict_of_not_hasRoom hfree hroom
  exact ⟨hinteraction, moments[j], htarget, hother⟩

/-- Packed circuits are left-justified, for devices whose host has no rules of its own.  In front of
an operation, a moment from which on its qubits are not used holds an interaction that conflicts
with the operation, itself an interaction.  Any other operation is in the first moment or directly
behind one that uses one of its qubits, and no operation at all can be moved to an earlier
moment. -/
theorem pack_left_justified (durations : GateDurations) (topology : Topology)
    {circuit packed : Circuit}
    (hnodup : ∀ operation ∈ circuit.operations, operation.qubits.Nodup)
    (hpack : (ofParts durations topology).pack circuit = .ok packed) :
    ∀ i moment, packed.moments[i]? = some moment → ∀ operation ∈ moment.operations,
      (∀ j < i, Idle packed.moments operation.qubits j i →
        operation.isInteraction = true ∧ ∃ target, packed.moments[j]? = some target ∧
          ∃ other ∈ target.operations,
            other.isInteraction = true ∧ operation.conflicts other = true) ∧
      (operation.isInteraction = false → i = 0 ∨
        ∃ previous, packed.moments[i - 1]? = some previous ∧
          previous.touches operation.qubits = true) ∧
      ¬ Movable (ofParts durations topology) packed.moments i operation := by
  have hsettled : Settled (ofParts durations topology).canAdd packed.moments :=
    settled_of_pack hpack
  have hlegal : ∀ moment ∈ packed.moments, moment.Legal topology := legal_of_pack hnodup hpack
  intro i moment hmoment operation hmem
  have hconflict := fun j (hj : j < i) (hidle : Idle packed.moments operation.qubits j i) =>
    exists_conflict_of_idle hsettled hlegal hmoment hmem hj hidle
  refine ⟨hconflict, fun hother => ?_, ?_⟩
  · by_contra hcontra
    push Not at hcontra
    obtain ⟨hpositive, hfree⟩ := hcontra
    have hidle : Idle packed.moments operation.qubits (i - 1) i := by
      intro k hfirst hlast between hbetween
      obtain rfl : k = i - 1 := by omega
      simpa using hfree between hbetween
    have hinteraction := (hconflict (i - 1) (by omega) hidle).1
    simp [hother] at hinteraction
  · rintro ⟨j, hj, target, htarget, hidle, haccepted⟩
    have hgrown : (target.add operation).Legal topology :=
      (checkMoment_eq_ok_iff durations).mp haccepted
    obtain ⟨htargetLegal, hroom, -⟩ := Moment.legal_add_iff.mp hgrown
    have haccept : (ofParts durations topology).canAdd operation target = true :=
      canAdd_iff.mpr ⟨htargetLegal, hroom⟩
    simp [hsettled.refused_of_idle hmoment hmem hj htarget hidle] at haccept

end Device

namespace Circuit

set_option maxRecDepth 20000 in
theorem staggeredProbe_left_justified :
    (∀ operation ∈ staggeredProbe.operations, operation.qubits.Nodup) ∧
      ∃ packed, Device.foxtail.pack staggeredProbe = .ok packed ∧ packed.depth = 2 ∧
        ∀ i moment, packed.moments[i]? = some moment → ∀ operation ∈ moment.operations,
          ¬ Movable Device.foxtail packed.moments i operation := by
  have hnodup : ∀ operation ∈ staggeredProbe.operations, operation.qubits.Nodup := by decide
  refine ⟨hnodup, _, rfl, rfl, fun i moment hmoment operation hmem => ?_⟩
  exact (Device.pack_left_justified .foxtail (.rectangle 2 11) hnodup rfl
    i moment hmoment operation hmem).2.2

end Circuit

end GridCircuit
