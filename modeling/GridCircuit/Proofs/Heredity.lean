import GridCircuit.Proofs.Legality

/-!
# Moments as collections

The checks of a moment read it from left to right: the first repeated operand, the operations in
turn, the pairs of interactions with the earlier one first.  Their verdict does not depend on that
order, nor on which operand of an interaction is written first, and what is accepted is accepted in
part.

Two of the three rules for a legal moment are symmetric relations between its members, and the third
is about each member alone, so moments that are permuted or thinned out stay legal
(`Moment.Legal.of_subperm`).  For a single operation this lets us bring it to the end of the moment
and ask only whether the others have room for it (`Moment.legal_insert_iff`).  That is a question
about its sites, not about their order.
-/

namespace GridCircuit

namespace Operation

variable {a b other : Operation} {topology : Topology} {exponent : Float} {qubits : List Qubit}

/-- An operation on fewer qubits is apart from all that the operation was apart from. -/
theorem Apart.of_subset (hapart : a.Apart other) (hqubits : b.qubits ⊆ a.qubits)
    (hinteraction : b.isInteraction = true → a.isInteraction = true) : b.Apart other := by
  intro hb hother p hp q hq
  have hp' : p ∈ a.sites := mem_sites.mpr (hqubits (mem_sites.mp hp))
  exact hapart (hinteraction hb) hother p hp' q hq

/-- An interaction runs whichever of its operands comes first. -/
theorem RunsOn.reversed (hruns : (plain (.interaction exponent) qubits).RunsOn topology) :
    (plain (.interaction exponent) qubits.reverse).RunsOn topology := by
  cases hruns with
  | interaction ha hb hadjacent => exact .interaction hb ha (Site.adjacent_comm.mp hadjacent)

end Operation

namespace Moment

variable {topology : Topology} {first second : Moment} {operation : Operation}
  {before after : List Operation} {exponent : Float} {qubits : List Qubit}

/-- The order of its operations does not matter for whether a moment is legal. -/
theorem legal_congr_perm (hperm : first.operations.Perm second.operations) :
    first.Legal topology ↔ second.Legal topology :=
  ⟨fun hlegal => hlegal.of_subperm hperm.symm.subperm,
    fun hlegal => hlegal.of_subperm hperm.subperm⟩

/-- An operation in the middle of a legal moment is one that the others have room for. -/
theorem legal_insert_iff : Legal topology ⟨before ++ operation :: after⟩ ↔
    Legal topology ⟨before ++ after⟩ ∧ HasRoom ⟨before ++ after⟩ operation ∧
      operation.RunsOn topology ∧ operation.qubits.Nodup := by
  have hperm : (before ++ operation :: after).Perm (before ++ after ++ [operation]) :=
    List.perm_middle.trans (List.perm_append_singleton _ _).symm
  rw [← legal_add_iff]
  exact legal_congr_perm hperm

/-- An interaction of a legal moment may be written with its operands in reverse. -/
theorem Legal.reversed
    (hlegal : Legal topology ⟨before ++ .plain (.interaction exponent) qubits :: after⟩) :
    Legal topology ⟨before ++ .plain (.interaction exponent) qubits.reverse :: after⟩ := by
  obtain ⟨hothers, hroom, hruns, hnodup⟩ := legal_insert_iff.mp hlegal
  have hsubset : qubits.reverse ⊆ qubits := fun _ => List.mem_reverse.mp
  refine legal_insert_iff.mpr ⟨hothers, ⟨fun qubit hqubit => ?_, fun other hother => ?_⟩,
    hruns.reversed, List.nodup_reverse.mpr hnodup⟩
  · exact hroom.free qubit (hsubset hqubit)
  · exact (hroom.apart other hother).of_subset hsubset fun hinteraction => hinteraction

theorem legal_reversed_iff :
    Legal topology ⟨before ++ .plain (.interaction exponent) qubits :: after⟩ ↔
      Legal topology ⟨before ++ .plain (.interaction exponent) qubits.reverse :: after⟩ := by
  refine ⟨Legal.reversed, fun hlegal => ?_⟩
  simpa using hlegal.reversed

end Moment

namespace Device

/-- The decisions about a moment treat it as a collection.  Whether a moment is accepted does not
change when its operations are permuted or when the operands of an interaction are reversed, and
every part of an accepted moment is accepted.  What may join a moment may join every part of it. -/
theorem decisions_hold_for_parts (durations : GateDurations) (topology : Topology) :
    (∀ first second : Moment, first.operations.Perm second.operations →
      ((ofParts durations topology).checkMoment first = .ok () ↔
        (ofParts durations topology).checkMoment second = .ok ())) ∧
    (∀ (before after : List Operation) (exponent : Float) (qubits : List Qubit),
      (ofParts durations topology).checkMoment
          ⟨before ++ .plain (.interaction exponent) qubits :: after⟩ = .ok () ↔
        (ofParts durations topology).checkMoment
          ⟨before ++ .plain (.interaction exponent) qubits.reverse :: after⟩ = .ok ()) ∧
    (∀ part whole : Moment, part.operations.Subperm whole.operations →
      (ofParts durations topology).checkMoment whole = .ok () →
        (ofParts durations topology).checkMoment part = .ok ()) ∧
    ∀ (operation : Operation) (part whole : Moment),
      part.operations.Subperm whole.operations →
        (ofParts durations topology).canAdd operation whole = true →
          (ofParts durations topology).canAdd operation part = true := by
  simp only [checkMoment_eq_ok_iff]
  exact ⟨fun _ _ => Moment.legal_congr_perm, fun _ _ _ _ => Moment.legal_reversed_iff,
    fun _ _ hpart hlegal => hlegal.of_subperm hpart, fun _ _ _ => canAdd_of_subperm⟩

/-- A moment with two interactions that keep their distance and a phase between them. -/
def looseProbe : Moment :=
  ⟨[.plain (.interaction 1.0) [.grid ⟨0, 0⟩, .grid ⟨0, 1⟩],
    .plain (.phase 0.5 false) [.grid ⟨0, 2⟩],
    .plain (.interaction 0.5) [.grid ⟨0, 3⟩, .grid ⟨1, 3⟩]]⟩

theorem looseProbe_parts :
    (ofParts .foxtail (.rectangle 2 5)).checkMoment looseProbe = .ok () ∧
      (ofParts .foxtail (.rectangle 2 5)).checkMoment ⟨looseProbe.operations.reverse⟩ = .ok () ∧
      (ofParts .foxtail (.rectangle 2 5)).checkMoment
        ⟨.plain (.interaction 1.0) [.grid ⟨0, 1⟩, .grid ⟨0, 0⟩] :: looseProbe.operations.tail⟩ =
          .ok () ∧
      (ofParts .foxtail (.rectangle 2 5)).checkMoment ⟨looseProbe.operations.tail⟩ = .ok () ∧
      (ofParts .foxtail (.rectangle 2 5)).canAdd (.plain (.measure "m") [.grid ⟨1, 4⟩])
        looseProbe = true ∧
      (ofParts .foxtail (.rectangle 2 5)).canAdd (.plain (.measure "m") [.grid ⟨1, 4⟩])
        ⟨looseProbe.operations.tail⟩ = true := by
  have hcheck : (ofParts .foxtail (.rectangle 2 5)).checkMoment looseProbe = .ok () := rfl
  have hjoins : (ofParts .foxtail (.rectangle 2 5)).canAdd
      (.plain (.measure "m") [.grid ⟨1, 4⟩]) looseProbe = true := rfl
  have htail : looseProbe.operations.tail.Subperm looseProbe.operations :=
    (List.tail_sublist _).subperm
  obtain ⟨hperm, hreversed, hpart, hjoin⟩ := decisions_hold_for_parts .foxtail (.rectangle 2 5)
  exact ⟨hcheck, (hperm looseProbe ⟨_⟩ (List.reverse_perm _).symm).mp hcheck,
    (hreversed [] _ 1.0 [.grid ⟨0, 0⟩, .grid ⟨0, 1⟩]).mp hcheck,
    hpart ⟨_⟩ looseProbe htail hcheck, hjoins, hjoin _ ⟨_⟩ looseProbe htail hjoins⟩

end Device

end GridCircuit
