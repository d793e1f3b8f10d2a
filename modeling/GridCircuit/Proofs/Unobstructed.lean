import GridCircuit.Proofs.Chains

/-!
# Packing where nothing conflicts

Appending looks at qubits only, while a device judges whole moments and keeps conflicting
interactions apart.  The two place the operations of a circuit alike as long as the moments that
appending leaves are legal for the device, and this is also necessary
(`Device.pack_eq_ofOperations_iff`).

Appending puts an operation right behind the last moment that uses one of its qubits, which is the
first moment that packing asks about.  What the moment holds by then, and the operation after it, is
a beginning of what it holds in the end.  So when the moment can be filled in its order under the
rule of the device, the device accepts the operation there, and the two places are the same
(`Circuit.arrange_eq_of_fillable`).

Interactions that share a qubit conflict as well, but never come together in a moment.  Those that
share none are all that can keep the moments from being legal.
-/

namespace GridCircuit

namespace Circuit

variable {canPlace : Operation → Moment → Bool} {operation : Operation} {operations : List Operation}
  {moments before after : List Moment} {target : Moment}

/-! ### Places found by looking at qubits -/

theorem PassedOver.of_leavesFree (hpassed : PassedOver leavesFree operation before) :
    PassedOver canPlace operation before := by
  induction before with
  | nil => exact trivial
  | cons moment rest ih =>
      refine ⟨?_, ih hpassed.2⟩
      rcases hpassed.1 with htouched | hrefused
      · exact .inl htouched
      · exact .inl ⟨moment, List.mem_cons_self, leavesFree_eq_false_iff.mp hrefused⟩

theorem Slot.of_leavesFree (slot : Slot leavesFree operation moments before target after)
    (haccept : canPlace operation target = true) :
    Slot canPlace operation moments before target after :=
  ⟨slot.passed.of_leavesFree, slot.free, slot.origin.imp_left fun h => ⟨h.1, haccept⟩⟩

/-- A rule under which the moments of an appended circuit can be filled in their order gives the
same circuit. -/
theorem arrange_eq_of_fillable
    (hfillable : ∀ moment ∈ arrange leavesFree operations, Fillable canPlace moment) :
    arrange canPlace operations = arrange leavesFree operations := by
  induction operations using List.reverseRecOn with
  | nil => rfl
  | append_singleton operations operation ih =>
      obtain ⟨before, target, after, slot⟩ :=
        exists_slot leavesFree operation (arrange leavesFree operations)
      rw [arrange_concat, slot.placeEarliest_eq] at hfillable
      obtain ⟨htarget, haccept⟩ : Fillable canPlace target ∧ canPlace operation target = true :=
        (hfillable (target.add operation) (by simp)).of_add
      -- before the last operation, every moment held a beginning of what it holds now
      have hinit : ∀ moment ∈ arrange leavesFree operations, Fillable canPlace moment := by
        intro moment hmem
        have hplace : moment ∈ before ++ after ∨ moment = target := by
          rcases slot.origin with ⟨heq, -⟩ | ⟨heq, -, -⟩
          · rw [heq] at hmem
            simp only [List.mem_append, List.mem_cons] at hmem ⊢
            tauto
          · exact .inl (List.mem_append_left _ (heq ▸ hmem))
        rcases hplace with hmem | rfl
        · apply hfillable
          simp only [List.mem_append, List.mem_cons] at hmem ⊢
          tauto
        · exact htarget
      rw [arrange_concat, arrange_concat, ih hinit, slot.placeEarliest_eq,
        (slot.of_leavesFree haccept).placeEarliest_eq]

/-- Operations of which only those that share a qubit conflict are apart in every moment that they
are arranged into. -/
theorem apart_of_mem_arrange (hnodup : ∀ operation ∈ operations, operation.qubits.Nodup)
    (hconflicts : operations.Pairwise fun a b =>
      a.qubits.Disjoint b.qubits → a.conflicts b = false) :
    ∀ moment ∈ arrange canPlace operations, moment.operations.Pairwise Operation.Apart := by
  intro moment hmoment
  have hall : ((arrange canPlace operations).flatMap Moment.operations).Pairwise fun a b =>
      a.qubits.Disjoint b.qubits → a.Apart b := by
    simp only [Operation.conflicts_eq_false_iff] at hconflicts
    apply hconflicts.perm (arrange_perm canPlace operations).symm
    intro a b hapart hdisjoint
    exact (hapart (List.disjoint_symm hdisjoint)).symm
  have hmomentAll := (List.pairwise_flatMap.mp hall).1 moment hmoment
  -- within a moment, no qubit is shared
  have hspread : Moment.Spread moment.operations :=
    (Moment.nodup_qubits_iff.mp (nodup_qubits_of_mem_arrange hnodup moment hmoment)).2
  exact (hspread.and hmomentAll).imp fun ⟨hdisjoint, hapart⟩ => hapart hdisjoint

end Circuit

namespace Device

open Circuit

/-- Packing gives the appended circuit exactly when all moments of that are legal. -/
theorem pack_eq_ofOperations_iff (durations : GateDurations) {topology : Topology}
    {circuit : Circuit}
    (hvalid : ∀ operation ∈ circuit.operations,
      operation.RunsOn topology ∧ operation.qubits.Nodup) :
    (ofParts durations topology).pack circuit =
        .ok (ofOperations circuit.name circuit.operations) ↔
      ∀ moment ∈ (ofOperations circuit.name circuit.operations).moments,
        moment.Legal topology := by
  constructor
  · intro hpack
    exact legal_of_pack (fun operation hmem => (hvalid operation hmem).2) hpack
  · intro hlegal
    rw [moments_ofOperations] at hlegal
    have hsame : arrange (ofParts durations topology).canAdd circuit.operations =
        arrange leavesFree circuit.operations :=
      arrange_eq_of_fillable fun moment hmem => fillable_of_legal (hlegal moment hmem)
    refine pack_eq_ok_iff.mpr ⟨fun operation hmem => (hvalid operation hmem).1, ?_⟩
    rw [hsame]
    exact foldl_insertEarliest leavesFree circuit.name circuit.operations

/-- Where no interactions conflict but those that share a qubit, packing for a device whose host has
no rules of its own appends the operations one after the other, to the same moments in the same
order. -/
theorem pack_eq_ofOperations (durations : GateDurations) (topology : Topology) (circuit : Circuit)
    (hvalid : ∀ operation ∈ circuit.operations,
      (ofParts durations topology).checkOperation operation = .ok () ∧ operation.qubits.Nodup)
    (hconflicts : circuit.operations.Pairwise fun a b =>
      a.qubits.Disjoint b.qubits → a.conflicts b = false) :
    (ofParts durations topology).pack circuit =
      .ok (ofOperations circuit.name circuit.operations) := by
  have hruns : ∀ operation ∈ circuit.operations,
      operation.RunsOn topology ∧ operation.qubits.Nodup := by
    intro operation hmem
    obtain ⟨hcheck, hdistinct⟩ := hvalid operation hmem
    exact ⟨checkOperation_eq_ok_iff.mp hcheck, hdistinct⟩
  have hnodup : ∀ operation ∈ circuit.operations, operation.qubits.Nodup :=
    fun operation hmem => (hruns operation hmem).2
  rw [pack_eq_ofOperations_iff durations hruns, moments_ofOperations]
  intro moment hmoment
  refine ⟨fun operation hmem => ?_, nodup_qubits_of_mem_arrange hnodup moment hmoment,
    apart_of_mem_arrange hnodup hconflicts moment hmoment⟩
  exact (hruns operation (mem_of_mem_arrange hmoment hmem)).1

end Device

namespace Circuit

/-- A circuit with two interactions that share a site, one far from both, and a phase that can move
to the front. -/
def chainedProbe : Circuit :=
  ⟨"chained", [
    ⟨[.plain (.interaction 1.0) [.grid ⟨0, 0⟩, .grid ⟨0, 1⟩]]⟩,
    ⟨[.plain (.interaction 1.0) [.grid ⟨0, 1⟩, .grid ⟨0, 2⟩]]⟩,
    ⟨[.plain (.interaction 1.0) [.grid ⟨0, 6⟩, .grid ⟨1, 6⟩],
      .plain (.phase 0.5 false) [.grid ⟨1, 0⟩]]⟩]⟩

theorem chainedProbe_appended :
    (∀ operation ∈ chainedProbe.operations,
      Device.foxtail.checkOperation operation = .ok () ∧ operation.qubits.Nodup) ∧
    (chainedProbe.operations.Pairwise fun a b =>
      a.qubits.Disjoint b.qubits → a.conflicts b = false) ∧
    Device.foxtail.pack chainedProbe =
      .ok (ofOperations chainedProbe.name chainedProbe.operations) ∧
    (ofOperations chainedProbe.name chainedProbe.operations).depth = 2 := by
  have hvalid : ∀ operation ∈ chainedProbe.operations,
      Device.foxtail.checkOperation operation = .ok () ∧ operation.qubits.Nodup := by
    simp only [chainedProbe, Circuit.operations, List.flatMap_cons, List.flatMap_nil,
      List.cons_append, List.nil_append, List.append_nil, List.forall_mem_cons]
    exact ⟨⟨rfl, by decide⟩, ⟨rfl, by decide⟩, ⟨rfl, by decide⟩, ⟨rfl, by decide⟩, by simp⟩
  have hconflicts : chainedProbe.operations.Pairwise fun a b =>
      a.qubits.Disjoint b.qubits → a.conflicts b = false := by
    simp only [List.disjoint_left]
    decide
  exact ⟨hvalid, hconflicts,
    Device.pack_eq_ofOperations .foxtail (.rectangle 2 11) chainedProbe hvalid hconflicts, by decide⟩

end Circuit

end GridCircuit
