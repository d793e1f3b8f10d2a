import GridCircuit.Device.Basic
import GridCircuit.Proofs.Attempt
import GridCircuit.Proofs.Operands
import Mathlib.Data.List.Flatten
import Mathlib.Data.List.Nodup
import Mathlib.Data.List.Perm.Subperm

/-!
# Legal operations and moments

What a device checks step by step is said here without the steps.  `Operation.RunsOn` lists the
operations that a topology runs, `Operation.Apart` says that two operations of a moment do not
exclude each other, and `Moment.Legal` puts both together with the rule that no qubit is used
twice.

A device whose host has no rules of its own decides legality in two ways.  `Device.checkMoment`
judges a moment that is there as a whole; `Device.canAdd` judges, while a moment is filled, whether
one more operation may join.  `checkMoment_eq_ok_iff` and `canAdd_iff` say what each decides, and
`legal_add_iff` how a moment stays legal when it grows.  The last theorem of this file puts the two
decisions side by side.
-/

namespace GridCircuit

open Attempt

/-! ## Operations that a topology runs -/

/-- The operations that a topology runs: plain native gates, each on as many sites of the topology
as the gate has operands, and an interaction on neighbouring ones. -/
inductive Operation.RunsOn (topology : Topology) : Operation → Prop
  | interaction {exponent : Float} {a b : Site} (ha : a ∈ topology) (hb : b ∈ topology)
      (hadjacent : a.Adjacent b) :
      RunsOn topology (.plain (.interaction exponent) [.grid a, .grid b])
  | rotation {axis : Axis} {exponent : Float} {site : Site} (hsite : site ∈ topology) :
      RunsOn topology (.plain (.rotation axis exponent) [.grid site])
  | phase {exponent : Float} {virtual : Bool} {site : Site} (hsite : site ∈ topology) :
      RunsOn topology (.plain (.phase exponent virtual) [.grid site])
  | measure {key : String} {sites : List Site} (hsome : sites ≠ [])
      (hsites : ∀ site ∈ sites, site ∈ topology) :
      RunsOn topology (.plain (.measure key) (sites.map .grid))

namespace Topology

variable {topology : Topology}

theorem siteOf_eq_ok_iff {qubit : Qubit} {site : Site} :
    topology.siteOf qubit = .ok site ↔ qubit = .grid site ∧ site ∈ topology := by
  cases qubit with
  | grid other =>
      by_cases hmem : other ∈ topology
      · simp only [siteOf, Qubit.site?, hmem, if_true, Except.ok.injEq, Qubit.grid.injEq]
        exact ⟨fun heq => ⟨heq, heq ▸ hmem⟩, fun h => h.1⟩
      · simp only [siteOf, Qubit.site?, hmem, if_false, reduceCtorEq, Qubit.grid.injEq, false_iff]
        rintro ⟨rfl, hsite⟩
        exact hmem hsite
  | line index => simp [siteOf, Qubit.site?]
  | named name => simp [siteOf, Qubit.site?]

theorem mapM_siteOf_eq_ok_iff {qubits : List Qubit} {sites : List Site} :
    qubits.mapM topology.siteOf = .ok sites ↔
      qubits = sites.map .grid ∧ ∀ site ∈ sites, site ∈ topology := by
  simp only [mapM_eq_ok_iff, siteOf_eq_ok_iff]
  induction sites generalizing qubits with
  | nil => simp
  | cons site sites ih =>
      simp only [List.forall₂_cons_right_iff, ih, List.map_cons, List.forall_mem_cons]
      constructor
      · rintro ⟨_, _, ⟨rfl, hsite⟩, ⟨rfl, hsites⟩, rfl⟩
        exact ⟨rfl, hsite, hsites⟩
      · rintro ⟨rfl, hsite, hsites⟩
        exact ⟨_, _, ⟨rfl, hsite⟩, ⟨rfl, hsites⟩, rfl⟩

/-- The check of a plain native gate, after the gate itself. -/
theorem checkOperation_plain_of_kind {gate : Gate} {kind : GateKind}
    (hkind : gate.kind? = some kind) (qubits : List Qubit) :
    topology.checkOperation (.plain gate qubits) =
      if gate.accepts qubits.length then
        (qubits.mapM topology.siteOf >>= fun sites =>
          if areLocal kind sites then .ok () else .error (.nonLocal (.plain gate qubits)))
      else .error (.unsupportedOperation (.plain gate qubits)) := by
  simp only [checkOperation, Operation.gate?, Gate.nativeKind, hkind]
  rfl

/-- What the check of a plain operation amounts to. -/
theorem checkOperation_plain_eq_ok_iff {gate : Gate} {qubits : List Qubit} :
    topology.checkOperation (.plain gate qubits) = .ok () ↔
      ∃ kind sites, gate.kind? = some kind ∧ qubits = sites.map .grid ∧
        (∀ site ∈ sites, site ∈ topology) ∧ gate.accepts sites.length = true ∧
          areLocal kind sites = true := by
  cases hkind : gate.kind? with
  | none => simp [checkOperation, Operation.gate?, Gate.nativeKind, hkind, bind, Except.bind]
  | some kind =>
      rw [checkOperation_plain_of_kind hkind]
      by_cases haccepts : gate.accepts qubits.length = true
      · rw [if_pos haccepts, bind_eq_ok_iff]
        constructor
        · rintro ⟨sites, hsites, hlocal⟩
          obtain ⟨rfl, hmem⟩ := mapM_siteOf_eq_ok_iff.mp hsites
          refine ⟨kind, sites, rfl, rfl, hmem, by simpa using haccepts, ?_⟩
          by_contra hfar
          simp [hfar] at hlocal
        · rintro ⟨_, sites, hsame, rfl, hmem, -, hlocal⟩
          obtain rfl := Option.some.inj hsame
          exact ⟨sites, mapM_siteOf_eq_ok_iff.mpr ⟨rfl, hmem⟩, by simp [hlocal]⟩
      · rw [if_neg haccepts]
        simp only [reduceCtorEq, false_iff]
        rintro ⟨_, sites, -, rfl, -, hsome, -⟩
        exact haccepts (by simpa using hsome)

/-- A topology accepts exactly the operations that run on it. -/
theorem checkOperation_eq_ok_iff {operation : Operation} :
    topology.checkOperation operation = .ok () ↔ operation.RunsOn topology := by
  constructor
  · intro hcheck
    cases operation with
    | conditional key gate qubits => simp [checkOperation, Operation.gate?] at hcheck
    | subcircuit parts qubits => simp [checkOperation, Operation.gate?] at hcheck
    | plain gate qubits =>
        obtain ⟨kind, sites, hkind, rfl, hmem, haccepts, hlocal⟩ :=
          checkOperation_plain_eq_ok_iff.mp hcheck
        cases gate with
        | interaction exponent =>
            obtain ⟨a, b, rfl⟩ : ∃ a b, sites = [a, b] := by
              simpa [Gate.accepts, Gate.arity?, List.length_eq_two] using haccepts
            obtain rfl : GateKind.interaction = kind := by simpa [Gate.kind?] using hkind
            exact .interaction (hmem a (by simp)) (hmem b (by simp))
              (by simpa [areLocal] using hlocal)
        | rotation axis exponent =>
            obtain ⟨site, rfl⟩ : ∃ site, sites = [site] := by
              simpa [Gate.accepts, Gate.arity?, List.length_eq_one_iff] using haccepts
            exact .rotation (hmem site (by simp))
        | phase exponent virtual =>
            obtain ⟨site, rfl⟩ : ∃ site, sites = [site] := by
              simpa [Gate.accepts, Gate.arity?, List.length_eq_one_iff] using haccepts
            exact .phase (hmem site (by simp))
        | measure key => exact .measure (by simpa [Gate.accepts, Gate.arity?] using haccepts) hmem
        | custom name arity => simp [Gate.kind?] at hkind
  · intro hruns
    cases hruns with
    | @interaction exponent a b ha hb hadjacent =>
        exact checkOperation_plain_eq_ok_iff.mpr ⟨_, [a, b], rfl, rfl, by simp [ha, hb], rfl,
          by simp [areLocal, hadjacent]⟩
    | @rotation axis exponent site hsite =>
        exact checkOperation_plain_eq_ok_iff.mpr ⟨_, [site], rfl, rfl, by simp [hsite], rfl, rfl⟩
    | @phase exponent virtual site hsite =>
        exact checkOperation_plain_eq_ok_iff.mpr ⟨_, [site], rfl, rfl, by simp [hsite], rfl, rfl⟩
    | @measure key sites hsome hsites =>
        refine checkOperation_plain_eq_ok_iff.mpr ⟨_, sites, rfl, rfl, hsites, ?_, ?_⟩
        · simpa [Gate.accepts, Gate.arity?] using hsome
        · unfold areLocal
          split <;> simp

end Topology

/-! ## Operations that do not exclude each other -/

namespace Operation

variable {a b : Operation}

theorem mem_sites {operation : Operation} {site : Site} :
    site ∈ operation.sites ↔ .grid site ∈ operation.qubits := by
  rw [sites, List.mem_filterMap]
  constructor
  · rintro ⟨qubit, hqubit, hsite⟩
    cases qubit with
    | grid place =>
        obtain rfl := Option.some.inj hsite
        exact hqubit
    | line index => cases hsite
    | named name => cases hsite
  · exact fun hqubit => ⟨_, hqubit, rfl⟩

/-- Two operations may run at once: they are not interactions of which one has a site next to a
site of the other. -/
def Apart (a b : Operation) : Prop :=
  a.isInteraction = true → b.isInteraction = true → ∀ p ∈ a.sites, ∀ q ∈ b.sites, ¬ p.Adjacent q

theorem Apart.symm (hapart : a.Apart b) : b.Apart a :=
  fun hb ha q hq p hp hadjacent => hapart ha hb p hp q hq (Site.adjacent_comm.mp hadjacent)

theorem conflicts_eq_false_iff : a.conflicts b = false ↔ a.Apart b := by
  rw [← Bool.not_eq_true]
  simp only [conflicts, Bool.and_eq_true, List.any_eq_true, decide_eq_true_eq, Apart]
  push Not
  exact and_imp

theorem conflictsWithAny_eq_false_iff {others : List Operation} :
    a.conflictsWithAny others = false ↔ ∀ other ∈ others, a.Apart other := by
  simp [conflictsWithAny, conflicts_eq_false_iff]

/-- The rule for joining other operations: no interaction may join one that it conflicts with.
Operations that are no interactions are apart from all others in any case. -/
theorem joins_iff {others : List Operation} :
    (!(a.isInteraction && a.conflictsWithAny others)) = true ↔ ∀ other ∈ others, a.Apart other := by
  rw [← conflictsWithAny_eq_false_iff]
  by_cases hinteraction : a.isInteraction = true
  · simp [hinteraction]
  · simp [hinteraction, conflictsWithAny, conflicts]

end Operation

theorem conflictWith?_eq_none_iff {first : Operation} (index : Nat)
    {operations : List Operation} :
    conflictWith? first index operations = none ↔ ∀ other ∈ operations, first.Apart other := by
  induction operations generalizing index with
  | nil => simp [conflictWith?]
  | cons operation rest ih =>
      rw [conflictWith?, List.forall_mem_cons, ← Operation.conflicts_eq_false_iff]
      cases hconflicts : first.conflicts operation with
      | true => simp
      | false => simp [ih]

theorem conflictFrom?_eq_none_iff (index : Nat) {operations : List Operation} :
    conflictFrom? index operations = none ↔ operations.Pairwise Operation.Apart := by
  induction operations generalizing index with
  | nil => simp [conflictFrom?]
  | cons first rest ih =>
      rw [conflictFrom?, List.pairwise_cons, ← conflictWith?_eq_none_iff (index + 1)]
      cases hwith : conflictWith? first (index + 1) rest with
      | none => simp [ih]
      | some found => simp

namespace Moment

variable {moment : Moment} {operation : Operation} {topology : Topology}

theorem checkExclusion_eq_ok_iff :
    moment.checkExclusion = .ok () ↔ moment.operations.Pairwise Operation.Apart := by
  rw [← conflictFrom?_eq_none_iff 0]
  unfold checkExclusion conflict?
  cases conflictFrom? 0 moment.operations <;> simp

theorem overlap?_eq_none_iff : moment.overlap? = none ↔ moment.qubits.Nodup :=
  firstRepeat?_eq_none_iff

/-! ## Legal moments -/

/-- A moment that a topology runs. -/
structure Legal (topology : Topology) (moment : Moment) : Prop where
  runs : ∀ operation ∈ moment.operations, operation.RunsOn topology
  /-- No qubit is used twice, be it by two operations or by one. -/
  nodup : moment.qubits.Nodup
  apart : moment.operations.Pairwise Operation.Apart

/-- A moment has room for an operation: it leaves its qubits free, and the operation is apart from
every operation of the moment. -/
structure HasRoom (moment : Moment) (operation : Operation) : Prop where
  free : ∀ qubit ∈ operation.qubits, qubit ∉ moment.qubits
  apart : ∀ other ∈ moment.operations, operation.Apart other

theorem legal_empty : Legal topology .empty :=
  ⟨by simp, by simp, by simp⟩

theorem hasRoom_empty : HasRoom .empty operation :=
  ⟨by simp, by simp⟩

/-- A moment with one more operation is legal when it was, has room for the operation, and the
operation alone is legal. -/
theorem legal_add_iff : Legal topology (moment.add operation) ↔
    Legal topology moment ∧ moment.HasRoom operation ∧ operation.RunsOn topology ∧
      operation.qubits.Nodup := by
  constructor
  · rintro ⟨hruns, hnodup, hapart⟩
    rw [operations_add, List.pairwise_append] at hapart
    rw [qubits_add, List.nodup_append'] at hnodup
    refine ⟨⟨fun other hmem => hruns other (by simp [hmem]), hnodup.1, hapart.1⟩,
      ⟨fun qubit hqubit hused => hnodup.2.2 hused hqubit, fun other hmem => ?_⟩,
      hruns operation (by simp), hnodup.2.1⟩
    exact (hapart.2.2 other hmem operation (by simp)).symm
  · rintro ⟨hlegal, hroom, hruns, hnodup⟩
    refine ⟨fun other hmem => ?_, ?_, ?_⟩
    · rcases List.mem_append.mp hmem with hmem | hmem
      · exact hlegal.runs other hmem
      · exact List.mem_singleton.mp hmem ▸ hruns
    · rw [qubits_add, List.nodup_append']
      exact ⟨hlegal.nodup, hnodup, fun qubit hused hqubit => hroom.free qubit hqubit hused⟩
    · rw [operations_add, List.pairwise_append]
      refine ⟨hlegal.apart, by simp, fun other hmem last hlast => ?_⟩
      exact List.mem_singleton.mp hlast ▸ (hroom.apart other hmem).symm

/-- A moment with one more operation has room for another when it had, and the two can run at
once. -/
theorem hasRoom_add_iff {joining : Operation} : (moment.add joining).HasRoom operation ↔
    moment.HasRoom operation ∧ joining.qubits.Disjoint operation.qubits ∧
      operation.Apart joining := by
  constructor
  · rintro ⟨hfree, hapart⟩
    refine ⟨⟨fun qubit hqubit hused => hfree qubit hqubit (by simp [hused]),
      fun other hmem => hapart other (by simp [hmem])⟩, fun qubit hused hqubit => ?_,
      hapart joining (by simp)⟩
    exact hfree qubit hqubit (by simp [hused])
  · rintro ⟨hroom, hdisjoint, hapart⟩
    refine ⟨fun qubit hqubit hused => ?_, fun other hmem => ?_⟩
    · rw [qubits_add, List.mem_append] at hused
      rcases hused with hused | hused
      · exact hroom.free qubit hqubit hused
      · exact hdisjoint hused hqubit
    · rcases List.mem_append.mp hmem with hmem | hmem
      · exact hroom.apart other hmem
      · exact List.mem_singleton.mp hmem ▸ hapart

/-- Some operations of a legal moment, in any order, are a legal moment. -/
theorem Legal.of_subperm {part whole : Moment} (hlegal : Legal topology whole)
    (hpart : part.operations.Subperm whole.operations) : Legal topology part := by
  obtain ⟨kept, hperm, hkept⟩ := hpart
  have hqubits : (kept.flatMap Operation.qubits).Perm part.qubits :=
    hperm.flatMap fun _ _ => List.Perm.refl _
  refine ⟨fun other hmem => hlegal.runs other (hkept.subset (hperm.symm.subset hmem)), ?_, ?_⟩
  · exact hqubits.nodup_iff.mp (hlegal.nodup.sublist (hkept.flatMap Operation.qubits))
  · exact (hlegal.apart.sublist hkept).perm hperm Operation.Apart.symm

/-- What a moment has room for, some of its operations have room for as well. -/
theorem HasRoom.of_subset {part whole : Moment} (hroom : whole.HasRoom operation)
    (hpart : part.operations ⊆ whole.operations) : part.HasRoom operation := by
  refine ⟨fun qubit hqubit hused => hroom.free qubit hqubit ?_,
    fun other hmem => hroom.apart other (hpart hmem)⟩
  obtain ⟨other, hmem, hother⟩ := mem_qubits.mp hused
  exact mem_qubits.mpr ⟨other, hpart hmem, hother⟩

end Moment

/-! ## The decisions of a device -/

namespace Device

variable {durations : GateDurations} {topology : Topology} {moment : Moment} {operation : Operation}

theorem checkOperation_eq_ok_iff {device : Device} :
    device.checkOperation operation = .ok () ↔ operation.RunsOn device.topology :=
  Topology.checkOperation_eq_ok_iff

theorem noOverlap_checkMoment_eq_ok_iff :
    HostChecks.noOverlap.checkMoment moment = .ok () ↔ moment.qubits.Nodup := by
  rw [← Moment.overlap?_eq_none_iff]
  simp only [HostChecks.noOverlap]
  cases moment.overlap? <;> simp

/-- A device accepts the moments that its host accepts, as long as it runs their operations and
these are apart. -/
theorem checkMoment_eq_ok_iff_host {device : Device} : device.checkMoment moment = .ok () ↔
    device.host.checkMoment moment = .ok () ∧
      (∀ operation ∈ moment.operations, operation.RunsOn device.topology) ∧
        moment.operations.Pairwise Operation.Apart := by
  have hoperations : moment.operations.forM device.checkOperation = .ok () ↔
      ∀ operation ∈ moment.operations, operation.RunsOn device.topology := by
    simp only [forM_eq_ok_iff, checkOperation_eq_ok_iff]
  simp only [checkMoment, bind_eq_ok_iff, hoperations, Moment.checkExclusion_eq_ok_iff]
  exact ⟨fun ⟨_, hhost, _, hrest⟩ => ⟨hhost, hrest⟩, fun ⟨hhost, hrest⟩ => ⟨(), hhost, (), hrest⟩⟩

/-- A device whose host has no rules of its own accepts exactly the legal moments. -/
theorem checkMoment_eq_ok_iff (durations : GateDurations) :
    (ofParts durations topology).checkMoment moment = .ok () ↔ moment.Legal topology := by
  rw [checkMoment_eq_ok_iff_host]
  constructor
  · rintro ⟨hhost, hruns, hapart⟩
    exact ⟨hruns, noOverlap_checkMoment_eq_ok_iff.mp hhost, hapart⟩
  · rintro ⟨hruns, hnodup, hapart⟩
    exact ⟨noOverlap_checkMoment_eq_ok_iff.mpr hnodup, hruns, hapart⟩

/-- What a device lets join a moment: the moment is accepted as it is, the host agrees, and the
operation is apart from all operations of the moment. -/
theorem canAdd_eq_true_iff {device : Device} : device.canAdd operation moment = true ↔
    device.checkMoment moment = .ok () ∧ device.host.canAdd operation moment = true ∧
      ∀ other ∈ moment.operations, operation.Apart other := by
  have haccepted : (device.checkMoment moment).isOk = true ↔
      device.checkMoment moment = .ok () := by
    cases device.checkMoment moment <;> simp [Except.isOk, Except.toBool]
  rw [canAdd, Bool.and_eq_true, Bool.and_eq_true, haccepted, Operation.joins_iff, and_assoc]

/-- A device lets an operation join the legal moments that have room for it. -/
theorem canAdd_iff : (ofParts durations topology).canAdd operation moment = true ↔
    moment.Legal topology ∧ moment.HasRoom operation := by
  have hfree : (ofParts durations topology).host.canAdd operation moment = true ↔
      ∀ qubit ∈ operation.qubits, qubit ∉ moment.qubits := by
    rw [← Moment.touches_eq_false_iff]
    simp [ofParts, HostChecks.noOverlap]
  rw [canAdd_eq_true_iff, checkMoment_eq_ok_iff, hfree]
  exact and_congr_right fun _ => ⟨fun h => ⟨h.1, h.2⟩, fun h => ⟨h.free, h.apart⟩⟩

/-- What may join a moment may join some of its operations, in any order. -/
theorem canAdd_of_subperm {part whole : Moment}
    (hpart : part.operations.Subperm whole.operations)
    (haccept : (ofParts durations topology).canAdd operation whole = true) :
    (ofParts durations topology).canAdd operation part = true := by
  obtain ⟨hlegal, hroom⟩ := canAdd_iff.mp haccept
  exact canAdd_iff.mpr ⟨hlegal.of_subperm hpart, hroom.of_subset hpart.subset⟩

/-- The decision that is made while a moment is filled agrees with the one that is made on the
moment as a whole: with one more operation, a moment is accepted exactly when the operation could
join it, is accepted by itself and repeats no operand. -/
theorem checkMoment_add_eq_ok_iff (durations : GateDurations) (topology : Topology)
    (moment : Moment) (operation : Operation) :
    (ofParts durations topology).checkMoment (moment.add operation) = .ok () ↔
      (ofParts durations topology).canAdd operation moment = true ∧
        (ofParts durations topology).checkOperation operation = .ok () ∧
          operation.qubits.Nodup := by
  rw [checkMoment_eq_ok_iff, canAdd_iff, checkOperation_eq_ok_iff, Moment.legal_add_iff, and_assoc]
  rfl

end Device

end GridCircuit
