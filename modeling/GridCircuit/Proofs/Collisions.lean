import GridCircuit.Proofs.Legality
import GridCircuit.Proofs.Renaming
import Mathlib.Data.Set.Function

/-!
# Qubits that are mapped to one site

A qubit map need not be injective: on a row, a position of the line and a grid qubit may stand for
the same site.  Mapping puts every moment together anew, and `Moment.push` compares an operation
with those before it.  So two operations of a moment that meet on a site are found, and the error
names the site.  The operands of one operation are compared with nothing.  Where they meet, mapping
succeeds all the same and leaves a moment that uses the site twice.

## Strategy

An overlap that is reported is traced back through the three loops.  `SharedBy` is what a failing
`Moment.push` sees, a qubit of an operation that an earlier one uses, and `QubitMap.Merges` is the
same seen before the mapping.  `onCircuit_eq_error` then lists all reasons for which a circuit
cannot be mapped.  What remains of a successful mapping is counted in
`overlap?_relabel_eq_none_iff`.
-/

namespace GridCircuit

open Attempt

/-! ## What the errors tell -/

namespace Moment

variable {moment : Moment} {operation : Operation} {operations : List Operation}
  {cause : CircuitError}

/-- Two operations of a list, at different positions, use a qubit. -/
def SharedBy (qubit : Qubit) (operations : List Operation) : Prop :=
  ∃ first second, [first, second].Sublist operations ∧
    qubit ∈ first.qubits ∧ qubit ∈ second.qubits

theorem spread_iff_forall_not_sharedBy :
    Spread operations ↔ ∀ qubit, ¬ SharedBy qubit operations := by
  rw [Spread, List.pairwise_iff_forall_sublist]
  constructor
  · rintro hspread qubit ⟨first, second, hsublist, hfirst, hsecond⟩
    exact hspread hsublist hfirst hsecond
  · intro hshared first second hsublist qubit hfirst hsecond
    exact hshared qubit ⟨first, second, hsublist, hfirst, hsecond⟩

/-- An operation that cannot join a moment shares the reported qubit with it. -/
theorem exists_of_push_eq_error (herror : moment.push operation = .error cause) :
    ∃ qubit ∈ operation.qubits, qubit ∈ moment.qubits ∧ cause = .overlap qubit := by
  unfold push at herror
  cases hfind : operation.qubits.find? moment.actsOn with
  | none => simp [hfind] at herror
  | some qubit =>
      have hcause : CircuitError.overlap qubit = cause := by simpa [hfind] using herror
      exact ⟨qubit, List.mem_of_find?_eq_some hfind, actsOn_iff.mp (List.find?_some hfind),
        hcause.symm⟩

theorem exists_of_foldlM_push_eq_error (herror : operations.foldlM push moment = .error cause) :
    ∃ qubit, cause = .overlap qubit ∧ SharedBy qubit (moment.operations ++ operations) := by
  induction operations generalizing moment with
  | nil => simp [pure, Except.pure] at herror
  | cons operation rest ih =>
      rw [List.foldlM_cons] at herror
      rcases bind_eq_error_iff.mp herror with hpush | ⟨joined, hpush, hrest⟩
      · obtain ⟨qubit, hqubit, hused, rfl⟩ := exists_of_push_eq_error hpush
        obtain ⟨other, hmem, hother⟩ := mem_qubits.mp hused
        have hsublist : [other, operation].Sublist (moment.operations ++ operation :: rest) :=
          (List.singleton_sublist.mpr hmem).append (List.singleton_sublist.mpr List.mem_cons_self)
        exact ⟨qubit, rfl, other, operation, hsublist, hother, hqubit⟩
      · obtain ⟨rfl, -⟩ := push_eq_ok_iff.mp hpush
        simpa using ih hrest

/-- Operations that cannot be put together share the reported qubit. -/
theorem exists_of_ofOperations_eq_error (herror : ofOperations operations = .error cause) :
    ∃ qubit, cause = .overlap qubit ∧ SharedBy qubit operations :=
  exists_of_foldlM_push_eq_error herror

end Moment

namespace QubitMap

variable {map : QubitMap} {circuit : Circuit} {moment : Moment} {operation : Operation}

/-- Two operations of a moment have operands that are mapped to a site. -/
def Merges (map : QubitMap) (moment : Moment) (site : Site) : Prop :=
  ∃ first second, [first, second].Sublist moment.operations ∧
    (∃ qubit ∈ first.qubits, map qubit = some site) ∧
      ∃ qubit ∈ second.qubits, map qubit = some site

theorem rename_eq_error_iff {qubit : Qubit} {error : CompileError} :
    map.rename qubit = .error error ↔ map qubit = none ∧ error = .unmappedQubit qubit := by
  unfold rename
  cases map qubit <;> simp [eq_comm]

/-- A qubit that two mapped operations share is a site that the map merges. -/
theorem sharedBy_relabel_iff (hcovers : ∀ operation ∈ moment.operations, map.Covers operation)
    {qubit : Qubit} : Moment.SharedBy qubit (moment.relabel map.image).operations ↔
      ∃ site, qubit = .grid site ∧ map.Merges moment site := by
  constructor
  · rintro ⟨_, _, hsublist, hfirst, hsecond⟩
    obtain ⟨pair, hpair, heq⟩ := List.sublist_map_iff.mp hsublist
    obtain ⟨first, second, rfl⟩ : ∃ first second, pair = [first, second] :=
      List.length_eq_two.mp (by simpa using (congrArg List.length heq).symm)
    obtain ⟨rfl, rfl⟩ : _ = first.relabel map.image ∧ _ = second.relabel map.image := by
      simpa using heq
    obtain ⟨site, rfl, hin⟩ :=
      (hcovers first (hpair.subset (by simp))).mem_qubits_relabel_iff.mp hfirst
    obtain ⟨_, hsame, hin'⟩ :=
      (hcovers second (hpair.subset (by simp))).mem_qubits_relabel_iff.mp hsecond
    obtain rfl := Qubit.grid.inj hsame
    exact ⟨site, rfl, first, second, hpair, hin, hin'⟩
  · rintro ⟨site, rfl, first, second, hpair, hin, hin'⟩
    refine ⟨first.relabel map.image, second.relabel map.image, hpair.map _, ?_, ?_⟩
    · exact (hcovers first (hpair.subset (by simp))).mem_qubits_relabel_iff.mpr ⟨site, rfl, hin⟩
    · exact (hcovers second (hpair.subset (by simp))).mem_qubits_relabel_iff.mpr ⟨site, rfl, hin'⟩

/-! ## When mapping fails -/

/-- A circuit cannot be mapped for one of two reasons: an occurring qubit has no site, or two
operations of a moment meet on the reported site. -/
theorem onCircuit_eq_error {error : CompileError} (herror : map.onCircuit circuit = .error error) :
    (∃ operation ∈ circuit.operations, ∃ qubit ∈ operation.occurrences,
      map qubit = none ∧ error = .unmappedQubit qubit) ∨
    ∃ site, error = .circuit (.overlap (.grid site)) ∧
      ∃ moment ∈ circuit.moments, map.Merges moment site := by
  rcases bind_eq_error_iff.mp herror with hmoments | ⟨moments, -, hpure⟩
  · obtain ⟨moment, hmoment, hfailed⟩ := exists_of_mapM_eq_error hmoments
    rcases bind_eq_error_iff.mp hfailed with hoperations | ⟨renamed, hrenamed, htogether⟩
    · obtain ⟨operation, hmem, hrename⟩ := exists_of_mapM_eq_error hoperations
      obtain ⟨qubit, hoccurs, hqubit⟩ :=
        exists_of_mapM_eq_error (Operation.mapQubits_eq_error_iff.mp hrename)
      exact .inl ⟨operation, Circuit.mem_operations hmoment hmem, qubit, hoccurs,
        rename_eq_error_iff.mp hqubit⟩
    · obtain ⟨hcovers, rfl⟩ := mapM_mapQubits_eq_ok_iff.mp hrenamed
      cases hjoined : Moment.ofOperations
          (moment.operations.map (Operation.relabel map.image)) with
      | ok joined => simp [hjoined, Except.mapError] at htogether
      | error cause =>
          obtain ⟨qubit, rfl, hshared⟩ := Moment.exists_of_ofOperations_eq_error hjoined
          obtain ⟨site, rfl, hmerges⟩ := (sharedBy_relabel_iff hcovers).mp hshared
          have herror : CompileError.circuit (.overlap (.grid site)) = error := by
            simpa [hjoined, Except.mapError] using htogether
          exact .inr ⟨site, herror.symm, moment, hmoment, hmerges⟩
  · simp [pure, Except.pure] at hpure

/-- Two operations of a moment that meet on a site make mapping fail with an overlap, where all
qubits have a site. -/
theorem exists_overlap_of_merges (hcovers : ∀ operation ∈ circuit.operations, map.Covers operation)
    (hmoment : moment ∈ circuit.moments) {site : Site} (hmerges : map.Merges moment site) :
    ∃ reported, map.onCircuit circuit = .error (.circuit (.overlap (.grid reported))) := by
  obtain ⟨error, herror⟩ : ∃ error, map.onCircuit circuit = .error error := by
    rw [exists_eq_error_iff]
    intro mapped hmapped
    obtain ⟨hmaps, -⟩ := onCircuit_eq_ok_iff.mp hmapped
    have hspread := Moment.spread_relabel_iff.mpr (hmaps.spread moment hmoment)
    have hcoversMoment : ∀ operation ∈ moment.operations, map.Covers operation :=
      Circuit.forall_mem_operations.mp hcovers moment hmoment
    exact Moment.spread_iff_forall_not_sharedBy.mp hspread (.grid site)
      ((sharedBy_relabel_iff hcoversMoment).mpr ⟨site, rfl, hmerges⟩)
  rcases onCircuit_eq_error herror with ⟨operation, hmem, qubit, hoccurs, hnone, -⟩ |
    ⟨reported, rfl, -⟩
  · have hsome := hcovers operation hmem qubit hoccurs
    simp [hnone] at hsome
  · exact ⟨reported, herror⟩

/-! ## What a successful mapping leaves -/

/-- The operands of a mapped operation are distinct when the map is injective on them. -/
theorem Covers.nodup_qubits_relabel_iff (hcovers : map.Covers operation)
    (hnodup : operation.qubits.Nodup) :
    (operation.relabel map.image).qubits.Nodup ↔
      Set.InjOn map {qubit | qubit ∈ operation.qubits} := by
  have himage : ∀ p ∈ operation.qubits, ∀ q ∈ operation.qubits,
      map.image p = map.image q ↔ map p = map q := by
    intro p hp q hq
    obtain ⟨site, hsite⟩ := hcovers.exists_site hp
    obtain ⟨site', hsite'⟩ := hcovers.exists_site hq
    simp [image, hsite, hsite']
  rw [Operation.qubits_relabel, List.nodup_map_iff_inj_on hnodup]
  constructor
  · intro hinj p hp q hq hsame
    exact hinj p hp q hq ((himage p hp q hq).mpr hsame)
  · intro hinj p hp q hq hsame
    exact hinj hp hq ((himage p hp q hq).mp hsame)

/-- A mapped moment whose operations do not meet uses no site twice when the map is injective on the
operands of each operation. -/
theorem overlap?_relabel_eq_none_iff (hdistinct : moment.overlap? = none)
    (hcovers : ∀ operation ∈ moment.operations, map.Covers operation)
    (hspread : Moment.Spread (moment.relabel map.image).operations) :
    (moment.relabel map.image).overlap? = none ↔
      ∀ operation ∈ moment.operations, Set.InjOn map {qubit | qubit ∈ operation.qubits} := by
  obtain ⟨hnodup, -⟩ := Moment.nodup_qubits_iff.mp (Moment.overlap?_eq_none_iff.mp hdistinct)
  rw [Moment.overlap?_eq_none_iff, Moment.nodup_qubits_iff, and_iff_left hspread, Moment.relabel,
    List.forall_mem_map]
  exact forall₂_congr fun operation hmem =>
    (hcovers operation hmem).nodup_qubits_relabel_iff (hnodup operation hmem)

/-- What mapping does with qubits that are mapped to one site, in a circuit that repeats no qubit
within a moment.  An overlap is reported exactly for a site on which two operations of a moment
meet.  Operands of one operation may meet unnoticed: the moments of a mapped circuit use no site
twice when, besides, the map is injective on the operands of each operation. -/
theorem onCircuit_collisions (map : QubitMap) (circuit : Circuit)
    (hdistinct : ∀ moment ∈ circuit.moments, moment.overlap? = none) :
    (∀ site, map.onCircuit circuit = .error (.circuit (.overlap (.grid site))) →
      ∃ moment ∈ circuit.moments, map.Merges moment site) ∧
    ((∀ operation ∈ circuit.operations, map.Covers operation) →
      (∃ moment ∈ circuit.moments, ∃ site, map.Merges moment site) →
        ∃ site, map.onCircuit circuit = .error (.circuit (.overlap (.grid site)))) ∧
    (∀ mapped, map.onCircuit circuit = .ok mapped →
      (∀ moment ∈ circuit.moments, ∀ site, ¬ map.Merges moment site) ∧
      ((∀ moment ∈ mapped.moments, moment.overlap? = none) ↔
        ∀ operation ∈ circuit.operations,
          Set.InjOn map {qubit | qubit ∈ operation.qubits})) := by
  refine ⟨?_, ?_, ?_⟩
  · intro site herror
    rcases onCircuit_eq_error herror with ⟨_, _, _, _, _, hother⟩ | ⟨reported, hsame, hmerges⟩
    · cases hother
    · cases hsame
      exact hmerges
  · rintro hcovers ⟨moment, hmoment, site, hmerges⟩
    exact exists_overlap_of_merges hcovers hmoment hmerges
  · intro mapped hmapped
    obtain ⟨hmaps, hrelabel⟩ := onCircuit_eq_ok_iff.mp hmapped
    constructor
    · intro moment hmoment site hmerges
      obtain ⟨reported, herror⟩ := exists_overlap_of_merges hmaps.covers hmoment hmerges
      simp [hmapped] at herror
    · have hmoment : ∀ moment ∈ circuit.moments, (moment.relabel map.image).overlap? = none ↔
          ∀ operation ∈ moment.operations, Set.InjOn map {qubit | qubit ∈ operation.qubits} := by
        intro moment hmem
        apply overlap?_relabel_eq_none_iff (hdistinct moment hmem)
        · intro operation hoperation
          exact hmaps.covers operation (List.mem_flatMap.mpr ⟨moment, hmem, hoperation⟩)
        · exact Moment.spread_relabel_iff.mpr (hmaps.spread moment hmem)
      simp only [hrelabel, Circuit.relabel, Circuit.operations, List.forall_mem_map,
        List.forall_mem_flatMap]
      exact forall₂_congr hmoment

/-- An interaction of a position on the line with the site that stands for the position on the first
row. -/
def doubledPair : Circuit :=
  ⟨"c", [⟨[.plain (.interaction 1.0) [.line 0, .grid ⟨0, 0⟩]]⟩]⟩

/-- Mapping `doubledPair` onto the first row gives both operands one site, and is not refused. -/
theorem doubledPair_collides :
    (∀ moment ∈ doubledPair.moments, moment.overlap? = none) ∧
      ∃ mapped, (lineOntoRow 0).onCircuit doubledPair = .ok mapped ∧
        ∃ moment ∈ mapped.moments, moment.overlap? = some (.grid ⟨0, 0⟩) := by
  refine ⟨by decide, _, rfl, _, List.mem_singleton.mpr rfl, by decide⟩

/-- Two phases that are sent to one site are refused, the operands of `doubledPair` are not. -/
theorem collisions_of_phases_and_doubledPair :
    (∃ site, QubitMap.onCircuit (fun _ => some ⟨0, 0⟩)
      ⟨"c", [⟨[.plain (.phase 0.5 false) [.grid ⟨0, 0⟩],
        .plain (.phase 0.5 false) [.grid ⟨0, 1⟩]]⟩]⟩ = .error (.circuit (.overlap (.grid site)))) ∧
      ¬ ∀ operation ∈ doubledPair.operations,
        Set.InjOn (lineOntoRow 0) {qubit | qubit ∈ operation.qubits} := by
  constructor
  · apply (onCircuit_collisions (fun _ => some ⟨0, 0⟩) _ (by decide)).2.1
    · intro operation _ qubit _
      rfl
    · exact ⟨_, List.mem_singleton.mpr rfl, ⟨0, 0⟩, _, _, List.Sublist.refl _,
        ⟨.grid ⟨0, 0⟩, by decide, rfl⟩, ⟨.grid ⟨0, 1⟩, by decide, rfl⟩⟩
  · have hmapped := (onCircuit_collisions (lineOntoRow 0) doubledPair (by decide)).2.2 _ rfl
    rw [← hmapped.2]
    decide

end QubitMap

end GridCircuit
