import GridCircuit.Proofs.Packing
import Mathlib.Data.List.Forall2

/-!
# Where packing puts operations

`landings` records, for operations that are placed one after the other, the index of the moment
that each is put into, as the placement itself reports it.  Moments are never moved or removed
afterwards, so these indices are those of the arrangement (`timetable_arrange_perm`).

The main statement is that packing does not delay a circuit whose moments are legal.  The invariant
is `Confined`: while the operations of the moment with some index are placed, the arrangement ends
before this index, or at it with a moment that holds only operations of that one moment.  A part of
a legal moment accepts whatever else the moment holds, so the search never goes past it.
-/

namespace GridCircuit

namespace Circuit

variable {canPlace : Operation → Moment → Bool} {operation : Operation}

/-- The operations of some moments, in order, each with the index of its moment. -/
def timetable (moments : List Moment) : List (Operation × Nat) :=
  moments.zipIdx.flatMap fun entry => entry.1.operations.map fun operation => (operation, entry.2)

/-- Operations that are placed in order among some moments, each with the index that it is placed
at. -/
def landingsFrom (canPlace : Operation → Moment → Bool) (moments : List Moment) :
    List Operation → List (Operation × Nat)
  | [] => []
  | operation :: rest =>
    let (index, placed) := placeEarliest canPlace operation moments
    (operation, index) :: landingsFrom canPlace placed rest

/-- Operations that are placed in order, from no moments at all, each with the index that it is
placed at. -/
def landings (canPlace : Operation → Moment → Bool) (operations : List Operation) :
    List (Operation × Nat) :=
  landingsFrom canPlace [] operations

/-! ## Timetables -/

theorem timetable_concat (moments : List Moment) (moment : Moment) :
    timetable (moments ++ [moment]) =
      timetable moments ++ moment.operations.map fun operation => (operation, moments.length) := by
  simp [timetable, List.zipIdx_append]

/-- The operation that joins a moment is listed with the index of that moment, and all others stay
as they were. -/
theorem timetable_add_perm (before after : List Moment) (target : Moment) :
    (timetable (before ++ target.add operation :: after)).Perm
      (timetable (before ++ target :: after) ++ [(operation, before.length)]) := by
  simp only [timetable, List.zipIdx_append, List.zipIdx_cons, List.flatMap_append,
    List.flatMap_cons, Moment.operations_add, List.map_append, List.map_singleton,
    List.append_assoc, Nat.zero_add]
  exact List.Perm.append_left _ (List.Perm.append_left _ List.perm_append_comm)

/-! ## Landings -/

theorem landingsFrom_concat (moments : List Moment) (operations : List Operation) :
    landingsFrom canPlace moments (operations ++ [operation]) =
      landingsFrom canPlace moments operations ++
        [(operation, (placeEarliest canPlace operation (operations.foldl
          (fun moments operation => (placeEarliest canPlace operation moments).2) moments)).1)] := by
  induction operations generalizing moments with
  | nil => rfl
  | cons first rest ih => simp [landingsFrom, ih]

@[simp] theorem landings_concat (operations : List Operation) :
    landings canPlace (operations ++ [operation]) =
      landings canPlace operations ++
        [(operation, (placeEarliest canPlace operation (arrange canPlace operations)).1)] :=
  landingsFrom_concat [] operations

/-- An arrangement holds every operation in the moment that it was placed in. -/
theorem timetable_arrange_perm (canPlace : Operation → Moment → Bool)
    (operations : List Operation) :
    (timetable (arrange canPlace operations)).Perm (landings canPlace operations) := by
  induction operations using List.reverseRecOn with
  | nil => rfl
  | append_singleton operations operation ih =>
      obtain ⟨before, target, after, slot⟩ :=
        exists_slot canPlace operation (arrange canPlace operations)
      have hmoments : (timetable (before ++ target :: after)).Perm
          (timetable (arrange canPlace operations)) := by
        rcases slot.origin with ⟨heq, -⟩ | ⟨heq, rfl, rfl⟩
        · rw [heq]
        · rw [heq, timetable_concat]
          simp
      rw [arrange_concat, landings_concat, slot.placeEarliest_eq]
      exact (timetable_add_perm before after target).trans ((hmoments.trans ih).append_right _)

/-! ## Placing the operations of one moment -/

/-- Moments that end before an index, or at it with a moment of some of the given operations. -/
def Confined (index : Nat) (operations : List Operation) (moments : List Moment) : Prop :=
  moments.length ≤ index ∨
    ∃ before last, moments = before ++ [last] ∧ before.length = index ∧
      last.operations.Sublist operations

theorem Confined.length_le {index : Nat} {operations : List Operation} {moments : List Moment}
    (hconfined : Confined index operations moments) : moments.length ≤ index + 1 := by
  rcases hconfined with hshort | ⟨before, last, rfl, rfl, -⟩
  · omega
  · simp

theorem PassedOver.of_append_right {before after : List Moment}
    (hpassed : PassedOver canPlace operation (before ++ after)) :
    PassedOver canPlace operation after := by
  induction before with
  | nil => exact hpassed
  | cons moment rest ih => exact ih hpassed.2

/-- An operation that fits into every part of what was placed before it is placed at the index at
the latest. -/
theorem Confined.place {index : Nat} {done : List Operation} {moments : List Moment}
    (hconfined : Confined index done moments)
    (hfits : ∀ part : Moment, part.operations.Sublist done →
      canPlace operation part = true ∧ part.touches operation.qubits = false) :
    (placeEarliest canPlace operation moments).1 ≤ index ∧
      Confined index (done ++ [operation]) (placeEarliest canPlace operation moments).2 := by
  obtain ⟨before, target, after, slot⟩ := exists_slot canPlace operation moments
  rw [slot.placeEarliest_eq]
  rcases hconfined with hshort | ⟨init, last, rfl, rfl, hlast⟩
  · -- no moment stands at the index yet; at most the operation opens it
    rcases slot.origin with ⟨rfl, -⟩ | ⟨rfl, rfl, rfl⟩
    · rw [List.length_append, List.length_cons] at hshort
      exact ⟨by omega, Or.inl (by simpa using hshort)⟩
    · refine ⟨hshort, ?_⟩
      rcases Nat.lt_or_eq_of_le hshort with hlt | heq
      · exact Or.inl (by simpa using Nat.succ_le_of_lt hlt)
      · exact Or.inr ⟨moments, _, rfl, heq, by simp⟩
  · rcases slot.origin with ⟨hsplit, -⟩ | ⟨rfl, -, -⟩
    · -- the operation joins the moment at the index or one before it
      rcases concat_eq_append_cons_iff.mp hsplit with ⟨rfl, rfl, rfl⟩ | ⟨middle, rfl, rfl⟩
      · exact ⟨Nat.le_refl _, Or.inr ⟨before, _, rfl, rfl, hlast.append (List.Sublist.refl _)⟩⟩
      · refine ⟨by simp, Or.inr ⟨before ++ target.add operation :: middle, last, by simp, by simp,
          hlast.trans (List.sublist_append_left _ _)⟩⟩
    · -- the search does not go past the last moment, which has a place
      obtain ⟨haccept, hfree⟩ := hfits last hlast
      obtain ⟨hpassed, -⟩ := slot.passed.of_append_right
      simp [haccept, hfree] at hpassed

/-- A moment every part of which can be filled in its own order. -/
def Loose (canPlace : Operation → Moment → Bool) (moment : Moment) : Prop :=
  ∀ part : Moment, part.operations.Sublist moment.operations → Fillable canPlace part

/-- An operation of a loose moment fits into every part of what comes before it. -/
theorem Loose.fits {done rest : List Operation} (hloose : Loose canPlace ⟨done ++ operation :: rest⟩)
    {part : Moment} (hpart : part.operations.Sublist done) :
    canPlace operation part = true ∧ part.touches operation.qubits = false := by
  refine hloose (part.add operation) ?_ part.operations operation [] rfl
  rw [List.append_cons]
  exact (hpart.append (List.Sublist.refl [operation])).trans (List.sublist_append_left _ rest)

theorem Loose.of_sublist {part whole : Moment} (hloose : Loose canPlace whole)
    (hpart : part.operations.Sublist whole.operations) : Loose canPlace part :=
  fun smaller hsmaller => hloose smaller (hsmaller.trans hpart)

/-- An operation with an index is listed at no later index than in another list. -/
def NotAfter (landed original : Operation × Nat) : Prop :=
  landed.1 = original.1 ∧ landed.2 ≤ original.2

/-- The operations of a loose moment with some index are placed at this index at the latest, once
all moments before it are done. -/
theorem landings_append_moment {index : Nat} {earlier filled : List Operation}
    {original : List (Operation × Nat)} (hloose : Loose canPlace ⟨filled⟩)
    (hearlier : (arrange canPlace earlier).length ≤ index)
    (hlanded : List.Forall₂ NotAfter (landings canPlace earlier) original) :
    Confined index filled (arrange canPlace (earlier ++ filled)) ∧
      List.Forall₂ NotAfter (landings canPlace (earlier ++ filled))
        (original ++ filled.map fun operation => (operation, index)) := by
  induction filled using List.reverseRecOn with
  | nil => exact ⟨Or.inl (by simpa using hearlier), by simpa using hlanded⟩
  | append_singleton done operation ih =>
      have hpart : done.Sublist (done ++ [operation]) := List.sublist_append_left _ _
      obtain ⟨hconfined, hdone⟩ := ih (hloose.of_sublist hpart)
      -- whatever of the moment stands at the index, the operation fits into it
      obtain ⟨hindex, hnext⟩ := hconfined.place fun part hpart => hloose.fits hpart
      rw [← List.append_assoc, arrange_concat, landings_concat, List.map_append,
        ← List.append_assoc]
      refine ⟨hnext, List.rel_append hdone ?_⟩
      exact List.Forall₂.cons ⟨rfl, hindex⟩ List.Forall₂.nil

/-! ## Placing all operations -/

/-- The operations of loose moments are arranged into at most as many moments, and none of them
comes later. -/
theorem arrange_not_after {moments : List Moment}
    (hloose : ∀ moment ∈ moments, Loose canPlace moment) :
    (arrange canPlace (moments.flatMap Moment.operations)).length ≤ moments.length ∧
      List.Forall₂ NotAfter (landings canPlace (moments.flatMap Moment.operations))
        (timetable moments) := by
  induction moments using List.reverseRecOn with
  | nil => exact ⟨Nat.le_refl _, List.Forall₂.nil⟩
  | append_singleton moments moment ih =>
      obtain ⟨hlength, hlanded⟩ := ih fun other hmem => hloose other (List.mem_append_left _ hmem)
      obtain ⟨hconfined, hnext⟩ :=
        landings_append_moment (hloose moment (by simp)) hlength hlanded
      rw [List.flatMap_append, List.flatMap_singleton, timetable_concat]
      exact ⟨by simpa using hconfined.length_le, hnext⟩

end Circuit

/-! ## Packing a legal circuit -/

namespace Device

open Circuit

variable {durations : GateDurations} {topology : Topology}

/-- A legal moment can be filled in its own order, and so can every part of it. -/
theorem loose_of_legal {moment : Moment} (hlegal : moment.Legal topology) :
    Loose (ofParts durations topology).canAdd moment :=
  fun _ hpart => fillable_of_legal (hlegal.of_subperm hpart.subperm)

/-- Packing does not delay a circuit whose moments are accepted one by one: it succeeds, every
operation ends in a moment that is no later than the one it came from, and the circuit becomes no
deeper. -/
theorem pack_never_delays (durations : GateDurations) (topology : Topology) (circuit : Circuit)
    (hmoments : ∀ moment ∈ circuit.moments,
      (ofParts durations topology).checkMoment moment = .ok ()) :
    ∃ packed, (ofParts durations topology).pack circuit = .ok packed ∧
      (timetable packed.moments).Perm
        (landings (ofParts durations topology).canAdd circuit.operations) ∧
      List.Forall₂ NotAfter
        (landings (ofParts durations topology).canAdd circuit.operations)
        (timetable circuit.moments) ∧
      packed.depth ≤ circuit.depth := by
  have hlegal : ∀ moment ∈ circuit.moments, moment.Legal topology :=
    fun moment hmem => (checkMoment_eq_ok_iff durations).mp (hmoments moment hmem)
  have hruns : ∀ operation ∈ circuit.operations, operation.RunsOn topology := by
    intro operation hmem
    obtain ⟨moment, hmoment, hmem⟩ := List.mem_flatMap.mp hmem
    exact (hlegal moment hmoment).runs operation hmem
  have hloose : ∀ moment ∈ circuit.moments, Loose (ofParts durations topology).canAdd moment :=
    fun moment hmem => loose_of_legal (hlegal moment hmem)
  obtain ⟨hdepth, hlanded⟩ := arrange_not_after hloose
  exact ⟨_, pack_eq_ok_iff.mpr ⟨hruns, rfl⟩, timetable_arrange_perm _ _, hlanded, hdepth⟩

end Device

namespace Circuit

/-- A circuit in which a phase and a measurement can move to an earlier moment, and an interaction
cannot. -/
def staggeredProbe : Circuit :=
  ⟨"staggered", [
    ⟨[.plain (.interaction 1.0) [.grid ⟨0, 1⟩, .grid ⟨0, 2⟩]]⟩,
    ⟨[.plain (.interaction 1.0) [.grid ⟨1, 1⟩, .grid ⟨1, 2⟩],
      .plain (.phase 0.5 false) [.grid ⟨0, 5⟩]]⟩,
    ⟨[.plain (.measure "m") [.grid ⟨0, 1⟩]]⟩]⟩

set_option maxRecDepth 20000 in
theorem staggeredProbe_not_delayed :
    (∀ moment ∈ staggeredProbe.moments, Device.foxtail.checkMoment moment = .ok ()) ∧
      (landings Device.foxtail.canAdd staggeredProbe.operations).map Prod.snd = [0, 1, 0, 1] ∧
      ∃ packed, Device.foxtail.pack staggeredProbe = .ok packed ∧
        (timetable packed.moments).Perm
          (landings Device.foxtail.canAdd staggeredProbe.operations) ∧
        packed.depth ≤ 3 := by
  have hmoments :
      ∀ moment ∈ staggeredProbe.moments, Device.foxtail.checkMoment moment = .ok () := by
    simp only [staggeredProbe, List.forall_mem_cons]
    exact ⟨rfl, rfl, rfl, by simp⟩
  obtain ⟨packed, hpack, hperm, -, hdepth⟩ :=
    Device.pack_never_delays .foxtail (.rectangle 2 11) staggeredProbe hmoments
  exact ⟨hmoments, rfl, packed, hpack, hperm, hdepth⟩

end Circuit

end GridCircuit
