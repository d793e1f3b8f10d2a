import GridCircuit.Proofs.Packing
import Mathlib.Data.List.Forall2
import Mathlib.Logic.Relation

/-!
# Packing and the order of independent operations

Two consecutive operations that share no qubit and do not conflict may change places: packing then
gives the same moments, except for the order inside of each.

The runs before and after such a swap are compared by `Alike`, which forgets this order.  Placing
the two operations in either order gives alike moments (`Unrelated.alike_place_place`), and a rule
that does not look at the order inside a moment puts a further operation into corresponding moments
(`Alike.place`), so the runs stay alike to the end.
-/

namespace GridCircuit

namespace Circuit

variable {canPlace : Operation → Moment → Bool} {a b operation : Operation}
  {moments : List Moment}

/-! ## Moments up to the order inside of each -/

/-- The same number of moments, each with the same operations as its counterpart in some order. -/
def Alike (first second : List Moment) : Prop :=
  List.Forall₂ (fun x y : Moment => x.operations.Perm y.operations) first second

theorem Alike.refl (moments : List Moment) : Alike moments moments :=
  List.forall₂_same.mpr fun _ _ => List.Perm.refl _

theorem Alike.trans {first second third : List Moment} (hfirst : Alike first second)
    (hsecond : Alike second third) : Alike first third := by
  induction hfirst generalizing third with
  | nil => exact hsecond
  | cons hmoment _ ih =>
      obtain ⟨_, _, hnext, hrest, rfl⟩ := List.forall₂_cons_left_iff.mp hsecond
      exact List.Forall₂.cons (hmoment.trans hnext) (ih hrest)

theorem Alike.operations_perm {first second : List Moment} (halike : Alike first second) :
    (first.flatMap Moment.operations).Perm (second.flatMap Moment.operations) := by
  induction halike with
  | nil => exact List.Perm.refl _
  | cons hmoment _ ih => exact hmoment.append ih

/-! ## Which qubits moments use -/

theorem exists_touches_iff {qubits : List Qubit} :
    (∃ moment ∈ moments, moment.touches qubits = true) ↔
      ∃ other ∈ moments.flatMap Moment.operations, ∃ qubit ∈ qubits, qubit ∈ other.qubits := by
  simp only [Moment.touches_iff, Moment.mem_qubits, List.mem_flatMap]
  grind

theorem exists_touches_congr {first second : List Moment} (qubits : List Qubit)
    (hperm : (first.flatMap Moment.operations).Perm (second.flatMap Moment.operations)) :
    (∃ moment ∈ first, moment.touches qubits = true) ↔
      ∃ moment ∈ second, moment.touches qubits = true := by
  simp only [exists_touches_iff, hperm.mem_iff]

/-- Moments that have grown by an operation use no further qubit of one that shares none with it. -/
theorem exists_touches_grown_iff {grown : List Moment} (hdisjoint : a.qubits.Disjoint b.qubits)
    (hgrown : (grown.flatMap Moment.operations).Perm
      (moments.flatMap Moment.operations ++ [a])) :
    (∃ moment ∈ grown, moment.touches b.qubits = true) ↔
      ∃ moment ∈ moments, moment.touches b.qubits = true := by
  simp only [exists_touches_iff, hgrown.mem_iff, List.mem_append, List.mem_singleton]
  constructor
  · rintro ⟨other, hmem | rfl, qubit, hqubit, hused⟩
    · exact ⟨other, hmem, qubit, hqubit, hused⟩
    · exact (hdisjoint hused hqubit).elim
  · rintro ⟨other, hmem, hused⟩
    exact ⟨other, Or.inl hmem, hused⟩

/-! ## One step of the search -/

/-- The search goes past a moment that others follow: it refuses the operation, or it or one that
follows uses a qubit of the operation. -/
def Skipped (canPlace : Operation → Moment → Bool) (operation : Operation) (moment : Moment)
    (rest : List Moment) : Prop :=
  (∃ later ∈ moment :: rest, later.touches operation.qubits = true) ∨
    canPlace operation moment = false

theorem placeEarliest_of_skipped {moment : Moment} {rest : List Moment}
    (hskipped : Skipped canPlace operation moment rest) :
    (placeEarliest canPlace operation (moment :: rest)).2 =
      moment :: (placeEarliest canPlace operation rest).2 := by
  rw [placeEarliest_cons_of_passed hskipped]

theorem placeEarliest_of_not_skipped {moment : Moment} {rest : List Moment}
    (hskipped : ¬ Skipped canPlace operation moment rest) :
    (placeEarliest canPlace operation (moment :: rest)).2 = moment.add operation :: rest := by
  obtain ⟨hfree, haccept⟩ := not_or.mp hskipped
  rw [placeEarliest_of_slot_nil (fun later hlater => ?_) (Bool.not_eq_false _ ▸ haccept)]
  exact Bool.eq_false_iff.mpr fun htouches => hfree ⟨later, hlater, htouches⟩

/-- Whether a moment is skipped depends on the qubits in use from there on and on its own
acceptance. -/
theorem skipped_congr {x y : Moment} {xs ys : List Moment}
    (htouched : (∃ later ∈ x :: xs, later.touches operation.qubits = true) ↔
      ∃ later ∈ y :: ys, later.touches operation.qubits = true)
    (haccept : canPlace operation x = canPlace operation y) :
    Skipped canPlace operation x xs ↔ Skipped canPlace operation y ys := by
  rw [Skipped, Skipped, htouched, haccept]

/-- A rule that does not look at the order inside a moment. -/
def OrderFree (canPlace : Operation → Moment → Bool) : Prop :=
  ∀ operation (x y : Moment), x.operations.Perm y.operations →
    canPlace operation x = canPlace operation y

/-- An operation joins corresponding moments of two lists that are alike. -/
theorem Alike.place (horder : OrderFree canPlace) {first second : List Moment}
    (halike : Alike first second) :
    Alike (placeEarliest canPlace operation first).2
      (placeEarliest canPlace operation second).2 := by
  induction halike with
  | nil => exact Alike.refl _
  | @cons x y xs ys hmoment hrest ih =>
      have halike : Alike (x :: xs) (y :: ys) := List.Forall₂.cons hmoment hrest
      have hskipped : Skipped canPlace operation x xs ↔ Skipped canPlace operation y ys :=
        skipped_congr (exists_touches_congr _ halike.operations_perm)
          (horder operation x y hmoment)
      by_cases hx : Skipped canPlace operation x xs
      · rw [placeEarliest_of_skipped hx, placeEarliest_of_skipped (hskipped.mp hx)]
        exact List.Forall₂.cons hmoment ih
      · rw [placeEarliest_of_not_skipped hx,
          placeEarliest_of_not_skipped (mt hskipped.mpr hx)]
        exact List.Forall₂.cons (hmoment.append_right _) hrest

/-! ## Two operations in either order -/

/-- Two operations of which neither changes whether the other has a place. -/
structure Unrelated (canPlace : Operation → Moment → Bool) (a b : Operation) : Prop where
  disjoint : a.qubits.Disjoint b.qubits
  /-- Either may open a moment. -/
  opens : canPlace a .empty = true ∧ canPlace b .empty = true
  /-- A moment that the first has joined accepts the second as it did before. -/
  first : ∀ moment, canPlace a moment = true → canPlace b (moment.add a) = canPlace b moment
  second : ∀ moment, canPlace b moment = true → canPlace a (moment.add b) = canPlace a moment

theorem Unrelated.symm (hunrelated : Unrelated canPlace a b) : Unrelated canPlace b a :=
  ⟨List.disjoint_symm hunrelated.disjoint, hunrelated.opens.symm, hunrelated.second,
    hunrelated.first⟩

section

variable (hunrelated : Unrelated canPlace a b) {moment : Moment} {rest : List Moment}
include hunrelated

/-- The second operation is skipped by the same moments before and after the first is placed among
those that follow. -/
theorem Unrelated.skipped_place_iff :
    Skipped canPlace b moment (placeEarliest canPlace a rest).2 ↔
      Skipped canPlace b moment rest := by
  refine skipped_congr (exists_touches_grown_iff hunrelated.disjoint ?_) rfl
  rw [List.flatMap_cons, List.flatMap_cons, List.append_assoc]
  exact (operations_placeEarliest_perm canPlace a rest).append_left _

/-- The second operation is skipped by a moment that the first has joined as it was before. -/
theorem Unrelated.skipped_add_iff (haccept : canPlace a moment = true) :
    Skipped canPlace b (moment.add a) rest ↔ Skipped canPlace b moment rest := by
  refine skipped_congr (exists_touches_grown_iff hunrelated.disjoint ?_)
    (hunrelated.first moment haccept)
  rw [List.flatMap_cons, List.flatMap_cons, Moment.operations_add, List.append_assoc,
    List.append_assoc]
  exact List.perm_append_comm.append_left _

/-- Where the first operation joins a moment and the second goes past it, the order in which they
are placed does not matter. -/
theorem Unrelated.place_place_eq (ha : ¬ Skipped canPlace a moment rest)
    (hb : Skipped canPlace b moment rest) :
    (placeEarliest canPlace b (placeEarliest canPlace a (moment :: rest)).2).2 =
      (placeEarliest canPlace a (placeEarliest canPlace b (moment :: rest)).2).2 := by
  have haccept : canPlace a moment = true := by
    simpa using (not_or.mp ha).2
  rw [placeEarliest_of_not_skipped ha, placeEarliest_of_skipped hb,
    placeEarliest_of_skipped ((hunrelated.skipped_add_iff haccept).mpr hb),
    placeEarliest_of_not_skipped (mt hunrelated.symm.skipped_place_iff.mp ha)]

/-- Where both operations join a moment, only the order inside the moment differs. -/
theorem Unrelated.alike_of_not_skipped (ha : ¬ Skipped canPlace a moment rest)
    (hb : ¬ Skipped canPlace b moment rest) :
    Alike (placeEarliest canPlace b (placeEarliest canPlace a (moment :: rest)).2).2
      (placeEarliest canPlace a (placeEarliest canPlace b (moment :: rest)).2).2 := by
  have hacceptA : canPlace a moment = true := by simpa using (not_or.mp ha).2
  have hacceptB : canPlace b moment = true := by simpa using (not_or.mp hb).2
  rw [placeEarliest_of_not_skipped ha, placeEarliest_of_not_skipped hb,
    placeEarliest_of_not_skipped (mt (hunrelated.skipped_add_iff hacceptA).mp hb),
    placeEarliest_of_not_skipped (mt (hunrelated.symm.skipped_add_iff hacceptB).mp ha)]
  refine List.Forall₂.cons ?_ (Alike.refl rest)
  simp only [Moment.operations_add, List.append_assoc]
  exact List.perm_append_comm.append_left _

end

/-- Opening a moment is joining an empty one. -/
theorem placeEarliest_nil_eq (hopens : ¬ Skipped canPlace operation .empty []) :
    (placeEarliest canPlace operation []).2 = (placeEarliest canPlace operation [.empty]).2 :=
  (placeEarliest_of_not_skipped hopens).symm

/-- Two unrelated operations end in the same moments, whichever is placed first. -/
theorem Unrelated.alike_place_place (hunrelated : Unrelated canPlace a b)
    (moments : List Moment) :
    Alike (placeEarliest canPlace b (placeEarliest canPlace a moments).2).2
      (placeEarliest canPlace a (placeEarliest canPlace b moments).2).2 := by
  induction moments with
  | nil =>
      -- either operation opens a moment that the other then joins
      have ha : ¬ Skipped canPlace a .empty [] := by simp [Skipped, hunrelated.opens.1]
      have hb : ¬ Skipped canPlace b .empty [] := by simp [Skipped, hunrelated.opens.2]
      rw [placeEarliest_nil_eq ha, placeEarliest_nil_eq hb]
      exact hunrelated.alike_of_not_skipped ha hb
  | cons moment rest ih =>
      -- only where both go past the moment do the moments behind it matter
      by_cases ha : Skipped canPlace a moment rest
      · by_cases hb : Skipped canPlace b moment rest
        · rw [placeEarliest_of_skipped ha, placeEarliest_of_skipped hb,
            placeEarliest_of_skipped (hunrelated.skipped_place_iff.mpr hb),
            placeEarliest_of_skipped (hunrelated.symm.skipped_place_iff.mpr ha)]
          exact List.Forall₂.cons (List.Perm.refl _) ih
        · rw [hunrelated.symm.place_place_eq hb ha]
          exact Alike.refl _
      · by_cases hb : Skipped canPlace b moment rest
        · rw [hunrelated.place_place_eq ha hb]
          exact Alike.refl _
        · exact hunrelated.alike_of_not_skipped ha hb

/-! ## Reordered operations -/

/-- Two consecutive operations that share no qubit and do not conflict change places. -/
inductive Exchange : List Operation → List Operation → Prop
  | swap (before after : List Operation) {a b : Operation}
      (hdisjoint : a.qubits.Disjoint b.qubits) (hconflicts : a.conflicts b = false) :
      Exchange (before ++ a :: b :: after) (before ++ b :: a :: after)

theorem Exchange.perm {first second : List Operation} (hexchange : Exchange first second) :
    first.Perm second := by
  cases hexchange with
  | swap before after => exact (List.Perm.swap _ _ _).append_left before

theorem perm_of_exchanges {first second : List Operation}
    (hreordered : Relation.ReflTransGen Exchange first second) : first.Perm second := by
  induction hreordered with
  | refl => exact List.Perm.refl _
  | tail _ hexchange ih => exact ih.trans hexchange.perm

theorem Alike.foldl_place (horder : OrderFree canPlace) (operations : List Operation)
    {first second : List Moment} (halike : Alike first second) :
    Alike
      (operations.foldl (fun moments operation => (placeEarliest canPlace operation moments).2)
        first)
      (operations.foldl (fun moments operation => (placeEarliest canPlace operation moments).2)
        second) := by
  induction operations generalizing first second with
  | nil => exact halike
  | cons operation rest ih => exact ih (halike.place horder)

/-- Two consecutive operations that are unrelated may be arranged in either order. -/
theorem Unrelated.alike_arrange (horder : OrderFree canPlace)
    (hunrelated : Unrelated canPlace a b) (before after : List Operation) :
    Alike (arrange canPlace (before ++ a :: b :: after))
      (arrange canPlace (before ++ b :: a :: after)) := by
  unfold arrange
  rw [List.foldl_append, List.foldl_append]
  exact Alike.foldl_place horder after (hunrelated.alike_place_place _)

end Circuit

/-! ## Packing in another order -/

namespace Device

open Circuit

variable {durations : GateDurations} {topology : Topology}

theorem orderFree_canAdd (durations : GateDurations) (topology : Topology) :
    OrderFree (ofParts durations topology).canAdd := by
  intro operation x y hperm
  rw [Bool.eq_iff_iff]
  exact ⟨canAdd_of_subperm hperm.symm.subperm, canAdd_of_subperm hperm.subperm⟩

/-- An operation that has joined a moment does not stand in the way of one that can run at once. -/
theorem canAdd_add {a b : Operation} {moment : Moment}
    (ha : a.RunsOn topology ∧ a.qubits.Nodup) (hdisjoint : a.qubits.Disjoint b.qubits)
    (hapart : b.Apart a) (haccept : (ofParts durations topology).canAdd a moment = true) :
    (ofParts durations topology).canAdd b (moment.add a) =
      (ofParts durations topology).canAdd b moment := by
  obtain ⟨hlegal, hroom⟩ := canAdd_iff.mp haccept
  have hgrown : (moment.add a).Legal topology := Moment.legal_add_iff.mpr ⟨hlegal, hroom, ha⟩
  rw [Bool.eq_iff_iff, canAdd_iff, canAdd_iff, Moment.hasRoom_add_iff]
  exact ⟨fun h => ⟨hlegal, h.2.1⟩, fun h => ⟨hgrown, h.2, hdisjoint, hapart⟩⟩

theorem unrelated_canAdd (durations : GateDurations) {a b : Operation}
    (ha : a.RunsOn topology ∧ a.qubits.Nodup) (hb : b.RunsOn topology ∧ b.qubits.Nodup)
    (hdisjoint : a.qubits.Disjoint b.qubits) (hapart : a.Apart b) :
    Unrelated (ofParts durations topology).canAdd a b where
  disjoint := hdisjoint
  opens := ⟨canAdd_iff.mpr ⟨Moment.legal_empty, Moment.hasRoom_empty⟩,
    canAdd_iff.mpr ⟨Moment.legal_empty, Moment.hasRoom_empty⟩⟩
  first _ := canAdd_add ha hdisjoint hapart.symm
  second _ := canAdd_add hb (List.disjoint_symm hdisjoint) hapart

theorem alike_arrange_of_exchange (durations : GateDurations) {first second : List Operation}
    (hruns : ∀ operation ∈ first, operation.RunsOn topology ∧ operation.qubits.Nodup)
    (hexchange : Exchange first second) :
    Alike (arrange (ofParts durations topology).canAdd first)
      (arrange (ofParts durations topology).canAdd second) := by
  cases hexchange with
  | @swap before after a b hdisjoint hconflicts =>
      refine Unrelated.alike_arrange (orderFree_canAdd durations topology) ?_ before after
      exact unrelated_canAdd durations (hruns a (by simp)) (hruns b (by simp)) hdisjoint
        (Operation.conflicts_eq_false_iff.mp hconflicts)

theorem alike_arrange_of_exchanges (durations : GateDurations) {first second : List Operation}
    (hruns : ∀ operation ∈ first, operation.RunsOn topology ∧ operation.qubits.Nodup)
    (hreordered : Relation.ReflTransGen Exchange first second) :
    Alike (arrange (ofParts durations topology).canAdd first)
      (arrange (ofParts durations topology).canAdd second) := by
  induction hreordered with
  | refl => exact Alike.refl _
  | @tail middle last hmiddle hexchange ih =>
      have hmiddleRuns : ∀ operation ∈ middle,
          operation.RunsOn topology ∧ operation.qubits.Nodup :=
        fun operation hmem => hruns operation ((perm_of_exchanges hmiddle).mem_iff.mpr hmem)
      exact ih.trans (alike_arrange_of_exchange durations hmiddleRuns hexchange)

/-- Packing does not depend on the order of independent operations.  For two circuits whose
operations repeat no operand and are the same up to exchanges of consecutive operations that share
no qubit and do not conflict, packing succeeds on both or on none, and both results have the same
number of moments with, one by one, the same operations in some order. -/
theorem pack_reordered (durations : GateDurations) (topology : Topology) {first second : Circuit}
    (hdistinct : ∀ operation ∈ first.operations, operation.qubits.Nodup)
    (hreordered : Relation.ReflTransGen Exchange first.operations second.operations) :
    ((∃ packed, (ofParts durations topology).pack first = .ok packed) ↔
      ∃ packed, (ofParts durations topology).pack second = .ok packed) ∧
    ∀ packed repacked, (ofParts durations topology).pack first = .ok packed →
      (ofParts durations topology).pack second = .ok repacked →
        Alike packed.moments repacked.moments := by
  have hperm := perm_of_exchanges hreordered
  refine ⟨by simp only [exists_pack_eq_ok_iff, hperm.mem_iff], ?_⟩
  intro packed repacked hpacked hrepacked
  obtain ⟨hruns, rfl⟩ := pack_eq_ok_iff.mp hpacked
  obtain ⟨-, rfl⟩ := pack_eq_ok_iff.mp hrepacked
  exact alike_arrange_of_exchanges durations
    (fun operation hmem => ⟨hruns operation hmem, hdistinct operation hmem⟩) hreordered

end Device

namespace Circuit

/-- Three interactions one after the other, of which the first and the last exclude each other. -/
def serialProbe : Circuit :=
  ⟨"serial", [
    ⟨[.plain (.interaction 1.0) [.grid ⟨0, 1⟩, .grid ⟨0, 2⟩]]⟩,
    ⟨[.plain (.interaction 1.0) [.grid ⟨0, 4⟩, .grid ⟨0, 5⟩]]⟩,
    ⟨[.plain (.interaction 1.0) [.grid ⟨1, 1⟩, .grid ⟨1, 2⟩]]⟩]⟩

/-- The interactions of `serialProbe` in one moment, the second one first. -/
def exchangedProbe : Circuit :=
  ⟨"exchanged", [
    ⟨[.plain (.interaction 1.0) [.grid ⟨0, 4⟩, .grid ⟨0, 5⟩],
      .plain (.interaction 1.0) [.grid ⟨0, 1⟩, .grid ⟨0, 2⟩],
      .plain (.interaction 1.0) [.grid ⟨1, 1⟩, .grid ⟨1, 2⟩]]⟩]⟩

theorem serialProbe_reordered :
    (∀ operation ∈ serialProbe.operations, operation.qubits.Nodup) ∧
      Exchange serialProbe.operations exchangedProbe.operations ∧
      ∃ packed repacked, Device.foxtail.pack serialProbe = .ok packed ∧
        Device.foxtail.pack exchangedProbe = .ok repacked ∧ packed.depth = 2 ∧
        Alike packed.moments repacked.moments := by
  have hdistinct : ∀ operation ∈ serialProbe.operations, operation.qubits.Nodup := by
    decide
  have hexchange : Exchange serialProbe.operations exchangedProbe.operations := by
    refine Exchange.swap [] [.plain (.interaction 1.0) [.grid ⟨1, 1⟩, .grid ⟨1, 2⟩]] ?_ rfl
    simp [Operation.qubits]
  obtain ⟨-, halike⟩ :=
    Device.pack_reordered .foxtail (.rectangle 2 11) hdistinct (.single hexchange)
  exact ⟨hdistinct, hexchange, _, _, rfl, rfl, rfl, halike _ _ rfl rfl⟩

end Circuit

end GridCircuit
