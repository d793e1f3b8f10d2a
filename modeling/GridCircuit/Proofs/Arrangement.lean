import GridCircuit.Proofs.Placement
import Mathlib.Data.List.Induction

/-!
# Arranging operations into moments

Placing operations one after the other, from no moments at all, arranges them.  Packing for a
device and appending to a circuit are both arrangements and differ only in their placement rule, so
what holds of every rule is proved here once, by induction over the operations placed so far.

* `arrange_perm` and `filter_actsOn_arrange`: an arrangement holds the operations it was given, and
  on every qubit in their order.
* `forall_mem_arrange`: a property of moments that every placement keeps holds of all moments.
* `settled_arrange`: under a rule that never accepts a moment it refused before the moment grew, no
  operation of an arrangement could have been placed earlier.
* `arrange_eq_of_settled`: a settled list of moments is its own arrangement.
-/

namespace GridCircuit.Circuit

variable {canPlace : Operation → Moment → Bool} {moments : List Moment} {moment : Moment}

/-- The moments that come of placing operations in order, each as early as possible. -/
def arrange (canPlace : Operation → Moment → Bool) (operations : List Operation) : List Moment :=
  operations.foldl (fun moments operation => (placeEarliest canPlace operation moments).2) []

@[simp] theorem arrange_nil : arrange canPlace [] = [] := rfl

@[simp] theorem arrange_concat (operations : List Operation) (operation : Operation) :
    arrange canPlace (operations ++ [operation]) =
      (placeEarliest canPlace operation (arrange canPlace operations)).2 := by
  simp [arrange, List.foldl_append]

/-- Inserting operations one after the other into a circuit without moments arranges them. -/
theorem foldl_insertEarliest (canPlace : Operation → Moment → Bool) (name : String)
    (operations : List Operation) :
    operations.foldl (fun circuit operation => (circuit.insertEarliest operation canPlace).2)
        (empty name) =
      ⟨name, arrange canPlace operations⟩ := by
  induction operations using List.reverseRecOn with
  | nil => rfl
  | append_singleton operations operation ih =>
      rw [List.foldl_append, ih, arrange_concat]
      rfl

/-! ## Which operations, and in which order -/

theorem arrange_perm (canPlace : Operation → Moment → Bool) (operations : List Operation) :
    ((arrange canPlace operations).flatMap Moment.operations).Perm operations := by
  induction operations using List.reverseRecOn with
  | nil => simp
  | append_singleton operations operation ih =>
      rw [arrange_concat]
      exact (operations_placeEarliest_perm _ _ _).trans (ih.append_right _)

theorem filter_actsOn_arrange (canPlace : Operation → Moment → Bool)
    (operations : List Operation) (qubit : Qubit) :
    ((arrange canPlace operations).flatMap Moment.operations).filter (·.actsOn qubit) =
      operations.filter (·.actsOn qubit) := by
  induction operations using List.reverseRecOn with
  | nil => simp
  | append_singleton operations operation ih =>
      rw [arrange_concat, filter_actsOn_placeEarliest, List.filter_append, ih,
        ← List.filter_append]

theorem mem_arrange_operations {operations : List Operation} {operation : Operation} :
    operation ∈ (arrange canPlace operations).flatMap Moment.operations ↔
      operation ∈ operations :=
  (arrange_perm canPlace operations).mem_iff

/-- The operations of the moments of an arrangement are among those that were arranged. -/
theorem mem_of_mem_arrange {operations : List Operation} {operation : Operation} {moment : Moment}
    (hmoment : moment ∈ arrange canPlace operations) (hmem : operation ∈ moment.operations) :
    operation ∈ operations :=
  mem_arrange_operations.mp (List.mem_flatMap.mpr ⟨moment, hmoment, hmem⟩)

/-! ## Properties of every moment -/

/-- A property of moments holds throughout an arrangement when it is kept by every operation that
joins a moment: an empty one, or one with the property that accepts the operation. -/
theorem forall_mem_arrange {P : Moment → Prop} {operations : List Operation}
    (hadd : ∀ operation ∈ operations, ∀ target : Moment,
      target = .empty ∨ P target ∧ canPlace operation target = true →
        target.touches operation.qubits = false → P (target.add operation)) :
    ∀ moment ∈ arrange canPlace operations, P moment := by
  induction operations using List.reverseRecOn with
  | nil => simp
  | append_singleton operations operation ih =>
      have hmoments := ih fun other hother => hadd other (List.mem_append_left _ hother)
      obtain ⟨before, target, after, slot⟩ :=
        exists_slot canPlace operation (arrange canPlace operations)
      rw [arrange_concat, slot.placeEarliest_eq]
      have hsource : target = .empty ∨ P target ∧ canPlace operation target = true := by
        rcases slot.origin with ⟨heq, haccept⟩ | ⟨-, hempty, -⟩
        · rw [heq] at hmoments
          exact Or.inr ⟨hmoments target (by simp), haccept⟩
        · exact Or.inl hempty
      apply slot.forall_mem_placed hmoments
      exact hadd operation (by simp) target hsource (slot.free target (by simp))

/-- An arrangement has no empty moments. -/
theorem operations_ne_nil_of_mem_arrange {operations : List Operation} :
    ∀ moment ∈ arrange canPlace operations, moment.operations ≠ [] :=
  forall_mem_arrange fun operation _ target _ _ => by simp

/-- Operations that list distinct qubits are arranged into moments that use no qubit twice, under
any rule. -/
theorem nodup_qubits_of_mem_arrange {operations : List Operation}
    (hnodup : ∀ operation ∈ operations, operation.qubits.Nodup) :
    ∀ moment ∈ arrange canPlace operations, moment.qubits.Nodup := by
  induction operations using List.reverseRecOn with
  | nil => simp
  | append_singleton operations operation ih =>
      rw [arrange_concat]
      apply nodup_qubits_placeEarliest canPlace
      · exact ih fun other hmem => hnodup other (List.mem_append_left _ hmem)
      · exact hnodup operation (by simp)

/-! ## Settled moments -/

/-- No operation could have been placed earlier: the search for its place goes past all moments
before its own. -/
def Settled (canPlace : Operation → Moment → Bool) (moments : List Moment) : Prop :=
  ∀ before moment after, moments = before ++ moment :: after →
    ∀ operation ∈ moment.operations, PassedOver canPlace operation before

theorem settled_nil : Settled canPlace [] := by
  intro before moment after hsplit
  simp at hsplit

/-- A member of a list with a known end is the last one or comes before it. -/
theorem concat_eq_append_cons_iff {α : Type} {init before after : List α} {last a : α} :
    init ++ [last] = before ++ a :: after ↔
      (before = init ∧ a = last ∧ after = []) ∨
        ∃ middle, init = before ++ a :: middle ∧ after = middle ++ [last] := by
  constructor
  · intro hsplit
    rcases List.eq_nil_or_concat after with rfl | ⟨middle, final, rfl⟩
    · obtain ⟨rfl, hsame⟩ := List.append_inj' hsplit rfl
      exact .inl ⟨rfl, (List.cons.inj hsame).1.symm, rfl⟩
    · rw [List.concat_eq_append, ← List.cons_append, ← List.append_assoc] at hsplit
      obtain ⟨rfl, hsame⟩ := List.append_inj' hsplit rfl
      obtain rfl : last = final := (List.cons.inj hsame).1
      exact .inr ⟨middle, rfl, List.concat_eq_append⟩
  · rintro (⟨rfl, rfl, rfl⟩ | ⟨middle, rfl, rfl⟩)
    · rfl
    · simp

theorem settled_concat : Settled canPlace (moments ++ [moment]) ↔
    Settled canPlace moments ∧
      ∀ operation ∈ moment.operations, PassedOver canPlace operation moments := by
  constructor
  · intro hsettled
    refine ⟨fun before other after hsplit => ?_, hsettled moments moment [] rfl⟩
    exact hsettled before other (after ++ [moment]) (by simp [hsplit])
  · rintro ⟨hsettled, hlast⟩ before other after hsplit
    rcases concat_eq_append_cons_iff.mp hsplit with ⟨rfl, rfl, rfl⟩ | ⟨init, rfl, rfl⟩
    · exact hlast
    · exact hsettled before other init rfl

/-- A refusal outlasts the growth of a moment. -/
def RefusalsLast (canPlace : Operation → Moment → Bool) : Prop :=
  ∀ operation moment joining, canPlace operation moment = false →
    canPlace operation (moment.add joining) = false

/-- Moments that use a qubit still use it after one of them has grown. -/
theorem exists_touches_grow {qubits : List Qubit} {joining : Operation}
    (before : List Moment) {after : List Moment} {target : Moment}
    (htouched : ∃ later ∈ before ++ target :: after, later.touches qubits = true) :
    ∃ later ∈ before ++ target.add joining :: after, later.touches qubits = true := by
  obtain ⟨later, hmem, htouches⟩ := htouched
  rcases List.mem_append.mp hmem with hmem | hmem
  · exact ⟨later, List.mem_append_left _ hmem, htouches⟩
  rcases List.mem_cons.mp hmem with rfl | hmem
  · exact ⟨later.add joining, by simp, Moment.touches_add_of_touches htouches⟩
  · exact ⟨later, List.mem_append_right _ (List.mem_cons_of_mem _ hmem), htouches⟩

/-- What a search goes past, it still goes past after one of the moments has grown. -/
theorem PassedOver.grow (hlast : RefusalsLast canPlace) {operation joining : Operation}
    {before after : List Moment} {target : Moment}
    (hpassed : PassedOver canPlace operation (before ++ target :: after)) :
    PassedOver canPlace operation (before ++ target.add joining :: after) := by
  induction before with
  | nil =>
      refine ⟨?_, hpassed.2⟩
      rcases hpassed.1 with htouched | hrefused
      · exact Or.inl (exists_touches_grow [] htouched)
      · exact Or.inr (hlast _ _ _ hrefused)
  | cons moment rest ih =>
      refine ⟨?_, ih hpassed.2⟩
      rcases hpassed.1 with htouched | hrefused
      · exact Or.inl (exists_touches_grow (moment :: rest) htouched)
      · exact Or.inr hrefused

/-- An operation that joins a moment from which on it finds a place leaves settled moments
settled. -/
theorem Settled.grow (hlast : RefusalsLast canPlace) {joining : Operation}
    {before after : List Moment} {target : Moment}
    (hsettled : Settled canPlace (before ++ target :: after))
    (hjoining : PassedOver canPlace joining before) :
    Settled canPlace (before ++ target.add joining :: after) := by
  induction after using List.reverseRecOn with
  | nil =>
      obtain ⟨hbefore, htarget⟩ := settled_concat.mp hsettled
      refine settled_concat.mpr ⟨hbefore, fun operation hmem => ?_⟩
      rcases List.mem_append.mp hmem with hmem | hmem
      · exact htarget operation hmem
      · rw [List.mem_singleton.mp hmem]
        exact hjoining
  | append_singleton after moment ih =>
      rw [← List.cons_append, ← List.append_assoc, settled_concat] at hsettled ⊢
      exact ⟨ih hsettled.1, fun operation hmem => (hsettled.2 operation hmem).grow hlast⟩

/-- An arrangement is settled. -/
theorem settled_arrange (hlast : RefusalsLast canPlace) (operations : List Operation) :
    Settled canPlace (arrange canPlace operations) := by
  induction operations using List.reverseRecOn with
  | nil => exact settled_nil
  | append_singleton operations operation ih =>
      obtain ⟨before, target, after, slot⟩ :=
        exists_slot canPlace operation (arrange canPlace operations)
      rw [arrange_concat, slot.placeEarliest_eq]
      -- the operation joins a moment, or opens one behind all of them
      rcases slot.origin with ⟨heq, -⟩ | ⟨heq, rfl, rfl⟩
      · exact Settled.grow hlast (heq ▸ ih) slot.passed
      · refine settled_concat.mpr ⟨heq ▸ ih, ?_⟩
        simpa using slot.passed

/-! ## Settled moments are their own arrangement -/

/-- A moment that can be filled in its own order: each operation is accepted by those before it
and shares no qubit with them. -/
def Fillable (canPlace : Operation → Moment → Bool) (moment : Moment) : Prop :=
  ∀ done operation rest, moment.operations = done ++ operation :: rest →
    canPlace operation ⟨done⟩ = true ∧ (⟨done⟩ : Moment).touches operation.qubits = false

/-- A moment that can be filled is one to the last operation, which it then accepts. -/
theorem Fillable.of_add {operation : Operation} (hfill : Fillable canPlace (moment.add operation)) :
    Fillable canPlace moment ∧ canPlace operation moment = true := by
  refine ⟨fun done other rest hsplit => ?_, (hfill moment.operations operation [] rfl).1⟩
  apply hfill done other (rest ++ [operation])
  rw [Moment.operations_add, hsplit, List.append_assoc, List.cons_append]

/-- The operations of one more moment go into a moment of their own behind those that are there,
as long as the search goes past these. -/
theorem arrange_append_moment {operations filled : List Operation}
    (hfill : Fillable canPlace ⟨filled⟩) (hfilled : filled ≠ [])
    (hpassed : ∀ operation ∈ filled,
      PassedOver canPlace operation (arrange canPlace operations)) :
    arrange canPlace (operations ++ filled) = arrange canPlace operations ++ [⟨filled⟩] := by
  induction filled using List.reverseRecOn with
  | nil => exact absurd rfl hfilled
  | append_singleton done operation ih =>
      rw [← List.append_assoc, arrange_concat]
      have hpassedLast := hpassed operation (by simp)
      -- the first operation opens the moment, and the others join it
      by_cases hdone : done = []
      · subst hdone
        have slot : Slot canPlace operation (arrange canPlace operations)
            (arrange canPlace operations) .empty [] :=
          ⟨hpassedLast, by simp, Or.inr ⟨rfl, rfl, rfl⟩⟩
        rw [List.append_nil, slot.placeEarliest_eq]
        rfl
      · have hadded : Fillable canPlace (Moment.add ⟨done⟩ operation) := hfill
        rw [ih hadded.of_add.1 hdone fun other hmem => hpassed other (List.mem_append_left _ hmem)]
        obtain ⟨haccept, hfree⟩ := hfill done operation [] rfl
        have slot : Slot canPlace operation (arrange canPlace operations ++ [⟨done⟩])
            (arrange canPlace operations) ⟨done⟩ [] :=
          ⟨hpassedLast, by simpa using hfree, Or.inl ⟨rfl, haccept⟩⟩
        rw [slot.placeEarliest_eq]
        rfl

/-- Settled moments are their own arrangement when each can be filled in its own order. -/
theorem arrange_eq_of_settled (hsettled : Settled canPlace moments)
    (hfill : ∀ moment ∈ moments, Fillable canPlace moment ∧ moment.operations ≠ []) :
    arrange canPlace (moments.flatMap Moment.operations) = moments := by
  induction moments using List.reverseRecOn with
  | nil => rfl
  | append_singleton moments moment ih =>
      obtain ⟨hbefore, hlast⟩ := settled_concat.mp hsettled
      have harranged := ih hbefore fun other hmem => hfill other (List.mem_append_left _ hmem)
      obtain ⟨hfillable, hoperations⟩ := hfill moment (by simp)
      rw [List.flatMap_append, List.flatMap_singleton,
        arrange_append_moment hfillable hoperations (by rwa [harranged]), harranged]

end GridCircuit.Circuit
