import GridCircuit.Circuit
import GridCircuit.Proofs.Operands
import Mathlib.Data.List.Basic

/-!
# Placing one operation

`Circuit.placeEarliest` goes through the moments once.  Its outcome is described here by a `Slot`:
the moments `before` that the search passes over, the `target` that takes the operation in and the
moments `after` it.  The target is one of the moments, or an empty one that is added at the end;
in both cases neither it nor any later moment uses a qubit of the operation.

* `exists_slot` and `Slot.placeEarliest_eq`: every search ends in a slot, and a slot determines the
  outcome.  Nothing below opens `placeEarliest` again.
* `operations_placeEarliest_perm`: a placement adds the operation and nothing else.
* `filter_actsOn_placeEarliest`: on every qubit, the operation comes after all that were there.
* `nodup_qubits_placeEarliest`: a placement makes no qubit used twice in a moment.
-/

namespace GridCircuit.Circuit

variable {canPlace : Operation → Moment → Bool} {operation : Operation}

/-- The search for a place goes past all of the moments: each of them refuses the operation, or it
or one that follows it uses a qubit of the operation. -/
def PassedOver (canPlace : Operation → Moment → Bool) (operation : Operation) :
    List Moment → Prop
  | [] => True
  | moment :: rest =>
      ((∃ later ∈ moment :: rest, later.touches operation.qubits = true) ∨
        canPlace operation moment = false) ∧ PassedOver canPlace operation rest

/-- Where an operation goes among some moments. -/
structure Slot (canPlace : Operation → Moment → Bool) (operation : Operation)
    (moments before : List Moment) (target : Moment) (after : List Moment) : Prop where
  passed : PassedOver canPlace operation before
  free : ∀ moment ∈ target :: after, moment.touches operation.qubits = false
  /-- The target is an accepting moment of the list, or it is new. -/
  origin : moments = before ++ target :: after ∧ canPlace operation target = true ∨
    moments = before ∧ target = .empty ∧ after = []

/-- A moment that the search goes past refuses the operation, unless a qubit of the operation is
used from there on. -/
theorem PassedOver.touched_or_refused {before : List Moment} {j : Nat} {target : Moment}
    (hpassed : PassedOver canPlace operation before) (htarget : before[j]? = some target) :
    (∃ later ∈ before.drop j, later.touches operation.qubits = true) ∨
      canPlace operation target = false := by
  induction before generalizing j with
  | nil => simp at htarget
  | cons first rest ih =>
      obtain ⟨hfirst, hrest⟩ := hpassed
      cases j with
      | zero =>
          obtain rfl : first = target := by simpa using htarget
          exact hfirst
      | succ j => exact ih hrest (by simpa using htarget)

/-! ## The search and its slot -/

theorem placeEarliest_of_slot_nil {moment : Moment} {rest : List Moment}
    (hfree : ∀ later ∈ moment :: rest, later.touches operation.qubits = false)
    (haccept : canPlace operation moment = true) :
    placeEarliest canPlace operation (moment :: rest) = (0, moment.add operation :: rest) := by
  have hany : (moment :: rest).any (·.touches operation.qubits) = false := by
    simpa using hfree
  simp [placeEarliest, hany, haccept]

theorem placeEarliest_cons_of_passed {moment : Moment} {rest : List Moment}
    (hpassed : (∃ later ∈ moment :: rest, later.touches operation.qubits = true) ∨
      canPlace operation moment = false) :
    placeEarliest canPlace operation (moment :: rest) =
      ((placeEarliest canPlace operation rest).1 + 1,
        moment :: (placeEarliest canPlace operation rest).2) := by
  have hcondition : ((moment :: rest).any (·.touches operation.qubits) ||
      !canPlace operation moment) = true := by
    rcases hpassed with htouched | hrefused
    · rw [List.any_eq_true.mpr htouched, Bool.true_or]
    · rw [hrefused, Bool.not_false, Bool.or_true]
  rw [placeEarliest, if_pos hcondition]

/-- A slot determines the outcome of the search. -/
theorem Slot.placeEarliest_eq {moments before after : List Moment} {target : Moment}
    (slot : Slot canPlace operation moments before target after) :
    placeEarliest canPlace operation moments =
      (before.length, before ++ target.add operation :: after) := by
  obtain ⟨hpassed, hfree, horigin⟩ := slot
  induction before generalizing moments with
  | nil =>
      rcases horigin with ⟨rfl, haccept⟩ | ⟨rfl, rfl, rfl⟩
      · exact placeEarliest_of_slot_nil hfree haccept
      · rfl
  | cons moment rest ih =>
      obtain ⟨hhead, hrest⟩ := hpassed
      rcases horigin with ⟨rfl, haccept⟩ | ⟨rfl, hnew⟩
      · have hlater : (∃ later ∈ moment :: (rest ++ target :: after),
            later.touches operation.qubits = true) ∨ canPlace operation moment = false := by
          refine hhead.imp_left fun ⟨later, hmem, htouches⟩ => ⟨later, ?_, htouches⟩
          exact List.mem_append_left (target :: after) hmem
        rw [List.cons_append, placeEarliest_cons_of_passed hlater,
          ih hrest (Or.inl ⟨rfl, haccept⟩)]
        simp
      · rw [placeEarliest_cons_of_passed hhead, ih hrest (Or.inr ⟨rfl, hnew⟩)]
        simp

/-- Every search ends in a slot. -/
theorem exists_slot (canPlace : Operation → Moment → Bool) (operation : Operation)
    (moments : List Moment) :
    ∃ before target after, Slot canPlace operation moments before target after := by
  induction moments with
  | nil => exact ⟨[], .empty, [], trivial, by simp, Or.inr ⟨rfl, rfl, rfl⟩⟩
  | cons moment rest ih =>
      obtain ⟨before, target, after, hpassed, hfree, horigin⟩ := ih
      by_cases hplace : (∀ later ∈ moment :: rest, later.touches operation.qubits = false) ∧
          canPlace operation moment = true
      · exact ⟨[], moment, rest, trivial, hplace.1, Or.inl ⟨rfl, hplace.2⟩⟩
      -- a moment that touches the operation lies before the slot of the rest
      have hhead : (∃ later ∈ moment :: before, later.touches operation.qubits = true) ∨
          canPlace operation moment = false := by
        by_contra hcontra
        push Not at hcontra
        obtain ⟨huntouched, haccept⟩ := hcontra
        refine hplace ⟨fun later hlater => ?_, by simpa using haccept⟩
        have hmem : later ∈ moment :: before ∨ later ∈ target :: after := by
          rcases horigin with ⟨rfl, _⟩ | ⟨rfl, _⟩
          · simpa [or_assoc] using hlater
          · exact Or.inl hlater
        rcases hmem with hmem | hmem
        · simpa using huntouched later hmem
        · exact hfree later hmem
      refine ⟨moment :: before, target, after, ⟨hhead, hpassed⟩, hfree, ?_⟩
      rcases horigin with ⟨rfl, haccept⟩ | ⟨rfl, hnew⟩
      · exact Or.inl ⟨rfl, haccept⟩
      · exact Or.inr ⟨rfl, hnew⟩

/-! ## Moments before a slot -/

section

variable {moments before after : List Moment} {target moment : Moment} {k : Nat}

theorem Slot.getElem?_of_lt (slot : Slot canPlace operation moments before target after)
    (hk : k < before.length) : moments[k]? = before[k]? := by
  rcases slot.origin with ⟨rfl, -⟩ | ⟨rfl, -⟩
  · exact List.getElem?_append_left hk
  · rfl

/-- A moment that uses a qubit of the operation lies before its place. -/
theorem Slot.lt_of_touches (slot : Slot canPlace operation moments before target after)
    (hmoment : moments[k]? = some moment) (htouches : moment.touches operation.qubits = true) :
    k < before.length := by
  by_contra hlate
  have hfree : moment.touches operation.qubits = false := by
    rcases slot.origin with ⟨rfl, -⟩ | ⟨rfl, -⟩
    · rw [List.getElem?_append_right (by omega)] at hmoment
      exact slot.free moment (List.mem_of_getElem? hmoment)
    · exact absurd (List.getElem?_eq_some_iff.mp hmoment).1 hlate
  simp [hfree] at htouches

end

/-! ## What a placement does to the operations -/

/-- The operations before a placement, cut at the slot. -/
theorem Slot.operations_eq {moments before after : List Moment} {target : Moment}
    (slot : Slot canPlace operation moments before target after) :
    moments.flatMap Moment.operations = before.flatMap Moment.operations ++
      (target.operations ++ after.flatMap Moment.operations) := by
  rcases slot.origin with ⟨rfl, _⟩ | ⟨rfl, rfl, rfl⟩
  · simp
  · simp

/-- A placement adds the operation and nothing else. -/
theorem operations_placeEarliest_perm (canPlace : Operation → Moment → Bool)
    (operation : Operation) (moments : List Moment) :
    ((placeEarliest canPlace operation moments).2.flatMap Moment.operations).Perm
      (moments.flatMap Moment.operations ++ [operation]) := by
  obtain ⟨before, target, after, slot⟩ := exists_slot canPlace operation moments
  rw [slot.placeEarliest_eq, slot.operations_eq]
  simp only [List.flatMap_append, List.flatMap_cons, Moment.operations_add, List.append_assoc]
  exact List.Perm.append_left _ (List.Perm.append_left _ List.perm_append_comm)

/-- A placement keeps a property of all moments when its target has the property afterwards. -/
theorem Slot.forall_mem_placed {P : Moment → Prop} {moments before after : List Moment}
    {target : Moment} (slot : Slot canPlace operation moments before target after)
    (hmoments : ∀ moment ∈ moments, P moment) (htarget : P (target.add operation)) :
    ∀ moment ∈ before ++ target.add operation :: after, P moment := by
  have hothers : ∀ moment ∈ before ++ after, P moment := by
    rcases slot.origin with ⟨rfl, -⟩ | ⟨rfl, -, rfl⟩
    · simp only [List.forall_mem_append, List.forall_mem_cons] at hmoments ⊢
      exact ⟨hmoments.1, hmoments.2.2⟩
    · simpa using hmoments
  simp only [List.forall_mem_append, List.forall_mem_cons] at hothers ⊢
  exact ⟨hothers.1, htarget, hothers.2⟩

/-- However the rule answers, a placement makes no qubit used twice in a moment: the search itself
leaves the qubits of the operation free. -/
theorem nodup_qubits_placeEarliest (canPlace : Operation → Moment → Bool) {moments : List Moment}
    (hmoments : ∀ moment ∈ moments, moment.qubits.Nodup) (hoperation : operation.qubits.Nodup) :
    ∀ moment ∈ (placeEarliest canPlace operation moments).2, moment.qubits.Nodup := by
  obtain ⟨before, target, after, slot⟩ := exists_slot canPlace operation moments
  rw [slot.placeEarliest_eq]
  apply slot.forall_mem_placed hmoments
  have htarget : target.qubits.Nodup := by
    rcases slot.origin with ⟨rfl, -⟩ | ⟨-, rfl, -⟩
    · exact hmoments target (by simp)
    · exact List.nodup_nil
  have hfree : ∀ qubit ∈ operation.qubits, qubit ∉ target.qubits :=
    Moment.touches_eq_false_iff.mp (slot.free target List.mem_cons_self)
  rw [Moment.qubits_add, List.nodup_append']
  exact ⟨htarget, hoperation, fun qubit hused hqubit => hfree qubit hqubit hused⟩

/-- On every qubit, a placed operation comes after all operations that were there. -/
theorem filter_actsOn_placeEarliest (canPlace : Operation → Moment → Bool)
    (operation : Operation) (moments : List Moment) (qubit : Qubit) :
    ((placeEarliest canPlace operation moments).2.flatMap Moment.operations).filter
        (·.actsOn qubit) =
      (moments.flatMap Moment.operations ++ [operation]).filter (·.actsOn qubit) := by
  obtain ⟨before, target, after, slot⟩ := exists_slot canPlace operation moments
  rw [slot.placeEarliest_eq, slot.operations_eq]
  simp only [List.flatMap_append, List.flatMap_cons, Moment.operations_add, List.filter_append,
    List.append_assoc]
  by_cases hacts : operation.actsOn qubit = true
  · -- no moment from the target on uses the qubit
    have hlate : (after.flatMap Moment.operations).filter (·.actsOn qubit) = [] := by
      rw [List.filter_flatMap, List.flatMap_eq_nil_iff]
      intro moment hmoment
      refine Moment.filter_actsOn_eq_nil ?_
      exact Moment.touches_eq_false_iff.mp (slot.free moment (List.mem_cons_of_mem _ hmoment))
        qubit (Operation.actsOn_iff.mp hacts)
    simp [hlate]
  · simp [hacts]

end GridCircuit.Circuit
