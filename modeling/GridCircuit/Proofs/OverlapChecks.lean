import GridCircuit.Proofs.FirstFlaw

/-!
# Three searches for an overlap

Whether operations may share a moment is asked in three ways.  `Moment.push` looks for each operand
of a new operation among the operations that are there.  `Moment.overlap?` reads the operands of a
whole moment in a row and stops at the first one that it has seen.  The host of a device only wants
to know whether an operation may join.

As long as no operation lists an operand twice, the three agree, also on the qubit to blame.  What
carries the proof is that the operands of the moment put together so far do not repeat.  So the
first operand of a new operation that the moment uses is the first one to repeat among all operands,
those of later operations included (`overlap?_of_find?`), and a run of pushes ends as the search
through all operands does (`foldlM_push_eq`).

A builder holds its moment and pushes onto it in place.  It searches before it changes anything, so
a refused operation leaves the moment as it was (`run_pushInPlace`).
-/

namespace GridCircuit

namespace Moment

variable {moment joined : Moment} {operation : Operation} {operations : List Operation}
  {qubit : Qubit} {cause : CircuitError}

theorem overlap?_eq_some_iff : moment.overlap? = some qubit ↔ FirstRepeat moment.qubits qubit :=
  firstRepeat?_eq_some_iff

/-! ## Pushing one operation -/

theorem nodup_qubits_add (hmoment : moment.qubits.Nodup) (hoperation : operation.qubits.Nodup)
    (hfree : ∀ qubit ∈ operation.qubits, qubit ∉ moment.qubits) :
    (moment.add operation).qubits.Nodup := by
  rw [qubits_add, List.nodup_append']
  exact ⟨hmoment, hoperation, fun qubit hused hqubit => hfree qubit hqubit hused⟩

/-- The first operand of a new operation that a moment uses is the first operand of all to repeat,
whatever operations come later. -/
theorem overlap?_of_find? (hmoment : moment.qubits.Nodup) (hoperation : operation.qubits.Nodup)
    (hfind : operation.qubits.find? moment.actsOn = some qubit) (later : List Operation) :
    overlap? ⟨moment.operations ++ operation :: later⟩ = some qubit := by
  obtain ⟨hacts, before, after, hsplit, hbefore⟩ := List.find?_eq_some_iff_append.mp hfind
  have hqubits : (⟨moment.operations ++ operation :: later⟩ : Moment).qubits =
      (moment.qubits ++ before) ++ qubit :: (after ++ later.flatMap Operation.qubits) := by
    simp [Moment.qubits, hsplit]
  rw [overlap?_eq_some_iff]
  refine ⟨_, _, hqubits, ?_, List.mem_append_left _ (actsOn_iff.mp hacts)⟩
  rw [hsplit, List.nodup_append'] at hoperation
  rw [List.nodup_append']
  refine ⟨hmoment, hoperation.1, fun earlier hused hearlier => ?_⟩
  -- an operand before the one that was found is not in use
  simpa [actsOn_iff.mpr hused] using hbefore earlier hearlier

/-! ## Pushing operations one after the other -/

/-- Operations are pushed onto a moment without overlap as far as the first operand of all that
repeats. -/
theorem foldlM_push_eq (hmoment : moment.qubits.Nodup)
    (hdistinct : ∀ operation ∈ operations, operation.qubits.Nodup) :
    operations.foldlM push moment =
      match overlap? ⟨moment.operations ++ operations⟩ with
      | some qubit => .error (.overlap qubit)
      | none => .ok ⟨moment.operations ++ operations⟩ := by
  induction operations generalizing moment with
  | nil =>
      have hnone : overlap? ⟨moment.operations ++ []⟩ = none := by
        rw [List.append_nil]
        exact overlap?_eq_none_iff.mpr hmoment
      rw [List.foldlM_nil, hnone, List.append_nil]
      rfl
  | cons operation rest ih =>
      obtain ⟨hoperation, hrest⟩ := List.forall_mem_cons.mp hdistinct
      rw [List.foldlM_cons, push]
      cases hfind : operation.qubits.find? moment.actsOn with
      | some qubit =>
          rw [overlap?_of_find? hmoment hoperation hfind rest]
          rfl
      | none =>
          have hfree : ∀ qubit ∈ operation.qubits, qubit ∉ moment.qubits := by
            simpa [actsOn_iff] using hfind
          have hjoined := ih (nodup_qubits_add hmoment hoperation hfree) hrest
          rw [operations_add, List.append_assoc, List.singleton_append] at hjoined
          exact hjoined

theorem ofOperations_eq (hdistinct : ∀ operation ∈ operations, operation.qubits.Nodup) :
    ofOperations operations =
      match overlap? ⟨operations⟩ with
      | some qubit => .error (.overlap qubit)
      | none => .ok ⟨operations⟩ := by
  have hempty : Moment.empty.qubits.Nodup := List.nodup_nil
  exact foldlM_push_eq hempty hdistinct

theorem push_eq (hmoment : moment.qubits.Nodup) (hoperation : operation.qubits.Nodup) :
    moment.push operation =
      match (moment.add operation).overlap? with
      | some qubit => .error (.overlap qubit)
      | none => .ok (moment.add operation) := by
  have hdistinct : ∀ other ∈ [operation], other.qubits.Nodup := by simpa using hoperation
  have hpush := foldlM_push_eq hmoment hdistinct
  simp only [List.foldlM_cons, List.foldlM_nil, bind_pure] at hpush
  exact hpush

/-! ## Pushing in place -/

/-- Adds an operation to the moment that is the state, unless one of its operands is in use. -/
def pushInPlace (operation : Operation) : EStateM CircuitError Moment Unit := do
  let moment ← get
  if let some qubit := operation.qubits.find? moment.actsOn then
    throw (.overlap qubit)
  set (moment.add operation)

theorem run_pushInPlace : (pushInPlace operation).run moment =
    match moment.push operation with
    | .ok joined => .ok () joined
    | .error cause => .error cause moment := by
  rw [push]
  cases hfind : operation.qubits.find? moment.actsOn <;> simp [pushInPlace, hfind]

/-- A push in place succeeds with the moment that `push` gives. -/
theorem run_pushInPlace_eq_ok_iff :
    (pushInPlace operation).run moment = .ok () joined ↔ moment.push operation = .ok joined := by
  rw [run_pushInPlace]
  cases moment.push operation <;> simp

/-- A push in place that fails has not changed the moment. -/
theorem run_pushInPlace_eq_error_iff {after : Moment} :
    (pushInPlace operation).run moment = .error cause after ↔
      moment.push operation = .error cause ∧ after = moment := by
  rw [run_pushInPlace]
  cases moment.push operation <;> simp [eq_comm]

/-! ## Agreement -/

theorem push_eq_ok_iff_canAdd : moment.push operation = .ok joined ↔
    joined = moment.add operation ∧ HostChecks.noOverlap.canAdd operation moment = true := by
  simp [push_eq_ok_iff, HostChecks.noOverlap]

/-- The three searches for an overlap agree, when no operation lists an operand twice.

Operations are put together to a moment exactly when the search through all their operands finds
none that repeats, and else fail with the operand that it finds.  An operation is pushed onto a
moment without overlap exactly when the host lets it join, fails else with the operand that would
repeat, and a push in place then leaves the moment what it was. -/
theorem overlap_checks_agree :
    (∀ operations : List Operation, (∀ operation ∈ operations, operation.qubits.Nodup) →
      (∀ moment, ofOperations operations = .ok moment ↔
        moment = ⟨operations⟩ ∧ overlap? ⟨operations⟩ = none) ∧
      (∀ cause, ofOperations operations = .error cause ↔
        ∃ qubit, cause = .overlap qubit ∧ overlap? ⟨operations⟩ = some qubit)) ∧
    ∀ (moment : Moment) (operation : Operation),
      moment.overlap? = none → operation.qubits.Nodup →
        (∀ joined, moment.push operation = .ok joined ↔
          joined = moment.add operation ∧ HostChecks.noOverlap.canAdd operation moment = true) ∧
        (∀ cause, moment.push operation = .error cause ↔
          ∃ qubit, cause = .overlap qubit ∧ (moment.add operation).overlap? = some qubit) ∧
        (∀ joined, (pushInPlace operation).run moment = .ok () joined ↔
          moment.push operation = .ok joined) ∧
        (∀ cause after, (pushInPlace operation).run moment = .error cause after ↔
          moment.push operation = .error cause ∧ after = moment) := by
  constructor
  · intro operations hdistinct
    rw [ofOperations_eq hdistinct]
    cases overlap? ⟨operations⟩ <;> simp [eq_comm]
  · intro moment operation hmoment hoperation
    refine ⟨fun _ => push_eq_ok_iff_canAdd, fun cause => ?_,
      fun _ => run_pushInPlace_eq_ok_iff, fun _ _ => run_pushInPlace_eq_error_iff⟩
    rw [push_eq (overlap?_eq_none_iff.mp hmoment) hoperation]
    cases (moment.add operation).overlap? <;> simp [eq_comm]

/-- A moment with two operations that share nothing. -/
def partedProbe : Moment :=
  ⟨[.plain (.phase 0.5 false) [.grid ⟨0, 0⟩],
    .plain (.interaction 1.0) [.grid ⟨0, 1⟩, .grid ⟨0, 2⟩]]⟩

/-- An interaction that shares a site with each of them. -/
def crossingProbe : Operation := .plain (.interaction 1.0) [.grid ⟨0, 1⟩, .grid ⟨0, 0⟩]

theorem crossingProbe_checks_agree :
    (∀ operation ∈ partedProbe.operations ++ [crossingProbe], operation.qubits.Nodup) ∧
      partedProbe.overlap? = none ∧
      (partedProbe.add crossingProbe).overlap? = some (.grid ⟨0, 1⟩) ∧
      ofOperations (partedProbe.operations ++ [crossingProbe]) =
        .error (.overlap (.grid ⟨0, 1⟩)) ∧
      partedProbe.push crossingProbe = .error (.overlap (.grid ⟨0, 1⟩)) ∧
      (pushInPlace crossingProbe).run partedProbe =
        .error (.overlap (.grid ⟨0, 1⟩)) partedProbe := by
  obtain ⟨hlists, hmoments⟩ := overlap_checks_agree
  have hdistinct : ∀ operation ∈ partedProbe.operations ++ [crossingProbe],
      operation.qubits.Nodup := by decide
  have hnone : partedProbe.overlap? = none := rfl
  have hoverlap : (partedProbe.add crossingProbe).overlap? = some (.grid ⟨0, 1⟩) := rfl
  obtain ⟨-, hrefused⟩ := hlists _ hdistinct
  obtain ⟨-, hrefused', -, hunchanged⟩ :=
    hmoments partedProbe crossingProbe hnone (hdistinct _ (by simp))
  have hpush : partedProbe.push crossingProbe = .error (.overlap (.grid ⟨0, 1⟩)) :=
    (hrefused' _).mpr ⟨_, rfl, hoverlap⟩
  exact ⟨hdistinct, hnone, hoverlap, (hrefused _).mpr ⟨_, rfl, hoverlap⟩, hpush,
    (hunchanged _ _).mpr ⟨hpush, rfl⟩⟩

end Moment

end GridCircuit
