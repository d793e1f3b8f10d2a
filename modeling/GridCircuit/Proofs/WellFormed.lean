import GridCircuit.Proofs.Operands
import Mathlib.Data.List.Induction

/-!
# Well-formed operations

A gate takes a certain number of operands, a plain or conditional operation lists that many
distinct ones, and a subcircuit lists what its parts use, each qubit where it is seen first.
`Operation.WellFormed` says this for an operation and all its parts.  The checked constructors
build exactly such operations from well-formed parts (`ofGate_eq_ok_iff`, `ofConditional_eq_ok_iff`,
`ofPartsOn_eq_ok_iff`).
-/

namespace GridCircuit

/-! ## Operands of a gate -/

namespace Gate

/-- The numbers of operands that a gate takes. -/
def Takes : Gate → Nat → Prop
  | interaction _, count => count = 2
  | rotation _ _, count => count = 1
  | phase _ _, count => count = 1
  | measure _, count => 1 ≤ count
  | custom _ arity, count => count = arity.toNat

theorem accepts_iff {gate : Gate} {count : Nat} : gate.accepts count = true ↔ gate.Takes count := by
  cases gate <;> simp [accepts, arity?, Takes, Nat.one_le_iff_ne_zero]

theorem checkOperands_eq_ok_iff {gate : Gate} {qubits : List Qubit} :
    gate.checkOperands qubits = .ok () ↔ gate.Takes qubits.length ∧ qubits.Nodup := by
  rw [← accepts_iff, ← firstRepeat?_eq_none_iff, checkOperands]
  by_cases haccepts : gate.accepts qubits.length = true
  · cases firstRepeat? qubits <;> simp [haccepts]
  · simp [haccepts]

end Gate

/-! ## Operations that are well formed at every depth -/

namespace Operation

/-- An operation whose operands, and those of all its parts, follow the rules. -/
inductive WellFormed : Operation → Prop
  | plain {gate : Gate} {qubits : List Qubit} (hcount : gate.Takes qubits.length)
      (hdistinct : qubits.Nodup) : WellFormed (.plain gate qubits)
  | conditional {key : String} {gate : Gate} {qubits : List Qubit}
      (hcount : gate.Takes qubits.length) (hdistinct : qubits.Nodup) :
      WellFormed (.conditional key gate qubits)
  /-- A subcircuit lists the qubits of its parts, without the repetitions of earlier ones. -/
  | subcircuit {parts : List Operation} (hparts : ∀ part ∈ parts, WellFormed part) :
      WellFormed (.subcircuit parts (parts.flatMap Operation.qubits).eraseDups)

theorem wellFormed_plain_iff {gate : Gate} {qubits : List Qubit} :
    (plain gate qubits).WellFormed ↔ gate.Takes qubits.length ∧ qubits.Nodup :=
  ⟨fun | .plain hcount hdistinct => ⟨hcount, hdistinct⟩, fun h => .plain h.1 h.2⟩

theorem wellFormed_conditional_iff {key : String} {gate : Gate} {qubits : List Qubit} :
    (conditional key gate qubits).WellFormed ↔ gate.Takes qubits.length ∧ qubits.Nodup :=
  ⟨fun | .conditional hcount hdistinct => ⟨hcount, hdistinct⟩, fun h => .conditional h.1 h.2⟩

theorem wellFormed_subcircuit_iff {parts : List Operation} {qubits : List Qubit} :
    (subcircuit parts qubits).WellFormed ↔
      (∀ part ∈ parts, part.WellFormed) ∧
        qubits = (parts.flatMap Operation.qubits).eraseDups := by
  constructor
  · rintro (_ | _ | hparts)
    exact ⟨hparts, rfl⟩
  · rintro ⟨hparts, rfl⟩
    exact .subcircuit hparts

/-- The last qubit of a list is kept when it has not been seen before. -/
theorem eraseDups_concat (seen : List Qubit) (qubit : Qubit) : (seen ++ [qubit]).eraseDups =
    if qubit ∈ seen then seen.eraseDups else seen.eraseDups ++ [qubit] := by
  rw [List.eraseDups_append]
  by_cases hseen : qubit ∈ seen
  · simp [List.removeAll, hseen]
  · simp [List.removeAll, hseen, List.eraseDups_cons]

/-- Each qubit is kept once. -/
theorem nodup_eraseDups (qubits : List Qubit) : qubits.eraseDups.Nodup := by
  induction qubits using List.reverseRecOn with
  | nil => simp
  | append_singleton rest qubit ih =>
      rw [eraseDups_concat]
      split
      · exact ih
      · rename_i hfresh
        exact ih.append (List.nodup_singleton qubit) (by simpa using hfresh)

/-- No well-formed operation lists a qubit twice, a subcircuit included. -/
theorem WellFormed.nodup_qubits {operation : Operation} (hwellFormed : operation.WellFormed) :
    operation.qubits.Nodup := by
  cases hwellFormed with
  | plain hcount hdistinct => exact hdistinct
  | conditional hcount hdistinct => exact hdistinct
  | subcircuit hparts => exact nodup_eraseDups _

/-! ## Checked constructors -/

variable {operation : Operation} {gate : Gate} {qubits : List Qubit}

theorem ofGate_eq_ok_iff : ofGate gate qubits = .ok operation ↔
    (gate.Takes qubits.length ∧ qubits.Nodup) ∧ operation = plain gate qubits := by
  rw [← Gate.checkOperands_eq_ok_iff, ofGate]
  cases gate.checkOperands qubits <;> simp [Except.map, eq_comm]

theorem ofConditional_eq_ok_iff {key : String} : ofConditional key gate qubits = .ok operation ↔
    (gate.Takes qubits.length ∧ qubits.Nodup) ∧ operation = conditional key gate qubits := by
  rw [← Gate.checkOperands_eq_ok_iff, ofConditional]
  cases gate.checkOperands qubits <;> simp [Except.map, eq_comm]

/-- Collecting what has not been seen yet leaves the first occurrences. -/
theorem foldl_collect_eq (qubits : List Qubit) :
    qubits.foldl (fun seen qubit => if qubit ∈ seen then seen else seen ++ [qubit]) [] =
      qubits.eraseDups := by
  induction qubits using List.reverseRecOn with
  | nil => rfl
  | append_singleton rest qubit ih =>
      rw [List.foldl_append, ih, eraseDups_concat]
      simp only [List.foldl_cons, List.foldl_nil, List.mem_eraseDups]

/-- The operands that are collected from several operations are the first occurrences. -/
theorem union_eq_eraseDups (operations : List Operation) :
    union operations = (operations.flatMap Operation.qubits).eraseDups := by
  rw [union, foldl_collect_eq]

theorem ofPartsOn_eq_ok_iff {parts : List Operation} : ofPartsOn parts qubits = .ok operation ↔
    qubits = (parts.flatMap Operation.qubits).eraseDups ∧ operation = subcircuit parts qubits := by
  rw [ofPartsOn, union_eq_eraseDups]
  split <;> simp_all [eq_comm]

end Operation

end GridCircuit
