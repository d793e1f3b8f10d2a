import GridCircuit.Proofs.Acceptance

/-!
# The flaw that validation reports

A circuit can break many rules at once, and validation reports one flaw of it.  Which one is told
here without the loops that look for it.  The order is fixed at every level:

* a circuit is judged moment by moment, and its measurement keys after all moments;
* a moment is judged for repeated qubits, then operation by operation, then for conflicts;
* an operation is judged for its form, its gate, the number of its operands, then operand by
  operand, and last for the distance of its operands.

So a flaw is reported only if everything that is judged before it is in order, which is what the
premises of `Operation.FirstFlaw` and `Moment.FirstFlaw` say.  Each check fails with an error exactly
when this is the first flaw, so there is one such error and no other.
-/

namespace GridCircuit

open Attempt

/-! ### Repeated entries -/

section Repeats

variable {α : Type}

/-- An entry that occurs for the second time before any other entry does. -/
def FirstRepeat (values : List α) (a : α) : Prop :=
  ∃ before after, values = before ++ a :: after ∧ before.Nodup ∧ a ∈ before

variable [DecidableEq α] {seen values : List α} {a : α}

theorem firstRepeatAfter?_eq_some_iff : firstRepeatAfter? seen values = some a ↔
    ∃ before after, values = before ++ a :: after ∧
      firstRepeatAfter? seen before = none ∧ (a ∈ before ∨ a ∈ seen) := by
  induction values generalizing seen with
  | nil => simp [firstRepeatAfter?]
  | cons first rest ih =>
      by_cases hseen : first ∈ seen
      · rw [firstRepeatAfter?, if_pos hseen, Option.some.injEq]
        constructor
        · rintro rfl
          exact ⟨[], rest, rfl, rfl, .inr hseen⟩
        · rintro ⟨before, after, hsplit, hbefore, -⟩
          rcases List.cons_eq_append_iff.mp hsplit with ⟨-, hsame⟩ | ⟨init, rfl, -⟩
          · exact (List.cons.inj hsame).1.symm
          · simp [firstRepeatAfter?, hseen] at hbefore
      · rw [firstRepeatAfter?, if_neg hseen, ih]
        constructor
        · rintro ⟨before, after, rfl, hbefore, hmem⟩
          refine ⟨first :: before, after, rfl, ?_, ?_⟩
          · rwa [firstRepeatAfter?, if_neg hseen]
          · simp only [List.mem_cons] at hmem ⊢
            tauto
        · rintro ⟨before, after, hsplit, hbefore, hmem⟩
          rcases List.cons_eq_append_iff.mp hsplit with ⟨rfl, hsame⟩ | ⟨init, rfl, rfl⟩
          · obtain rfl : a = first := (List.cons.inj hsame).1
            simp [hseen] at hmem
          · rw [firstRepeatAfter?, if_neg hseen] at hbefore
            refine ⟨init, after, rfl, hbefore, ?_⟩
            simp only [List.mem_cons] at hmem ⊢
            tauto

theorem firstRepeat?_eq_some_iff : firstRepeat? values = some a ↔ FirstRepeat values a := by
  have hnone (before : List α) : firstRepeatAfter? [] before = none ↔ before.Nodup :=
    firstRepeat?_eq_none_iff
  simp [firstRepeat?, firstRepeatAfter?_eq_some_iff, hnone, FirstRepeat]

end Repeats

/-! ### Operations -/

/-- What is wrong with an operand: it is no site of a grid, or it is one that the topology does not
have. -/
inductive Qubit.Misplaced (topology : Topology) : Qubit → DeviceError → Prop
  | elsewhere {qubit : Qubit} (hother : ∀ site, qubit ≠ .grid site) :
      Misplaced topology qubit (.unsupportedQubit qubit)
  | missing {site : Site} (hmissing : site ∉ topology) :
      Misplaced topology (.grid site) (.offDevice site)

/-- What is first wrong with an operation. -/
inductive Operation.FirstFlaw (topology : Topology) : Operation → DeviceError → Prop
  /-- The operation is no plain gate. -/
  | composite {operation : Operation} (hform : operation.gate? = none) :
      FirstFlaw topology operation (.unsupportedOperation operation)
  | custom {name : String} {arity : UInt64} {qubits : List Qubit} :
      FirstFlaw topology (.plain (.custom name arity) qubits) (.unsupportedGate name)
  | count {gate : Gate} {qubits : List Qubit} (hnative : ∀ name arity, gate ≠ .custom name arity)
      (hcount : ¬ gate.Takes qubits.length) :
      FirstFlaw topology (.plain gate qubits) (.unsupportedOperation (.plain gate qubits))
  | operand {gate : Gate} {before after : List Qubit} {qubit : Qubit} {error : DeviceError}
      (hnative : ∀ name arity, gate ≠ .custom name arity)
      (hcount : gate.Takes (before ++ qubit :: after).length)
      (hbefore : ∀ earlier ∈ before, ∃ site ∈ topology, earlier = .grid site)
      (hqubit : qubit.Misplaced topology error) :
      FirstFlaw topology (.plain gate (before ++ qubit :: after)) error
  /-- Only interactions are left here: all other gates take one operand or may span any sites. -/
  | distant {exponent : Float} {a b : Site} (ha : a ∈ topology) (hb : b ∈ topology)
      (hfar : a.distance b ≠ 1) :
      FirstFlaw topology (.plain (.interaction exponent) [.grid a, .grid b])
        (.nonLocal (.plain (.interaction exponent) [.grid a, .grid b]))

namespace Topology

variable {topology : Topology} {error : DeviceError}

theorem siteOf_eq_error_iff {qubit : Qubit} :
    topology.siteOf qubit = .error error ↔ qubit.Misplaced topology error := by
  constructor
  · intro herror
    cases qubit with
    | grid site =>
        by_cases hmem : site ∈ topology
        · simp [siteOf, Qubit.site?, hmem] at herror
        · obtain rfl : DeviceError.offDevice site = error := by
            simpa [siteOf, Qubit.site?, hmem] using herror
          exact .missing hmem
    | line index =>
        obtain rfl := Except.error.inj herror
        exact .elsewhere (by simp)
    | named name =>
        obtain rfl := Except.error.inj herror
        exact .elsewhere (by simp)
  · intro hmisplaced
    cases hmisplaced with
    | elsewhere hother =>
        cases qubit with
        | grid site => exact absurd rfl (hother site)
        | line index => rfl
        | named name => rfl
    | missing hmissing => simp [siteOf, Qubit.site?, hmissing]

theorem mapM_siteOf_eq_error_iff {qubits : List Qubit} :
    qubits.mapM topology.siteOf = .error error ↔
      ∃ before qubit after, qubits = before ++ qubit :: after ∧
        (∀ earlier ∈ before, ∃ site ∈ topology, earlier = .grid site) ∧
          qubit.Misplaced topology error := by
  simp only [mapM_eq_error_iff, siteOf_eq_error_iff, siteOf_eq_ok_iff, and_comm (b := _ ∈ topology)]

/-- Sites that are not local although they are as many as the gate takes belong to an
interaction. -/
theorem exists_interaction_of_areLocal_eq_false {gate : Gate} {kind : GateKind} {sites : List Site}
    (hkind : gate.kind? = some kind) (hcount : gate.Takes sites.length)
    (hfar : areLocal kind sites = false) :
    ∃ exponent a b, gate = .interaction exponent ∧ sites = [a, b] ∧ a.distance b ≠ 1 := by
  rw [← Bool.not_eq_true, areLocal_iff] at hfar
  push Not at hfar
  obtain ⟨hmeasured, a, b, rfl, hdistance⟩ := hfar
  cases gate with
  | interaction exponent => exact ⟨exponent, a, b, rfl, rfl, hdistance⟩
  | rotation axis exponent => simp [Gate.Takes] at hcount
  | phase exponent virtual => simp [Gate.Takes] at hcount
  | measure key => exact absurd (Option.some.inj hkind).symm hmeasured
  | custom name arity => cases hkind

/-- A native gate is refused for the number of its operands, for one of them, or for sites that are
not local. -/
theorem checkOperation_plain_eq_error_iff {gate : Gate} {kind : GateKind} {qubits : List Qubit}
    (hkind : gate.kind? = some kind) :
    topology.checkOperation (.plain gate qubits) = .error error ↔
      ¬ gate.Takes qubits.length ∧ error = .unsupportedOperation (.plain gate qubits) ∨
        gate.Takes qubits.length ∧ (qubits.mapM topology.siteOf = .error error ∨
          ∃ sites, qubits.mapM topology.siteOf = .ok sites ∧ areLocal kind sites = false ∧
            error = .nonLocal (.plain gate qubits)) := by
  rw [checkOperation_plain_of_kind hkind, ← Gate.accepts_iff]
  by_cases hcount : gate.accepts qubits.length = true
  · have hlocal (sites : List Site) :
        (if areLocal kind sites then .ok () else .error (.nonLocal (.plain gate qubits)) :
            Except DeviceError Unit) = .error error ↔
          areLocal kind sites = false ∧ error = .nonLocal (.plain gate qubits) := by
      cases areLocal kind sites <;> simp [eq_comm]
    rw [if_pos hcount, bind_eq_error_iff]
    simp only [hlocal, hcount, not_true_eq_false, false_and, false_or, true_and]
  · rw [if_neg hcount]
    constructor
    · intro herror
      exact .inl ⟨hcount, (Except.error.inj herror).symm⟩
    · rintro (⟨-, rfl⟩ | ⟨haccepts, -⟩)
      · rfl
      · exact absurd haccepts hcount

theorem checkOperation_eq_error_iff {operation : Operation} :
    topology.checkOperation operation = .error error ↔ operation.FirstFlaw topology error := by
  constructor
  · intro herror
    cases operation with
    | conditional key gate qubits =>
        obtain rfl := Except.error.inj herror
        exact .composite rfl
    | subcircuit parts qubits =>
        obtain rfl := Except.error.inj herror
        exact .composite rfl
    | plain gate qubits =>
        by_cases hnative : ∀ name arity, gate ≠ .custom name arity
        · obtain ⟨kind, hkind⟩ := Gate.exists_kind?_iff.mpr hnative
          rcases (checkOperation_plain_eq_error_iff hkind).mp herror with
            ⟨hcount, rfl⟩ | ⟨hcount, hoperand | ⟨sites, hsites, hfar, rfl⟩⟩
          · exact .count hnative hcount
          · obtain ⟨before, qubit, after, rfl, hbefore, hqubit⟩ :=
              mapM_siteOf_eq_error_iff.mp hoperand
            exact .operand hnative hcount hbefore hqubit
          · obtain ⟨rfl, hmem⟩ := mapM_siteOf_eq_ok_iff.mp hsites
            rw [List.length_map] at hcount
            obtain ⟨exponent, a, b, rfl, rfl, hdistance⟩ :=
              exists_interaction_of_areLocal_eq_false hkind hcount hfar
            exact .distant (hmem a (by simp)) (hmem b (by simp)) hdistance
        · push Not at hnative
          obtain ⟨name, arity, rfl⟩ := hnative
          obtain rfl := Except.error.inj herror
          exact .custom
  · intro hflaw
    cases hflaw with
    | composite hform => rw [checkOperation, hform]
    | custom => rfl
    | count hnative hcount =>
        obtain ⟨kind, hkind⟩ := Gate.exists_kind?_iff.mpr hnative
        exact (checkOperation_plain_eq_error_iff hkind).mpr (.inl ⟨hcount, rfl⟩)
    | operand hnative hcount hbefore hqubit =>
        obtain ⟨kind, hkind⟩ := Gate.exists_kind?_iff.mpr hnative
        refine (checkOperation_plain_eq_error_iff hkind).mpr (.inr ⟨hcount, .inl ?_⟩)
        exact mapM_siteOf_eq_error_iff.mpr ⟨_, _, _, rfl, hbefore, hqubit⟩
    | @distant exponent a b ha hb hfar =>
        have hcount : (Gate.interaction exponent).Takes [Qubit.grid a, .grid b].length := rfl
        have hsites : [Qubit.grid a, .grid b].mapM topology.siteOf = .ok [a, b] :=
          mapM_siteOf_eq_ok_iff.mpr ⟨rfl, by simp [ha, hb]⟩
        have hlocal : areLocal .interaction [a, b] = false := by
          rw [← Bool.not_eq_true, areLocal_iff]
          exact fun hnear => hfar (hnear (by simp) a b rfl)
        exact (checkOperation_plain_eq_error_iff rfl).mpr
          (.inr ⟨hcount, .inr ⟨[a, b], hsites, hlocal, rfl⟩⟩)

end Topology

/-! ### Conflicts -/

/-- Two conflicting operations whose positions come first in lexicographic order. -/
structure EarliestConflict (operations : List Operation) (i j : Nat) (first second : Operation) :
    Prop where
  first_eq : operations[i]? = some first
  second_eq : operations[j]? = some second
  ordered : i < j
  conflicts : first.conflicts second = true
  least : ∀ k l a b, operations[k]? = some a → operations[l]? = some b → k < l →
    a.conflicts b = true → i < k ∨ i = k ∧ j ≤ l

section Conflicts

variable {operations rest : List Operation} {first second : Operation} {index i j : Nat}

theorem exists_of_conflictWith?_eq_some {k : Nat}
    (hfound : conflictWith? first index operations = some (k, second)) :
    ∃ j, k = index + j ∧ operations[j]? = some second ∧ first.conflicts second = true ∧
      ∀ (l : Nat) b, operations[l]? = some b → first.conflicts b = true → j ≤ l := by
  induction operations generalizing index with
  | nil => simp [conflictWith?] at hfound
  | cons operation rest ih =>
      rw [conflictWith?] at hfound
      by_cases hconflicts : first.conflicts operation = true
      · rw [if_pos hconflicts] at hfound
        obtain ⟨rfl, rfl⟩ := Prod.mk.inj (Option.some.inj hfound)
        exact ⟨0, rfl, rfl, hconflicts, fun l b _ _ => Nat.zero_le l⟩
      · rw [if_neg hconflicts] at hfound
        obtain ⟨j, rfl, hsecond, hconflict, hleast⟩ := ih hfound
        refine ⟨j + 1, by omega, hsecond, hconflict, fun l b hb hother => ?_⟩
        cases l with
        | zero =>
            obtain rfl : operation = b := Option.some.inj hb
            exact absurd hother hconflicts
        | succ l => exact Nat.succ_le_succ (hleast l b hb hother)

/-- A conflict of the first operation with an earliest one of the rest comes before all conflicts
within the rest. -/
theorem EarliestConflict.of_first (hsecond : rest[j]? = some second)
    (hconflicts : first.conflicts second = true)
    (hleast : ∀ (l : Nat) b, rest[l]? = some b → first.conflicts b = true → j ≤ l) :
    EarliestConflict (first :: rest) 0 (j + 1) first second := by
  refine ⟨rfl, hsecond, Nat.succ_pos j, hconflicts, fun k l a b ha hb hkl hother => ?_⟩
  cases k with
  | succ k => exact .inl (Nat.succ_pos k)
  | zero =>
      obtain rfl : first = a := Option.some.inj ha
      cases l with
      | zero => exact absurd hkl (Nat.lt_irrefl 0)
      | succ l => exact .inr ⟨rfl, Nat.succ_le_succ (hleast l b hb hother)⟩

theorem EarliestConflict.cons {operation : Operation}
    (hearliest : EarliestConflict rest i j first second)
    (hapart : ∀ other ∈ rest, operation.Apart other) :
    EarliestConflict (operation :: rest) (i + 1) (j + 1) first second := by
  refine ⟨hearliest.first_eq, hearliest.second_eq, Nat.succ_lt_succ hearliest.ordered,
    hearliest.conflicts, fun k l a b ha hb hkl hother => ?_⟩
  obtain ⟨l, rfl⟩ : ∃ m, l = m + 1 := Nat.exists_eq_add_one_of_ne_zero (by omega)
  cases k with
  | zero =>
      obtain rfl : operation = a := Option.some.inj ha
      have hquiet : operation.conflicts b = false :=
        Operation.conflicts_eq_false_iff.mpr (hapart b (List.mem_of_getElem? hb))
      simp [hquiet] at hother
  | succ k =>
      rcases hearliest.least k l a b ha hb (by omega) hother with hlt | ⟨rfl, hle⟩
      · exact .inl (Nat.succ_lt_succ hlt)
      · exact .inr ⟨rfl, Nat.succ_le_succ hle⟩

theorem exists_of_conflictFrom?_eq_some {conflict : Conflict}
    (hfound : conflictFrom? index operations = some conflict) :
    ∃ i j, conflict.firstIndex = index + i ∧ conflict.secondIndex = index + j ∧
      EarliestConflict operations i j conflict.first conflict.second := by
  induction operations generalizing index with
  | nil => simp [conflictFrom?] at hfound
  | cons first rest ih =>
      rw [conflictFrom?] at hfound
      cases hwith : conflictWith? first (index + 1) rest with
      | some found =>
          obtain ⟨k, second⟩ := found
          obtain ⟨j, rfl, hsecond, hconflicts, hleast⟩ := exists_of_conflictWith?_eq_some hwith
          rw [hwith] at hfound
          obtain rfl := Option.some.inj hfound
          exact ⟨0, j + 1, rfl, by simp; omega, .of_first hsecond hconflicts hleast⟩
      | none =>
          rw [hwith] at hfound
          obtain ⟨i, j, hi, hj, hearliest⟩ := ih hfound
          have hapart := (conflictWith?_eq_none_iff (index + 1)).mp hwith
          exact ⟨i + 1, j + 1, by omega, by omega, hearliest.cons hapart⟩

theorem EarliestConflict.unique {i' j' : Nat} {first' second' : Operation}
    (hearliest : EarliestConflict operations i j first second)
    (hearliest' : EarliestConflict operations i' j' first' second') :
    first = first' ∧ second = second' := by
  have hle := hearliest.least _ _ _ _ hearliest'.first_eq hearliest'.second_eq
    hearliest'.ordered hearliest'.conflicts
  have hge := hearliest'.least _ _ _ _ hearliest.first_eq hearliest.second_eq
    hearliest.ordered hearliest.conflicts
  obtain rfl : i = i' := by omega
  obtain rfl : j = j' := by omega
  exact ⟨Option.some.inj (hearliest.first_eq.symm.trans hearliest'.first_eq),
    Option.some.inj (hearliest.second_eq.symm.trans hearliest'.second_eq)⟩

/-- Operations among which there is a conflict are not apart. -/
theorem EarliestConflict.not_pairwise (hearliest : EarliestConflict operations i j first second) :
    ¬ operations.Pairwise Operation.Apart := by
  intro hpairwise
  obtain ⟨hi, hfirst⟩ := List.getElem?_eq_some_iff.mp hearliest.first_eq
  obtain ⟨hj, hsecond⟩ := List.getElem?_eq_some_iff.mp hearliest.second_eq
  have hapart := List.pairwise_iff_getElem.mp hpairwise i j hi hj hearliest.ordered
  rw [hfirst, hsecond, ← Operation.conflicts_eq_false_iff] at hapart
  simp [hearliest.conflicts] at hapart

/-- The search for a conflict among operations that carry their positions. -/
def conflictAmong? : List (Operation × Nat) → Option Conflict
  | [] => none
  | (first, i) :: rest =>
    match rest.find? fun entry => first.conflicts entry.1 with
    | some (second, j) => some ⟨i, first, j, second⟩
    | none => conflictAmong? rest

theorem conflictWith?_eq_find? (first : Operation) (index : Nat) (operations : List Operation) :
    conflictWith? first index operations =
      (((operations.zipIdx index).filter fun entry => entry.1.isInteraction).find?
        fun entry => first.conflicts entry.1).map Prod.swap := by
  induction operations generalizing index with
  | nil => rfl
  | cons operation rest ih =>
      rw [conflictWith?, List.zipIdx_cons, List.filter_cons, ih]
      by_cases hinteraction : operation.isInteraction = true
      · rw [if_pos hinteraction, List.find?_cons]
        cases first.conflicts operation <;> rfl
      · have hquiet : ¬ first.conflicts operation = true := by
          simp [Operation.conflicts, hinteraction]
        rw [if_neg hinteraction, if_neg hquiet]

theorem conflictFrom?_eq_conflictAmong? (index : Nat) (operations : List Operation) :
    conflictFrom? index operations =
      conflictAmong? ((operations.zipIdx index).filter fun entry => entry.1.isInteraction) := by
  induction operations generalizing index with
  | nil => rfl
  | cons first rest ih =>
      rw [conflictFrom?, List.zipIdx_cons, List.filter_cons, ih]
      by_cases hinteraction : first.isInteraction = true
      · rw [if_pos hinteraction, conflictAmong?, conflictWith?_eq_find?]
        cases List.find? _ _ <;> rfl
      · have hnone : conflictWith? first (index + 1) rest = none :=
          (conflictWith?_eq_none_iff _).mpr fun other _ hfirst => absurd hfirst hinteraction
        rw [if_neg hinteraction, hnone]

end Conflicts

/-! ### Moments and circuits -/

/-- What is first wrong with a moment. -/
inductive Moment.FirstFlaw (topology : Topology) (moment : Moment) : DeviceError → Prop
  | overlap {qubit : Qubit} (hrepeat : FirstRepeat moment.qubits qubit) :
      FirstFlaw topology moment (.overlap qubit)
  | operation {before after : List Operation} {operation : Operation} {error : DeviceError}
      (hdistinct : moment.qubits.Nodup)
      (hsplit : moment.operations = before ++ operation :: after)
      (hbefore : ∀ earlier ∈ before, topology.checkOperation earlier = .ok ())
      (hflaw : operation.FirstFlaw topology error) :
      FirstFlaw topology moment error
  | conflict {i j : Nat} {first second : Operation} (hdistinct : moment.qubits.Nodup)
      (hoperations : ∀ operation ∈ moment.operations, topology.checkOperation operation = .ok ())
      (hconflict : EarliestConflict moment.operations i j first second) :
      FirstFlaw topology moment (.adjacentInteractions first second)

/-- The conflict of a moment is found among its interactions alone, which keep the positions that
they have among all operations. -/
theorem Moment.conflict?_eq_conflictAmong? (moment : Moment) :
    moment.conflict? =
      conflictAmong? (moment.operations.zipIdx.filter fun entry => entry.1.isInteraction) :=
  conflictFrom?_eq_conflictAmong? 0 moment.operations

theorem Moment.checkExclusion_eq_error_iff {moment : Moment} {error : DeviceError} :
    moment.checkExclusion = .error error ↔ ∃ i j first second,
      EarliestConflict moment.operations i j first second ∧
        error = .adjacentInteractions first second := by
  rw [checkExclusion, conflict?]
  cases hfound : conflictFrom? 0 moment.operations with
  | none =>
      have hpairwise := (conflictFrom?_eq_none_iff 0).mp hfound
      constructor
      · intro herror
        cases herror
      · rintro ⟨i, j, first, second, hearliest, -⟩
        exact absurd hpairwise hearliest.not_pairwise
  | some conflict =>
      obtain ⟨i, j, -, -, hfirst⟩ := exists_of_conflictFrom?_eq_some hfound
      constructor
      · intro herror
        exact ⟨i, j, conflict.first, conflict.second, hfirst, (Except.error.inj herror).symm⟩
      · rintro ⟨_, _, first, second, hearliest, rfl⟩
        obtain ⟨rfl, rfl⟩ := hearliest.unique hfirst
        rfl

theorem Circuit.checkKeys_eq_error_iff {circuit : Circuit} {error : DeviceError} :
    circuit.checkKeys = .error error ↔
      ∃ key, FirstRepeat circuit.keys key ∧ error = .repeatedKey key := by
  simp only [← firstRepeat?_eq_some_iff, checkKeys]
  cases firstRepeat? circuit.keys <;> simp [eq_comm]

namespace Device

variable {durations : GateDurations} {topology : Topology} {error : DeviceError}

theorem noOverlap_checkMoment_eq_error_iff {moment : Moment} :
    HostChecks.noOverlap.checkMoment moment = .error error ↔
      ∃ qubit, FirstRepeat moment.qubits qubit ∧ error = .overlap qubit := by
  simp only [← firstRepeat?_eq_some_iff, HostChecks.noOverlap, Moment.overlap?]
  cases firstRepeat? moment.qubits <;> simp [eq_comm]

theorem checkMoment_eq_error_iff (durations : GateDurations) {moment : Moment} :
    (ofParts durations topology).checkMoment moment = .error error ↔
      moment.FirstFlaw topology error := by
  have hhost : (ofParts durations topology).host.checkMoment moment = .ok () ↔
      moment.qubits.Nodup := noOverlap_checkMoment_eq_ok_iff
  have hhostError : (ofParts durations topology).host.checkMoment moment = .error error ↔
      ∃ qubit, FirstRepeat moment.qubits qubit ∧ error = .overlap qubit :=
    noOverlap_checkMoment_eq_error_iff
  have hcheck : (ofParts durations topology).checkOperation = topology.checkOperation := rfl
  simp only [checkMoment, check_bind_eq_error_iff, hhost, hhostError, hcheck, forM_eq_error_iff,
    forM_eq_ok_iff, Topology.checkOperation_eq_error_iff, Moment.checkExclusion_eq_error_iff]
  constructor
  · rintro (⟨qubit, hrepeat, rfl⟩ | ⟨hdistinct, hrest⟩)
    · exact .overlap hrepeat
    rcases hrest with ⟨before, operation, after, hsplit, hbefore, hflaw⟩ |
      ⟨hoperations, i, j, first, second, hconflict, rfl⟩
    · exact .operation hdistinct hsplit hbefore hflaw
    · exact .conflict hdistinct hoperations hconflict
  · intro hflaw
    cases hflaw with
    | overlap hrepeat => exact .inl ⟨_, hrepeat, rfl⟩
    | operation hdistinct hsplit hbefore hflaw =>
        exact .inr ⟨hdistinct, .inl ⟨_, _, _, hsplit, hbefore, hflaw⟩⟩
    | conflict hdistinct hoperations hconflict =>
        exact .inr ⟨hdistinct, .inr ⟨hoperations, _, _, _, _, hconflict, rfl⟩⟩

/-- Validation of a circuit, for a device whose host has no rules of its own, fails with an error
exactly when this is the first flaw of the first moment that is not accepted, or when all moments
are accepted and it names the measurement key whose second occurrence comes first. -/
theorem checkCircuit_reports_first_flaw (durations : GateDurations) (topology : Topology)
    (circuit : Circuit) (error : DeviceError) :
    (ofParts durations topology).checkCircuit circuit = .error error ↔
      (∃ before moment after, circuit.moments = before ++ moment :: after ∧
        (∀ earlier ∈ before, (ofParts durations topology).checkMoment earlier = .ok ()) ∧
          moment.FirstFlaw topology error) ∨
      ((∀ moment ∈ circuit.moments, (ofParts durations topology).checkMoment moment = .ok ()) ∧
        ∃ key, FirstRepeat circuit.keys key ∧ error = .repeatedKey key) := by
  simp only [checkCircuit, check_bind_eq_error_iff, forM_eq_error_iff, forM_eq_ok_iff,
    checkMoment_eq_error_iff, Circuit.checkKeys_eq_error_iff]

/-- An operand that is missing is reported before the conflict in the same moment, and both before
the key that is used twice. -/
example : foxtail.checkCircuit ⟨"flawed", [
    ⟨[.plain (.measure "m") [.grid ⟨0, 0⟩], .plain (.measure "m") [.grid ⟨0, 1⟩]]⟩,
    ⟨[.plain (.interaction 1.0) [.grid ⟨0, 0⟩, .grid ⟨0, 1⟩],
      .plain (.interaction 1.0) [.grid ⟨1, 0⟩, .grid ⟨1, 1⟩],
      .plain (.phase 0.5 false) [.grid ⟨5, 5⟩]]⟩]⟩ = .error (.offDevice ⟨5, 5⟩) := rfl

end Device

end GridCircuit
