import GridCircuit.Pipeline.Mapping
import GridCircuit.Proofs.Attempt
import GridCircuit.Proofs.Operands

/-!
# Renaming qubits

`Operation.mapQubits` renames the qubits of an operation and of all its parts, and may fail on any
of them.  Here it is split into two things that cannot fail: the list of the qubits that occur in
an operation, in the order in which they are renamed, and `Operation.relabel`, which replaces every
occurrence.  A renaming succeeds exactly when it does on every occurrence, and then it relabels.
Where it fails, it does so as on the list of the occurrences (`mapQubits_eq_error_iff`).

For a qubit map this gives `onCircuit_eq_ok_iff`: a circuit is mapped when every occurring qubit has
a site and the operations of each moment stay disjoint, and the result is the relabelled circuit.
-/

namespace GridCircuit

open Attempt

/-- Mapping changes nothing in a list all of whose members are fixed. -/
theorem map_eq_self {α : Type} {f : α → α} {members : List α} (hfixed : ∀ a ∈ members, f a = a) :
    members.map f = members :=
  (List.map_congr_left hfixed).trans (List.map_id _)

namespace Operation

mutual

/-- The qubits that occur in an operation, those of its parts before its own. -/
def occurrences : Operation → List Qubit
  | plain _ qubits => qubits
  | conditional _ _ qubits => qubits
  | subcircuit parts qubits => occurrencesInParts parts ++ qubits

/-- The qubits that occur in operations, from left to right. -/
def occurrencesInParts : List Operation → List Qubit
  | [] => []
  | operation :: rest => occurrences operation ++ occurrencesInParts rest

end

mutual

/-- The operation with every qubit replaced, at every depth. -/
def relabel (label : Qubit → Qubit) : Operation → Operation
  | plain gate qubits => plain gate (qubits.map label)
  | conditional key gate qubits => conditional key gate (qubits.map label)
  | subcircuit parts qubits => subcircuit (relabelParts label parts) (qubits.map label)

/-- The operations with every qubit replaced. -/
def relabelParts (label : Qubit → Qubit) : List Operation → List Operation
  | [] => []
  | operation :: rest => relabel label operation :: relabelParts label rest

end

variable {ε : Type} {rename : Qubit → Except ε Qubit} {label : Qubit → Qubit}
  {operation : Operation} {qubit : Qubit}

theorem mem_occurrencesInParts {parts : List Operation} :
    qubit ∈ occurrencesInParts parts ↔ ∃ part ∈ parts, qubit ∈ part.occurrences := by
  induction parts with
  | nil => simp [occurrencesInParts]
  | cons part rest ih => simp [occurrencesInParts, ih]

theorem relabelParts_eq_map (label : Qubit → Qubit) (parts : List Operation) :
    relabelParts label parts = parts.map (relabel label) := by
  induction parts with
  | nil => rfl
  | cons part rest ih => simp [relabelParts, ih]

theorem mapParts_eq_mapM (rename : Qubit → Except ε Qubit) (parts : List Operation) :
    mapParts rename parts = parts.mapM (mapQubits rename) := by
  induction parts with
  | nil => rfl
  | cons part rest ih => rw [mapParts, ih, List.mapM_cons]

/-! ## Relabelling -/

theorem mem_occurrences_of_mem_qubits (hqubit : qubit ∈ operation.qubits) :
    qubit ∈ operation.occurrences := by
  cases operation with
  | plain gate qubits => exact hqubit
  | conditional key gate qubits => exact hqubit
  | subcircuit parts qubits => exact List.mem_append_right _ hqubit

@[simp] theorem qubits_relabel : (operation.relabel label).qubits = operation.qubits.map label := by
  cases operation <;> rfl

theorem occurrences_relabel :
    (operation.relabel label).occurrences = operation.occurrences.map label := by
  induction operation with
  | plain gate qubits => rfl
  | conditional key gate qubits => rfl
  | subcircuit parts qubits ih =>
      have hparts : occurrencesInParts (relabelParts label parts) =
          (occurrencesInParts parts).map label := by
        induction parts with
        | nil => rfl
        | cons part rest ihrest =>
            obtain ⟨hpart, hrest⟩ := List.forall_mem_cons.mp ih
            simp [relabelParts, occurrencesInParts, hpart, ihrest hrest]
      simp [relabel, occurrences, hparts]

/-- Relabelling changes nothing where every occurring qubit keeps its label. -/
theorem relabel_eq_self (hfixed : ∀ qubit ∈ operation.occurrences, label qubit = qubit) :
    operation.relabel label = operation := by
  induction operation with
  | plain gate qubits =>
      simp only [occurrences] at hfixed
      rw [relabel, map_eq_self hfixed]
  | conditional key gate qubits =>
      simp only [occurrences] at hfixed
      rw [relabel, map_eq_self hfixed]
  | subcircuit parts qubits ih =>
      simp only [occurrences, List.mem_append, or_imp, forall_and] at hfixed
      have hparts : relabelParts label parts = parts := by
        rw [relabelParts_eq_map]
        refine map_eq_self fun part hpart => ih part hpart fun qubit hqubit => ?_
        exact hfixed.1 qubit (mem_occurrencesInParts.mpr ⟨part, hpart, hqubit⟩)
      rw [relabel, hparts, map_eq_self hfixed.2]

/-! ## When a renaming succeeds -/

/-- A renaming that succeeds on every occurring qubit relabels the operation. -/
theorem mapQubits_eq_ok_relabel
    (hrename : ∀ qubit ∈ operation.occurrences, rename qubit = .ok (label qubit)) :
    operation.mapQubits rename = .ok (operation.relabel label) := by
  induction operation with
  | plain gate qubits =>
      simp only [occurrences] at hrename
      rw [mapQubits, mapM_eq_ok_map hrename]
      rfl
  | conditional key gate qubits =>
      simp only [occurrences] at hrename
      rw [mapQubits, mapM_eq_ok_map hrename]
      rfl
  | subcircuit parts qubits ih =>
      simp only [occurrences, List.mem_append, or_imp, forall_and] at hrename
      have hparts : parts.mapM (mapQubits rename) = .ok (parts.map (relabel label)) := by
        refine mapM_eq_ok_map fun part hpart => ih part hpart fun qubit hqubit => ?_
        exact hrename.1 qubit (mem_occurrencesInParts.mpr ⟨part, hpart, hqubit⟩)
      rw [mapQubits, mapParts_eq_mapM, hparts, mapM_eq_ok_map hrename.2, relabel,
        relabelParts_eq_map]
      rfl

/-- The occurrences in a renamed operation are the renamed occurrences, and renaming an operation
fails as renaming its occurrences one by one does. -/
theorem map_occurrences_mapQubits :
    occurrences <$> operation.mapQubits rename = operation.occurrences.mapM rename := by
  induction operation with
  | plain gate qubits => simp [mapQubits, occurrences]
  | conditional key gate qubits => simp [mapQubits, occurrences]
  | subcircuit parts qubits ih =>
      have hparts : occurrencesInParts <$> mapParts rename parts =
          (occurrencesInParts parts).mapM rename := by
        induction parts with
        | nil => rfl
        | cons part rest ihrest =>
            obtain ⟨hpart, hrest⟩ := List.forall_mem_cons.mp ih
            rw [occurrencesInParts, List.mapM_append, ← hpart, ← ihrest hrest]
            simp [mapParts, occurrencesInParts]
      rw [occurrences, List.mapM_append, ← hparts]
      simp [mapQubits, occurrences]

/-- A renaming that succeeds on an operation has succeeded on every occurring qubit. -/
theorem exists_rename_of_mapQubits {renamed : Operation}
    (hrenamed : operation.mapQubits rename = .ok renamed) :
    ∀ qubit ∈ operation.occurrences, ∃ image, rename qubit = .ok image := by
  have himages : operation.occurrences.mapM rename = .ok renamed.occurrences := by
    rw [← map_occurrences_mapQubits, hrenamed]
    rfl
  exact exists_mapM_eq_ok_iff.mp ⟨_, himages⟩

/-- What renaming an operation fails with is what renaming its occurrences fails with. -/
theorem mapQubits_eq_error_iff {reason : ε} : operation.mapQubits rename = .error reason ↔
    operation.occurrences.mapM rename = .error reason := by
  rw [← map_occurrences_mapQubits]
  cases operation.mapQubits rename <;> simp [Functor.map, Except.map]

end Operation

/-! ## Relabelled moments and circuits -/

/-- The moment with every qubit replaced. -/
def Moment.relabel (label : Qubit → Qubit) (moment : Moment) : Moment :=
  ⟨moment.operations.map (Operation.relabel label)⟩

theorem Moment.spread_relabel_iff {label : Qubit → Qubit} {moment : Moment} :
    Spread (moment.relabel label).operations ↔
      moment.operations.Pairwise fun a b => (a.qubits.map label).Disjoint (b.qubits.map label) := by
  simp [Spread, Moment.relabel, List.pairwise_map]

/-- The circuit with every qubit replaced. -/
def Circuit.relabel (label : Qubit → Qubit) (circuit : Circuit) : Circuit :=
  { circuit with moments := circuit.moments.map (Moment.relabel label) }

theorem Circuit.operations_relabel (label : Qubit → Qubit) (circuit : Circuit) :
    (circuit.relabel label).operations = circuit.operations.map (Operation.relabel label) := by
  simp [Circuit.relabel, Circuit.operations, Moment.relabel, List.map_flatMap, List.flatMap_map]

/-! ## Qubit maps -/

namespace QubitMap

variable {map : QubitMap} {circuit mapped : Circuit}

/-- The qubit that stands for a qubit; one without a site stays. -/
def image (map : QubitMap) (qubit : Qubit) : Qubit :=
  match map qubit with
  | some site => .grid site
  | none => qubit

theorem rename_eq_ok_iff {qubit renamed : Qubit} :
    map.rename qubit = .ok renamed ↔ (map qubit).isSome = true ∧ renamed = map.image qubit := by
  unfold rename image
  cases map qubit <;> simp [eq_comm]

/-- The map has a site for every qubit that occurs in an operation. -/
def Covers (map : QubitMap) (operation : Operation) : Prop :=
  ∀ qubit ∈ operation.occurrences, (map qubit).isSome = true

theorem mapQubits_eq_ok_iff {operation renamed : Operation} :
    operation.mapQubits map.rename = .ok renamed ↔
      map.Covers operation ∧ renamed = operation.relabel map.image := by
  have hrelabel (hcovers : map.Covers operation) :
      operation.mapQubits map.rename = .ok (operation.relabel map.image) :=
    Operation.mapQubits_eq_ok_relabel fun qubit hqubit =>
      rename_eq_ok_iff.mpr ⟨hcovers qubit hqubit, rfl⟩
  constructor
  · intro hrenamed
    have hcovers : map.Covers operation := fun qubit hqubit => by
      obtain ⟨image, himage⟩ := Operation.exists_rename_of_mapQubits hrenamed qubit hqubit
      exact (rename_eq_ok_iff.mp himage).1
    exact ⟨hcovers, Except.ok.inj (hrenamed.symm.trans (hrelabel hcovers))⟩
  · rintro ⟨hcovers, rfl⟩
    exact hrelabel hcovers

theorem image_of_eq_some {qubit : Qubit} {site : Site} (hsite : map qubit = some site) :
    map.image qubit = .grid site := by
  simp [image, hsite]

theorem Covers.exists_site {operation : Operation} (hcovers : map.Covers operation) {qubit : Qubit}
    (hqubit : qubit ∈ operation.qubits) : ∃ site, map qubit = some site :=
  Option.isSome_iff_exists.mp (hcovers qubit (Operation.mem_occurrences_of_mem_qubits hqubit))

/-- The operands of a mapped operation are the sites of its operands. -/
theorem Covers.mem_qubits_relabel_iff {operation : Operation} (hcovers : map.Covers operation)
    {qubit : Qubit} :
    qubit ∈ (operation.relabel map.image).qubits ↔
      ∃ site, qubit = .grid site ∧ ∃ operand ∈ operation.qubits, map operand = some site := by
  rw [Operation.qubits_relabel, List.mem_map]
  constructor
  · rintro ⟨operand, hoperand, rfl⟩
    obtain ⟨site, hsite⟩ := hcovers.exists_site hoperand
    exact ⟨site, image_of_eq_some hsite, operand, hoperand, hsite⟩
  · rintro ⟨site, rfl, operand, hoperand, hsite⟩
    exact ⟨operand, hoperand, image_of_eq_some hsite⟩

theorem mapM_mapQubits_eq_ok_iff {operations renamed : List Operation} :
    (operations.mapM fun operation => operation.mapQubits map.rename) = .ok renamed ↔
      (∀ operation ∈ operations, map.Covers operation) ∧
        renamed = operations.map (Operation.relabel map.image) :=
  mapM_eq_ok_iff_of_forall fun _ _ _ => mapQubits_eq_ok_iff

theorem onMoment_eq_ok_iff {moment renamed : Moment} : map.onMoment moment = .ok renamed ↔
    ((∀ operation ∈ moment.operations, map.Covers operation) ∧
      Moment.Spread (moment.relabel map.image).operations) ∧
        renamed = moment.relabel map.image := by
  simp only [onMoment, bind_eq_ok_iff, mapM_mapQubits_eq_ok_iff, mapError_eq_ok_iff,
    Moment.ofOperations_eq_ok_iff]
  constructor
  · rintro ⟨_, ⟨hcovers, rfl⟩, rfl, hspread⟩
    exact ⟨⟨hcovers, hspread⟩, rfl⟩
  · rintro ⟨⟨hcovers, hspread⟩, rfl⟩
    exact ⟨_, ⟨hcovers, rfl⟩, rfl, hspread⟩

/-- A circuit can be mapped when every qubit that occurs in it has a site and the operations of a
moment are mapped to disjoint sites. -/
structure Maps (map : QubitMap) (circuit : Circuit) : Prop where
  covers : ∀ operation ∈ circuit.operations, map.Covers operation
  spread : ∀ moment ∈ circuit.moments, moment.operations.Pairwise fun a b =>
    (a.qubits.map map.image).Disjoint (b.qubits.map map.image)

theorem onCircuit_eq_ok_iff :
    map.onCircuit circuit = .ok mapped ↔ map.Maps circuit ∧ mapped = circuit.relabel map.image := by
  simp only [onCircuit, bind_eq_ok_iff, pure_eq_ok_iff,
    mapM_eq_ok_iff_of_forall fun _ _ _ => onMoment_eq_ok_iff]
  constructor
  · rintro ⟨_, ⟨hall, rfl⟩, rfl⟩
    exact ⟨⟨Circuit.forall_mem_operations.mpr fun moment hmem => (hall moment hmem).1,
      fun moment hmem => Moment.spread_relabel_iff.mp (hall moment hmem).2⟩, rfl⟩
  · rintro ⟨⟨hcovers, hspread⟩, rfl⟩
    exact ⟨_, ⟨fun moment hmoment => ⟨Circuit.forall_mem_operations.mp hcovers moment hmoment,
      Moment.spread_relabel_iff.mpr (hspread moment hmoment)⟩, rfl⟩, rfl⟩

end QubitMap

end GridCircuit
