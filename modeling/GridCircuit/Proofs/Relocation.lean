import GridCircuit.Pipeline.Distance
import GridCircuit.Pipeline.Error
import GridCircuit.Proofs.Legality
import GridCircuit.Proofs.Renaming
import GridCircuit.Proofs.Translation
import Mathlib.Data.List.Find
import Mathlib.Data.Set.Function

/-!
# Moving sites

A device looks at its sites in two ways only: it asks whether two are the same, and whether two are
neighbours.  So all its decisions stay what they are when the sites are moved by a function that is
injective and keeps neighbours (`Site.Embeds`), and what it reports are the moved sites, qubits and
operations.  Here this is shown for everything that concerns one moment, up to `checkMoment` and
`canAdd`; `GridCircuit.Proofs.Equivariance` goes on with circuits.

Moving the sites of an operation is a case of relabelling it, so the first part says what
relabelling leaves alone.  Each of the other lemmas is about one function.  Its hypothesis says that
the operands lie on the sites on which the function embeds (`Operation.On`); which qubits the parts
of a subcircuit name is of no concern.
-/

namespace GridCircuit

open Attempt

/-! ## Embeddings -/

namespace Site

/-- A function on sites that maps some of them injectively, and neighbours and only neighbours among
them to neighbours. -/
structure Embeds (move : Site → Site) (sites : Set Site) : Prop where
  injOn : Set.InjOn move sites
  adjacent_iff : ∀ a ∈ sites, ∀ b ∈ sites, (move a).Adjacent (move b) ↔ a.Adjacent b

/-- What keeps distances embeds. -/
theorem embeds_of_distance {move : Site → Site} {sites : Set Site}
    (hdistance : ∀ a ∈ sites, ∀ b ∈ sites, (move a).distance (move b) = a.distance b) :
    Embeds move sites := by
  constructor
  · intro a ha b hb hsame
    rw [← distance_eq_zero_iff, ← hdistance a ha b hb, distance_eq_zero_iff]
    exact hsame
  · intro a ha b hb
    rw [Adjacent, Adjacent, hdistance a ha b hb]

/-- The site with row and column exchanged. -/
def transpose (site : Site) : Site := ⟨site.col, site.row⟩

theorem embeds_transpose (sites : Set Site) : Embeds transpose sites := by
  apply embeds_of_distance
  intro a _ b _
  simp only [distance, transpose]
  omega

/-- Sites may be moved by some rows and columns as long as no coordinate leaves its range. -/
theorem embeds_offset {move : Site → Site} {sites : Set Site} {rows cols : Int}
    (hoffset : ∀ site ∈ sites, site.offset? rows cols = some (move site)) :
    Embeds move sites := by
  apply embeds_of_distance
  intro a ha b hb
  obtain ⟨harow, hacol⟩ := offset?_eq_some_iff.mp (hoffset a ha)
  obtain ⟨hbrow, hbcol⟩ := offset?_eq_some_iff.mp (hoffset b hb)
  simp only [distance, harow, hacol, hbrow, hbcol]
  omega

end Site

/-! ## What is moved -/

/-- The qubit with its site moved; only a grid qubit has one. -/
def Qubit.moved (move : Site → Site) : Qubit → Qubit
  | .grid site => .grid (move site)
  | .line index => .line index
  | .named name => .named name

/-- The moved sites of a topology. -/
def Topology.moved (move : Site → Site) (topology : Topology) : Topology :=
  .ofList (topology.sites.map move)

/-- The reason with all its qubits moved. -/
def CircuitError.moved (move : Site → Site) : CircuitError → CircuitError
  | operandCount gate expected got => operandCount gate expected got
  | repeatedOperand qubit gate => repeatedOperand (qubit.moved move) gate
  | overlap qubit => overlap (qubit.moved move)
  | identicalPair qubit => identicalPair (qubit.moved move)
  | subcircuitOperands => subcircuitOperands

/-- The reason with all its operations, qubits and sites moved. -/
def DeviceError.moved (move : Site → Site) : DeviceError → DeviceError
  | unsupportedGate name => unsupportedGate name
  | unsupportedOperation operation => unsupportedOperation (operation.relabel (Qubit.moved move))
  | unsupportedQubit qubit => unsupportedQubit (qubit.moved move)
  | offDevice site => offDevice (move site)
  | nonLocal operation => nonLocal (operation.relabel (Qubit.moved move))
  | adjacentInteractions first second =>
    adjacentInteractions (first.relabel (Qubit.moved move)) (second.relabel (Qubit.moved move))
  | repeatedKey key => repeatedKey key
  | overlap qubit => overlap (qubit.moved move)

/-- The reason with everything in it moved, but for a qubit without a site, which is one of the
circuit before it is mapped. -/
def CompileError.moved (move : Site → Site) : CompileError → CompileError
  | unknownStrategy name => unknownStrategy name
  | unmappedQubit qubit => unmappedQubit qubit
  | partialInteraction operation strategy =>
    partialInteraction (operation.relabel (Qubit.moved move)) strategy
  | device cause => device (cause.moved move)
  | circuit cause => circuit (cause.moved move)
  | durationOverflow => durationOverflow

/-! ## What relabelling leaves alone -/

namespace Operation

variable (label : Qubit → Qubit) (operation : Operation)

@[simp] theorem gate?_relabel : (operation.relabel label).gate? = operation.gate? := by
  cases operation <;> rfl

@[simp] theorem name_relabel : (operation.relabel label).name = operation.name := by
  cases operation <;> rfl

@[simp] theorem key?_relabel : (operation.relabel label).key? = operation.key? := by
  simp only [key?, gate?_relabel]

@[simp] theorem isInteraction_relabel :
    (operation.relabel label).isInteraction = operation.isInteraction := by
  unfold isInteraction kind?
  rw [gate?_relabel]

@[simp] theorem isNegligible_relabel (tolerance : Float) :
    (operation.relabel label).isNegligible tolerance = operation.isNegligible tolerance := by
  simp only [isNegligible, gate?_relabel]

@[simp] theorem isPartialInteraction_relabel (tolerance : Float) :
    (operation.relabel label).isPartialInteraction tolerance =
      operation.isPartialInteraction tolerance := by
  cases operation with
  | plain gate qubits => cases gate <;> rfl
  | conditional key gate qubits => rfl
  | subcircuit parts qubits => rfl

end Operation

namespace Moment

variable (label : Qubit → Qubit) (moment : Moment)

@[simp] theorem operations_relabel :
    (moment.relabel label).operations = moment.operations.map (Operation.relabel label) := rfl

@[simp] theorem qubits_relabel : (moment.relabel label).qubits = moment.qubits.map label := by
  simp [Moment.qubits, List.flatMap_map, List.map_flatMap]

theorem relabel_add (operation : Operation) :
    (moment.add operation).relabel label =
      (moment.relabel label).add (operation.relabel label) := by
  simp [Moment.relabel, Moment.add]

end Moment

/-! ## Operands on sites -/

/-- Grid qubits on some sites. -/
def Qubit.On (sites : Set Site) (qubit : Qubit) : Prop := ∃ site ∈ sites, qubit = .grid site

/-- The operands are sites of a set. -/
def Operation.On (sites : Set Site) (operation : Operation) : Prop :=
  ∀ qubit ∈ operation.qubits, qubit.On sites

/-- The operands of all operations are sites of a set. -/
def Moment.On (sites : Set Site) (moment : Moment) : Prop :=
  ∀ operation ∈ moment.operations, operation.On sites

section Moves

variable {move : Site → Site} {sites : Set Site} {moment : Moment} {operation : Operation}
  {operations : List Operation} {qubit : Qubit} {qubits : List Qubit}

theorem Moment.On.of_mem_qubits (hmoment : moment.On sites) (hqubit : qubit ∈ moment.qubits) :
    qubit.On sites := by
  obtain ⟨operation, hmem, hqubit⟩ := Moment.mem_qubits.mp hqubit
  exact hmoment operation hmem qubit hqubit

theorem Moment.On.add (hmoment : moment.On sites) (hoperation : operation.On sites) :
    (moment.add operation).On sites := by
  intro other hmem
  rcases List.mem_append.mp hmem with hmem | hmem
  · exact hmoment other hmem
  · exact List.mem_singleton.mp hmem ▸ hoperation

theorem Operation.On.mem_sites (hoperation : operation.On sites) {site : Site}
    (hsite : site ∈ operation.sites) : site ∈ sites := by
  obtain ⟨other, hother, hsame⟩ := hoperation _ (Operation.mem_sites.mp hsite)
  exact Qubit.grid.inj hsame ▸ hother

theorem Operation.sites_moved (operation : Operation) :
    (operation.relabel (Qubit.moved move)).sites = operation.sites.map move := by
  rw [Operation.sites, Operation.sites, Operation.qubits_relabel, List.filterMap_map,
    List.map_filterMap]
  congr 1
  funext qubit
  cases qubit <;> rfl

namespace Site.Embeds

variable (hembeds : Site.Embeds move sites)

include hembeds

theorem moved_inj {p q : Qubit} (hp : p.On sites) (hq : q.On sites) :
    p.moved move = q.moved move ↔ p = q := by
  obtain ⟨a, ha, rfl⟩ := hp
  obtain ⟨b, hb, rfl⟩ := hq
  simp only [Qubit.moved, Qubit.grid.injEq]
  exact hembeds.injOn.eq_iff ha hb

/-- A moved qubit is among moved qubits when the qubit is among them. -/
theorem moved_mem_map (hqubits : ∀ q ∈ qubits, q.On sites) (hqubit : qubit.On sites) :
    qubit.moved move ∈ qubits.map (Qubit.moved move) ↔ qubit ∈ qubits := by
  rw [List.mem_map]
  constructor
  · rintro ⟨other, hother, hsame⟩
    exact (hembeds.moved_inj (hqubits other hother) hqubit).mp hsame ▸ hother
  · intro hmem
    exact ⟨qubit, hmem, rfl⟩

/-! ## Overlaps -/

theorem firstRepeatAfter?_moved {seen : List Qubit} (hseen : ∀ q ∈ seen, q.On sites)
    (hqubits : ∀ q ∈ qubits, q.On sites) :
    firstRepeatAfter? (seen.map (Qubit.moved move)) (qubits.map (Qubit.moved move)) =
      (firstRepeatAfter? seen qubits).map (Qubit.moved move) := by
  induction qubits generalizing seen with
  | nil => rfl
  | cons q rest ih =>
      obtain ⟨hq, hrest⟩ := List.forall_mem_cons.mp hqubits
      simp only [List.map_cons, firstRepeatAfter?, hembeds.moved_mem_map hseen hq]
      by_cases hmem : q ∈ seen
      · simp only [hmem, if_true, Option.map_some]
      · simp only [hmem, if_false]
        exact ih (List.forall_mem_cons.mpr ⟨hq, hseen⟩) hrest

theorem overlap?_moved (hmoment : moment.On sites) :
    (moment.relabel (Qubit.moved move)).overlap? = moment.overlap?.map (Qubit.moved move) := by
  have hnone : ∀ q ∈ ([] : List Qubit), q.On sites := by simp
  rw [Moment.overlap?, Moment.qubits_relabel]
  exact hembeds.firstRepeatAfter?_moved hnone fun _ hqubit => hmoment.of_mem_qubits hqubit

theorem actsOn_moved (hmoment : moment.On sites) (hqubit : qubit.On sites) :
    (moment.relabel (Qubit.moved move)).actsOn (qubit.moved move) = moment.actsOn qubit := by
  rw [Bool.eq_iff_iff, Moment.actsOn_iff, Moment.actsOn_iff, Moment.qubits_relabel]
  exact hembeds.moved_mem_map (fun _ hused => hmoment.of_mem_qubits hused) hqubit

theorem touches_moved (hmoment : moment.On sites) (hqubits : ∀ q ∈ qubits, q.On sites) :
    (moment.relabel (Qubit.moved move)).touches (qubits.map (Qubit.moved move)) =
      moment.touches qubits := by
  rw [Bool.eq_iff_iff, Moment.touches, Moment.touches, List.any_map, List.any_eq_true,
    List.any_eq_true]
  refine exists_congr fun q => and_congr_right fun hq => ?_
  rw [Function.comp_apply, hembeds.actsOn_moved hmoment (hqubits q hq)]

theorem push_moved (hmoment : moment.On sites) (hoperation : operation.On sites) :
    (moment.relabel (Qubit.moved move)).push (operation.relabel (Qubit.moved move)) =
      translate (CircuitError.moved move) (Moment.relabel (Qubit.moved move))
        (moment.push operation) := by
  have hfind : (operation.qubits.map (Qubit.moved move)).find?
      (moment.relabel (Qubit.moved move)).actsOn =
        (operation.qubits.find? moment.actsOn).map (Qubit.moved move) := by
    rw [List.find?_map]
    congr 1
    apply List.find?_congr
    intro q hq
    exact hembeds.actsOn_moved hmoment (hoperation q hq)
  rw [Moment.push, Moment.push, Operation.qubits_relabel, hfind]
  cases operation.qubits.find? moment.actsOn with
  | some q => rfl
  | none => exact congrArg Except.ok (moment.relabel_add _ operation).symm

theorem ofOperations_moved (hoperations : ∀ operation ∈ operations, operation.On sites) :
    Moment.ofOperations (operations.map (Operation.relabel (Qubit.moved move))) =
      translate (CircuitError.moved move) (Moment.relabel (Qubit.moved move))
        (Moment.ofOperations operations) := by
  have hempty : Moment.empty.On sites := by
    intro other hmem
    cases hmem
  have hfold : (operations.map (Operation.relabel (Qubit.moved move))).foldlM Moment.push
      (Moment.empty.relabel (Qubit.moved move)) =
        translate (CircuitError.moved move) (Moment.relabel (Qubit.moved move))
          (operations.foldlM Moment.push Moment.empty) := by
    apply foldlM_translate (Moment.On sites) hempty
    · intro operation hmem moment hmoment
      exact hembeds.push_moved hmoment (hoperations operation hmem)
    · intro operation hmem moment hmoment joined hpush
      obtain ⟨rfl, -⟩ := Moment.push_eq_ok_iff.mp hpush
      exact hmoment.add (hoperations operation hmem)
  exact hfold

/-! ## Interactions that exclude each other -/

theorem conflicts_moved {a b : Operation} (ha : a.On sites) (hb : b.On sites) :
    (a.relabel (Qubit.moved move)).conflicts (b.relabel (Qubit.moved move)) = a.conflicts b := by
  have hadjacent : ∀ p ∈ a.sites, ∀ q ∈ b.sites,
      decide ((move p).Adjacent (move q)) = decide (p.Adjacent q) := by
    intro p hp q hq
    exact decide_eq_decide.mpr (hembeds.adjacent_iff p (ha.mem_sites hp) q (hb.mem_sites hq))
  simp only [Operation.conflicts, Operation.isInteraction_relabel, Operation.sites_moved,
    List.any_map, Function.comp_def]
  congr 1
  rw [Bool.eq_iff_iff, List.any_eq_true, List.any_eq_true]
  refine exists_congr fun p => and_congr_right fun hp => ?_
  rw [List.any_eq_true, List.any_eq_true]
  refine exists_congr fun q => and_congr_right fun hq => ?_
  rw [hadjacent p hp q hq]

theorem conflictsWithAny_moved (hoperation : operation.On sites)
    (hoperations : ∀ other ∈ operations, other.On sites) :
    (operation.relabel (Qubit.moved move)).conflictsWithAny
      (operations.map (Operation.relabel (Qubit.moved move))) =
        operation.conflictsWithAny operations := by
  rw [Operation.conflictsWithAny, Operation.conflictsWithAny, List.any_map, Bool.eq_iff_iff,
    List.any_eq_true, List.any_eq_true]
  refine exists_congr fun other => and_congr_right fun hother => ?_
  rw [Function.comp_apply, hembeds.conflicts_moved hoperation (hoperations other hother)]

theorem conflictWith?_moved (hoperation : operation.On sites)
    (hoperations : ∀ other ∈ operations, other.On sites) (index : Nat) :
    conflictWith? (operation.relabel (Qubit.moved move)) index
      (operations.map (Operation.relabel (Qubit.moved move))) =
        (conflictWith? operation index operations).map
          (Prod.map id (Operation.relabel (Qubit.moved move))) := by
  induction operations generalizing index with
  | nil => rfl
  | cons other rest ih =>
      obtain ⟨hother, hrest⟩ := List.forall_mem_cons.mp hoperations
      simp only [List.map_cons, conflictWith?, hembeds.conflicts_moved hoperation hother]
      cases operation.conflicts other with
      | true => rfl
      | false => exact ih hrest (index + 1)

theorem conflictFrom?_moved (hoperations : ∀ other ∈ operations, other.On sites) (index : Nat) :
    conflictFrom? index (operations.map (Operation.relabel (Qubit.moved move))) =
      (conflictFrom? index operations).map fun conflict =>
        ⟨conflict.firstIndex, conflict.first.relabel (Qubit.moved move), conflict.secondIndex,
          conflict.second.relabel (Qubit.moved move)⟩ := by
  induction operations generalizing index with
  | nil => rfl
  | cons first rest ih =>
      obtain ⟨hfirst, hrest⟩ := List.forall_mem_cons.mp hoperations
      simp only [List.map_cons, conflictFrom?, hembeds.conflictWith?_moved hfirst hrest]
      cases conflictWith? first (index + 1) rest with
      | some found => rfl
      | none => exact ih hrest (index + 1)

theorem checkExclusion_moved (hmoment : moment.On sites) :
    (moment.relabel (Qubit.moved move)).checkExclusion =
      translate (DeviceError.moved move) id moment.checkExclusion := by
  simp only [Moment.checkExclusion, Moment.conflict?, Moment.operations_relabel,
    hembeds.conflictFrom?_moved hmoment]
  cases conflictFrom? 0 moment.operations <;> rfl

/-! ## Operations that fit a topology -/

variable {topology : Topology} (htopology : ∀ site ∈ topology, site ∈ sites)

include htopology

theorem moved_mem_moved {site : Site} (hsite : site ∈ sites) :
    move site ∈ topology.moved move ↔ site ∈ topology := by
  rw [Topology.moved, Topology.mem_def, Topology.mem_sites_ofList, List.mem_map]
  constructor
  · rintro ⟨other, hother, hsame⟩
    exact hembeds.injOn (htopology other hother) hsite hsame ▸ hother
  · intro hmem
    exact ⟨site, hmem, rfl⟩

theorem siteOf_moved (hqubit : qubit.On sites) :
    (topology.moved move).siteOf (qubit.moved move) =
      translate (DeviceError.moved move) move (topology.siteOf qubit) := by
  obtain ⟨site, hsite, rfl⟩ := hqubit
  simp only [Topology.siteOf, Qubit.site?, Qubit.moved, hembeds.moved_mem_moved htopology hsite]
  by_cases hmem : site ∈ topology
  · simp only [hmem, if_true, translate_ok]
  · simp only [hmem, if_false, translate_error, DeviceError.moved]

omit htopology in
theorem areLocal_moved (kind : GateKind) {found : List Site}
    (hfound : ∀ site ∈ found, site ∈ sites) :
    Topology.areLocal kind (found.map move) = Topology.areLocal kind found := by
  match found with
  | [] => rfl
  | [a] => rfl
  | [a, b] =>
      have hadjacent : (move a).Adjacent (move b) ↔ a.Adjacent b :=
        hembeds.adjacent_iff a (hfound a (by simp)) b (hfound b (by simp))
      simp only [List.map_cons, List.map_nil, Topology.areLocal, hadjacent]
  | a :: b :: c :: rest => rfl

theorem checkOperation_moved (hoperation : operation.On sites) :
    (topology.moved move).checkOperation (operation.relabel (Qubit.moved move)) =
      translate (DeviceError.moved move) id (topology.checkOperation operation) := by
  rw [Topology.checkOperation, Topology.checkOperation, Operation.gate?_relabel]
  cases operation.gate? with
  | none => rfl
  | some gate =>
      have hkind : gate.nativeKind = translate (DeviceError.moved move) id gate.nativeKind := by
        unfold Gate.nativeKind
        cases gate.kind? <;> rfl
      simp only [Operation.qubits_relabel, List.length_map]
      nth_rewrite 1 [hkind]
      apply translate_bind
      intro kind _
      by_cases haccepts : gate.accepts operation.qubits.length = true
      · simp only [haccepts, if_true]
        have hsites : operation.qubits.mapM ((topology.moved move).siteOf ∘ Qubit.moved move) =
            translate (DeviceError.moved move) (List.map move)
              (operation.qubits.mapM topology.siteOf) :=
          mapM_translate fun qubit hqubit =>
            hembeds.siteOf_moved htopology (hoperation qubit hqubit)
        rw [List.mapM_map, hsites]
        apply translate_bind
        intro found hfound
        obtain ⟨-, hmem⟩ := Topology.mapM_siteOf_eq_ok_iff.mp hfound
        have hlocal : Topology.areLocal kind (found.map move) = Topology.areLocal kind found :=
          hembeds.areLocal_moved kind fun site hsite => htopology site (hmem site hsite)
        simp only [id, hlocal]
        cases Topology.areLocal kind found <;> rfl
      · simp only [haccepts]
        rfl

/-! ## Moments that a device runs -/

variable (durations : GateDurations)

omit htopology in
theorem noOverlap_checkMoment_moved (hmoment : moment.On sites) :
    HostChecks.noOverlap.checkMoment (moment.relabel (Qubit.moved move)) =
      translate (DeviceError.moved move) id (HostChecks.noOverlap.checkMoment moment) := by
  simp only [HostChecks.noOverlap, hembeds.overlap?_moved hmoment]
  cases moment.overlap? <;> rfl

theorem checkMoment_moved (hmoment : moment.On sites) :
    (Device.ofParts durations (topology.moved move)).checkMoment
      (moment.relabel (Qubit.moved move)) =
        translate (DeviceError.moved move) id
          ((Device.ofParts durations topology).checkMoment moment) := by
  simp only [Device.checkMoment, Device.ofParts, Moment.operations_relabel]
  rw [hembeds.noOverlap_checkMoment_moved hmoment]
  apply translate_bind
  intro _ _
  have hoperations : (moment.operations.map (Operation.relabel (Qubit.moved move))).forM
      (topology.moved move).checkOperation =
        translate (DeviceError.moved move) id (moment.operations.forM topology.checkOperation) :=
    forM_translate fun operation hmem =>
      hembeds.checkOperation_moved htopology (hmoment operation hmem)
  refine (congrArg (· >>= _) hoperations).trans ?_
  apply translate_bind
  intro _ _
  exact hembeds.checkExclusion_moved hmoment

theorem canAdd_moved (hmoment : moment.On sites) (hoperation : operation.On sites) :
    (Device.ofParts durations (topology.moved move)).canAdd
      (operation.relabel (Qubit.moved move)) (moment.relabel (Qubit.moved move)) =
        (Device.ofParts durations topology).canAdd operation moment := by
  have hvalid : ((Device.ofParts durations (topology.moved move)).checkMoment
      (moment.relabel (Qubit.moved move))).isOk =
        ((Device.ofParts durations topology).checkMoment moment).isOk := by
    rw [hembeds.checkMoment_moved htopology durations hmoment]
    cases (Device.ofParts durations topology).checkMoment moment <;> rfl
  have hhost : (Device.ofParts durations (topology.moved move)).host.canAdd
      (operation.relabel (Qubit.moved move)) (moment.relabel (Qubit.moved move)) =
        (Device.ofParts durations topology).host.canAdd operation moment := by
    show (!(moment.relabel (Qubit.moved move)).touches _) = !moment.touches _
    rw [Operation.qubits_relabel, hembeds.touches_moved hmoment hoperation]
  rw [Device.canAdd, Device.canAdd, hvalid, hhost, Operation.isInteraction_relabel,
    Moment.operations_relabel, hembeds.conflictsWithAny_moved hoperation hmoment]

end Site.Embeds

end Moves

end GridCircuit
