import GridCircuit.Proofs.Packing
import GridCircuit.Proofs.Relocation
import GridCircuit.Proofs.Stages

/-!
# Moving a whole optimization

When the sites of a device and the sites that a qubit map uses are moved by one function that embeds
them, an optimization does the same as before, with moved sites.  This includes which of several
failures it reports.

Circuits are followed through the stages of an optimization.  A mapped circuit lies on the sites
that the map uses, and no later stage adds operations, so `Circuit.On` holds from there on.  That is
what the lemmas on moments in `GridCircuit.Proofs.Relocation` ask for.
-/

namespace GridCircuit

open Attempt

/-! ## Circuits on sites -/

/-- The operands of all operations are sites of a set. -/
def Circuit.On (sites : Set Site) (circuit : Circuit) : Prop :=
  ∀ operation ∈ circuit.operations, operation.On sites

/-- The map with all sites moved. -/
def QubitMap.moved (move : Site → Site) (map : QubitMap) : QubitMap :=
  fun qubit => (map qubit).map move

namespace Circuit

variable (label : Qubit → Qubit) (circuit : Circuit)

@[simp] theorem keys_relabel : (circuit.relabel label).keys = circuit.keys := by
  simp [keys, operations_relabel, List.filterMap_map]

@[simp] theorem depth_relabel : (circuit.relabel label).depth = circuit.depth := by
  simp [depth, relabel]

@[simp] theorem size_relabel : (circuit.relabel label).size = circuit.size := by
  simp [size, operations_relabel]

theorem dropNegligible_relabel (tolerance : Float) :
    (circuit.relabel label).dropNegligible tolerance =
      (circuit.dropNegligible tolerance).relabel label := by
  simp [dropNegligible, relabel, Moment.relabel, List.filter_map, Function.comp_def]

theorem dropEmptyMoments_relabel :
    (circuit.relabel label).dropEmptyMoments = circuit.dropEmptyMoments.relabel label := by
  simp [dropEmptyMoments, relabel, List.filter_map, Function.comp_def]

end Circuit

section Moves

variable {move : Site → Site} {sites : Set Site} {circuit : Circuit} {operation : Operation}

theorem Circuit.On.moment (hcircuit : circuit.On sites) {moment : Moment}
    (hmoment : moment ∈ circuit.moments) : moment.On sites :=
  forall_mem_operations.mp hcircuit moment hmoment

theorem Circuit.On.insertEarliest (hcircuit : circuit.On sites) (hoperation : operation.On sites)
    (canPlace : Operation → Moment → Bool) :
    (circuit.insertEarliest operation canPlace).2.On sites := by
  intro other hother
  have hmem : other ∈ circuit.operations ++ [operation] :=
    (operations_placeEarliest_perm canPlace operation circuit.moments).subset hother
  rcases List.mem_append.mp hmem with hmem | hmem
  · exact hcircuit other hmem
  · exact List.mem_singleton.mp hmem ▸ hoperation

/-! ## Durations -/

theorem ofOperation_moved (durations : GateDurations) (operation : Operation) :
    durations.ofOperation (operation.relabel (Qubit.moved move)) =
      translate (DeviceError.moved move) id (durations.ofOperation operation) := by
  simp only [GateDurations.ofOperation, Operation.gate?_relabel, Operation.name_relabel]
  cases operation.gate? with
  | none => rfl
  | some gate =>
      simp only [Gate.nativeKind]
      cases gate.kind? <;> rfl

theorem ofMoment_moved (durations : GateDurations) (moment : Moment) :
    durations.ofMoment (moment.relabel (Qubit.moved move)) =
      translate (DeviceError.moved move) id (durations.ofMoment moment) := by
  have hstep (operation : Operation) (longest : Duration) : (do
      return max longest (← durations.ofOperation (operation.relabel (Qubit.moved move)))) =
        translate (DeviceError.moved move) id (do
          return max longest (← durations.ofOperation operation)) := by
    rw [ofOperation_moved]
    apply translate_bind
    intro time _
    rfl
  have hfold : (moment.operations.map (Operation.relabel (Qubit.moved move))).foldlM
      (fun longest operation => do return max longest (← durations.ofOperation operation))
        (id .zero) =
        translate (DeviceError.moved move) id (moment.operations.foldlM
          (fun longest operation => do return max longest (← durations.ofOperation operation))
            .zero) := by
    apply foldlM_translate (fun _ => True) trivial
    · intro operation _ longest _
      exact hstep operation longest
    · intros
      trivial
  exact hfold

theorem momentDurations_moved (durations : GateDurations) (topology : Topology)
    (circuit : Circuit) :
    (Device.ofParts durations (topology.moved move)).momentDurations
      (circuit.relabel (Qubit.moved move)) =
        translate (DeviceError.moved move) id
          ((Device.ofParts durations topology).momentDurations circuit) := by
  have hmapM : circuit.moments.mapM (durations.ofMoment ∘ Moment.relabel (Qubit.moved move)) =
      translate (DeviceError.moved move) (List.map id)
        (circuit.moments.mapM durations.ofMoment) :=
    mapM_translate fun moment _ => ofMoment_moved durations moment
  rw [List.map_id_fun] at hmapM
  exact (List.mapM_map ..).trans hmapM

theorem checkKeys_moved (circuit : Circuit) :
    (circuit.relabel (Qubit.moved move)).checkKeys =
      translate (DeviceError.moved move) id circuit.checkKeys := by
  simp only [Circuit.checkKeys, Circuit.keys_relabel]
  cases firstRepeat? circuit.keys <;> rfl

/-! ## Reasons -/

theorem CompileError.circuit_moved (move : Site → Site) (cause : CircuitError) :
    CompileError.circuit (cause.moved move) = (CompileError.circuit cause).moved move := rfl

theorem CompileError.device_moved (move : Site → Site) (cause : DeviceError) :
    CompileError.device (cause.moved move) = (CompileError.device cause).moved move := rfl

/-! ## Renaming -/

theorem Operation.mapQubits_translate {ε ε' : Type} {reason : ε → ε'} {label : Qubit → Qubit}
    {rename : Qubit → Except ε Qubit} {rename' : Qubit → Except ε' Qubit}
    (hrename : ∀ qubit, rename' qubit = translate reason label (rename qubit))
    (operation : Operation) :
    operation.mapQubits rename' =
      translate reason (relabel label) (operation.mapQubits rename) := by
  have hqubits (qubits : List Qubit) :
      qubits.mapM rename' = translate reason (List.map label) (qubits.mapM rename) :=
    mapM_translate fun qubit _ => hrename qubit
  induction operation with
  | plain gate qubits =>
      rw [mapQubits, mapQubits, hqubits]
      apply translate_bind
      intro images _
      rfl
  | conditional key gate qubits =>
      rw [mapQubits, mapQubits, hqubits]
      apply translate_bind
      intro images _
      rfl
  | subcircuit parts qubits ih =>
      rw [mapQubits, mapQubits, mapParts_eq_mapM, mapParts_eq_mapM, mapM_translate ih]
      apply translate_bind
      intro renamed _
      rw [hqubits]
      apply translate_bind
      intro images _
      rw [← relabelParts_eq_map]
      rfl

theorem QubitMap.rename_moved (map : QubitMap) (qubit : Qubit) :
    (map.moved move).rename qubit =
      translate (CompileError.moved move) (Qubit.moved move) (map.rename qubit) := by
  unfold QubitMap.rename QubitMap.moved
  cases map qubit <;> rfl

/-- A mapped operation lies on the sites that the map uses. -/
theorem QubitMap.Covers.on {map : QubitMap} (hcovers : map.Covers operation)
    (himage : ∀ qubit site, map qubit = some site → site ∈ sites) :
    (operation.relabel map.image).On sites := by
  intro qubit hqubit
  obtain ⟨site, rfl, operand, -, hsite⟩ := hcovers.mem_qubits_relabel_iff.mp hqubit
  exact ⟨site, himage operand site hsite, rfl⟩

namespace Site.Embeds

variable (hembeds : Site.Embeds move sites)

include hembeds

theorem onMoment_moved {map : QubitMap}
    (himage : ∀ qubit site, map qubit = some site → site ∈ sites) (moment : Moment) :
    (map.moved move).onMoment moment =
      translate (CompileError.moved move) (Moment.relabel (Qubit.moved move))
        (map.onMoment moment) := by
  rw [QubitMap.onMoment, QubitMap.onMoment,
    mapM_translate fun operation _ => operation.mapQubits_translate map.rename_moved]
  apply translate_bind
  intro renamed hrenamed
  have hon : ∀ operation ∈ renamed, operation.On sites := by
    obtain ⟨hcovers, rfl⟩ := QubitMap.mapM_mapQubits_eq_ok_iff.mp hrenamed
    rw [List.forall_mem_map]
    exact fun operation hmem => (hcovers operation hmem).on himage
  rw [hembeds.ofOperations_moved hon]
  exact mapError_translate (CompileError.circuit_moved move) _

theorem onCircuit_moved {map : QubitMap}
    (himage : ∀ qubit site, map qubit = some site → site ∈ sites) (circuit : Circuit) :
    (map.moved move).onCircuit circuit =
      translate (CompileError.moved move) (Circuit.relabel (Qubit.moved move))
        (map.onCircuit circuit) := by
  rw [QubitMap.onCircuit, QubitMap.onCircuit,
    mapM_translate fun moment _ => hembeds.onMoment_moved himage moment]
  apply translate_bind
  intro moments _
  rfl

omit hembeds in
theorem screen_moved (strategy : Strategy) (tolerance : Float) (circuit : Circuit) :
    strategy.screen tolerance (circuit.relabel (Qubit.moved move)) =
      translate (CompileError.moved move) id (strategy.screen tolerance circuit) := by
  have hfind : (circuit.relabel (Qubit.moved move)).operations.find?
      (·.isPartialInteraction tolerance) =
        (circuit.operations.find? (·.isPartialInteraction tolerance)).map
          (Operation.relabel (Qubit.moved move)) := by
    rw [Circuit.operations_relabel, List.find?_map]
    simp only [Function.comp_def, Operation.isPartialInteraction_relabel]
  rw [Strategy.screen, Strategy.screen, hfind]
  cases strategy.allowsPartial with
  | true => rfl
  | false => cases circuit.operations.find? (·.isPartialInteraction tolerance) <;> rfl

/-- The first stage of an optimization is moved with the sites that the map uses. -/
theorem prepare_moved {map : QubitMap}
    (himage : ∀ qubit site, map qubit = some site → site ∈ sites) (strategy : Strategy)
    (circuit : Circuit) :
    circuit.prepare (map.moved move) strategy =
      translate (CompileError.moved move) (Circuit.relabel (Qubit.moved move))
        (circuit.prepare map strategy) := by
  rw [Circuit.prepare, Circuit.prepare, hembeds.onCircuit_moved himage]
  apply translate_bind
  intro mapped _
  rw [Circuit.dropNegligible_relabel, screen_moved]
  apply translate_bind
  intro _ _
  rw [Circuit.dropEmptyMoments_relabel]
  rfl

/-! ## Placing operations -/

theorem placeEarliest_moved {canPlace canPlace' : Operation → Moment → Bool}
    (hoperation : operation.On sites) {moments : List Moment}
    (hmoments : ∀ moment ∈ moments, moment.On sites)
    (hagree : ∀ moment ∈ moments, canPlace' (operation.relabel (Qubit.moved move))
      (moment.relabel (Qubit.moved move)) = canPlace operation moment) :
    Circuit.placeEarliest canPlace' (operation.relabel (Qubit.moved move))
      (moments.map (Moment.relabel (Qubit.moved move))) =
        Prod.map id (List.map (Moment.relabel (Qubit.moved move)))
          (Circuit.placeEarliest canPlace operation moments) := by
  induction moments with
  | nil => rfl
  | cons moment rest ih =>
      have htouches : ((moment :: rest).map (Moment.relabel (Qubit.moved move))).any
          (·.touches (operation.relabel (Qubit.moved move)).qubits) =
            (moment :: rest).any (·.touches operation.qubits) := by
        rw [List.any_map, Bool.eq_iff_iff, List.any_eq_true, List.any_eq_true]
        refine exists_congr fun other => and_congr_right fun hother => ?_
        rw [Function.comp_apply, Operation.qubits_relabel,
          hembeds.touches_moved (hmoments other hother) hoperation]
      obtain ⟨hfirst, hrest⟩ := List.forall_mem_cons.mp hagree
      rw [List.map_cons] at htouches ⊢
      rw [Circuit.placeEarliest, Circuit.placeEarliest, htouches, hfirst,
        ih (List.forall_mem_cons.mp hmoments).2 hrest]
      split
      · rfl
      · rw [← Moment.relabel_add]
        rfl

variable {topology : Topology} (htopology : ∀ site ∈ topology, site ∈ sites)
  (durations : GateDurations)

include htopology

theorem place_moved (hcircuit : circuit.On sites) (hoperation : operation.On sites) :
    (Device.ofParts durations (topology.moved move)).place
      (circuit.relabel (Qubit.moved move)) (operation.relabel (Qubit.moved move)) =
        translate (DeviceError.moved move) (Circuit.relabel (Qubit.moved move))
          ((Device.ofParts durations topology).place circuit operation) := by
  have hcheck : (Device.ofParts durations (topology.moved move)).checkOperation
      (operation.relabel (Qubit.moved move)) =
        translate (DeviceError.moved move) id
          ((Device.ofParts durations topology).checkOperation operation) :=
    hembeds.checkOperation_moved htopology hoperation
  have hplaced : Circuit.placeEarliest
      (Device.ofParts durations (topology.moved move)).canAdd
      (operation.relabel (Qubit.moved move))
      (circuit.moments.map (Moment.relabel (Qubit.moved move))) = _ :=
    hembeds.placeEarliest_moved hoperation (fun _ hmem => hcircuit.moment hmem) fun _ hmem =>
      hembeds.canAdd_moved htopology durations (hcircuit.moment hmem) hoperation
  rw [Device.place, Device.place, hcheck]
  apply translate_bind
  intro _ _
  simp only [Circuit.insertEarliest, Circuit.relabel, hplaced]
  rfl

/-- Packing is moved with the device, for circuits on its sites. -/
theorem pack_moved (hcircuit : circuit.On sites) :
    (Device.ofParts durations (topology.moved move)).pack (circuit.relabel (Qubit.moved move)) =
      translate (DeviceError.moved move) (Circuit.relabel (Qubit.moved move))
        ((Device.ofParts durations topology).pack circuit) := by
  have hempty : (Circuit.empty circuit.name).On sites := by
    intro other hother
    cases hother
  have hfold : (circuit.operations.map (Operation.relabel (Qubit.moved move))).foldlM
      (Device.ofParts durations (topology.moved move)).place
      ((Circuit.empty circuit.name).relabel (Qubit.moved move)) =
        translate (DeviceError.moved move) (Circuit.relabel (Qubit.moved move))
          (circuit.operations.foldlM (Device.ofParts durations topology).place
            (Circuit.empty circuit.name)) := by
    apply foldlM_translate (Circuit.On sites) hempty
    · intro operation hmem state hstate
      exact hembeds.place_moved htopology durations hstate (hcircuit operation hmem)
    · intro operation hmem state hstate next hnext
      obtain ⟨_, -, hnext⟩ := bind_eq_ok_iff.mp hnext
      rw [← pure_eq_ok_iff.mp hnext]
      exact hstate.insertEarliest (hcircuit operation hmem) _
  rw [Device.pack, Device.pack, Circuit.operations_relabel]
  exact hfold

/-! ## Verification -/

theorem checkCircuit_moved (hcircuit : circuit.On sites) :
    (Device.ofParts durations (topology.moved move)).checkCircuit
      (circuit.relabel (Qubit.moved move)) =
        translate (DeviceError.moved move) id
          ((Device.ofParts durations topology).checkCircuit circuit) := by
  have hmoments : (circuit.moments.map (Moment.relabel (Qubit.moved move))).forM
      (Device.ofParts durations (topology.moved move)).checkMoment =
        translate (DeviceError.moved move) id
          (circuit.moments.forM (Device.ofParts durations topology).checkMoment) :=
    forM_translate fun moment hmem =>
      hembeds.checkMoment_moved htopology durations (hcircuit.moment hmem)
  rw [Device.checkCircuit, Device.checkCircuit]
  refine (congrArg (· >>= _) hmoments).trans ?_
  apply translate_bind
  intro _ _
  exact checkKeys_moved circuit

theorem verify_moved (hcircuit : circuit.On sites) :
    (Device.ofParts durations (topology.moved move)).verify
      (circuit.relabel (Qubit.moved move)) =
        translate (CompileError.moved move) id
          ((Device.ofParts durations topology).verify circuit) := by
  rw [Device.verify, Device.verify, hembeds.checkCircuit_moved htopology durations hcircuit,
    mapError_translate (CompileError.device_moved move)]
  apply translate_bind
  intro _ _
  rw [momentDurations_moved, mapError_translate (CompileError.device_moved move)]
  apply translate_bind
  intro times _
  simp only [Circuit.depth_relabel, Circuit.size_relabel, Circuit.keys_relabel, id]
  cases totalDuration? times <;> rfl

/-- The second stage of an optimization is moved with the device, for circuits on its sites. -/
theorem finish_moved (hcircuit : circuit.On sites) :
    (Device.ofParts durations (topology.moved move)).finish (circuit.relabel (Qubit.moved move)) =
      translate (CompileError.moved move) (Circuit.relabel (Qubit.moved move))
        ((Device.ofParts durations topology).finish circuit) := by
  rw [Device.finish, Device.finish, hembeds.pack_moved htopology durations hcircuit,
    mapError_translate (CompileError.device_moved move)]
  apply translate_bind
  intro packed hpacked
  have hon : packed.On sites := by
    obtain ⟨-, rfl⟩ := Device.pack_eq_ok_iff.mp (mapError_eq_ok_iff.mp hpacked)
    intro operation hmem
    exact hcircuit operation (Circuit.mem_arrange_operations.mp hmem)
  rw [hembeds.verify_moved htopology durations hon]
  apply translate_bind
  intro summary _
  rfl

end Site.Embeds

end Moves

/-! ## The optimization -/

namespace Circuit

/-- A prepared circuit lies on the sites that the map uses. -/
theorem Preparable.on {circuit : Circuit} {map : QubitMap} {strategy : Strategy}
    {sites : Set Site} (hpreparable : circuit.Preparable map strategy)
    (himage : ∀ qubit site, map qubit = some site → site ∈ sites) :
    (circuit.prepared map).On sites := by
  intro operation hmem
  rw [operations_prepared] at hmem
  obtain ⟨⟨original, horiginal, rfl⟩, -⟩ := of_mem_survivors hmem
  exact (hpreparable.maps.covers original horiginal).on himage

/-- Optimizing commutes with moving sites.  Where a function embeds the sites of the device and
those that the map uses, the optimization for the moved device with the moved map ends as the
original one does, with all sites moved: with the moved circuit, or for the moved reason. -/
theorem optimizeNamed_moved (move : Site → Site) (durations : GateDurations)
    (topology : Topology) (circuit : Circuit) (map : QubitMap) (strategy : String)
    (hembeds : Site.Embeds move {site | site ∈ topology ∨ ∃ qubit, map qubit = some site}) :
    circuit.optimizeNamed (some (.ofParts durations (topology.moved move))) (map.moved move)
        strategy =
      translate (CompileError.moved move) (Circuit.relabel (Qubit.moved move))
        (circuit.optimizeNamed (some (.ofParts durations topology)) map strategy) := by
  have himage : ∀ qubit site, map qubit = some site →
      site ∈ {site | site ∈ topology ∨ ∃ qubit, map qubit = some site} :=
    fun qubit site hsite => .inr ⟨qubit, hsite⟩
  unfold optimizeNamed
  cases Strategy.ofName? strategy with
  | none => rfl
  | some strategy =>
      show circuit.optimize _ _ strategy = translate _ _ (circuit.optimize _ _ strategy)
      rw [optimize_some, optimize_some, hembeds.prepare_moved himage]
      apply translate_bind
      intro prepared hprepared
      obtain ⟨hpreparable, rfl⟩ := prepare_eq_ok_iff.mp hprepared
      exact hembeds.finish_moved (fun _ hsite => .inl hsite) durations (hpreparable.on himage)

/-- On the preset device with rows and columns exchanged, `lineProbe` on the first column becomes
what it becomes on the first row of the device itself, with rows and columns exchanged. -/
theorem lineProbe_transposed :
    lineProbe.optimizeNamed
        (some (.ofParts .foxtail ((Topology.rectangle 2 11).moved Site.transpose)))
        ((QubitMap.lineOntoRow 0).moved Site.transpose) "xmon" =
      .ok (packedProbe.relabel (Qubit.moved Site.transpose)) := by
  rw [optimizeNamed_moved Site.transpose .foxtail (.rectangle 2 11) lineProbe
    (.lineOntoRow 0) "xmon" (Site.embeds_transpose _)]
  exact congrArg (translate _ _) optimizeNamed_lineProbe

end Circuit

end GridCircuit
