import GridCircuit.Proofs.Acceptance

/-!
# What an optimization needs of its device

While a circuit is packed, the device is asked again and again whether one more operation may join a
moment, and each time it judges the whole moment by its sites.  An optimized circuit nevertheless
depends on the device only through the sites that are used.

An operation that runs on some topology runs on another one as soon as its own sites are there
(`Operation.RunsOn.of_sites`), so that two devices on which some operations run judge all moments of
these operations alike (`Device.canAdd_congr`).  Packing asks only about such moments, and placement
rules that agree on them arrange the operations in the same way (`Circuit.arrange_congr`).

Durations are never asked for by the packing.  Verification adds them up, which is the one step that
they can make a difference to: on a device that is too slow the sum is out of range.
-/

namespace GridCircuit

open Attempt

/-! ## Operations on another topology -/

namespace Operation

variable {operation : Operation} {topology other : Topology} {site : Site}

theorem RunsOn.mem_of_mem_sites (hruns : operation.RunsOn topology)
    (hsite : site ∈ operation.sites) : site ∈ topology := by
  obtain ⟨place, hplace, hsame⟩ := (runsOn_iff_fits.mp hruns).onSites _ (mem_sites.mp hsite)
  exact Qubit.grid.inj hsame ▸ hplace

/-- An operation that runs on a topology runs on every other one that has its sites. -/
theorem RunsOn.of_sites (hruns : operation.RunsOn topology)
    (hsites : ∀ site ∈ operation.sites, site ∈ other) : operation.RunsOn other := by
  obtain ⟨hnative, honSites, hlinked⟩ := runsOn_iff_fits.mp hruns
  -- of what fits, only the sites depend on the topology
  refine runsOn_iff_fits.mpr ⟨hnative, fun qubit hqubit => ?_, hlinked⟩
  obtain ⟨site, -, rfl⟩ := honSites qubit hqubit
  exact ⟨site, hsites site (mem_sites.mpr hqubit), rfl⟩

end Operation

/-! ## Arrangements under rules that agree -/

namespace Circuit

variable {canPlace canPlace' : Operation → Moment → Bool}

theorem placeEarliest_congr {operation : Operation} {moments : List Moment}
    (hagree : ∀ moment ∈ moments, canPlace operation moment = canPlace' operation moment) :
    placeEarliest canPlace operation moments = placeEarliest canPlace' operation moments := by
  -- the search asks only about the moments that are there
  induction moments with
  | nil => rfl
  | cons moment rest ih =>
      obtain ⟨hfirst, hrest⟩ := List.forall_mem_cons.mp hagree
      rw [placeEarliest, placeEarliest, hfirst, ih hrest]

/-- Rules arrange operations in the same way when they agree on all moments of these operations. -/
theorem arrange_congr {operations : List Operation}
    (hagree : ∀ operation ∈ operations, ∀ moment : Moment, moment.operations ⊆ operations →
      canPlace operation moment = canPlace' operation moment) :
    arrange canPlace operations = arrange canPlace' operations := by
  induction operations using List.reverseRecOn with
  | nil => rfl
  | append_singleton operations operation ih =>
      have hinit : arrange canPlace operations = arrange canPlace' operations := by
        refine ih fun earlier hearlier moment hmoment => ?_
        have hlonger : moment.operations ⊆ operations ++ [operation] :=
          List.subset_append_of_subset_left _ hmoment
        exact hagree earlier (List.mem_append_left _ hearlier) moment hlonger
      rw [arrange_concat, arrange_concat, hinit]
      refine congrArg Prod.snd (placeEarliest_congr fun moment hmoment => ?_)
      refine hagree operation (by simp) moment fun member hmember => ?_
      exact List.mem_append_left _ (mem_of_mem_arrange hmoment hmember)

end Circuit

/-! ## Devices that run the same operations -/

namespace Moment

variable {moment : Moment} {topology other : Topology}

theorem legal_congr (hhere : ∀ operation ∈ moment.operations, operation.RunsOn topology)
    (hthere : ∀ operation ∈ moment.operations, operation.RunsOn other) :
    moment.Legal topology ↔ moment.Legal other :=
  ⟨fun hlegal => ⟨hthere, hlegal.nodup, hlegal.apart⟩,
    fun hlegal => ⟨hhere, hlegal.nodup, hlegal.apart⟩⟩

end Moment

namespace Device

variable {durations durations' : GateDurations} {topology other : Topology}
  {circuit packed : Circuit}

/-- Devices decide alike on moments whose operations run on both. -/
theorem canAdd_congr {operation : Operation} {moment : Moment}
    (hhere : ∀ member ∈ moment.operations, member.RunsOn topology)
    (hthere : ∀ member ∈ moment.operations, member.RunsOn other) :
    (ofParts durations topology).canAdd operation moment =
      (ofParts durations' other).canAdd operation moment := by
  rw [Bool.eq_iff_iff, canAdd_iff, canAdd_iff, Moment.legal_congr hhere hthere]

theorem mem_of_finish (hfinish : (ofParts durations topology).finish circuit = .ok packed) :
    ∀ operation ∈ packed.operations, ∀ site ∈ operation.sites, site ∈ topology := by
  obtain ⟨hvalid, -, -, rfl⟩ := finish_eq_ok_iff.mp hfinish
  intro operation hmem site hsite
  exact (hvalid operation (Circuit.mem_arrange_operations.mp hmem)).1.mem_of_mem_sites hsite

/-- What packing leaves on one device, it leaves on any other that has its sites. -/
theorem pack_of_sites (hpack : (ofParts durations topology).pack circuit = .ok packed)
    (hsites : ∀ operation ∈ packed.operations, ∀ site ∈ operation.sites, site ∈ other) :
    (ofParts durations' other).pack circuit = .ok packed := by
  obtain ⟨hhere, rfl⟩ := pack_eq_ok_iff.mp hpack
  have hthere : ∀ operation ∈ circuit.operations, operation.RunsOn other := fun operation hmem =>
    (hhere operation hmem).of_sites
      (hsites operation (Circuit.mem_arrange_operations.mpr hmem))
  refine pack_eq_ok_iff.mpr ⟨hthere, congrArg (Circuit.mk circuit.name) ?_⟩
  refine Circuit.arrange_congr fun operation _ moment hmoment => ?_
  exact canAdd_congr (fun member hmember => hhere member (hmoment hmember))
    fun member hmember => hthere member (hmoment hmember)

/-- What the second stage leaves on one device, it leaves on any other that has its sites, if it
takes a duration there. -/
theorem finish_of_sites (hfinish : (ofParts durations topology).finish circuit = .ok packed)
    (hsites : ∀ operation ∈ packed.operations, ∀ site ∈ operation.sites, site ∈ other) :
    ((ofParts durations' other).HasDuration packed →
      (ofParts durations' other).finish circuit = .ok packed) ∧
    (¬(ofParts durations' other).HasDuration packed →
      (ofParts durations' other).finish circuit = .error .durationOverflow) := by
  obtain ⟨hvalid, hkeys, -, hpacked⟩ := finish_eq_ok_iff.mp hfinish
  have hhere : (ofParts durations topology).pack circuit = .ok packed :=
    pack_eq_ok_iff.mpr ⟨fun operation hmem => (hvalid operation hmem).1, hpacked⟩
  have hother : (ofParts durations' other).pack circuit = .ok packed :=
    pack_of_sites hhere hsites
  obtain ⟨hruns, rfl⟩ := pack_eq_ok_iff.mp hother
  have hthere : ∀ operation ∈ circuit.operations,
      operation.RunsOn other ∧ operation.qubits.Nodup :=
    fun operation hmem => ⟨hruns operation hmem, (hvalid operation hmem).2⟩
  exact ⟨fun hduration => finish_eq_ok_iff.mpr ⟨hthere, hkeys, hduration, rfl⟩,
    finish_eq_overflow hthere hkeys⟩

/-- The second stage fails alike on devices that differ in their durations only, unless it is in
the sum of these. -/
theorem finish_eq_error_of_durations {cause : CompileError} (hcause : cause ≠ .durationOverflow)
    (hfails : (ofParts durations topology).finish circuit = .error cause) :
    (ofParts durations' topology).finish circuit = .error cause := by
  have hpack : (ofParts durations topology).pack circuit =
      (ofParts durations' topology).pack circuit := rfl
  have hcheck : ∀ packed, (ofParts durations topology).checkCircuit packed =
      (ofParts durations' topology).checkCircuit packed := fun _ => rfl
  rw [finish, hpack] at hfails
  rw [finish]
  refine bind_eq_error_iff.mpr ((bind_eq_error_iff.mp hfails).imp_right ?_)
  rintro ⟨packed, hpacked, hrest⟩
  refine ⟨packed, hpacked, bind_eq_error_iff.mpr (.inl ?_)⟩
  have hruns : ∀ operation ∈ packed.operations, operation.RunsOn topology := by
    obtain ⟨hruns, rfl⟩ := pack_eq_ok_iff.mp (mapError_eq_ok_iff.mp hpacked)
    exact fun operation hmem => hruns operation (Circuit.mem_arrange_operations.mp hmem)
  rcases bind_eq_error_iff.mp hrest with hverify | ⟨_, -, hpure⟩
  · refine (verify_eq_error_iff hruns).mpr (.inl ?_)
    rw [← hcheck]
    exact ((verify_eq_error_iff hruns).mp hverify).resolve_right fun h => hcause h.2.2
  · cases hpure

end Device

/-! ## Whole optimizations -/

namespace Circuit

/-- A circuit that was optimized for a device is the result for another device, too, exactly when
that one has the sites it uses and it takes a duration there.  If it takes longer, the program
breaks off.  More sites never do any harm.  Where only the durations differ, every failure other
than that one stays.  And the packing as such depends on nothing but the sites. -/
theorem optimizeNamed_depends_on_used_sites (circuit : Circuit) (map : QubitMap)
    (strategy : Strategy) (durations durations' : GateDurations) (topology other : Topology) :
    (∀ optimized,
      circuit.optimizeNamed (some (.ofParts durations topology)) map strategy.name =
          .ok optimized →
        ((∀ operation ∈ optimized.operations, ∀ site ∈ operation.sites, site ∈ other) ∧
            (Device.ofParts durations' other).HasDuration optimized ↔
          circuit.optimizeNamed (some (.ofParts durations' other)) map strategy.name =
            .ok optimized)) ∧
    (∀ optimized,
      circuit.optimizeNamed (some (.ofParts durations topology)) map strategy.name =
          .ok optimized →
        (∀ operation ∈ optimized.operations, ∀ site ∈ operation.sites, site ∈ other) →
          ¬(Device.ofParts durations' other).HasDuration optimized →
            circuit.optimizeNamed (some (.ofParts durations' other)) map strategy.name =
              .error .durationOverflow) ∧
    (∀ optimized,
      circuit.optimizeNamed (some (.ofParts durations topology)) map strategy.name =
          .ok optimized →
        (∀ site ∈ topology, site ∈ other) →
          (Device.ofParts durations' other).HasDuration optimized →
            circuit.optimizeNamed (some (.ofParts durations' other)) map strategy.name =
              .ok optimized) ∧
    (∀ cause, cause ≠ .durationOverflow →
      circuit.optimizeNamed (some (.ofParts durations topology)) map strategy.name =
          .error cause →
        circuit.optimizeNamed (some (.ofParts durations' topology)) map strategy.name =
          .error cause) ∧
    (∀ packed, (Device.ofParts durations topology).pack circuit = .ok packed →
      (∀ operation ∈ packed.operations, ∀ site ∈ operation.sites, site ∈ other) →
        (Device.ofParts durations' other).pack circuit = .ok packed) := by
  refine ⟨?_, ?_, ?_, ?_, fun packed => Device.pack_of_sites⟩
  · intro optimized hoptimized
    obtain ⟨hpreparable, hfinish⟩ := optimizeNamed_some_eq_ok_iff.mp hoptimized
    rw [hpreparable.optimizeNamed_eq_finish]
    exact ⟨fun ⟨hsites, hduration⟩ => (Device.finish_of_sites hfinish hsites).1 hduration,
      fun hother => ⟨Device.mem_of_finish hother, (Device.finish_eq_ok_iff.mp hother).2.2.1⟩⟩
  · intro optimized hoptimized hsites
    obtain ⟨hpreparable, hfinish⟩ := optimizeNamed_some_eq_ok_iff.mp hoptimized
    rw [hpreparable.optimizeNamed_eq_finish]
    exact (Device.finish_of_sites hfinish hsites).2
  · intro optimized hoptimized hlarger
    obtain ⟨hpreparable, hfinish⟩ := optimizeNamed_some_eq_ok_iff.mp hoptimized
    rw [hpreparable.optimizeNamed_eq_finish]
    refine (Device.finish_of_sites hfinish fun operation hmem site hsite => ?_).1
    exact hlarger site (Device.mem_of_finish hfinish operation hmem site hsite)
  · intro cause hcause hfails
    rw [optimizeNamed_name, optimize_some] at hfails ⊢
    refine bind_eq_error_iff.mpr ((bind_eq_error_iff.mp hfails).imp_right ?_)
    rintro ⟨prepared, hprepared, hfinish⟩
    exact ⟨prepared, hprepared, Device.finish_eq_error_of_durations hcause hfinish⟩

/-- A topology with the sites of `packedProbe` and one far away, but without the one that only the
dropped phase of `lineProbe` is mapped to. -/
def sparseTopology : Topology := .ofList [⟨0, 1⟩, ⟨0, 2⟩, ⟨0, 4⟩, ⟨0, 5⟩, ⟨7, 7⟩]

/-- Nanoseconds for every class of gates. -/
def briefDurations : GateDurations := .ofNanoseconds 1 2 3

theorem not_hasDuration_readoutProbe :
    ¬(Device.ofParts slowReadout (.rectangle 1 1)).HasDuration readoutProbe := by
  rintro ⟨times, htimes, hrange⟩
  obtain rfl : [slowReadout.measurement, slowReadout.measurement] = times := Except.ok.inj htimes
  exact absurd hrange (by decide)

/-- Durations matter: what is left for one device is not left for a slower one with the same sites,
on which it would take more time than any duration. -/
theorem readoutProbe_not_portable :
    readoutProbe.optimizeNamed (some (.ofParts .foxtail (.rectangle 1 1))) .identity
        Strategy.xmon.name =
      .ok readoutProbe ∧
    (∀ operation ∈ readoutProbe.operations, ∀ site ∈ operation.sites,
      site ∈ Topology.rectangle 1 1) ∧
    readoutProbe.optimizeNamed (some (.ofParts slowReadout (.rectangle 1 1))) .identity
        Strategy.xmon.name ≠
      .ok readoutProbe := by
  refine ⟨optimizeNamed_readoutProbe, by decide, fun hsame => ?_⟩
  cases optimizeNamed_readoutProbe_slow.symm.trans hsame

set_option maxRecDepth 20000 in
theorem lineProbe_on_other_devices :
    lineProbe.optimizeNamed (some (.ofParts briefDurations sparseTopology)) (.lineOntoRow 0)
        Strategy.xmon.name =
      .ok packedProbe ∧
    lineProbe.optimizeNamed (some (.ofParts briefDurations (.rectangle 3 12))) (.lineOntoRow 0)
        Strategy.xmon.name =
      .ok packedProbe ∧
    readoutProbe.optimizeNamed (some (.ofParts slowReadout (.rectangle 1 1))) .identity
        Strategy.xmon.name =
      .error .durationOverflow ∧
    lineProbe.optimizeNamed (some (.ofParts slowReadout (.rectangle 1 3))) (.lineOntoRow 0)
        Strategy.xmon.name =
      .error (.device (.offDevice ⟨0, 4⟩)) ∧
    (Device.ofParts briefDurations sparseTopology).pack packedProbe = .ok packedProbe := by
  obtain ⟨hsparse, -, -, -, -⟩ := optimizeNamed_depends_on_used_sites lineProbe (.lineOntoRow 0)
    .xmon .foxtail briefDurations (.rectangle 2 11) sparseTopology
  obtain ⟨-, -, hlarger, -, -⟩ := optimizeNamed_depends_on_used_sites lineProbe (.lineOntoRow 0)
    .xmon .foxtail briefDurations (.rectangle 2 11) (.rectangle 3 12)
  obtain ⟨-, hslow, -, -, -⟩ := optimizeNamed_depends_on_used_sites readoutProbe .identity
    .xmon .foxtail slowReadout (.rectangle 1 1) (.rectangle 1 1)
  obtain ⟨-, -, -, hnarrow, -⟩ := optimizeNamed_depends_on_used_sites lineProbe (.lineOntoRow 0)
    .xmon .foxtail slowReadout (.rectangle 1 3) (.rectangle 1 3)
  obtain ⟨-, -, -, -, hpack⟩ := optimizeNamed_depends_on_used_sites packedProbe .identity
    .xmon .foxtail briefDurations (.rectangle 2 11) sparseTopology
  refine ⟨(hsparse packedProbe optimizeNamed_lineProbe).mp ⟨by decide, _, rfl, by decide⟩,
    hlarger packedProbe optimizeNamed_lineProbe (by decide) ⟨_, rfl, by decide⟩,
    hslow readoutProbe optimizeNamed_readoutProbe (by decide) not_hasDuration_readoutProbe,
    hnarrow _ (by simp) rfl, hpack packedProbe rfl (by decide)⟩

end Circuit

end GridCircuit
