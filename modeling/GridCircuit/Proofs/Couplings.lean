import GridCircuit.Proofs.Legality
import Mathlib.Algebra.GroupWithZero.Nat
import Mathlib.Data.List.Nodup
import Mathlib.Data.List.ProdSigma

/-!
# The couplings of a topology

Which sites are coupled is asked in four ways.  `Site.Adjacent` compares coordinates;
`Topology.neighbors` tries four steps from a coordinate, and `Topology.couplers` two steps from each
site; `Topology.checkOperation` accepts interactions.  The first never leaves the integers, the
steps may leave the 32-bit range and are dropped there.

## Strategy

Steps are compared by what they lead over, `Site.stepTo`, an integer difference.  A step that can be
taken is the step to its end (`offset?_eq_some_iff_stepTo`), so a list of steps leads to the sites at
these differences, in the order of the steps and to none twice.  Neighbours are the sites at four
differences (`adjacent_iff_stepTo`) and the larger ones among them those at two
(`adjacent_and_lt_iff_stepTo`).

The number of couplers is found by counting arrows from sites to their neighbours: half of them lead
to a larger site, and the other half is the same turned round (`sigma_neighbors_perm`).
-/

namespace GridCircuit

/-- Pairs are compared by their low ends first and by their high ends where these agree. -/
def QubitPair.Before (first second : QubitPair) : Prop :=
  first.low < second.low ∨ first.low = second.low ∧ first.high < second.high

/-! ## Steps -/

namespace Site

variable {a b : Site} {steps : List (Int × Int)}

/-- The rows and columns that lie between two sites. -/
def stepTo (a b : Site) : Int × Int := (b.row.toInt - a.row.toInt, b.col.toInt - a.col.toInt)

/-- A step leads to a site when that is the difference of the two. -/
theorem offset?_eq_some_iff_stepTo {step : Int × Int} :
    a.offset? step.1 step.2 = some b ↔ a.stepTo b = step := by
  rw [offset?_eq_some_iff, stepTo, Prod.ext_iff]
  simp only
  omega

theorem mem_filterMap_offset? :
    b ∈ steps.filterMap (fun step => a.offset? step.1 step.2) ↔ a.stepTo b ∈ steps := by
  simp only [List.mem_filterMap, offset?_eq_some_iff_stepTo]
  exact ⟨fun ⟨_, hstep, hsame⟩ => hsame ▸ hstep, fun hstep => ⟨_, hstep, rfl⟩⟩

/-- The sites that some steps lead to come in the order of the steps. -/
theorem sublist_map_stepTo_filterMap_offset? :
    ((steps.filterMap fun step => a.offset? step.1 step.2).map a.stepTo).Sublist steps := by
  induction steps with
  | nil => exact List.Sublist.slnil
  | cons step rest ih =>
      cases hoffset : a.offset? step.1 step.2 with
      | none =>
          simp only [List.filterMap_cons, hoffset]
          exact ih.cons step
      | some b =>
          simp only [List.filterMap_cons, hoffset, List.map_cons,
            offset?_eq_some_iff_stepTo.mp hoffset]
          exact ih.cons_cons step

theorem adjacent_iff_stepTo : a.Adjacent b ↔ a.stepTo b ∈ Topology.neighborSteps := by
  simp only [Adjacent, distance, stepTo, Topology.neighborSteps, List.mem_cons, Prod.mk.injEq,
    List.not_mem_nil, or_false]
  omega

theorem adjacent_and_lt_iff_stepTo :
    a.Adjacent b ∧ a < b ↔ a.stepTo b ∈ [((0 : Int), (1 : Int)), (1, 0)] := by
  simp only [Adjacent, distance, lt_iff_toInt, stepTo, List.mem_cons, Prod.mk.injEq,
    List.not_mem_nil, or_false]
  omega

end Site

namespace Topology

variable {topology : Topology} {site p q : Site}

/-! ## Neighbours -/

theorem mem_neighbors : p ∈ topology.neighbors q ↔ p ∈ topology ∧ q.Adjacent p := by
  rw [neighbors, List.mem_filter, Site.mem_filterMap_offset?, Site.adjacent_iff_stepTo,
    decide_eq_true_eq, and_comm]

/-- The neighbours of a coordinate come in the order of the four steps. -/
theorem sublist_map_stepTo_neighbors :
    ((topology.neighbors q).map q.stepTo).Sublist neighborSteps :=
  (List.filter_sublist.map _).trans Site.sublist_map_stepTo_filterMap_offset?

theorem nodup_neighbors : (topology.neighbors q).Nodup :=
  (sublist_map_stepTo_neighbors.nodup (by decide)).of_map

theorem mem_forwardNeighbors :
    p ∈ topology.forwardNeighbors q ↔ p ∈ topology ∧ q.Adjacent p ∧ q < p := by
  rw [forwardNeighbors, List.mem_filter, Site.mem_filterMap_offset?,
    Site.adjacent_and_lt_iff_stepTo, decide_eq_true_eq, and_comm]

/-! ## Couplers -/

theorem mem_couplers_iff_lt {pair : QubitPair} : pair ∈ topology.couplers ↔
    ∃ a ∈ topology, ∃ b ∈ topology, a.Adjacent b ∧ a < b ∧ pair = ⟨.grid a, .grid b⟩ := by
  simp only [couplers, List.mem_flatMap, List.mem_map, mem_forwardNeighbors]
  constructor
  · rintro ⟨a, ha, b, ⟨hb, hadjacent, hless⟩, rfl⟩
    exact ⟨a, ha, b, hb, hadjacent, hless, rfl⟩
  · rintro ⟨a, ha, b, hb, hadjacent, hless, rfl⟩
    exact ⟨a, ha, b, ⟨hb, hadjacent, hless⟩, rfl⟩

/-- The couplers are the pairs of neighbours, whichever of the two is named first. -/
theorem mem_couplers {pair : QubitPair} : pair ∈ topology.couplers ↔
    ∃ a ∈ topology, ∃ b ∈ topology, a.Adjacent b ∧
      QubitPair.of (.grid a) (.grid b) = .ok pair := by
  simp only [mem_couplers_iff_lt, QubitPair.of_eq_ok_iff, Qubit.lt_grid]
  constructor
  · rintro ⟨a, ha, b, hb, hadjacent, hless, hpair⟩
    exact ⟨a, ha, b, hb, hadjacent, .inl ⟨hless, hpair⟩⟩
  · rintro ⟨a, ha, b, hb, hadjacent, ⟨hless, hpair⟩ | ⟨hless, hpair⟩⟩
    · exact ⟨a, ha, b, hb, hadjacent, hless, hpair⟩
    · exact ⟨b, hb, a, ha, Site.adjacent_comm.mp hadjacent, hless, hpair⟩

/-- The forward neighbours of a site come in ascending order. -/
theorem pairwise_forwardNeighbors : (topology.forwardNeighbors site).Pairwise (· < ·) := by
  apply List.Pairwise.filter
  rw [List.pairwise_filterMap, List.pairwise_pair]
  intro right hright below hbelow
  rw [Site.offset?_eq_some_iff] at hright hbelow
  rw [Site.lt_iff_toInt]
  omega

/-- The couplers are in strictly ascending order, by the low end and then by the high end. -/
theorem pairwise_couplers : topology.couplers.Pairwise QubitPair.Before := by
  rw [couplers, List.pairwise_flatMap]
  constructor
  · intro site _
    rw [List.pairwise_map]
    exact pairwise_forwardNeighbors.imp fun hless => .inr ⟨rfl, hless⟩
  · refine topology.ascending.imp fun hless => ?_
    simp only [List.forall_mem_map]
    exact fun _ _ _ _ => .inl hless

/-! ## The number of couplers -/

/-- An arrow turned round. -/
def turned (arrow : (_ : Site) × Site) : (_ : Site) × Site := ⟨arrow.2, arrow.1⟩

theorem nodup_sites : topology.sites.Nodup := nodup_of_ascending topology.ascending

theorem nodup_forwardNeighbors : (topology.forwardNeighbors site).Nodup :=
  nodup_of_ascending pairwise_forwardNeighbors

/-- The arrows from sites to neighbours are the forward ones and those turned round. -/
theorem sigma_neighbors_perm :
    (topology.sites.sigma topology.neighbors).Perm
      (topology.sites.sigma topology.forwardNeighbors ++
        (topology.sites.sigma topology.forwardNeighbors).map turned) := by
  have hforward : (topology.sites.sigma topology.forwardNeighbors).Nodup :=
    nodup_sites.sigma fun _ => nodup_forwardNeighbors
  have hturned : Function.Injective turned := by
    rintro ⟨a, b⟩ ⟨c, d⟩ hsame
    simp only [turned, Sigma.mk.injEq, heq_eq_eq] at hsame ⊢
    exact hsame.symm
  have hmem {a b : Site} : (⟨a, b⟩ : (_ : Site) × Site) ∈
      (topology.sites.sigma topology.forwardNeighbors).map turned ↔
        b ∈ topology ∧ a ∈ topology ∧ b.Adjacent a ∧ b < a := by
    rw [show (⟨a, b⟩ : (_ : Site) × Site) = turned ⟨b, a⟩ from rfl,
      List.mem_map_of_injective hturned, List.mem_sigma, mem_forwardNeighbors]
    rfl
  refine (List.perm_ext_iff_of_nodup (nodup_sites.sigma fun _ => nodup_neighbors) ?_).mpr ?_
  · rw [List.nodup_append', List.nodup_map_iff hturned]
    refine ⟨hforward, hforward, ?_⟩
    rintro ⟨a, b⟩ hab hturn
    -- no arrow leads up and down
    have hless := (mem_forwardNeighbors.mp (List.mem_sigma.mp hab).2).2.2
    exact StrictTotalOrder.irrefl a (StrictTotalOrder.trans hless (hmem.mp hturn).2.2.2)
  · rintro ⟨a, b⟩
    rw [List.mem_append, hmem, List.mem_sigma, List.mem_sigma, mem_neighbors, mem_forwardNeighbors,
      ← mem_def]
    constructor
    · rintro ⟨ha, hb, hadjacent⟩
      rcases StrictTotalOrder.connected a b with hless | rfl | hgreater
      · exact .inl ⟨ha, hb, hadjacent, hless⟩
      · exact absurd hadjacent a.not_adjacent_self
      · exact .inr ⟨hb, ha, Site.adjacent_comm.mp hadjacent, hgreater⟩
    · rintro (⟨ha, hb, hadjacent, -⟩ | ⟨hb, ha, hadjacent, -⟩)
      · exact ⟨ha, hb, hadjacent⟩
      · exact ⟨ha, hb, Site.adjacent_comm.mp hadjacent⟩

theorem length_sigma (next : Site → List Site) : (topology.sites.sigma next).length =
    (topology.sites.map fun site => (next site).length).sum := by
  simp [List.sigma, List.length_flatMap]

theorem length_couplers : topology.couplers.length =
    (topology.sites.map fun site => (topology.forwardNeighbors site).length).sum := by
  simp [couplers, List.length_flatMap]

/-- Counted from all sites, every coupler is counted twice. -/
theorem sum_length_neighbors :
    (topology.sites.map fun site => (topology.neighbors site).length).sum =
      2 * topology.couplers.length := by
  rw [← length_sigma, sigma_neighbors_perm.length_eq, List.length_append, List.length_map,
    length_sigma, length_couplers, Nat.two_mul]

/-! ## Interactions -/

theorem checkOperation_interaction_eq_ok_iff {exponent : Float} {a b : Qubit} :
    topology.checkOperation (.plain (.interaction exponent) [a, b]) = .ok () ↔
      ∃ p ∈ topology, ∃ q ∈ topology, p.Adjacent q ∧ a = .grid p ∧ b = .grid q := by
  rw [checkOperation_eq_ok_iff]
  constructor
  · intro hruns
    cases hruns with
    | @interaction _ p q hp hq hadjacent => exact ⟨p, hp, q, hq, hadjacent, rfl, rfl⟩
  · rintro ⟨p, hp, q, hq, hadjacent, rfl, rfl⟩
    exact .interaction hp hq hadjacent

/-- An interaction is accepted on two qubits when they make a pair and this is a coupler. -/
theorem checkOperation_interaction_iff_coupler {exponent : Float} {a b : Qubit} :
    topology.checkOperation (.plain (.interaction exponent) [a, b]) = .ok () ↔
      ∃ pair, QubitPair.of a b = .ok pair ∧ pair ∈ topology.couplers := by
  rw [checkOperation_interaction_eq_ok_iff]
  constructor
  · rintro ⟨p, hp, q, hq, hadjacent, rfl, rfl⟩
    have hne : Qubit.grid p ≠ .grid q := by
      intro hsame
      obtain rfl := Qubit.grid.inj hsame
      exact p.not_adjacent_self hadjacent
    obtain ⟨pair, hpair⟩ := QubitPair.exists_of_eq_ok hne
    exact ⟨pair, hpair, mem_couplers.mpr ⟨p, hp, q, hq, hadjacent, hpair⟩⟩
  · rintro ⟨pair, hpair, hmem⟩
    obtain ⟨p, hp, q, hq, hadjacent, hpair'⟩ := mem_couplers.mp hmem
    rcases QubitPair.eq_or_swap_of_of_eq_ok hpair hpair' with ⟨rfl, rfl⟩ | ⟨rfl, rfl⟩
    · exact ⟨p, hp, q, hq, hadjacent, rfl, rfl⟩
    · exact ⟨q, hq, p, hp, Site.adjacent_comm.mp hadjacent, rfl, rfl⟩

/-- All views of the coupling graph agree.  The neighbours of a coordinate are the sites next to it,
each once, below, above, to the right and to the left.  The couplers are the pairs of neighbouring
sites, each once, and half as many as sites have neighbours in total.  They are the pairs of qubits
on which an interaction is accepted. -/
theorem coupling_views_agree (topology : Topology) :
    (∀ q, (∀ p, p ∈ topology.neighbors q ↔ p ∈ topology ∧ q.Adjacent p) ∧
      (topology.neighbors q).Nodup ∧
      ((topology.neighbors q).map fun p =>
        (p.row.toInt - q.row.toInt, p.col.toInt - q.col.toInt)).Sublist
          [(1, 0), (-1, 0), (0, 1), (0, -1)]) ∧
    (∀ pair, pair ∈ topology.couplers ↔ ∃ a ∈ topology, ∃ b ∈ topology, a.Adjacent b ∧
      QubitPair.of (.grid a) (.grid b) = .ok pair) ∧
    topology.couplers.Pairwise QubitPair.Before ∧
    (topology.sites.map fun site => (topology.neighbors site).length).sum =
      2 * topology.couplers.length ∧
    ∀ exponent a b, topology.checkOperation (.plain (.interaction exponent) [a, b]) = .ok () ↔
      ∃ pair, QubitPair.of a b = .ok pair ∧ pair ∈ topology.couplers :=
  ⟨fun _ => ⟨fun _ => mem_neighbors, nodup_neighbors, sublist_map_stepTo_neighbors⟩,
    fun _ => mem_couplers, pairwise_couplers, sum_length_neighbors,
    fun _ _ _ => checkOperation_interaction_iff_coupler⟩

end Topology

end GridCircuit
