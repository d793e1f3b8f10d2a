import GridCircuit.Proofs.Acceptance
import GridCircuit.Proofs.HostRules

/-!
# Interactions of an accepted moment

The exclusion of interactions asks for neighbouring sites only.  Taken by itself it would let two
interactions share a site, and even the same interaction occur twice, since a site is no neighbour
of itself.  It is the check of single operations that closes this gap: the two sites of an
interaction are neighbours, so an interaction that shares a site with another one has its second
site next to that.

What is left is a matching of the sites in which no two pairs are linked by a coupler.  The rules of
the host, which may ask for nothing at all, have no part in it.
-/

namespace GridCircuit

namespace Operation

variable {first second : Operation} {topology : Topology}

theorem RunsOn.exists_sites (hruns : first.RunsOn topology)
    (hinteraction : first.isInteraction = true) :
    ∃ a b, first.qubits = [.grid a, .grid b] ∧ first.sites = [a, b] ∧ a.Adjacent b := by
  cases hruns with
  | @interaction exponent a b ha hb hadjacent => exact ⟨a, b, rfl, rfl, hadjacent⟩
  | rotation hsite => cases hinteraction
  | phase hsite => cases hinteraction
  | measure hsome hsites => cases hinteraction

/-- Every site of an interaction has the other one as its neighbour. -/
theorem RunsOn.exists_adjacent (hruns : first.RunsOn topology)
    (hinteraction : first.isInteraction = true) {site : Site} (hsite : site ∈ first.sites) :
    ∃ partner ∈ first.sites, partner.Adjacent site := by
  obtain ⟨a, b, -, hsites, hadjacent⟩ := hruns.exists_sites hinteraction
  rw [hsites] at hsite ⊢
  rcases List.mem_pair.mp hsite with rfl | rfl
  · exact ⟨b, by simp, Site.adjacent_comm.mp hadjacent⟩
  · exact ⟨a, by simp, hadjacent⟩

/-- Interactions that do not exclude each other keep a distance of two, once they run at all. -/
theorem RunsOn.two_le_distance (hruns : first.RunsOn topology)
    (hfirst : first.isInteraction = true) (hsecond : second.isInteraction = true)
    (hapart : first.Apart second) :
    ∀ p ∈ first.sites, ∀ q ∈ second.sites, 2 ≤ p.distance q := by
  intro p hp q hq
  have hone : p.distance q ≠ 1 := hapart hfirst hsecond p hp q hq
  have hzero : p.distance q ≠ 0 := by
    intro hsame
    obtain rfl : p = q := Site.distance_eq_zero_iff.mp hsame
    -- the other site of the first interaction is next to the shared one
    obtain ⟨partner, hpartner, hadjacent⟩ := hruns.exists_adjacent hfirst hp
    exact hapart hfirst hsecond partner hpartner p hq hadjacent
  omega

end Operation

namespace Device

variable {moment : Moment} {first second : Operation} {i j : Nat}

/-- Whatever rules the host of a device has, the interactions of a moment that the device accepts
form an induced matching: two of them at different positions have four distinct sites, and each site
of one is two steps or more away from each site of the other. -/
theorem interactions_form_induced_matching (device : Device)
    (hcheck : device.checkMoment moment = .ok ()) (hne : i ≠ j)
    (hfirst : moment.operations[i]? = some first) (hsecond : moment.operations[j]? = some second)
    (hinteraction : first.isInteraction = true) (hinteraction' : second.isInteraction = true) :
    ∃ a b c d, first.qubits = [.grid a, .grid b] ∧ second.qubits = [.grid c, .grid d] ∧
      [a, b, c, d].Nodup ∧ ∀ p ∈ [a, b], ∀ q ∈ [c, d], 2 ≤ p.distance q := by
  obtain ⟨-, hruns, hpairwise⟩ := checkMoment_eq_ok_iff_host.mp hcheck
  have hfirstRuns : first.RunsOn device.topology := hruns first (List.mem_of_getElem? hfirst)
  have hsecondRuns : second.RunsOn device.topology := hruns second (List.mem_of_getElem? hsecond)
  have hapart : first.Apart second := by
    obtain ⟨hi, rfl⟩ := List.getElem?_eq_some_iff.mp hfirst
    obtain ⟨hj, rfl⟩ := List.getElem?_eq_some_iff.mp hsecond
    exact pairwise_apart_iff.mp hpairwise i j hi hj hne
  have hdistance := hfirstRuns.two_le_distance hinteraction hinteraction' hapart
  obtain ⟨a, b, hab, hsites, hadjacent⟩ := hfirstRuns.exists_sites hinteraction
  obtain ⟨c, d, hcd, hsites', hadjacent'⟩ := hsecondRuns.exists_sites hinteraction'
  rw [hsites, hsites'] at hdistance
  have hdistinct {p q : Site} (hfar : 0 < p.distance q) : p ≠ q := by
    intro hsame
    rw [Site.distance_eq_zero_iff.mpr hsame] at hfar
    exact absurd hfar (Nat.lt_irrefl 0)
  have hcross : ∀ p ∈ [a, b], ∀ q ∈ [c, d], p ≠ q := by
    intro p hp q hq
    have hfar : 2 ≤ p.distance q := hdistance p hp q hq
    exact hdistinct (by omega)
  have hends : a ≠ b := hdistinct (by rw [hadjacent]; exact Nat.one_pos)
  have hends' : c ≠ d := hdistinct (by rw [hadjacent']; exact Nat.one_pos)
  have hnodup : ([a, b] ++ [c, d]).Nodup := by
    rw [List.nodup_append']
    exact ⟨by simpa using hends, by simpa using hends', fun p hp hp' => hcross p hp p hp' rfl⟩
  exact ⟨a, b, c, d, hab, hcd, hnodup, hdistance⟩

/-- A moment with two interactions that are as close as they may be, and a phase that overlaps one
of them. -/
def closeProbe : Moment :=
  ⟨[.plain (.interaction 1.0) [.grid ⟨0, 0⟩, .grid ⟨0, 1⟩],
    .plain (.phase 0.5 false) [.grid ⟨0, 1⟩],
    .plain (.interaction 1.0) [.grid ⟨1, 2⟩, .grid ⟨1, 3⟩]]⟩

theorem closeProbe_matched :
    indulgentFoxtail.checkMoment closeProbe = .ok () ∧
      ∃ a b c d, closeProbe.operations.map Operation.qubits =
          [[.grid a, .grid b], [.grid b], [.grid c, .grid d]] ∧
        [a, b, c, d].Nodup ∧ ∀ p ∈ [a, b], ∀ q ∈ [c, d], 2 ≤ p.distance q := by
  have hcheck : indulgentFoxtail.checkMoment closeProbe = .ok () := rfl
  have hfirst : closeProbe.operations[0]? =
      some (.plain (.interaction 1.0) [.grid ⟨0, 0⟩, .grid ⟨0, 1⟩]) := rfl
  have hsecond : closeProbe.operations[2]? =
      some (.plain (.interaction 1.0) [.grid ⟨1, 2⟩, .grid ⟨1, 3⟩]) := rfl
  obtain ⟨a, b, c, d, hab, hcd, hnodup, hfar⟩ :=
    interactions_form_induced_matching indulgentFoxtail hcheck (by decide) hfirst hsecond rfl rfl
  cases hab
  cases hcd
  exact ⟨hcheck, _, _, _, _, rfl, hnodup, hfar⟩

end Device

end GridCircuit
