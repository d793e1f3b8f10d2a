import GridCircuit.Proofs.Decoding
import GridCircuit.Proofs.Reading

/-!
# Circuits of texts have finite exponents

A tree with finite numbers decodes to operations with finite exponents, because an exponent is one
of the numbers of the tree: records hand on the values that they find
(`Json.Finite.of_record?_eq_some`), and gates pick their numbers from records.  With what is known
of the trees of texts, the exponents of a circuit that was read are finite
(`Circuit.finite_of_read_eq_ok`).
-/

namespace GridCircuit

open Attempt

namespace Json

variable {tree : Json} {names : List String} {found : List (Option Json)}

theorem Finite.of_number?_eq_some (htree : tree.Finite) {number : Float}
    (hnumber : tree.number? = some number) : number.isFinite = true := by
  cases htree with
  | integer hvalue =>
      cases hnumber
      exact hvalue
  | real hvalue =>
      cases hnumber
      exact hvalue
  | _ => cases hnumber

/-- Values that are found for names one after the other come from the names. -/
theorem exists_of_mem_of_mapM_eq_some {find : String → Option (Option Json)} {value : Option Json}
    (hfound : names.mapM find = some found) (hvalue : value ∈ found) :
    ∃ name ∈ names, find name = some value := by
  induction names generalizing found with
  | nil =>
      cases hfound
      exact absurd hvalue List.not_mem_nil
  | cons name rest ih =>
      rw [List.mapM_cons] at hfound
      obtain ⟨first, hfirst, hnext⟩ := Option.bind_eq_some_iff.mp hfound
      obtain ⟨others, hothers, hpure⟩ := Option.bind_eq_some_iff.mp hnext
      cases hpure
      rcases List.mem_cons.mp hvalue with rfl | hvalue
      · exact ⟨name, List.mem_cons_self, hfirst⟩
      · obtain ⟨other, hmem, hother⟩ := ih hothers hvalue
        exact ⟨other, List.mem_cons_of_mem _ hmem, hother⟩

theorem Finite.of_fieldValues?_eq_some {fields : List (String × Json)}
    (hfields : ∀ field ∈ fields, field.2.Finite)
    (hfound : fieldValues? names fields = some found) :
    ∀ value, some value ∈ found → value.Finite := by
  intro value hvalue
  unfold fieldValues? at hfound
  split at hfound
  · obtain ⟨name, -, hname⟩ := exists_of_mem_of_mapM_eq_some hfound hvalue
    split at hname
    · cases hname
    · rename_i key other hfilter
      cases hname
      have hmem : (key, value) ∈ fields.filter fun field => field.1 = name :=
        hfilter ▸ List.mem_singleton_self _
      exact hfields _ (List.mem_of_mem_filter hmem)
    · cases hname
  · cases hfound

/-- The fields of a record of finite numbers have finite numbers. -/
theorem Finite.of_record?_eq_some (htree : tree.Finite) (hfound : tree.record? names = some found) :
    ∀ value, some value ∈ found → value.Finite := by
  cases htree with
  | object hfields => exact of_fieldValues?_eq_some hfields hfound
  | array hitems =>
      rw [record?] at hfound
      split at hfound
      · cases hfound
        intro value hvalue
        simp only [List.mem_append, List.mem_map, Option.some.injEq, exists_eq_right,
          List.mem_replicate, reduceCtorEq, and_false, or_false] at hvalue
        exact hitems value hvalue
      · cases hfound
  | _ => cases hfound

end Json

theorem Axis.finite_of_decode?_eq_some {tree : Json} (htree : tree.Finite) {axis : Axis}
    (hdecode : decode? tree = some axis) : ∀ number ∈ axis.numbers, number.isFinite = true := by
  unfold decode? at hdecode
  split at hdecode
  · cases hdecode
    simp [numbers]
  · cases hdecode
    simp [numbers]
  · split at hdecode
    · cases hdecode
      simp [numbers]
    · cases hdecode
  · split at hdecode
    · cases hdecode
      simp [numbers]
    · cases hdecode
  · split at hdecode
    · rename_i value _ angle hfound
      have hvalue : value.Finite := htree.values _ List.mem_cons_self
      have hangle := hvalue.of_record?_eq_some hfound angle (by simp)
      obtain ⟨number, hnumber, rfl⟩ := Option.map_eq_some_iff.mp hdecode
      simpa [numbers] using hangle.of_number?_eq_some hnumber
    · cases hdecode
  · cases hdecode

namespace Gate

theorem finite_of_ofType?_eq_some {type : String} {parameters : Json}
    (htree : parameters.Finite) {gate : Gate} (hdecode : ofType? type parameters = some gate) :
    gate.Finite := by
  unfold ofType? at hdecode
  split at hdecode
  · split at hdecode
    · rename_i exponent hfound
      have hexponent := htree.of_record?_eq_some hfound exponent (by simp)
      obtain ⟨number, hnumber, rfl⟩ := Option.map_eq_some_iff.mp hdecode
      simpa [Finite, numbers] using hexponent.of_number?_eq_some hnumber
    · cases hdecode
  · split at hdecode
    · rename_i axis exponent hfound
      have hread := htree.of_record?_eq_some hfound
      obtain ⟨direction, hdirection, hnext⟩ := Option.bind_eq_some_iff.mp hdecode
      obtain ⟨number, hnumber, hgate⟩ := Option.bind_eq_some_iff.mp hnext
      cases hgate
      have haxis := Axis.finite_of_decode?_eq_some (hread axis (by simp)) hdirection
      have hexponent := (hread exponent (by simp)).of_number?_eq_some hnumber
      simpa [Finite, numbers, or_imp, forall_and] using ⟨haxis, hexponent⟩
    · cases hdecode
  · split at hdecode
    · rename_i exponent virtual hfound
      have hexponent := htree.of_record?_eq_some hfound exponent (by simp)
      obtain ⟨number, hnumber, hnext⟩ := Option.bind_eq_some_iff.mp hdecode
      obtain ⟨_, -, hgate⟩ := Option.bind_eq_some_iff.mp hnext
      cases hgate
      simpa [Finite, numbers] using hexponent.of_number?_eq_some hnumber
    · rename_i exponent hfound
      have hexponent := htree.of_record?_eq_some hfound exponent (by simp)
      obtain ⟨number, hnumber, hgate⟩ := Option.bind_eq_some_iff.mp hdecode
      cases hgate
      simpa [Finite, numbers] using hexponent.of_number?_eq_some hnumber
    · cases hdecode
  · split at hdecode
    · obtain ⟨key, -, rfl⟩ := Option.map_eq_some_iff.mp hdecode
      simp [Finite, numbers]
    · cases hdecode
  · split at hdecode
    · obtain ⟨name, -, hnext⟩ := Option.bind_eq_some_iff.mp hdecode
      obtain ⟨arity, -, hgate⟩ := Option.bind_eq_some_iff.mp hnext
      cases hgate
      simp [Finite, numbers]
    · cases hdecode
  · cases hdecode

theorem finite_of_decode?_eq_some {tree : Json} (htree : tree.Finite) {gate : Gate}
    (hdecode : decode? tree = some gate) : gate.Finite := by
  unfold decode? at hdecode
  split at hdecode
  · split at hdecode
    · split at hdecode
      · refine finite_of_ofType?_eq_some (.object fun field hfield => ?_) hdecode
        exact htree.values field (List.mem_of_mem_filter hfield)
      · cases hdecode
    · refine finite_of_ofType?_eq_some (.array fun item hitem => ?_) hdecode
      exact htree.items item (List.mem_cons_of_mem _ hitem)
    · cases hdecode
  · cases hdecode

end Gate

/-- Trees with finite numbers decode to operations with finite exponents. -/
theorem Operation.ensures_finite : Ensures Json.Finite Operation.Finite where
  items := Json.Finite.items
  values := Json.Finite.values
  plain := by
    intro variant value build hvalue hbuild qubits operation hoperation
    unfold plainBuilder? at hbuild
    split at hbuild
    · obtain ⟨gate, hgate, rfl⟩ := Option.map_eq_some_iff.mp hbuild
      obtain ⟨-, rfl⟩ := ofGate_eq_ok_iff.mp hoperation
      exact .plain (Gate.finite_of_decode?_eq_some hvalue hgate)
    · split at hbuild
      · rename_i key gate hfound
        have hread := hvalue.of_record?_eq_some hfound gate (by simp)
        obtain ⟨name, -, hnext⟩ := Option.bind_eq_some_iff.mp hbuild
        obtain ⟨decoded, hdecoded, hsame⟩ := Option.bind_eq_some_iff.mp hnext
        cases hsame
        obtain ⟨-, rfl⟩ := ofConditional_eq_ok_iff.mp hoperation
        exact .conditional (Gate.finite_of_decode?_eq_some hread hdecoded)
      · cases hbuild
    · cases hbuild
  subcircuit := by
    intro parts hparts qubits operation hoperation
    obtain ⟨-, rfl⟩ := ofPartsOn_eq_ok_iff.mp hoperation
    exact .subcircuit hparts

/-- The operations of a circuit that was read from a text have finite exponents. -/
theorem Circuit.finite_of_read_eq_ok {source : String} {circuit : Circuit}
    (hread : Circuit.read source = .ok circuit) :
    ∀ operation ∈ circuit.operations, operation.Finite := by
  obtain ⟨hroot, -⟩ := Json.Source.decode_eq_ok_iff.mp hread
  exact good_of_decode_eq_ok Operation.ensures_finite (Json.finite_read source) hroot

end GridCircuit
