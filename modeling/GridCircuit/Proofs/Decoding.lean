import GridCircuit.Proofs.RoundTrip

/-!
# What decoding builds

An operation comes out of a document only through the checked constructors, those of its parts
first.  `Ensures` states what is needed for all operations of decoded documents to have a property:
the constructors give it, from parts that have it, and gates are decoded from trees of a kind that
members inherit.

The decoders of operations, kinds and variants call each other on smaller trees, so that one
induction on the tree speaks of all three (`Ensures.decodes`).  Moments and circuits follow by
running through their fields.
-/

namespace GridCircuit

open Attempt

/-- Trees are leaves, lists and objects, the latter two with trees below them. -/
theorem Json.inductionOnMembers {motive : Json → Prop}
    (leaf : ∀ tree, (∀ items, tree ≠ .array items) → (∀ fields, tree ≠ .object fields) →
      motive tree)
    (array : ∀ items, (∀ item ∈ items, motive item) → motive (.array items))
    (object : ∀ fields, (∀ field ∈ fields, motive field.2) → motive (.object fields))
    (tree : Json) : motive tree :=
  @Json.rec motive (fun items => ∀ item ∈ items, motive item)
    (fun fields => ∀ field ∈ fields, motive field.2) (fun field => motive field.2)
    (leaf _ (by simp) (by simp)) (fun _ => leaf _ (by simp) (by simp))
    (fun _ => leaf _ (by simp) (by simp)) (fun _ => leaf _ (by simp) (by simp))
    (fun _ => leaf _ (by simp) (by simp)) array object
    (leaf _ (by simp) (by simp)) (fun _ _ => leaf _ (by simp) (by simp))
    (leaf _ (by simp) (by simp)) (by simp)
    (fun _ _ hitem hrest => List.forall_mem_cons.mpr ⟨hitem, hrest⟩) (by simp)
    (fun _ _ hfield hrest => List.forall_mem_cons.mpr ⟨hfield, hrest⟩) (fun _ _ hvalue => hvalue)
    tree

namespace Operation

/-- Every operation that is built of some operands has a property. -/
def Builder.Gives (good : Operation → Prop) (build : Builder) : Prop :=
  ∀ qubits operation, build qubits = .ok operation → good operation

/-- What makes every operation of a decoded document good: its trees are fine, and from fine trees
and good parts the constructors build good operations. -/
structure Ensures (fine : Json → Prop) (good : Operation → Prop) : Prop where
  items : ∀ {items}, fine (.array items) → ∀ item ∈ items, fine item
  values : ∀ {fields}, fine (.object fields) → ∀ field ∈ fields, fine field.2
  plain : ∀ {variant value build}, fine value → plainBuilder? variant value = some build →
    build.Gives good
  subcircuit : ∀ {parts : List Operation}, (∀ part ∈ parts, good part) →
    Builder.Gives good (ofPartsOn parts)

/-- A tree from which the decoders of operations take only good ones. -/
structure Decodes (good : Operation → Prop) (tree : Json) : Prop where
  operation : ∀ operation, decode tree = .ok operation → good operation
  kind : ∀ build, decodeKind tree = .ok build → build.Gives good
  variant : ∀ name build, decodeVariant name tree = .ok build → build.Gives good

variable {good : Operation → Prop} {fine : Json → Prop}

/-- Operations that are decoded one after the other are all good. -/
theorem good_of_decodeParts_eq_ok {items : List Json} {parts : List Operation}
    (hitems : ∀ item ∈ items, Decodes good item) (hparts : decodeParts items = .ok parts) :
    ∀ part ∈ parts, good part := by
  rw [decodeParts_eq_mapM] at hparts
  intro part hpart
  obtain ⟨item, hitem, hdecode⟩ := exists_of_mem_of_mapM_eq_ok hparts hpart
  exact (hitems item hitem).operation part hdecode

/-- The fields of an operation give a good one when the kinds among them do. -/
theorem good_of_decodeFields_eq_ok {fields : List (String × Json)} {build : Option Builder}
    {qubits : Option (List Qubit)} {operation : Operation}
    (hfields : ∀ field ∈ fields, Decodes good field.2) (hbuild : ∀ b ∈ build, Builder.Gives good b)
    (hdecode : decodeFields build qubits fields = .ok operation) : good operation := by
  induction fields generalizing build qubits with
  | nil =>
      cases build with
      | none => simp [decodeFields] at hdecode
      | some build =>
          cases qubits with
          | none => simp [decodeFields] at hdecode
          | some qubits =>
              rw [decodeFields, checked_eq_ok_iff] at hdecode
              exact hbuild build rfl qubits operation hdecode
  | cons field rest ih =>
      obtain ⟨name, value⟩ := field
      obtain ⟨hvalue, hrest⟩ := List.forall_mem_cons.mp hfields
      -- what is refused at once is gone after the split
      unfold decodeFields at hdecode
      split_ifs at hdecode
      · obtain ⟨read, hread, hnext⟩ := bind_eq_ok_iff.mp hdecode
        refine ih hrest (fun b hb => ?_) hnext
        cases hb
        exact hvalue.kind read hread
      · obtain ⟨read, -, hnext⟩ := bind_eq_ok_iff.mp hdecode
        exact ih hrest hbuild hnext
      · exact ih hrest hbuild hdecode

/-- An operation that is written as a list gives a good one when the kind in front does. -/
theorem good_of_decode_array_eq_ok {items : List Json} {operation : Operation}
    (hitems : ∀ item ∈ items, Decodes good item)
    (hdecode : decode (.array items) = .ok operation) : good operation := by
  match items with
  | [] => simp [decode] at hdecode
  | [kind] =>
      rw [decode] at hdecode
      obtain ⟨_, -, hthrow⟩ := bind_eq_ok_iff.mp hdecode
      cases hthrow
  | kind :: operands :: surplus =>
      rw [decode] at hdecode
      obtain ⟨build, hbuild, hnext⟩ := bind_eq_ok_iff.mp hdecode
      obtain ⟨qubits, -, hlast⟩ := bind_eq_ok_iff.mp hnext
      split at hlast
      · exact (hitems kind List.mem_cons_self).kind build hbuild qubits operation
          (checked_eq_ok_iff.mp hlast)
      · cases hlast

theorem gives_of_decodeKind_object_eq_ok {fields : List (String × Json)} {build : Builder}
    (hfields : ∀ field ∈ fields, Decodes good field.2)
    (hdecode : decodeKind (.object fields) = .ok build) : build.Gives good := by
  match fields with
  | [] => simp [decodeKind] at hdecode
  | (name, value) :: surplus =>
      rw [decodeKind] at hdecode
      obtain ⟨read, hread, hlast⟩ := bind_eq_ok_iff.mp hdecode
      split at hlast
      · cases hlast
        have hvalue : Decodes good value := hfields (name, value) List.mem_cons_self
        exact hvalue.variant name _ hread
      · cases hlast

theorem Ensures.gives_of_decodeVariant_eq_ok (hensures : Ensures fine good) {tree : Json}
    (hfine : fine tree) (hitems : ∀ items, tree = .array items → ∀ item ∈ items, Decodes good item)
    {name : String} {build : Builder} (hdecode : decodeVariant name tree = .ok build) :
    build.Gives good := by
  have hplain (hread : required (plainBuilder? name tree) = .ok build) : build.Gives good :=
    hensures.plain hfine (required_eq_ok_iff.mp hread)
  by_cases hname : name = "subcircuit"
  · cases tree with
    | array items =>
        rw [decodeVariant, if_pos hname] at hdecode
        obtain ⟨parts, hparts, hbuild⟩ := bind_eq_ok_iff.mp hdecode
        cases hbuild
        exact hensures.subcircuit (good_of_decodeParts_eq_ok (hitems items rfl) hparts)
    | _ => exact hplain (by simpa [decodeVariant] using hdecode)
  · rw [decodeVariant_of_ne hname] at hdecode
    exact hplain hdecode

/-- A fine tree decodes to good operations only. -/
theorem Ensures.decodes (hensures : Ensures fine good) {tree : Json} (hfine : fine tree) :
    Decodes good tree := by
  induction tree using Json.inductionOnMembers with
  | leaf tree harray hobject =>
      refine ⟨?_, ?_, ?_⟩
      · intro operation hdecode
        cases tree <;> simp_all [decode]
      · intro build hdecode
        cases tree <;> simp_all [decodeKind]
      · intro name build hdecode
        exact hensures.gives_of_decodeVariant_eq_ok hfine (fun items h => (harray items h).elim)
          hdecode
  | array items ih =>
      have hitems : ∀ item ∈ items, Decodes good item := fun item hitem =>
        ih item hitem (hensures.items hfine item hitem)
      refine ⟨?_, ?_, ?_⟩
      · intro operation hdecode
        exact good_of_decode_array_eq_ok hitems hdecode
      · intro build hdecode
        simp [decodeKind] at hdecode
      · intro name build hdecode
        refine hensures.gives_of_decodeVariant_eq_ok hfine (fun others hsame => ?_) hdecode
        cases hsame
        exact hitems
  | object fields ih =>
      have hfields : ∀ field ∈ fields, Decodes good field.2 := fun field hfield =>
        ih field hfield (hensures.values hfine field hfield)
      refine ⟨?_, ?_, ?_⟩
      · intro operation hdecode
        rw [decode] at hdecode
        exact good_of_decodeFields_eq_ok hfields (by simp) hdecode
      · intro build hdecode
        exact gives_of_decodeKind_object_eq_ok hfields hdecode
      · intro name build hdecode
        exact hensures.gives_of_decodeVariant_eq_ok hfine (by simp) hdecode

end Operation

open Operation

variable {good : Operation → Prop} {fine : Json → Prop}

/-! ## Moments and circuits -/

namespace Moment

theorem good_of_decodeOperations_eq_ok (hensures : Ensures fine good) {tree : Json}
    (hfine : fine tree) {operations : List Operation}
    (hdecode : decodeOperations tree = .ok operations) :
    ∀ operation ∈ operations, good operation := by
  cases tree with
  | array items =>
      have hitems : ∀ item ∈ items, Decodes good item := fun item hitem =>
        hensures.decodes (hensures.items hfine item hitem)
      exact good_of_decodeParts_eq_ok hitems hdecode
  | _ => simp [decodeOperations] at hdecode

theorem good_of_decodeFields_eq_ok (hensures : Ensures fine good) {fields : List (String × Json)}
    (hfine : ∀ field ∈ fields, fine field.2) {operations : Option (List Operation)}
    (hoperations : ∀ list ∈ operations, ∀ operation ∈ list, good operation) {moment : Moment}
    (hdecode : decodeFields operations fields = .ok moment) :
    ∀ operation ∈ moment.operations, good operation := by
  induction fields generalizing operations with
  | nil =>
      rw [decodeFields] at hdecode
      obtain ⟨list, hlist, hmoment⟩ := bind_eq_ok_iff.mp hdecode
      cases hmoment
      exact hoperations list (required_eq_ok_iff.mp hlist)
  | cons field rest ih =>
      obtain ⟨name, value⟩ := field
      obtain ⟨hvalue, hrest⟩ := List.forall_mem_cons.mp hfine
      unfold decodeFields at hdecode
      split_ifs at hdecode
      · obtain ⟨read, hread, hnext⟩ := bind_eq_ok_iff.mp hdecode
        refine ih hrest (fun list hlist => ?_) hnext
        cases hlist
        exact good_of_decodeOperations_eq_ok hensures hvalue hread
      · exact ih hrest hoperations hdecode

/-- The operations of a decoded moment are good. -/
theorem good_of_decode_eq_ok (hensures : Ensures fine good) {tree : Json} (hfine : fine tree)
    {moment : Moment} (hdecode : decode tree = .ok moment) :
    ∀ operation ∈ moment.operations, good operation := by
  cases tree with
  | object fields =>
      exact good_of_decodeFields_eq_ok hensures (hensures.values hfine) (by simp) hdecode
  | array items =>
      match items with
      | [] => simp [decode] at hdecode
      | operations :: surplus =>
          obtain ⟨list, hlist, hlast⟩ := bind_eq_ok_iff.mp hdecode
          split at hlast
          · cases hlast
            exact good_of_decodeOperations_eq_ok hensures
              (hensures.items hfine operations List.mem_cons_self) hlist
          · cases hlast
  | _ => simp [decode] at hdecode

end Moment

namespace Circuit

theorem good_of_decodeMoments_eq_ok (hensures : Ensures fine good) {tree : Json}
    (hfine : fine tree) {moments : List Moment} (hdecode : decodeMoments tree = .ok moments) :
    ∀ moment ∈ moments, ∀ operation ∈ moment.operations, good operation := by
  cases tree with
  | array items =>
      intro moment hmoment
      obtain ⟨item, hitem, hread⟩ := exists_of_mem_of_mapM_eq_ok hdecode hmoment
      exact Moment.good_of_decode_eq_ok hensures (hensures.items hfine item hitem) hread
  | _ => simp [decodeMoments] at hdecode

theorem good_of_decodeFields_eq_ok (hensures : Ensures fine good) {fields : List (String × Json)}
    (hfine : ∀ field ∈ fields, fine field.2) {name : Option String}
    {moments : Option (List Moment)}
    (hmoments : ∀ list ∈ moments, ∀ moment ∈ list, ∀ operation ∈ moment.operations, good operation)
    {circuit : Circuit} (hdecode : decodeFields name moments fields = .ok circuit) :
    ∀ moment ∈ circuit.moments, ∀ operation ∈ moment.operations, good operation := by
  induction fields generalizing name moments with
  | nil =>
      rw [decodeFields] at hdecode
      obtain ⟨list, hlist, hcircuit⟩ := bind_eq_ok_iff.mp hdecode
      cases hcircuit
      exact hmoments list (required_eq_ok_iff.mp hlist)
  | cons field rest ih =>
      obtain ⟨key, value⟩ := field
      obtain ⟨hvalue, hrest⟩ := List.forall_mem_cons.mp hfine
      unfold decodeFields at hdecode
      split_ifs at hdecode
      · obtain ⟨read, -, hnext⟩ := bind_eq_ok_iff.mp hdecode
        exact ih hrest hmoments hnext
      · obtain ⟨read, hread, hnext⟩ := bind_eq_ok_iff.mp hdecode
        refine ih hrest (fun list hlist => ?_) hnext
        cases hlist
        exact good_of_decodeMoments_eq_ok hensures hvalue hread
      · exact ih hrest hmoments hdecode

/-- The operations of a decoded circuit are good. -/
theorem good_of_decode_eq_ok (hensures : Ensures fine good) {tree : Json} (hfine : fine tree)
    {circuit : Circuit} (hdecode : decode tree = .ok circuit) :
    ∀ operation ∈ circuit.operations, good operation := by
  suffices hmoments : ∀ moment ∈ circuit.moments, ∀ operation ∈ moment.operations, good operation by
    exact List.forall_mem_flatMap.mpr hmoments
  cases tree with
  | object fields =>
      exact good_of_decodeFields_eq_ok hensures (hensures.values hfine) (by simp) hdecode
  | array items =>
      match items with
      | [] => simp [decode] at hdecode
      | [name] => simp [decode] at hdecode
      | name :: moments :: surplus =>
          obtain ⟨text, -, hnext⟩ := bind_eq_ok_iff.mp hdecode
          obtain ⟨list, hlist, hlast⟩ := bind_eq_ok_iff.mp hnext
          split at hlast
          · cases hlast
            have hmoments : fine moments := hensures.items hfine moments (by simp)
            exact good_of_decodeMoments_eq_ok hensures hmoments hlist
          · cases hlast
  | _ => simp [decode] at hdecode

end Circuit

/-- A text is decoded when its document is and nothing follows the document. -/
theorem Json.Source.decode_eq_ok_iff {α : Type} {source : Json.Source}
    {decodeRoot : Json → Except DecodeError α} {value : α} :
    source.decode decodeRoot = .ok value ↔
      decodeRoot source.root = .ok value ∧ source.complete = true := by
  rw [Json.Source.decode, bind_eq_ok_iff]
  cases source.complete with
  | true => simp [pure_eq_ok_iff]
  | false => simp [throw, throwThe, MonadExceptOf.throw]

end GridCircuit
