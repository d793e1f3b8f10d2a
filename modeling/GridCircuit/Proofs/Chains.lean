import GridCircuit.Proofs.Landing
import Mathlib.Data.List.Chain
import Mathlib.Data.List.Forall2
import Mathlib.Order.Bounds.Basic

/-!
# Appending as soon as possible

`Circuit.append` looks at the last moment that uses a qubit of the operation and goes to the one
behind it.  This local rule gives a schedule that is globally the best one: every operation gets the
least index that is possible at all, which is the length of the longest chain of operations that
have to come one after the other.

## Strategy

Two things are known of every index that `append` returns, and they are the content of `Tight`:

* it is greater than that of any earlier operation that shares a qubit, because the search goes past
  all moments that use one (`Schedule`);
* unless it is zero, some earlier operation that shares a qubit has the index just below, because
  the search would otherwise have stopped earlier.

`Tight.place` is the step from one operation to the next.  It needs to know which operations the
moments hold, and this is what `timetable_arrange_perm` says.  From there on no circuit is looked
at: in a schedule, indices rise along a chain (`Schedule.length_le`), and in a tight one they can be
followed downwards to zero (`Tight.exists_chain`).
-/

namespace GridCircuit.Circuit

/-! ## Chains and schedules -/

/-- The operation at one position comes before the one at another and shares a qubit with it. -/
def Precedes (operations : List Operation) (i j : Nat) : Prop :=
  i < j ∧ ∃ first second, operations[i]? = some first ∧ operations[j]? = some second ∧
    ∃ qubit ∈ first.qubits, qubit ∈ second.qubits

/-- Positions of operations each of which precedes the next. -/
structure Chain (operations : List Operation) (positions : List Nat) : Prop where
  listed : ∀ i ∈ positions, i < operations.length
  linked : positions.IsChain (Precedes operations)

/-- Indices of moments, one for each operation, that rise from an operation to every one that it
precedes. -/
structure Schedule (operations : List Operation) (indices : List Nat) : Prop where
  length_eq : indices.length = operations.length
  rising : ∀ i j, Precedes operations i j →
    ∀ a b, indices[i]? = some a → indices[j]? = some b → a < b

/-- The indices that `append` returns for operations that are appended in order. -/
def appendIndices (circuit : Circuit) : List Operation → List Nat
  | [] => []
  | operation :: rest =>
    let (index, grown) := circuit.append operation
    index :: appendIndices grown rest

section Schedules

variable {operations : List Operation} {indices positions : List Nat} {i j : Nat}

theorem Precedes.lt_length (hprecedes : Precedes operations i j) :
    i < operations.length ∧ j < operations.length := by
  obtain ⟨-, first, second, hfirst, hsecond, -⟩ := hprecedes
  exact ⟨(List.getElem?_eq_some_iff.mp hfirst).1, (List.getElem?_eq_some_iff.mp hsecond).1⟩

/-- A chain goes on with any operation that its last one precedes. -/
theorem Chain.concat (hchain : Chain operations positions) (hlast : positions.getLast? = some i)
    (hprecedes : Precedes operations i j) : Chain operations (positions ++ [j]) := by
  constructor
  · intro k hk
    rcases List.mem_append.mp hk with hk | hk
    · exact hchain.listed k hk
    · rw [List.mem_singleton.mp hk]
      exact hprecedes.lt_length.2
  · apply hchain.linked.append (List.isChain_singleton j)
    intro last hlast' next hnext
    obtain rfl : i = last := by simpa [hlast] using hlast'
    obtain rfl : j = next := by simpa using hnext
    exact hprecedes

/-- In a schedule, no chain is longer than the index at its end allows. -/
theorem Schedule.length_le (hschedule : Schedule operations indices)
    (hchain : Chain operations positions) {index : Nat} (hlast : positions.getLast? = some i)
    (hindex : indices[i]? = some index) : positions.length ≤ index + 1 := by
  -- the induction shortens the chain at its end, where the greatest index stands
  induction positions using List.reverseRecOn generalizing i index with
  | nil => simp at hlast
  | append_singleton init last ih =>
      obtain rfl : last = i := by simpa using hlast
      rcases List.eq_nil_or_concat init with rfl | ⟨others, previous, rfl⟩
      · simp
      · rw [List.concat_eq_append] at hchain ih ⊢
        obtain ⟨hinit, -, hlink⟩ := List.isChain_append.mp hchain.linked
        have hprecedes : Precedes operations previous last :=
          hlink previous (by simp) last (by simp)
        obtain ⟨below, hbelow⟩ : ∃ below, indices[previous]? = some below := by
          have hlt : previous < indices.length := hschedule.length_eq ▸ hprecedes.lt_length.1
          exact ⟨_, List.getElem?_eq_getElem hlt⟩
        have hlength : (others ++ [previous]).length ≤ below + 1 := by
          apply ih _ (by simp) hbelow
          exact ⟨fun k hk => hchain.listed k (List.mem_append_left _ hk), hinit⟩
        have hrising : below < index := hschedule.rising _ _ hprecedes _ _ hbelow hindex
        rw [List.length_append, List.length_singleton]
        omega

/-- A schedule in which every index but zero is just above that of an operation that has to come
before. -/
structure Tight (operations : List Operation) (indices : List Nat) : Prop
    extends Schedule operations indices where
  reached : ∀ j index, indices[j]? = some (index + 1) →
    ∃ i, Precedes operations i j ∧ indices[i]? = some index

/-- In a tight schedule, every operation is the end of a chain that is as long as its index
allows. -/
theorem Tight.exists_chain (htight : Tight operations indices) {index : Nat}
    (hindex : indices[j]? = some index) :
    ∃ positions, Chain operations positions ∧ positions.getLast? = some j ∧
      positions.length = index + 1 := by
  induction index generalizing j with
  | zero =>
      have hlt : j < operations.length :=
        htight.length_eq ▸ (List.getElem?_eq_some_iff.mp hindex).1
      exact ⟨[j], ⟨by simpa using hlt, List.isChain_singleton j⟩, rfl, rfl⟩
  | succ index ih =>
      obtain ⟨i, hprecedes, hbelow⟩ := htight.reached j index hindex
      obtain ⟨positions, hchain, hlast, hlength⟩ := ih hbelow
      exact ⟨positions ++ [j], hchain.concat hlast hprecedes, by simp, by simp [hlength]⟩

/-- The index of an operation in a tight schedule belongs to the longest chain that ends there. -/
theorem Tight.isGreatest_chain (htight : Tight operations indices) {index : Nat}
    (hindex : indices[j]? = some index) :
    IsGreatest {length | ∃ positions, Chain operations positions ∧
      positions.getLast? = some j ∧ positions.length = length} (index + 1) := by
  refine ⟨htight.exists_chain hindex, ?_⟩
  rintro _ ⟨positions, hchain, hlast, rfl⟩
  exact htight.toSchedule.length_le hchain hlast hindex

/-- No schedule gives an operation a smaller index than a tight one does. -/
theorem Tight.le_schedule (htight : Tight operations indices) {others : List Nat}
    (hothers : Schedule operations others) : List.Forall₂ (· ≤ ·) indices others := by
  rw [List.forall₂_iff_get]
  refine ⟨htight.length_eq.trans hothers.length_eq.symm, ?_⟩
  intro i hi hi'
  obtain ⟨positions, hchain, hlast, hlength⟩ :=
    htight.exists_chain (List.getElem?_eq_getElem hi)
  have hle : positions.length ≤ others[i] + 1 :=
    hothers.length_le hchain hlast (List.getElem?_eq_getElem hi')
  simp only [List.get_eq_getElem]
  omega

end Schedules

/-! ## What `append` does -/

/-- The rule under which operations are appended. -/
def leavesFree (operation : Operation) (moment : Moment) : Bool :=
  !moment.touches operation.qubits

theorem appendIndices_eq_landings (circuit : Circuit) (operations : List Operation) :
    appendIndices circuit operations =
      (landingsFrom leavesFree circuit.moments operations).map Prod.snd := by
  induction operations generalizing circuit with
  | nil => rfl
  | cons operation rest ih =>
      simp only [appendIndices, ih]
      rfl

theorem appendIndices_concat (name : String) (operations : List Operation)
    (operation : Operation) :
    appendIndices (empty name) (operations ++ [operation]) =
      appendIndices (empty name) operations ++
        [(placeEarliest leavesFree operation (arrange leavesFree operations)).1] := by
  have hlandings (others : List Operation) :
      appendIndices (empty name) others = (landings leavesFree others).map Prod.snd :=
    appendIndices_eq_landings (empty name) others
  rw [hlandings, hlandings, landings_concat, List.map_append]
  rfl

/-- The landings of operations are the operations with their indices. -/
theorem landings_eq_zip (name : String) (operations : List Operation) :
    landings leavesFree operations = operations.zip (appendIndices (empty name) operations) ∧
      (appendIndices (empty name) operations).length = operations.length := by
  induction operations using List.reverseRecOn with
  | nil => exact ⟨rfl, rfl⟩
  | append_singleton operations operation ih =>
      obtain ⟨hzip, hlength⟩ := ih
      rw [landings_concat, appendIndices_concat, List.zip_append hlength.symm, hzip]
      exact ⟨rfl, by simp [hlength]⟩

theorem moments_ofOperations (name : String) (operations : List Operation) :
    (ofOperations name operations).moments = arrange leavesFree operations :=
  congrArg Circuit.moments (foldl_insertEarliest leavesFree name operations)

theorem mem_timetable {moments : List Moment} {operation : Operation} {index : Nat} :
    (operation, index) ∈ timetable moments ↔
      ∃ moment, moments[index]? = some moment ∧ operation ∈ moment.operations := by
  simp only [timetable, List.mem_flatMap, List.mem_map, Prod.mk.injEq, Prod.exists]
  constructor
  · rintro ⟨moment, _, hmem, _, hoperation, rfl, rfl⟩
    exact ⟨moment, List.mk_mem_zipIdx_iff_getElem?.mp hmem, hoperation⟩
  · rintro ⟨moment, hmoment, hoperation⟩
    exact ⟨moment, index, List.mk_mem_zipIdx_iff_getElem?.mpr hmoment, operation, hoperation, rfl,
      rfl⟩

/-- The moments of an assembled circuit hold every operation at its index, and nothing else. -/
theorem holds_iff (name : String) {operations : List Operation} {operation : Operation}
    {index : Nat} :
    (∃ moment, (arrange leavesFree operations)[index]? = some moment ∧
        operation ∈ moment.operations) ↔
      ∃ i : Nat, operations[i]? = some operation ∧
        (appendIndices (empty name) operations)[i]? = some index := by
  rw [← mem_timetable, (timetable_arrange_perm leavesFree operations).mem_iff,
    (landings_eq_zip name operations).1, List.mem_iff_getElem?]
  simp only [List.getElem?_zip_eq_some]

/-! ## The step from one operation to the next -/

section Step

variable {done : List Operation} {indices : List Nat} {moments : List Moment}
  {operation : Operation}

theorem leavesFree_eq_false_iff {moment : Moment} :
    leavesFree operation moment = false ↔ moment.touches operation.qubits = true := by
  rw [leavesFree, Bool.not_eq_false']

/-- The moment just before the place of an appended operation uses one of its qubits. -/
theorem touches_of_passedOver {before : List Moment} {last : Moment}
    (hpassed : PassedOver leavesFree operation (before ++ [last])) :
    last.touches operation.qubits = true := by
  obtain ⟨htouched | hrefused, -⟩ := hpassed.of_append_right
  · obtain ⟨later, hlater, htouches⟩ := htouched
    rw [List.mem_singleton.mp hlater] at htouches
    exact htouches
  · exact leavesFree_eq_false_iff.mp hrefused

/-- What precedes the operation at the end of a list precedes it through a qubit. -/
theorem precedes_concat_iff {i : Nat} : Precedes (done ++ [operation]) i done.length ↔
    ∃ other, done[i]? = some other ∧ ∃ qubit ∈ other.qubits, qubit ∈ operation.qubits := by
  constructor
  · rintro ⟨hlt, first, second, hfirst, hsecond, hshared⟩
    obtain rfl : operation = second := by simpa using hsecond
    exact ⟨first, by rwa [List.getElem?_append_left hlt] at hfirst, hshared⟩
  · rintro ⟨other, hother, hshared⟩
    have hlt : i < done.length := (List.getElem?_eq_some_iff.mp hother).1
    exact ⟨hlt, other, operation, by rwa [List.getElem?_append_left hlt], by simp, hshared⟩

theorem precedes_append_iff {i j : Nat} (hj : j < done.length) :
    Precedes (done ++ [operation]) i j ↔ Precedes done i j := by
  refine and_congr_right fun hlt => ?_
  rw [List.getElem?_append_left hj, List.getElem?_append_left (hlt.trans hj)]

/-- Unless an appended operation goes to the first moment, the one just before its place uses one of
its qubits. -/
theorem Slot.exists_touching {before after : List Moment} {target : Moment} {index : Nat}
    (slot : Slot leavesFree operation moments before target after)
    (hplace : before.length = index + 1) :
    ∃ last, moments[index]? = some last ∧ last.touches operation.qubits = true := by
  obtain ⟨init, last, rfl⟩ : ∃ init last, before = init ++ [last] := by
    rcases List.eq_nil_or_concat before with rfl | ⟨init, last, rfl⟩
    · simp at hplace
    · exact ⟨init, last, List.concat_eq_append⟩
  have hinit : init.length = index := by simpa using hplace
  refine ⟨last, ?_, touches_of_passedOver slot.passed⟩
  rw [slot.getElem?_of_lt (by omega), ← hinit]
  simp

/-- A schedule goes on with an operation whose index is greater than those of all operations that it
shares a qubit with. -/
theorem Schedule.concat (hschedule : Schedule done indices) {index : Nat}
    (hlater : ∀ (i : Nat) (other : Operation) (a : Nat), done[i]? = some other →
      (∃ qubit ∈ other.qubits, qubit ∈ operation.qubits) → indices[i]? = some a → a < index) :
    Schedule (done ++ [operation]) (indices ++ [index]) := by
  have hlength := hschedule.length_eq
  refine ⟨by simp [hlength], fun i j hprecedes a b ha hb => ?_⟩
  have hj := hprecedes.lt_length.2
  rw [List.length_append, List.length_singleton, Nat.lt_succ_iff_lt_or_eq] at hj
  rcases hj with hj | rfl
  · have hi : i < done.length := hprecedes.1.trans hj
    rw [List.getElem?_append_left (by omega)] at ha hb
    exact hschedule.rising i j ((precedes_append_iff hj).mp hprecedes) a b ha hb
  · -- the new operation is the later one of the two
    obtain ⟨other, hother, hshared⟩ := precedes_concat_iff.mp hprecedes
    rw [List.getElem?_append_left (by rw [hlength]; exact hprecedes.1)] at ha
    obtain rfl : index = b := by simpa [← hlength] using hb
    exact hlater i other a hother hshared ha

/-- A tight schedule stays tight if, unless the new index is zero, one of these operations has the
index just below. -/
theorem Tight.concat (htight : Tight done indices) {index : Nat}
    (hlater : ∀ (i : Nat) (other : Operation) (a : Nat), done[i]? = some other →
      (∃ qubit ∈ other.qubits, qubit ∈ operation.qubits) → indices[i]? = some a → a < index)
    (hreached : ∀ below, index = below + 1 → ∃ (i : Nat) (other : Operation),
      done[i]? = some other ∧ (∃ qubit ∈ other.qubits, qubit ∈ operation.qubits) ∧
        indices[i]? = some below) :
    Tight (done ++ [operation]) (indices ++ [index]) := by
  have hlength := htight.length_eq
  refine ⟨htight.toSchedule.concat hlater, fun j below hindex => ?_⟩
  have hj := (List.getElem?_eq_some_iff.mp hindex).1
  rw [List.length_append, List.length_singleton, hlength, Nat.lt_succ_iff_lt_or_eq] at hj
  rcases hj with hj | rfl
  · rw [List.getElem?_append_left (by omega)] at hindex
    obtain ⟨i, hprecedes, hbelow⟩ := htight.reached j below hindex
    have hi : i < indices.length := (List.getElem?_eq_some_iff.mp hbelow).1
    exact ⟨i, (precedes_append_iff hj).mpr hprecedes, by rwa [List.getElem?_append_left hi]⟩
  · obtain ⟨i, other, hother, hshared, hbelow⟩ :=
      hreached below (by simpa [← hlength] using hindex)
    have hi : i < indices.length := (List.getElem?_eq_some_iff.mp hbelow).1
    exact ⟨i, precedes_concat_iff.mpr ⟨other, hother, hshared⟩,
      by rwa [List.getElem?_append_left hi]⟩

/-- An operation that is placed among moments which hold the earlier ones at their indices leaves
the schedule tight. -/
theorem Tight.place (htight : Tight done indices)
    (hheld : ∀ other index,
      (∃ moment, moments[index]? = some moment ∧ other ∈ moment.operations) ↔
        ∃ i : Nat, done[i]? = some other ∧ indices[i]? = some index) :
    Tight (done ++ [operation])
      (indices ++ [(placeEarliest leavesFree operation moments).1]) := by
  obtain ⟨before, target, after, slot⟩ := exists_slot leavesFree operation moments
  rw [slot.placeEarliest_eq]
  refine htight.concat ?_ ?_
  · -- all moments that use a qubit of the operation lie before its place
    rintro i other index hother ⟨qubit, hused, hqubit⟩ hindex
    obtain ⟨moment, hmoment, hmem⟩ := (hheld other index).mpr ⟨i, hother, hindex⟩
    exact slot.lt_of_touches hmoment
      (Moment.touches_iff.mpr ⟨qubit, hqubit, Moment.mem_qubits.mpr ⟨other, hmem, hused⟩⟩)
  · -- an operation of the moment just before shares a qubit
    intro below hplace
    obtain ⟨last, hlast, htouches⟩ := slot.exists_touching hplace
    obtain ⟨qubit, hqubit, hused⟩ := Moment.touches_iff.mp htouches
    obtain ⟨other, hmem, hother⟩ := Moment.mem_qubits.mp hused
    obtain ⟨i, hi, hbelow⟩ := (hheld other below).mp ⟨last, hlast, hmem⟩
    exact ⟨i, other, hi, ⟨qubit, hother, hqubit⟩, hbelow⟩

end Step

/-- The indices that `append` returns are a tight schedule. -/
theorem tight_appendIndices (name : String) (operations : List Operation) :
    Tight operations (appendIndices (empty name) operations) := by
  induction operations using List.reverseRecOn with
  | nil => exact ⟨⟨rfl, by simp [appendIndices]⟩, by simp [appendIndices]⟩
  | append_singleton operations operation ih =>
      rw [appendIndices_concat]
      exact ih.place fun other index => holds_iff name

/-! ## Depth -/

/-- The indices that `append` returns are those of the moments of the circuit, all of which are
used. -/
theorem mem_appendIndices_iff (name : String) (operations : List Operation) {index : Nat} :
    index ∈ appendIndices (empty name) operations ↔
      index < (ofOperations name operations).depth := by
  rw [depth, moments_ofOperations, List.mem_iff_getElem?]
  have hlength := (landings_eq_zip name operations).2
  constructor
  · rintro ⟨i, hindex⟩
    have hi : i < operations.length := hlength ▸ (List.getElem?_eq_some_iff.mp hindex).1
    obtain ⟨moment, hmoment, -⟩ :=
      (holds_iff name).mpr ⟨i, List.getElem?_eq_getElem hi, hindex⟩
    exact (List.getElem?_eq_some_iff.mp hmoment).1
  · intro hindex
    have hsome : (arrange leavesFree operations)[index].operations ≠ [] :=
      operations_ne_nil_of_mem_arrange _ (List.getElem_mem hindex)
    obtain ⟨operation, hmem⟩ := List.exists_mem_of_ne_nil _ hsome
    obtain ⟨i, -, hi⟩ := (holds_iff name).mp ⟨_, List.getElem?_eq_getElem hindex, hmem⟩
    exact ⟨i, hi⟩

/-- The depth of an assembled circuit is the length of the longest chain. -/
theorem isGreatest_depth (name : String) (operations : List Operation) :
    IsGreatest {length | ∃ positions, Chain operations positions ∧ positions.length = length}
      (ofOperations name operations).depth := by
  have htight := tight_appendIndices name operations
  constructor
  · -- the last moment holds the end of a chain that visits all moments
    rcases Nat.eq_zero_or_pos (ofOperations name operations).depth with hzero | hpos
    · rw [hzero]
      exact ⟨[], ⟨by simp, List.isChain_nil⟩, rfl⟩
    · have hlast := (mem_appendIndices_iff name operations).mpr (Nat.sub_one_lt_of_lt hpos)
      obtain ⟨j, hj⟩ := List.mem_iff_getElem?.mp hlast
      obtain ⟨positions, hchain, -, hlength⟩ := htight.exists_chain hj
      exact ⟨positions, hchain, by omega⟩
  · rintro _ ⟨positions, hchain, rfl⟩
    cases hlast : positions.getLast? with
    | none =>
        rw [List.getLast?_eq_none_iff.mp hlast]
        exact Nat.zero_le _
    | some j =>
        have hj : j < (appendIndices (empty name) operations).length := by
          rw [htight.length_eq]
          exact hchain.listed j (List.mem_of_getLast? hlast)
        have hle := htight.toSchedule.length_le hchain hlast (List.getElem?_eq_getElem hj)
        have hlt := (mem_appendIndices_iff name operations).mp (List.getElem_mem hj)
        omega

/-- Every schedule needs as many moments as the longest chain has operations. -/
theorem Schedule.depth_le {operations : List Operation} {indices : List Nat}
    (hschedule : Schedule operations indices) (name : String) {depth : Nat}
    (hdepth : ∀ index ∈ indices, index < depth) :
    (ofOperations name operations).depth ≤ depth := by
  obtain ⟨⟨positions, hchain, hlength⟩, -⟩ := isGreatest_depth name operations
  rw [← hlength]
  cases hlast : positions.getLast? with
  | none =>
      rw [List.getLast?_eq_none_iff.mp hlast]
      exact Nat.zero_le _
  | some j =>
      have hj : j < indices.length := by
        rw [hschedule.length_eq]
        exact hchain.listed j (List.mem_of_getLast? hlast)
      have hle := hschedule.length_le hchain hlast (List.getElem?_eq_getElem hj)
      have hlt := hdepth _ (List.getElem_mem hj)
      omega

/-- Appending schedules as soon as possible.  The index that `append` returns is one less than the
length of the longest chain that ends with the operation, no schedule gives any operation a smaller
index, and the depth of the circuit is that of the longest chain, which is the least possible. -/
theorem append_asap (name : String) (operations : List Operation) :
    Schedule operations (appendIndices (empty name) operations) ∧
    (∀ j index, (appendIndices (empty name) operations)[j]? = some index →
      IsGreatest {length | ∃ positions, Chain operations positions ∧
        positions.getLast? = some j ∧ positions.length = length} (index + 1)) ∧
    (∀ others, Schedule operations others →
      List.Forall₂ (· ≤ ·) (appendIndices (empty name) operations) others) ∧
    IsGreatest {length | ∃ positions, Chain operations positions ∧ positions.length = length}
      (ofOperations name operations).depth ∧
    IsLeast {depth | ∃ indices, Schedule operations indices ∧ ∀ index ∈ indices, index < depth}
      (ofOperations name operations).depth := by
  have htight := tight_appendIndices name operations
  refine ⟨htight.toSchedule, fun j index hindex => htight.isGreatest_chain hindex,
    fun others hothers => htight.le_schedule hothers, isGreatest_depth name operations, ?_⟩
  constructor
  · refine ⟨_, htight.toSchedule, fun index hindex => ?_⟩
    exact (mem_appendIndices_iff name operations).mp hindex
  · rintro depth ⟨indices, hschedule, hdepth⟩
    exact hschedule.depth_le name hdepth

/-- An operation without qubits goes to the first moment, and one whose qubits only the first moment
uses goes to the second, however long the circuit has become. -/
example : appendIndices (empty "c") ([[.line 0], [.line 1], [.line 1], [.line 0], []].map
    (.plain (.measure "m"))) = [0, 0, 1, 1, 0] := by
  decide

end GridCircuit.Circuit
