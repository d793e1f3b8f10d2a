import GridCircuit.Proofs.Legality
import Mathlib.Algebra.GroupWithZero.Nat
import Mathlib.Algebra.Order.BigOperators.Group.List
import Mathlib.Algebra.Order.Group.Nat

/-!
# How long circuits take

Durations are asked for after a circuit has been checked, and the table of durations does a check of
its own.  On what a device accepts the two agree: an operation that runs is a plain native gate, so
it has a duration (`GateDurations.ofOperation_eq_ok`), and a moment of such operations lasts as long
as the longest of them (`GateDurations.ofMoment_eq_ok`).

The moments of a circuit follow one another.  Adding their durations one by one goes out of range
exactly when their sum is out of range, since a part of the sum never exceeds it
(`totalDuration?_eq`).  So what counts is the exact number of nanoseconds, `Duration.total`, which
can be compared with other sums whether or not there is such a duration.
-/

namespace GridCircuit

open Attempt

/-! ## Sums -/

namespace Duration

variable {durations : List Duration} {nanoseconds : Nat} {a b : Duration}

/-- The nanoseconds that durations take one after the other, in range or not. -/
def total (durations : List Duration) : Nat := (durations.map Duration.nanoseconds).sum

theorem nanoseconds_inj : a.nanoseconds = b.nanoseconds ↔ a = b := by
  rw [Duration.mk.injEq]

theorem ofNat?_eq_some_iff : ofNat? nanoseconds = some a ↔ a.nanoseconds = nanoseconds := by
  unfold ofNat?
  split
  · rw [Option.some.injEq, ← nanoseconds_inj, eq_comm]
  · rename_i hlimit
    simp only [reduceCtorEq, false_iff]
    rintro rfl
    exact hlimit a.inRange

theorem ofNat?_eq_none_iff : ofNat? nanoseconds = none ↔ limit ≤ nanoseconds := by
  unfold ofNat?
  split <;> simp_all

/-- Adding durations to one comes down to one look at the exact sum. -/
theorem foldlM_add? (durations : List Duration) (start : Duration) :
    durations.foldlM add? start = ofNat? (start.nanoseconds + total durations) := by
  induction durations generalizing start with
  | nil => exact (ofNat?_eq_some_iff.mpr rfl).symm
  | cons duration rest ih =>
      have htotal : total (duration :: rest) = duration.nanoseconds + total rest := rfl
      rw [List.foldlM_cons, htotal, ← Nat.add_assoc]
      cases hsum : add? start duration with
      | none =>
          -- what is still to come does not bring the sum back into range
          have hlimit := ofNat?_eq_none_iff.mp hsum
          exact (ofNat?_eq_none_iff.mpr (Nat.le_add_right_of_le hlimit)).symm
      | some sum =>
          rw [← ofNat?_eq_some_iff.mp hsum]
          exact ih sum

end Duration

theorem totalDuration?_eq (durations : List Duration) :
    totalDuration? durations = Duration.ofNat? (Duration.total durations) := by
  rw [totalDuration?, Duration.foldlM_add?]
  exact congrArg Duration.ofNat? (Nat.zero_add _)

theorem totalDuration?_eq_some_iff {durations : List Duration} {sum : Duration} :
    totalDuration? durations = some sum ↔ sum.nanoseconds = Duration.total durations := by
  rw [totalDuration?_eq, Duration.ofNat?_eq_some_iff]

theorem totalDuration?_eq_none_iff {durations : List Duration} :
    totalDuration? durations = none ↔ Duration.limit ≤ Duration.total durations := by
  rw [totalDuration?_eq, Duration.ofNat?_eq_none_iff]

/-! ## The order of durations -/

namespace Duration

variable {a b c : Duration}

theorem le_def : a ≤ b ↔ a.nanoseconds ≤ b.nanoseconds := Iff.rfl

theorem max_def : max a b = if a ≤ b then b else a := rfl

theorem zero_le (a : Duration) : zero ≤ a := Nat.zero_le a.nanoseconds

instance : Std.IsLinearOrder Duration :=
  Std.IsLinearOrder.of_le
    ⟨fun _ _ hab hba => nanoseconds_inj.mp (Nat.le_antisymm hab hba)⟩
    ⟨fun hab hbc => Nat.le_trans (le_def.mp hab) (le_def.mp hbc)⟩
    ⟨fun a b => Nat.le_total a.nanoseconds b.nanoseconds⟩

instance : Std.LawfulOrderMax Duration where
  max_le_iff a b c := by
    rw [max_def]
    split <;> simp only [le_def] at * <;> omega
  max_eq_or a b := by
    rw [max_def]
    split
    · exact .inr rfl
    · exact .inl rfl

end Duration

/-! ## Operations and moments -/

namespace GateDurations

variable {topology : Topology} {operation : Operation} {moment : Moment}

/-- The time that an operation takes, which is none for what is no plain native gate. -/
def time (durations : GateDurations) (operation : Operation) : Duration :=
  (operation.kind?.map durations.ofKind).getD .zero

/-- The time of the longest operation of a moment, which is none without operations. -/
def longest (durations : GateDurations) (moment : Moment) : Duration :=
  (moment.operations.map durations.time).max?.getD .zero

/-- An operation that runs has a duration. -/
theorem ofOperation_eq_ok (durations : GateDurations) (hruns : operation.RunsOn topology) :
    durations.ofOperation operation = .ok (durations.time operation) := by
  cases hruns <;> rfl

/-- The longest operation is found by looking at each once. -/
theorem ofMoment_eq_ok (durations : GateDurations)
    (hruns : ∀ operation ∈ moment.operations, operation.RunsOn topology) :
    durations.ofMoment moment = .ok (durations.longest moment) := by
  have hloop : ∀ (operations : List Operation) (start : Duration),
      (∀ operation ∈ operations, operation.RunsOn topology) →
      operations.foldlM (fun longest operation => do
          return max longest (← durations.ofOperation operation)) start =
        .ok ((operations.map durations.time).foldl max start) := by
    intro operations
    induction operations with
    | nil => exact fun start _ => rfl
    | cons operation rest ih =>
        intro start hruns
        obtain ⟨hfirst, hrest⟩ := List.forall_mem_cons.mp hruns
        rw [List.foldlM_cons, ofOperation_eq_ok durations hfirst]
        exact ih _ hrest
  rw [ofMoment, hloop _ _ hruns, longest, List.foldl_max]
  exact congrArg Except.ok (if_pos (Duration.zero_le _))

theorem longest_eq_zero_of_nil (durations : GateDurations) (hnil : moment.operations = []) :
    durations.longest moment = .zero := by
  simp [longest, hnil]

/-- The longest time is that of some operation, and no other is longer. -/
theorem longest_spec (durations : GateDurations) (hsome : moment.operations ≠ []) :
    durations.longest moment ∈ moment.operations.map durations.time ∧
      ∀ part ∈ moment.operations.map durations.time, part ≤ durations.longest moment := by
  cases hmax : (moment.operations.map durations.time).max? with
  | none => exact absurd (List.map_eq_nil_iff.mp (List.max?_eq_none_iff.mp hmax)) hsome
  | some greatest =>
      rw [longest, hmax]
      exact List.max?_eq_some_iff.mp hmax

theorem time_le_longest (durations : GateDurations) (hmem : operation ∈ moment.operations) :
    durations.time operation ≤ durations.longest moment :=
  (durations.longest_spec (List.ne_nil_of_mem hmem)).2 _ (List.mem_map_of_mem hmem)

/-- A moment takes no longer than its operations would one after the other. -/
theorem longest_le_total (durations : GateDurations) (moment : Moment) :
    (durations.longest moment).nanoseconds ≤
      Duration.total (moment.operations.map durations.time) := by
  rcases eq_or_ne moment.operations [] with hnil | hsome
  · rw [longest_eq_zero_of_nil durations hnil]
    exact Nat.zero_le _
  · exact List.le_sum_of_mem (List.mem_map_of_mem (durations.longest_spec hsome).1)

/-- The times of operations that are taken from moments add up moment by moment. -/
theorem total_flatMap (durations : GateDurations) (moments : List Moment)
    (part : Moment → List Operation) :
    Duration.total ((moments.flatMap part).map durations.time) =
      (moments.map fun moment => Duration.total ((part moment).map durations.time)).sum := by
  induction moments with
  | nil => rfl
  | cons moment rest ih => simpa [Duration.total] using ih

/-- The moments of a circuit take no longer than its operations would one after the other. -/
theorem total_longest_le (durations : GateDurations) (circuit : Circuit) :
    Duration.total (circuit.moments.map durations.longest) ≤
      Duration.total (circuit.operations.map durations.time) := by
  rw [Circuit.operations, durations.total_flatMap, Duration.total, List.map_map]
  exact List.sum_le_sum fun moment _ => durations.longest_le_total moment

end GateDurations

/-! ## Circuits -/

namespace Device

variable {device : Device} {circuit : Circuit} {topology : Topology}

/-- The moments of a circuit have durations on the device, and the time that they take one after the
other is in range. -/
def HasDuration (device : Device) (circuit : Circuit) : Prop :=
  ∃ times, device.momentDurations circuit = .ok times ∧ Duration.total times < Duration.limit

/-- Every moment of operations that run has a duration. -/
theorem momentDurations_eq_ok (device : Device)
    (hruns : ∀ operation ∈ circuit.operations, operation.RunsOn topology) :
    device.momentDurations circuit = .ok (circuit.moments.map device.durations.longest) :=
  mapM_eq_ok_map fun moment hmem =>
    device.durations.ofMoment_eq_ok (Circuit.forall_mem_operations.mp hruns moment hmem)

theorem hasDuration_iff (hruns : ∀ operation ∈ circuit.operations, operation.RunsOn topology) :
    device.HasDuration circuit ↔
      Duration.total (circuit.moments.map device.durations.longest) < Duration.limit := by
  simp [HasDuration, momentDurations_eq_ok device hruns]

/-- A circuit whose operations would fit into a duration one after the other fits into one. -/
theorem hasDuration_of_total_lt
    (hruns : ∀ operation ∈ circuit.operations, operation.RunsOn topology)
    (htotal : Duration.total (circuit.operations.map device.durations.time) < Duration.limit) :
    device.HasDuration circuit :=
  (hasDuration_iff hruns).mpr
    (Nat.lt_of_le_of_lt (device.durations.total_longest_le circuit) htotal)

end Device

end GridCircuit
