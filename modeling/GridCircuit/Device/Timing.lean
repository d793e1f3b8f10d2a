import GridCircuit.Device.Validity
import GridCircuit.Moment

/-!
# Durations

A duration is a whole number of nanoseconds.  Its seconds are counted in 64 bits, so that there is a
greatest duration, and durations that follow one another may take a time that is none.

Every class of gates takes its own time, except that a virtual phase is a change of frame and takes
none.  A moment lasts as long as its longest operation.
-/

namespace GridCircuit

/-- The number of nanoseconds from which on there are no durations. -/
def Duration.limit : Nat := UInt64.size * 1000000000

/-- A length of time. -/
structure Duration where
  nanoseconds : Nat
  inRange : nanoseconds < Duration.limit
  deriving DecidableEq

namespace Duration

/-- The duration of a number of nanoseconds, if it is in range. -/
def ofNat? (nanoseconds : Nat) : Option Duration :=
  if inRange : nanoseconds < limit then some ⟨nanoseconds, inRange⟩ else none

theorem size_lt_limit : UInt64.size < limit := by decide

/-- The duration of a number of nanoseconds of 64 bits. -/
def ofNanoseconds (nanoseconds : UInt64) : Duration :=
  ⟨nanoseconds.toNat, Nat.lt_trans nanoseconds.toNat_lt size_lt_limit⟩

/-- No time. -/
def zero : Duration := ofNanoseconds 0

instance : LE Duration where
  le a b := a.nanoseconds ≤ b.nanoseconds

instance : DecidableLE Duration := fun a b =>
  inferInstanceAs (Decidable (a.nanoseconds ≤ b.nanoseconds))

instance : Max Duration := maxOfLe

/-- The time that two durations take one after the other, if it is a duration. -/
def add? (a b : Duration) : Option Duration := ofNat? (a.nanoseconds + b.nanoseconds)

end Duration

/-- The time that durations take one after the other, if it is a duration. -/
def totalDuration? (durations : List Duration) : Option Duration :=
  durations.foldlM Duration.add? .zero

/-- How long the classes of gates take. -/
structure GateDurations where
  measurement : Duration
  singleQubit : Duration
  twoQubit : Duration
  deriving DecidableEq

namespace GateDurations

/-- The durations of a device, given in nanoseconds of 64 bits. -/
def ofNanoseconds (measurement singleQubit twoQubit : UInt64) : GateDurations :=
  ⟨.ofNanoseconds measurement, .ofNanoseconds singleQubit, .ofNanoseconds twoQubit⟩

/-- The durations of the preset device. -/
def foxtail : GateDurations := ofNanoseconds 4000 20 50

/-- The duration of a class of gates. -/
def ofKind (durations : GateDurations) : GateKind → Duration
  | .interaction => durations.twoQubit
  | .rotation => durations.singleQubit
  | .phase true => .zero
  | .phase false => durations.singleQubit
  | .measurement => durations.measurement

/-- The duration of an operation, which must be a plain native gate. -/
def ofOperation (durations : GateDurations) (operation : Operation) :
    Except DeviceError Duration :=
  match operation.gate? with
  | none => .error (.unsupportedGate operation.name)
  | some gate => gate.nativeKind.map durations.ofKind

/-- The duration of a moment. -/
def ofMoment (durations : GateDurations) (moment : Moment) : Except DeviceError Duration :=
  moment.operations.foldlM (fun longest operation => do
    return max longest (← durations.ofOperation operation)) .zero

end GateDurations

end GridCircuit
