import GridCircuit.Device.Error
import GridCircuit.Moment

/-!
# Rules of the host

Whoever drives a device may add rules of their own for moments.  The device asks them first, both
when it validates a moment and when it looks for a place for an operation.  Without other rules,
the operations of a moment must not overlap.
-/

namespace GridCircuit

/-- Rules for moments that come before those of the device. -/
structure HostChecks where
  name : String
  /-- Whether a moment may run. -/
  checkMoment : Moment → Except DeviceError Unit
  /-- Whether an operation may be added to a moment. -/
  canAdd : Operation → Moment → Bool

/-- No qubit may be used twice in a moment. -/
def HostChecks.noOverlap : HostChecks where
  name := "no_overlap"
  checkMoment moment :=
    match moment.overlap? with
    | some qubit => .error (.overlap qubit)
    | none => .ok ()
  canAdd operation moment := !moment.touches operation.qubits

end GridCircuit
