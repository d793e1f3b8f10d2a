import GridCircuit.Circuit
import GridCircuit.Device.Exclusion
import GridCircuit.Device.HostChecks
import GridCircuit.Device.Timing
import GridCircuit.Topology.Diagram

/-!
# Grid devices

A device has sites, durations and the rules of its host.  It accepts a circuit when every moment
passes the rules of the host, all operations fit the sites, no two interactions of a moment exclude
each other, and no two measurements share a key.
-/

namespace GridCircuit

/-- No two measurements of a circuit may record under one key. -/
def Circuit.checkKeys (circuit : Circuit) : Except DeviceError Unit :=
  match firstRepeat? circuit.keys with
  | some key => .error (.repeatedKey key)
  | none => .ok ()

/-- A device that runs circuits on a grid. -/
structure Device where
  durations : GateDurations
  topology : Topology
  host : HostChecks

namespace Device

/-- A device without rules of its host but that operations must not overlap. -/
def ofParts (durations : GateDurations) (topology : Topology) : Device :=
  ⟨durations, topology, .noOverlap⟩

/-- The preset device, with two rows of eleven sites. -/
def foxtail : Device := ofParts .foxtail (.rectangle 2 11)

/-- Devices are equal when their durations and sites are, whatever the rules of their hosts. -/
def same (a b : Device) : Bool := a.durations = b.durations && a.topology = b.topology

/-- Checks one operation. -/
def checkOperation (device : Device) (operation : Operation) : Except DeviceError Unit :=
  device.topology.checkOperation operation

/-- Checks a moment: first the rules of the host, then every operation, last the exclusion of
interactions. -/
def checkMoment (device : Device) (moment : Moment) : Except DeviceError Unit := do
  device.host.checkMoment moment
  moment.operations.forM device.checkOperation
  moment.checkExclusion

/-- Checks a circuit: first every moment, then the measurement keys. -/
def checkCircuit (device : Device) (circuit : Circuit) : Except DeviceError Unit := do
  circuit.moments.forM device.checkMoment
  circuit.checkKeys

/-- Whether an operation may be added to a moment: the moment must be valid, the host must agree,
and an interaction must not conflict with an operation of the moment.  The operation itself is not
checked. -/
def canAdd (device : Device) (operation : Operation) (moment : Moment) : Bool :=
  (device.checkMoment moment).isOk && device.host.canAdd operation moment &&
    !(operation.isInteraction && operation.conflictsWithAny moment.operations)

/-- The durations of the moments of a circuit. -/
def momentDurations (device : Device) (circuit : Circuit) :
    Except DeviceError (List Duration) :=
  circuit.moments.mapM device.durations.ofMoment

end Device

end GridCircuit
