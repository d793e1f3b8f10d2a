import GridCircuit.Decimal.Binary
import GridCircuit.Device.Basic
import GridCircuit.Json.Basic
import GridCircuit.Text.Quoted

/-!
# Descriptions of devices

A device described in one line for its developers, and its durations as a document.  A duration is
shown in the largest unit that it reaches, with the exact fraction.
-/

namespace GridCircuit

/-- A fraction of a power of ten, without the zeros at its end. -/
def fractionText (places fraction : Nat) : String :=
  let digits := Nat.toDigits 10 fraction
  let padded := List.replicate (places - digits.length) '0' ++ digits
  if fraction = 0 then ""
  else "." ++ String.ofList (padded.reverse.dropWhile (· = '0')).reverse

/-- Nanoseconds in a unit that is a power of ten of them. -/
def inUnit (nanoseconds places : Nat) (unit : String) : String :=
  let size := Decimal.tenTo places
  toString (nanoseconds / size) ++ fractionText places (nanoseconds % size) ++ unit

/-- The units of durations from the largest on, as powers of ten of nanoseconds. -/
def durationUnits : List (Nat × String) := [(9, "s"), (6, "ms"), (3, "µs")]

/-- The text of a duration, such as `1.5µs`. -/
def durationText (duration : Duration) : String :=
  match durationUnits.find? fun unit => Decimal.tenTo unit.1 ≤ duration.nanoseconds with
  | some (places, unit) => inUnit duration.nanoseconds places unit
  | none => inUnit duration.nanoseconds 0 "ns"

/-- A site with the names of its coordinates. -/
def Site.description (site : Site) : String :=
  "GridQubit \x7b row: " ++ toString site.row.toInt ++ ", col: " ++ toString site.col.toInt ++
    " \x7d"

/-- A device with the names of its parts. -/
def Device.description (device : Device) : String :=
  let sites := ", ".intercalate (device.topology.sites.map Site.description)
  "GridDevice \x7b measurement: " ++ durationText device.durations.measurement ++
    ", single_qubit: " ++ durationText device.durations.singleQubit ++
    ", two_qubit: " ++ durationText device.durations.twoQubit ++
    ", qubits: \x7b" ++ sites ++ "\x7d, generic: " ++ Text.quoted device.host.name ++ " \x7d"

/-- A duration as a document of seconds and nanoseconds. -/
def encodeDuration (duration : Duration) : Json :=
  .object [("secs", .integer (duration.nanoseconds / Decimal.tenTo 9 : Nat)),
    ("nanos", .integer (duration.nanoseconds % Decimal.tenTo 9 : Nat))]

/-- The durations of a device as a document. -/
def GateDurations.encode (durations : GateDurations) : Json :=
  .object [("measurement", encodeDuration durations.measurement),
    ("single_qubit", encodeDuration durations.singleQubit),
    ("two_qubit", encodeDuration durations.twoQubit)]

end GridCircuit
