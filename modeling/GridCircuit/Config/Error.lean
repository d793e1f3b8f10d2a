import GridCircuit.Files.Basic
import GridCircuit.Text.Quoted

/-!
# Why a device configuration is refused

The causes for which no device can be made from a configuration, and the wording of each.
-/

namespace GridCircuit

/-- A reason to refuse a configuration. -/
inductive ConfigError where
  | unreadable (cause : FileError)
  /-- The text is no document, or the document describes no configuration. -/
  | malformed
  /-- The value of an environment variable is no whole number of nanoseconds. -/
  | notInteger (key value : String)
  /-- The device has no sites. -/
  | noSites (device : String)
  /-- A measurement takes no time. -/
  | instantMeasurement
  deriving DecidableEq

/-- The wording of the reason. -/
def ConfigError.message : ConfigError → String
  | unreadable cause => s!"IO error: {cause.message}"
  | malformed => "Parse error: malformed document"
  | notInteger key value =>
    s!"Parse error: {key} must be an integer, got {Text.quoted value}"
  | noSites device => s!"Validation error: device {device} has no qubits"
  | instantMeasurement => "Validation error: measurement_ns must be greater than 0"

end GridCircuit
