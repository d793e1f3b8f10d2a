import GridCircuit.Config.Basic
import GridCircuit.Decimal.Numeral
import GridCircuit.Text.Basic

/-!
# Durations from the environment

Three variables of the environment replace the durations of a configuration.  A variable that is
set must hold a whole number of nanoseconds.
-/

namespace GridCircuit

/-- The values of the variables that are set. -/
abbrev Environment := String → Option String

/-- The number of nanoseconds in a text, which may have a plus sign and blanks around it.  It must
fit into 64 bits. -/
def nanoseconds? (value : String) : Option UInt64 :=
  ((Decimal.natural? (Text.trim value.toList)).filter (· < UInt64.size)).map UInt64.ofNat

namespace Environment

/-- The variable for the duration of measurements. -/
def measurementKey : String := "GRIDQ_MEASUREMENT_NS"

/-- The variable for the duration of gates on one qubit. -/
def singleQubitKey : String := "GRIDQ_SINGLE_QUBIT_NS"

/-- The variable for the duration of gates on two qubits. -/
def twoQubitKey : String := "GRIDQ_TWO_QUBIT_NS"

/-- The variables that replace durations. -/
def durationKeys : List String :=
  [measurementKey, singleQubitKey, twoQubitKey]

/-- The duration in a variable, or the given one where the variable is not set. -/
def duration (environment : Environment) (key : String) (default : UInt64) :
    Except ConfigError UInt64 :=
  match environment key with
  | none => .ok default
  | some value =>
    match nanoseconds? value with
    | some duration => .ok duration
    | none => .error (.notInteger key value)

/-- The durations that result from the environment and the given ones. -/
def durations (environment : Environment) (given : DurationConfig) :
    Except ConfigError DurationConfig := do
  return {
    measurement := ← environment.duration measurementKey given.measurement
    singleQubit := ← environment.duration singleQubitKey given.singleQubit
    twoQubit := ← environment.duration twoQubitKey given.twoQubit }

end Environment

/-- A configuration with the durations of the environment. -/
def DeviceConfig.overriddenBy (config : DeviceConfig) (environment : Environment) :
    Except ConfigError DeviceConfig := do
  return { config with durations := (← environment.durations config.durations) }

end GridCircuit
