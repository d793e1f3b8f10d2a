import GridCircuit.Config.Basic
import GridCircuit.Pipeline.Error
import GridCircuit.Wire.Decoding

/-!
# Why a command fails

A failed command tells what it was doing and then the causes, the nearest one first.
-/

namespace GridCircuit.CommandLine

/-- A reason for which a command fails. -/
inductive Failure where
  /-- No preset device has this name. -/
  | unknownDevice (name : String)
  /-- The preset device does not work with the environment. -/
  | preset (cause : ConfigError)
  | configFile (path : String) (cause : ConfigError)
  | absentFile (path : String)
  | unreadableFile (path : String) (cause : FileError)
  | unwritableFile (path : String) (cause : FileError)
  | malformedCircuit (path : String) (cause : DecodeError)
  | invalidCircuit (circuit device : String) (cause : DeviceError)
  | untimedCircuit (cause : DeviceError)
  | optimization (cause : CompileError)
  /-- The moments of a circuit take a time that is no duration. -/
  | durationOverflow

namespace Failure

/-- The names of the preset devices. -/
def presetNames : String := ", ".intercalate (DeviceConfig.presets.map DeviceConfig.name)

/-- What the command was doing, and the causes. -/
def chain : Failure → List String
  | unknownDevice name => [s!"Unknown device: '{name}'. Available: {presetNames}"]
  | preset cause => [cause.message]
  | configFile path cause => [s!"Failed to load device config: {path}", cause.message]
  | absentFile path => [s!"File not found: {path}"]
  | unreadableFile path cause => [s!"Failed to read file: {path}", cause.message]
  | unwritableFile path cause => [s!"Failed to write file: {path}", cause.message]
  | malformedCircuit path cause => [s!"Failed to parse circuit: {path}", cause.message]
  | invalidCircuit circuit device cause =>
    [s!"Circuit {circuit} is not valid on {device}", cause.message]
  | untimedCircuit cause => [cause.message]
  | optimization cause => cause.chain
  | durationOverflow => [CompileError.durationOverflow.message]

/-- The wording of the failure and its causes. -/
def message (failure : Failure) : String := ": ".intercalate failure.chain

/-- Whether the failure breaks the program off. -/
def breaksOff : Failure → Bool
  | durationOverflow => true
  | optimization .durationOverflow => true
  | _ => false

end Failure

end GridCircuit.CommandLine
