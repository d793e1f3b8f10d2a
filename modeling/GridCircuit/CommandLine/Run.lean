import GridCircuit.CommandLine.Failure
import GridCircuit.CommandLine.Invocation
import GridCircuit.Config.Format
import GridCircuit.Files.Path
import GridCircuit.Pipeline.Optimization

/-!
# Running commands

A command chooses its device before it prints anything, then reads the circuit, works on it, and
prints what it finds as it goes.  What was printed before a failure stays printed.  Where the files
are is a parameter.
-/

namespace GridCircuit.CommandLine

/-- What a run prints, and its exit code. -/
structure Report where
  exitCode : UInt8
  output : String
  errors : String
  deriving DecidableEq

/-- A command under way: it may fail, and it collects what it prints. -/
abbrev Action (m : Type → Type) : Type → Type := ExceptT Failure (StateT String m)

section

variable {m : Type → Type} [Monad m]

/-- Prints a line. -/
def printLine (line : String) : Action m Unit := modify fun printed => printed ++ line ++ "\n"

/-- A result or the failure that its error amounts to. -/
def orFail {ε α : Type} (failure : ε → Failure) : Except ε α → Action m α
  | .ok value => pure value
  | .error error => throw (failure error)

/-! ### Files and devices -/

/-- The circuit in a file. -/
def loadCircuit (files : FileSystem m) (path : String) : Action m Circuit := do
  if !(← files.isPresent path) then throw (.absentFile path)
  let source ← orFail (.unreadableFile path) (← files.readText path)
  orFail (.malformedCircuit path) (Circuit.read source)

/-- The configuration in a file, with the durations of the environment. -/
def loadConfig (files : FileSystem m) (environment : Environment) (path : String) :
    Action m DeviceConfig := do
  let source ← orFail (fun error => .configFile path (.unreadable error)) (← files.readText path)
  orFail (.configFile path)
    (DeviceConfig.load (.ofExtension (Path.extension? path)) source environment)

/-- The configuration of a preset device, with the durations of the environment. -/
def presetConfig (environment : Environment) (name : String) : Action m DeviceConfig :=
  match DeviceConfig.preset? name.toLower with
  | none => throw (.unknownDevice name)
  | some preset => do
    let config ← orFail .preset (preset.overriddenBy environment)
    orFail .preset config.validate
    return config

/-- The chosen device and its name. -/
def resolveDevice (files : FileSystem m) (environment : Environment) (choice : DeviceChoice) :
    Action m (String × Device) := do
  let config ← match choice with
    | .file path => loadConfig files environment path
    | .preset name => presetConfig environment (name.getD DeviceConfig.foxtail.name)
  return (config.name, ← orFail .preset config.device)

/-! ### Output -/

/-- A duration with its unit. -/
def durationInNanoseconds (duration : Duration) : String := s!"{duration.nanoseconds} ns"

/-- A number at the right end of a field. -/
def rightAligned (width number : Nat) : String :=
  let digits := toString number
  String.ofList (List.replicate (width - digits.length) ' ') ++ digits

/-- A device in a document of its sizes and durations. -/
def deviceSummary (name : String) (device : Device) : Json :=
  let number (value : Nat) : Json := .integer value
  .object [
    ("name", .text name),
    ("qubits", number device.topology.size),
    ("pairs", number device.topology.couplers.length),
    ("measurement_ns", number device.durations.measurement.nanoseconds),
    ("single_qubit_ns", number device.durations.singleQubit.nanoseconds),
    ("two_qubit_ns", number device.durations.twoQubit.nanoseconds)]

/-! ### Commands -/

/-- Shows a device, in a diagram or in a document. -/
def showDevice (files : FileSystem m) (environment : Environment) (choice : DeviceChoice)
    (json : Bool) : Action m Unit := do
  let (name, device) ← resolveDevice files environment choice
  if json then printLine (deviceSummary name device).pretty
  else
    let measurement := durationInNanoseconds device.durations.measurement
    let singleQubit := durationInNanoseconds device.durations.singleQubit
    let twoQubit := durationInNanoseconds device.durations.twoQubit
    printLine s!"→ Device {name}"
    printLine s!"  Qubits: {device.topology.size}, couplers: {device.topology.couplers.length}"
    printLine ("  Durations: measurement " ++ measurement ++ ", single-qubit " ++ singleQubit ++
      ", two-qubit " ++ twoQubit)
    printLine ""
    printLine device.topology.diagram

/-- Validates a circuit against a device and shows how long its moments take. -/
def validate (files : FileSystem m) (environment : Environment) (input : String)
    (choice : DeviceChoice) : Action m Unit := do
  let (name, device) ← resolveDevice files environment choice
  printLine s!"→ Validating {input} against {name}"
  let circuit ← loadCircuit files input
  printLine (s!"  Loaded: {circuit.qubits.length} qubits, {circuit.depth} moments, " ++
    s!"{circuit.size} ops")
  orFail (.invalidCircuit circuit.name name) (device.checkCircuit circuit)
  let durations ← orFail .untimedCircuit (device.momentDurations circuit)
  for (duration, index) in durations.zipIdx do
    printLine s!"  Moment {rightAligned 3 index}: {durationInNanoseconds duration}"
  let some total := totalDuration? durations | throw .durationOverflow
  printLine "✓ Circuit is valid"
  printLine s!"  Total duration: {durationInNanoseconds total}"

/-- The path of the result where none is given. -/
def defaultOutput (input : String) : String :=
  Path.sibling input (Path.stem input ++ "_optimized.json")

/-- Optimizes a circuit for a device and writes the result. -/
def optimize (files : FileSystem m) (environment : Environment) (input : String)
    (output : Option String) (allowPartial : Bool) (row : Int32) (choice : DeviceChoice) :
    Action m Unit := do
  let (name, device) ← resolveDevice files environment choice
  let strategy := Strategy.ofPartial allowPartial
  printLine s!"→ Optimizing {input} for {name} ({strategy.name})"
  let circuit ← loadCircuit files input
  printLine s!"  Loaded: depth {circuit.depth}, {circuit.size} ops"
  let optimized ← orFail .optimization
    (circuit.optimize (some device) (.lineOntoRow row) strategy)
  printLine "✓ Optimization complete"
  printLine s!"  Result: depth {optimized.depth}, {optimized.size} ops"
  let path := output.getD (defaultOutput input)
  orFail (.unwritableFile path) (← files.writeText path optimized.write)
  printLine s!"  Output: {path}"

/-- The number of this version. -/
def versionNumber : String := "0.1.0"

/-- What the command `version` prints. -/
def versionLines : List String :=
  [s!"gridq v{versionNumber} - grid-device placement validation",
    "",
    "Components:",
    "  gridq-ir       Circuit, moment and operation value types",
    "  gridq-device   Grid topology, timing and placement validation",
    "  gridq-compile  Optimization pipeline",
    "  gridq-cli      Command-line interface",
    "",
    "License:    Apache-2.0"]

/-- How the program is used. -/
def usageLines : List String :=
  ["Usage: gridq [-v] COMMAND",
    "",
    "  show [-d NAME | -c FILE] [--json]",
    "  validate -i FILE [-d NAME | -c FILE]",
    "  optimize -i FILE [-o FILE] [--allow-partial] [--row N] [-d NAME | -c FILE]",
    "  version"]

/-- Does what a command says. -/
def perform (files : FileSystem m) (environment : Environment) : Command → Action m Unit
  | .showDevice device json => showDevice files environment device json
  | .validate input device => validate files environment input device
  | .optimize input output allowPartial row device =>
    optimize files environment input output allowPartial row device
  | .version => versionLines.forM printLine

/-- Runs the program with some arguments.  A program that breaks off ends with an exit code of its
own. -/
def run (files : FileSystem m) (environment : Environment) (arguments : List String) :
    m Report := do
  match readArguments arguments with
  | .error error =>
    return ⟨2, "", "error: " ++ error.message ++ "\n\n" ++ "\n".intercalate usageLines ++ "\n"⟩
  | .ok (.inquire "version") => return ⟨0, s!"gridq {versionNumber}\n", ""⟩
  | .ok (.inquire _) => return ⟨0, "\n".intercalate usageLines ++ "\n", ""⟩
  | .ok (.run command) =>
    match ← ((perform files environment command).run.run "") with
    | (.ok (), printed) => return ⟨0, printed, ""⟩
    | (.error failure, printed) =>
      if failure.breaksOff then return ⟨101, printed, failure.message ++ "\n"⟩
      else return ⟨1, printed, "Error: " ++ failure.message ++ "\n"⟩

end

end GridCircuit.CommandLine
