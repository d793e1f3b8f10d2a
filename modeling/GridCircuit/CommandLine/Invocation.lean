import GridCircuit.CommandLine.Options
import GridCircuit.Decimal.Numeral
import GridCircuit.Qubit

/-!
# Commands

The four commands and their options.  A device is chosen by the name of a preset or by a
configuration file, not by both.
-/

namespace GridCircuit.CommandLine

/-- How the device is chosen. -/
inductive DeviceChoice where
  /-- By the name of a preset; without one the usual preset is taken. -/
  | preset (name : Option String)
  /-- By the path of a configuration file. -/
  | file (path : String)
  deriving DecidableEq

/-- What is to be done. -/
inductive Command where
  | showDevice (device : DeviceChoice) (json : Bool)
  | validate (input : String) (device : DeviceChoice)
  | optimize (input : String) (output : Option String) (allowPartial : Bool) (row : Int32)
    (device : DeviceChoice)
  | version
  deriving DecidableEq

/-- The option that makes a run tell more about itself. -/
def verboseSpec : OptionSpec := ⟨"verbose", some 'v', .counter⟩

/-- The option that asks how a command is used. -/
def helpSpec : OptionSpec := ⟨"help", some 'h', .inquiry⟩

/-- The options before the name of the command. -/
def generalSpecs : List OptionSpec := [verboseSpec, helpSpec, ⟨"version", some 'V', .inquiry⟩]

/-- The options that choose a device. -/
def deviceSpecs : List OptionSpec :=
  [⟨"device", some 'd', .setting⟩, ⟨"config", some 'c', .setting⟩]

/-- The option for the circuit that is read. -/
def inputSpec : OptionSpec := ⟨"input", some 'i', .setting⟩

/-- Reads the options of a command. -/
def readOptions (specs : List OptionSpec) (arguments : List String) :
    Except UsageError (Request Scan) := do
  let specs := verboseSpec :: helpSpec :: specs
  match ← scan specs none arguments with
  | .inquire name => return .inquire name
  | .run scan =>
    if let argument :: _ := scan.rest then throw (.surplusArgument argument)
    scan.checkRepeats specs
    return .run scan

/-- A command that is made of its options. -/
def ofOptions (specs : List OptionSpec) (arguments : List String)
    (command : Scan → Except UsageError Command) : Except UsageError (Request Command) := do
  match ← readOptions specs arguments with
  | .inquire name => return .inquire name
  | .run scan => return .run (← command scan)

/-- The device that options choose. -/
def deviceChoice (scan : Scan) : Except UsageError DeviceChoice := do
  scan.checkConflict "device" "config"
  match scan.value? "config" with
  | some path => return .file path
  | none => return .preset (scan.value? "device")

/-- The row that receives the qubits of a line; the first one where none is given. -/
def rowChoice (scan : Scan) : Except UsageError Int32 :=
  match scan.value? "row" with
  | none => .ok 0
  | some value =>
    match (Decimal.integer? value.toList).bind int32? with
    | some row => .ok row
    | none => .error (.invalidValue (longForm "row") value)

/-- Reads a command by its name. -/
def readCommand (name : String) (arguments : List String) :
    Except UsageError (Request Command) :=
  match name with
  | "show" =>
    ofOptions (deviceSpecs ++ [⟨"json", none, .switch⟩]) arguments fun scan => do
      return .showDevice (← deviceChoice scan) (scan.has "json")
  | "validate" =>
    ofOptions (inputSpec :: deviceSpecs) arguments fun scan => do
      return .validate (← scan.required "input") (← deviceChoice scan)
  | "optimize" =>
    ofOptions
      (inputSpec :: deviceSpecs ++
        [⟨"output", some 'o', .setting⟩, ⟨"allow-partial", none, .switch⟩, ⟨"row", none, .setting⟩])
      arguments fun scan => do
        return .optimize (← scan.required "input") (scan.value? "output")
          (scan.has "allow-partial") (← rowChoice scan) (← deviceChoice scan)
  | "version" => ofOptions [] arguments fun _ => return .version
  | "help" => .ok (.inquire "help")
  | name => .error (.unknownCommand name)

/-- Reads the arguments of the program. -/
def readArguments (arguments : List String) : Except UsageError (Request Command) := do
  match ← scan generalSpecs none arguments with
  | .inquire name => return .inquire name
  | .run scan =>
    match scan.rest with
    | [] => throw .missingCommand
    | name :: rest => readCommand name rest

end GridCircuit.CommandLine
