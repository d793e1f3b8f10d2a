import GridCircuit.Config.Overrides
import GridCircuit.Wire.Decoding
import GridCircuit.Wire.Encoding
import GridCircuit.Yaml.Reader

/-!
# Configurations as documents

A configuration is written with braces or with indentation.  Both notations have records, lists,
texts and whole numbers, and a `DocumentView` says how to find them; what a configuration consists
of is said once, for every view.  Everything in a configuration may be left out.
-/

namespace GridCircuit

/-- How the values of a configuration are found in a kind of document. -/
structure DocumentView (Node : Type) where
  /-- The values of the named fields of a record, where they are given. -/
  record? : List String → Node → Option (List (Option Node))
  /-- The items of a list. -/
  items? : Node → Option (List Node)
  text? : Node → Option String
  /-- A text or nothing. -/
  optionalText? : Node → Option (Option String)
  /-- A whole number from zero up to a bound. -/
  natural? : Nat → Node → Option Nat
  int32? : Node → Option Int32

/-- The text of a tree, or nothing. -/
def Json.optionalText? : Json → Option (Option String)
  | null => some none
  | tree => tree.text?.map some

/-- The items of a list. -/
def Json.items? : Json → Option (List Json)
  | array items => some items
  | _ => none

/-- Values in documents with braces. -/
def Json.view : DocumentView Json where
  record? := Json.record?
  items? := Json.items?
  text? := Json.text?
  optionalText? := Json.optionalText?
  natural? := Json.natural?
  int32? := Json.int32?

/-- Values in documents with indentation. -/
def Yaml.view : DocumentView Yaml where
  record? := Yaml.record?
  items? := Yaml.items?
  text? := Yaml.text?
  optionalText? := Yaml.optionalText?
  natural? := Yaml.natural?
  int32? node := node.integer?.bind GridCircuit.int32?

namespace DocumentView

variable {Node : Type} (view : DocumentView Node)

/-- The value that a field has, or the default where the field is left out. -/
def orDefault {α : Type} (default : α) (decode? : Node → Option α) : Option Node → Option α
  | some node => decode? node
  | none => some default

/-- The site that a node describes. -/
def site? (node : Node) : Option Site :=
  match view.record? ["row", "col"] node with
  | some [some row, some col] => do return ⟨← view.int32? row, ← view.int32? col⟩
  | _ => none

/-- The sites that a node lists. -/
def sites? (node : Node) : Option (List Site) := do (← view.items? node).mapM view.site?

/-- The number of nanoseconds of a node, in 64 bits. -/
def duration? (node : Node) : Option UInt64 := (view.natural? UInt64.size node).map UInt64.ofNat

/-- The durations that a node describes. -/
def durations? (node : Node) : Option DurationConfig :=
  match view.record? ["measurement_ns", "single_qubit_ns", "two_qubit_ns"] node with
  | some [measurement, singleQubit, twoQubit] => do
    return {
      measurement := ← orDefault DurationConfig.foxtail.measurement view.duration? measurement
      singleQubit := ← orDefault DurationConfig.foxtail.singleQubit view.duration? singleQubit
      twoQubit := ← orDefault DurationConfig.foxtail.twoQubit view.duration? twoQubit }
  | _ => none

/-- The configuration that a node describes. -/
def config? (node : Node) : Option DeviceConfig :=
  match view.record? ["name", "durations", "qubits", "layout"] node with
  | some [name, durations, sites, layout] => do
    return {
      name := ← orDefault DeviceConfig.foxtail.name view.text? name
      durations := ← orDefault .foxtail view.durations? durations
      sites := ← orDefault [] view.sites? sites
      layout := ← orDefault none view.optionalText? layout }
  | _ => none

end DocumentView

/-- How a configuration is written. -/
inductive ConfigFormat where
  | json
  | yaml
  deriving DecidableEq

/-- The format of files with an extension. -/
def ConfigFormat.ofExtension : Option String → ConfigFormat
  | some extension => if extension.toLower = "json" then json else yaml
  | none => yaml

namespace DeviceConfig

/-- The configuration that a text describes. -/
def parse? (source : String) : ConfigFormat → Option DeviceConfig
  | .json =>
    let source := Json.read source
    (Json.view.config? source.root).filter fun _ => source.complete
  | .yaml => (Yaml.read source).bind Yaml.view.config?

/-- The configuration that a text describes, from which a device can be made. -/
def read (format : ConfigFormat) (source : String) : Except ConfigError DeviceConfig :=
  match parse? source format with
  | none => .error .malformed
  | some config => do
    config.validate
    return config

/-- Reads a configuration and replaces its durations by those of the environment. -/
def load (format : ConfigFormat) (source : String) (environment : Environment) :
    Except ConfigError DeviceConfig := do
  let config ← (← read format source).overriddenBy environment
  config.validate
  return config

/-- A configuration as a document. -/
def encode (config : DeviceConfig) : Json :=
  let duration (nanoseconds : UInt64) : Json := .integer nanoseconds.toNat
  .object [
    ("name", .text config.name),
    ("durations", .object [
      ("measurement_ns", duration config.durations.measurement),
      ("single_qubit_ns", duration config.durations.singleQubit),
      ("two_qubit_ns", duration config.durations.twoQubit)]),
    ("qubits", .array (config.sites.map Site.encode)),
    ("layout", (config.layout.map Json.text).getD .null)]

end DeviceConfig

end GridCircuit
