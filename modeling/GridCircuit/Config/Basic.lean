import GridCircuit.Config.Error
import GridCircuit.Device.Basic
import GridCircuit.Topology.Layout

/-!
# Device configurations

A configuration lists the sites of a device, draws them, or does both.  A device can be made from
it when there is a site and a measurement takes time.
-/

namespace GridCircuit

/-- The durations of a device, in nanoseconds of 64 bits. -/
structure DurationConfig where
  measurement : UInt64
  singleQubit : UInt64
  twoQubit : UInt64
  deriving DecidableEq

namespace DurationConfig

/-- The preset durations. -/
def foxtail : DurationConfig := ⟨4000, 20, 50⟩

/-- The durations themselves. -/
def gateDurations (config : DurationConfig) : GateDurations :=
  .ofNanoseconds config.measurement config.singleQubit config.twoQubit

end DurationConfig

/-- A description of a device. -/
structure DeviceConfig where
  name : String
  durations : DurationConfig
  sites : List Site
  /-- A drawing of further sites. -/
  layout : Option String
  deriving DecidableEq

namespace DeviceConfig

/-- The preset configuration, with two rows of eleven sites. -/
def foxtail : DeviceConfig := ⟨"foxtail", .foxtail, Site.rectangle 2 11, none⟩

/-- The presets. -/
def presets : List DeviceConfig := [foxtail]

/-- The preset of a name. -/
def preset? (name : String) : Option DeviceConfig := presets.find? fun preset => preset.name = name

/-- All sites, those that are listed and those that are drawn. -/
def topology (config : DeviceConfig) : Topology :=
  match config.layout with
  | some drawing => .ofList (config.sites ++ (Topology.ofDrawing drawing).sites)
  | none => .ofList config.sites

/-- Checks that a device can be made. -/
def validate (config : DeviceConfig) : Except ConfigError Unit :=
  if config.topology.sites.isEmpty then .error (.noSites config.name)
  else if config.durations.measurement = 0 then .error .instantMeasurement
  else .ok ()

/-- The device that a configuration describes. -/
def device (config : DeviceConfig) : Except ConfigError Device := do
  config.validate
  return .ofParts config.durations.gateDurations config.topology

end DeviceConfig

end GridCircuit
