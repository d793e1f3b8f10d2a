import GridCircuit.Config.Format
import GridCircuit.Proofs.Attempt

/-!
# Which durations a configuration ends with

A duration may be given by the environment and by the document.  The environment goes before the
document, and where neither says anything, the duration is that of the preset device.  What one
source says is a `DurationLayer`, in which any duration may be left out, and `DurationLayer.over`
lays it over the durations below.

The result of `DeviceConfig.load` has its durations from the three layers in this order.  Whether
there is a result is asked twice, though.  The document is judged by itself before the environment
is laid over it, so that a measurement duration of zero in the document is refused even where the
environment replaces it.

The proof has one lemma for each step of loading.  `config?_durations` goes through the decoder,
`overriddenBy_eq_ok` is the environment, and `validate_eq_ok_iff` is the check that is made both
before and after it.
-/

namespace GridCircuit

open Attempt

/-! ## Layers of durations -/

/-- Durations, each of which may be left out. -/
structure DurationLayer where
  measurement : Option UInt64
  singleQubit : Option UInt64
  twoQubit : Option UInt64

/-- The layer that leaves out all durations. -/
def DurationLayer.blank : DurationLayer := ⟨none, none, none⟩

/-- The durations of a layer, completed by those below it. -/
def DurationLayer.over (layer : DurationLayer) (below : DurationConfig) : DurationConfig where
  measurement := layer.measurement.getD below.measurement
  singleQubit := layer.singleQubit.getD below.singleQubit
  twoQubit := layer.twoQubit.getD below.twoQubit

/-! ## The layer of the environment -/

namespace Environment

variable {environment : Environment}

/-- The durations that the environment gives. -/
def layer (environment : Environment) : DurationLayer where
  measurement := (environment measurementKey).bind nanoseconds?
  singleQubit := (environment singleQubitKey).bind nanoseconds?
  twoQubit := (environment twoQubitKey).bind nanoseconds?

/-- Every variable for a duration that is set holds a whole number of nanoseconds. -/
def Readable (environment : Environment) : Prop :=
  ∀ key ∈ durationKeys, ∀ value ∈ environment key, (nanoseconds? value).isSome = true

instance (environment : Environment) : Decidable environment.Readable :=
  inferInstanceAs (Decidable (∀ key ∈ durationKeys, ∀ value ∈ environment key,
    (nanoseconds? value).isSome = true))

theorem Readable.duration_eq_ok (hreadable : environment.Readable) {key : String}
    (hkey : key ∈ durationKeys) (given : UInt64) :
    environment.duration key given = .ok (((environment key).bind nanoseconds?).getD given) := by
  unfold duration
  cases hvalue : environment key with
  | none => rfl
  | some value =>
      obtain ⟨nanoseconds, hnanoseconds⟩ :=
        Option.isSome_iff_exists.mp (hreadable key hkey value hvalue)
      simp [hnanoseconds]

theorem Readable.durations_eq_ok (hreadable : environment.Readable) (given : DurationConfig) :
    environment.durations given = .ok (environment.layer.over given) := by
  have hmeasurement : measurementKey ∈ durationKeys := by simp [durationKeys]
  have hsingleQubit : singleQubitKey ∈ durationKeys := by simp [durationKeys]
  have htwoQubit : twoQubitKey ∈ durationKeys := by simp [durationKeys]
  simp only [durations, hreadable.duration_eq_ok hmeasurement,
    hreadable.duration_eq_ok hsingleQubit, hreadable.duration_eq_ok htwoQubit]
  rfl

end Environment

/-! ## The layer of a document -/

namespace DocumentView

variable {Node α : Type} {view : DocumentView Node} {node : Node}

/-- What a field says, where it is not left out. -/
def stated? (decode? : Node → Option α) : Option Node → Option (Option α)
  | some node => (decode? node).map some
  | none => some none

theorem orDefault_eq_map_stated? (default : α) (decode? : Node → Option α)
    (field : Option Node) :
    orDefault default decode? field = (stated? decode? field).map fun stated =>
      stated.getD default := by
  cases field with
  | none => rfl
  | some node => cases hdecode : decode? node <;> simp [orDefault, stated?, hdecode]

/-- The durations that a record of durations gives. -/
def layer? (view : DocumentView Node) (node : Node) : Option DurationLayer :=
  match view.record? ["measurement_ns", "single_qubit_ns", "two_qubit_ns"] node with
  | some [measurement, singleQubit, twoQubit] => do
    return {
      measurement := ← stated? view.duration? measurement
      singleQubit := ← stated? view.duration? singleQubit
      twoQubit := ← stated? view.duration? twoQubit }
  | _ => none

/-- The durations that a configuration gives in its document. -/
def configLayer? (view : DocumentView Node) (node : Node) : Option DurationLayer :=
  match view.record? ["name", "durations", "qubits", "layout"] node with
  | some [_, durations, _, _] => orDefault .blank view.layer? durations
  | _ => none

/-- The durations of a record are those it gives, laid over the preset ones. -/
theorem durations?_eq_map_layer? (view : DocumentView Node) (node : Node) :
    view.durations? node = (view.layer? node).map fun layer => layer.over .foxtail := by
  unfold durations? layer?
  generalize view.record? ["measurement_ns", "single_qubit_ns", "two_qubit_ns"] node = record
  -- only a list of three fields is taken as a record
  rcases record with _ | _ | ⟨measurement, _ | ⟨singleQubit, _ | ⟨twoQubit, _ | _⟩⟩⟩
  case some.cons.cons.cons.nil =>
    simp only [orDefault_eq_map_stated?]
    cases stated? view.duration? measurement <;> cases stated? view.duration? singleQubit <;>
      cases stated? view.duration? twoQubit <;> rfl
  all_goals rfl

/-- The durations of a configuration are those its document gives, laid over the preset ones. -/
theorem config?_durations {config : DeviceConfig} (hconfig : view.config? node = some config) :
    ∃ stated, view.configLayer? node = some stated ∧ config.durations = stated.over .foxtail := by
  unfold config? at hconfig
  split at hconfig
  · rename_i name durations sites layout hrecord
    simp only [configLayer?, hrecord]
    simp only [bind, Option.bind_eq_some_iff, pure, Option.some.injEq] at hconfig
    obtain ⟨_, -, durationsGiven, hdurations, _, -, _, -, rfl⟩ := hconfig
    cases durations with
    | none =>
        obtain rfl := Option.some.inj hdurations
        exact ⟨.blank, rfl, rfl⟩
    | some record =>
        have hlayer : view.durations? record = some durationsGiven := hdurations
        rw [durations?_eq_map_layer?, Option.map_eq_some_iff] at hlayer
        obtain ⟨stated, hstated, rfl⟩ := hlayer
        exact ⟨stated, hstated, rfl⟩
  · cases hconfig

end DocumentView

/-! ## Loading -/

namespace DeviceConfig

variable {config file : DeviceConfig} {environment : Environment} {format : ConfigFormat}
  {source : String}

/-- The durations that a text gives. -/
def statedIn? (source : String) : ConfigFormat → Option DurationLayer
  | .json => Json.view.configLayer? (Json.read source).root
  | .yaml => (Yaml.read source).bind Yaml.view.configLayer?

/-- There is a site, and a measurement takes time. -/
structure Usable (config : DeviceConfig) : Prop where
  sites : config.topology.sites ≠ []
  measurement : config.durations.measurement ≠ 0

/-- A configuration whose durations come from the environment, else from what the document gives,
else from the preset device. -/
def merged (file : DeviceConfig) (stated : DurationLayer) (environment : Environment) :
    DeviceConfig :=
  { file with durations := environment.layer.over (stated.over .foxtail) }

theorem validate_eq_ok_iff : config.validate = .ok () ↔ config.Usable := by
  unfold validate
  by_cases hsites : config.topology.sites = []
  · simp only [hsites, List.isEmpty_nil, if_true, reduceCtorEq, false_iff]
    exact fun husable => husable.sites hsites
  · by_cases hmeasurement : config.durations.measurement = 0
    · simp only [List.isEmpty_iff, hsites, hmeasurement, if_true, if_false, reduceCtorEq, false_iff]
      exact fun husable => husable.measurement hmeasurement
    · simp only [List.isEmpty_iff, hsites, hmeasurement, if_false, true_iff]
      exact ⟨hsites, hmeasurement⟩

theorem durations_of_parse? (hparse : parse? source format = some file) :
    ∃ stated, statedIn? source format = some stated ∧ file.durations = stated.over .foxtail := by
  cases format with
  | json =>
      have hconfig := (Option.filter_eq_some_iff.mp hparse).1
      exact DocumentView.config?_durations hconfig
  | yaml =>
      obtain ⟨node, hnode, hconfig⟩ := Option.bind_eq_some_iff.mp hparse
      obtain ⟨stated, hstated, hdurations⟩ := DocumentView.config?_durations hconfig
      exact ⟨stated, by rw [statedIn?, hnode]; exact hstated, hdurations⟩

/-- The text is read as the configuration it describes, provided that this one is usable by
itself. -/
theorem read_eq_ok_iff (hparse : parse? source format = some file) :
    read format source = .ok config ↔ file.Usable ∧ config = file := by
  simp only [read, hparse, bind_eq_ok_iff, pure_eq_ok_iff]
  constructor
  · rintro ⟨_, hvalid, rfl⟩
    exact ⟨validate_eq_ok_iff.mp hvalid, rfl⟩
  · rintro ⟨husable, rfl⟩
    exact ⟨(), validate_eq_ok_iff.mpr husable, rfl⟩

theorem overriddenBy_eq_ok (hreadable : environment.Readable) (config : DeviceConfig) :
    config.overriddenBy environment =
      .ok { config with durations := environment.layer.over config.durations } := by
  rw [overriddenBy, hreadable.durations_eq_ok]
  rfl

/-- A document that can be used by itself has a site and does not give measurements no time. -/
theorem usable_iff_of_stated {stated : DurationLayer}
    (hdurations : file.durations = stated.over .foxtail) :
    file.Usable ↔ file.topology.sites ≠ [] ∧ stated.measurement ≠ some 0 := by
  have hmeasurement : file.durations.measurement ≠ 0 ↔ stated.measurement ≠ some 0 := by
    rw [hdurations, DurationLayer.over]
    cases stated.measurement <;> simp [DurationConfig.foxtail]
  rw [← hmeasurement]
  exact ⟨fun husable => ⟨husable.sites, husable.measurement⟩, fun h => ⟨h.1, h.2⟩⟩

/-- A configuration with one site that gives two of the durations. -/
def partialText : String :=
  "\x7b\"durations\":\x7b\"measurement_ns\":7,\"two_qubit_ns\":45\x7d,\"layout\":\"A\"\x7d"

/-- A configuration with one site, on which measurements take no time. -/
def zeroedText : String := "\x7b\"durations\":\x7b\"measurement_ns\":0\x7d,\"layout\":\"A\"\x7d"

/-- An environment that gives measurements three microseconds. -/
def measurementSet : Environment := fun key =>
  if key = Environment.measurementKey then some " 3000 " else none

theorem statedIn?_partialText :
    parse? partialText .json = some ⟨"foxtail", ⟨7, 20, 45⟩, [], some "A"⟩ ∧
      statedIn? partialText .json = some ⟨some 7, none, some 45⟩ :=
  ⟨rfl, rfl⟩

theorem statedIn?_zeroedText :
    parse? zeroedText .json = some ⟨"foxtail", ⟨0, 20, 50⟩, [], some "A"⟩ ∧
      statedIn? zeroedText .json = some ⟨some 0, none, none⟩ :=
  ⟨rfl, rfl⟩

end DeviceConfig

end GridCircuit
