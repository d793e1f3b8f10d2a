import GridCircuit.Pipeline.Pass

/-!
# Optimizing circuits

An optimization maps the qubits onto the grid, drops negligible gates, looks for partial
interactions where the strategy forbids them and drops empty moments.  With a device it then packs
the circuit and verifies the result.
-/

namespace GridCircuit

/-- The choices of an optimization. -/
structure Settings where
  strategy : Strategy := .xmon
  map : QubitMap := .identity
  tolerance : Float := defaultTolerance
  device : Option Device := none

namespace Settings

/-- Sets the tolerance, of which only the magnitude counts. -/
def withTolerance (settings : Settings) (tolerance : Float) : Settings :=
  { settings with tolerance := tolerance.abs }

/-- The passes of an optimization. -/
def passes (settings : Settings) : List Pass :=
  let full := if settings.strategy.allowsPartial then []
    else [Pass.requireFull settings.strategy settings.tolerance]
  [.mapping settings.map, .dropNegligible settings.tolerance] ++ full ++
    [.dropEmptyMoments, .packing, .verification]

/-- The properties that the passes start with. -/
def properties (settings : Settings) : Properties := ⟨settings.device, none⟩

/-- Runs an optimization on a circuit. -/
def run (settings : Settings) (circuit : Circuit) : Outcome :=
  Pass.runAll settings.passes ⟨circuit, settings.properties⟩

end Settings

/-- The optimized circuit, or the reason why there is none. -/
def Outcome.result (outcome : Outcome) : Except CompileError Circuit :=
  match outcome.failure with
  | some failure => .error failure
  | none => .ok outcome.workspace.circuit

/-- Optimizes a circuit for a device, or for none. -/
def Circuit.optimize (circuit : Circuit) (device : Option Device) (map : QubitMap)
    (strategy : Strategy) : Except CompileError Circuit :=
  let settings : Settings := { strategy := strategy, map := map, device := device }
  (settings.run circuit).result

/-- Optimizes a circuit with the strategy of a name. -/
def Circuit.optimizeNamed (circuit : Circuit) (device : Option Device) (map : QubitMap)
    (strategy : String) : Except CompileError Circuit :=
  match Strategy.ofName? strategy with
  | some strategy => circuit.optimize device map strategy
  | none => .error (.unknownStrategy strategy)

end GridCircuit
