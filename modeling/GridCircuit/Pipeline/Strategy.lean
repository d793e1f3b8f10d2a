/-!
# Strategies

A strategy says whether interactions other than full ones may stay in a circuit.
-/

namespace GridCircuit

/-- How a circuit is optimized. -/
inductive Strategy where
  /-- Every interaction must be a full one. -/
  | xmon
  /-- Interactions may be partial. -/
  | xmonPartial
  deriving DecidableEq

namespace Strategy

/-- All strategies, in their usual order. -/
def all : List Strategy := [xmon, xmonPartial]

/-- The name of a strategy. -/
def name : Strategy → String
  | xmon => "xmon"
  | xmonPartial => "xmon_partial_cz"

/-- Whether partial interactions may stay. -/
def allowsPartial : Strategy → Bool
  | xmon => false
  | xmonPartial => true

/-- The strategy of a name. -/
def ofName? (name : String) : Option Strategy := all.find? fun strategy => strategy.name = name

/-- The strategy that does or does not let partial interactions stay. -/
def ofPartial (allowed : Bool) : Strategy := if allowed then xmonPartial else xmon

end Strategy

end GridCircuit
