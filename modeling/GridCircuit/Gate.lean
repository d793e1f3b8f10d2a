/-!
# Gates

The native gates of a grid device are the two-qubit interaction, rotations about an axis of the
XY plane, rotations about Z and measurements.  Any other gate is kept by name and operand count
so that it can be refused.  Exponents count half turns.
-/

namespace GridCircuit

/-- The axis of a single-qubit rotation in the XY plane. -/
inductive Axis where
  | x
  | y
  /-- The axis at an angle from X, in half turns. -/
  | phased (angle : Float)
  deriving DecidableEq

/-- A gate with its parameters. -/
inductive Gate where
  /-- Controlled phase between two sites. -/
  | interaction (exponent : Float)
  /-- Rotation about an axis of the XY plane. -/
  | rotation (axis : Axis) (exponent : Float)
  /-- Rotation about Z; a virtual one is a change of frame that the device does not execute. -/
  | phase (exponent : Float) (virtual : Bool)
  /-- Measurement recorded under a key. -/
  | measure (key : String)
  /-- A gate outside the native vocabulary. -/
  | custom (name : String) (arity : UInt64)
  deriving DecidableEq

/-- The class of a native gate. -/
inductive GateKind where
  | interaction
  | rotation
  | phase (virtual : Bool)
  | measurement
  deriving DecidableEq

namespace Gate

/-- The class of a gate; a custom gate has none. -/
def kind? : Gate → Option GateKind
  | interaction _ => some .interaction
  | rotation _ _ => some .rotation
  | phase _ virtual => some (.phase virtual)
  | measure _ => some .measurement
  | custom _ _ => none

/-- The name of a gate. -/
def name : Gate → String
  | interaction _ => "cz"
  | rotation .x _ => "x"
  | rotation .y _ => "y"
  | rotation (.phased _) _ => "phased_x"
  | phase _ true => "virtual_z"
  | phase _ false => "z"
  | measure _ => "measure"
  | custom name _ => name

/-- The number of operands, where the gate fixes one. -/
def arity? : Gate → Option Nat
  | interaction _ => some 2
  | rotation _ _ => some 1
  | phase _ _ => some 1
  | measure _ => none
  | custom _ arity => some arity.toNat

/-- A gate accepts exactly its number of operands; a measurement accepts any number but none. -/
def accepts (gate : Gate) (count : Nat) : Bool :=
  match gate.arity? with
  | some arity => count = arity
  | none => count ≠ 0

/-- The exponent of a gate that has one. -/
def exponent? : Gate → Option Float
  | interaction exponent => some exponent
  | rotation _ exponent => some exponent
  | phase exponent _ => some exponent
  | measure _ => none
  | custom _ _ => none

/-- The key of a measurement. -/
def key? : Gate → Option String
  | measure key => some key
  | _ => none

/-- Equality of the numbers that two axes stand for, in which both zeros are one number. -/
def sameAxis : Axis → Axis → Bool
  | .x, .x => true
  | .y, .y => true
  | .phased a, .phased b => a == b
  | _, _ => false

/-- Equality of gates up to the sign of zero; a gate whose exponent is not a number differs even
from itself. -/
def same : Gate → Gate → Bool
  | interaction a, interaction b => a == b
  | rotation axis a, rotation axis' b => sameAxis axis axis' && a == b
  | phase a virtual, phase b virtual' => a == b && virtual == virtual'
  | measure key, measure key' => key == key'
  | custom name arity, custom name' arity' => name == name' && arity == arity'
  | _, _ => false

end Gate

end GridCircuit
