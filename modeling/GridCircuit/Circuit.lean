import GridCircuit.Moment

/-!
# Circuits

A circuit is a named sequence of moments.  Its assembler puts an operation into the earliest
moment that comes after every use of the operation's qubits and that a placement rule accepts.
-/

namespace GridCircuit

/-- Moments in time order. -/
structure Circuit where
  name : String
  moments : List Moment

namespace Circuit

/-- A circuit without moments. -/
def empty (name : String) : Circuit := ⟨name, []⟩

/-- The operations of all moments, moment by moment. -/
def operations (circuit : Circuit) : List Operation :=
  circuit.moments.flatMap Moment.operations

/-- The number of moments. -/
def depth (circuit : Circuit) : Nat := circuit.moments.length

/-- The number of operations. -/
def size (circuit : Circuit) : Nat := circuit.operations.length

/-- The distinct qubits of a circuit in ascending order. -/
def qubits (circuit : Circuit) : List Qubit :=
  sortDistinct (circuit.operations.flatMap Operation.qubits)

/-- The measurement keys in the order of the operations, with repetitions. -/
def keys (circuit : Circuit) : List String :=
  circuit.operations.filterMap Operation.key?

/-- Adds a moment at the end. -/
def pushMoment (circuit : Circuit) (moment : Moment) : Circuit :=
  { circuit with moments := circuit.moments ++ [moment] }

/-- Removes the moments without operations. -/
def dropEmptyMoments (circuit : Circuit) : Circuit :=
  { circuit with moments := circuit.moments.filter (!·.operations.isEmpty) }

/-- Puts an operation into the first of some moments from which on none touches its qubits and
which accepts it; where there is none, a new moment is added.  Gives the index of the moment used
and the moments after the insertion. -/
def placeEarliest (canPlace : Operation → Moment → Bool) (operation : Operation) :
    List Moment → Nat × List Moment
  | [] => (0, [⟨[operation]⟩])
  | moment :: rest =>
    if (moment :: rest).any (·.touches operation.qubits) || !canPlace operation moment then
      let (index, placed) := placeEarliest canPlace operation rest
      (index + 1, moment :: placed)
    else (0, moment.add operation :: rest)

/-- Inserts an operation at the earliest place that a rule accepts, and tells the index of its
moment. -/
def insertEarliest (circuit : Circuit) (operation : Operation)
    (canPlace : Operation → Moment → Bool) : Nat × Circuit :=
  let (index, moments) := placeEarliest canPlace operation circuit.moments
  (index, { circuit with moments := moments })

/-- Inserts an operation at the earliest moment that leaves its qubits free. -/
def append (circuit : Circuit) (operation : Operation) : Nat × Circuit :=
  circuit.insertEarliest operation fun operation moment => !moment.touches operation.qubits

/-- Appends operations in order to a circuit without moments. -/
def ofOperations (name : String) (operations : List Operation) : Circuit :=
  operations.foldl (fun circuit operation => (circuit.append operation).2) (empty name)

/-- Equality of moment lists whose exponents are compared as numbers. -/
def sameMoments : List Moment → List Moment → Bool
  | [], [] => true
  | moment :: rest, moment' :: rest' => moment.same moment' && sameMoments rest rest'
  | _, _ => false

/-- Equality of circuits whose exponents are compared as numbers. -/
def same (a b : Circuit) : Bool :=
  a.name = b.name && sameMoments a.moments b.moments

end Circuit

end GridCircuit
