import GridCircuit.Device.Error
import GridCircuit.Moment

/-!
# Interactions that exclude each other

Two interactions disturb each other when a site of one is a neighbour of a site of the other, also
when they share no site.  Such interactions must not run in one moment.  Other operations never
disturb each other.
-/

namespace GridCircuit

namespace Operation

/-- The grid sites among the operands. -/
def sites (operation : Operation) : List Site :=
  operation.qubits.filterMap Qubit.site?

/-- Whether two operations are interactions of which one has a site next to a site of the
other. -/
def conflicts (a b : Operation) : Bool :=
  a.isInteraction && b.isInteraction && a.sites.any fun p => b.sites.any fun q => p.Adjacent q

/-- Whether an operation conflicts with one of some others. -/
def conflictsWithAny (operation : Operation) (others : List Operation) : Bool :=
  others.any operation.conflicts

end Operation

/-- Two conflicting operations of a moment with their positions. -/
structure Conflict where
  firstIndex : Nat
  first : Operation
  secondIndex : Nat
  second : Operation

/-- The first of some operations, counted from an index, that conflicts with a given one. -/
def conflictWith? (first : Operation) (index : Nat) : List Operation → Option (Nat × Operation)
  | [] => none
  | operation :: rest =>
    if first.conflicts operation then some (index, operation)
    else conflictWith? first (index + 1) rest

/-- The first conflict among operations that are counted from an index. -/
def conflictFrom? (index : Nat) : List Operation → Option Conflict
  | [] => none
  | first :: rest =>
    match conflictWith? first (index + 1) rest with
    | some (secondIndex, second) => some ⟨index, first, secondIndex, second⟩
    | none => conflictFrom? (index + 1) rest

namespace Moment

/-- The conflict of a moment whose first operation, and for it the second one, comes earliest. -/
def conflict? (moment : Moment) : Option Conflict :=
  conflictFrom? 0 moment.operations

/-- Checks that no two interactions of a moment exclude each other. -/
def checkExclusion (moment : Moment) : Except DeviceError Unit :=
  match moment.conflict? with
  | some conflict => .error (.adjacentInteractions conflict.first conflict.second)
  | none => .ok ()

end Moment

end GridCircuit
