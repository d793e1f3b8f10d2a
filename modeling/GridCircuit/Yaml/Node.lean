/-!
# Nodes of an indented document

A document in block notation is a tree of scalars, sequences and mappings.  What a scalar means,
text or number or nothing, is up to its reader; only plain scalars, which are not quoted, can mean
something else than text.
-/

namespace GridCircuit

/-- A node of a document. -/
inductive Yaml where
  | scalar (text : String) (plain : Bool)
  | sequence (items : List Yaml)
  | mapping (entries : List (Yaml × Yaml))

namespace Yaml

/-- What stands where nothing is written. -/
def absent : Yaml := scalar "" true

/-- Whether nothing is written for a node. -/
def isAbsent : Yaml → Bool
  | scalar text plain => plain && text.isEmpty
  | _ => false

/-- The text of a scalar, however it is written. -/
def text? : Yaml → Option String
  | scalar text _ => some text
  | _ => none

/-- The plain scalars that mean nothing. -/
def nothingWords : List String := ["", "~", "null", "Null", "NULL"]

/-- The text of a scalar, or nothing. -/
def optionalText? : Yaml → Option (Option String)
  | scalar text plain =>
    if plain && nothingWords.contains text then some none else some (some text)
  | _ => none

/-- The items of a sequence.  Where nothing is written there are none. -/
def items? : Yaml → Option (List Yaml)
  | sequence items => some items
  | node => if node.isAbsent then some [] else none

/-- The values of the named entries of a mapping, unless one of them repeats or a key is no
scalar.  Where nothing is written there are no entries. -/
def record? (names : List String) : Yaml → Option (List (Option Yaml))
  | mapping entries => do
    let fields ← entries.mapM fun entry => do return (← entry.1.text?, entry.2)
    names.mapM fun name =>
      match fields.filter fun field => field.1 = name with
      | [] => some none
      | [(_, value)] => some (some value)
      | _ => none
  | node => if node.isAbsent then some (names.map fun _ => none) else none

/-! ### Numbers -/

/-- The value of a digit in a base up to sixteen. -/
def digitValue? (base : Nat) (c : Char) : Option Nat :=
  let value : Option Nat :=
    if '0' ≤ c ∧ c ≤ '9' then some (c.toNat - '0'.toNat)
    else if 'a' ≤ c ∧ c ≤ 'f' then some (c.toNat - 'a'.toNat + 10)
    else if 'A' ≤ c ∧ c ≤ 'F' then some (c.toNat - 'A'.toNat + 10)
    else none
  value.filter (· < base)

/-- The number that some digits write; there must be at least one. -/
def digits? (base : Nat) (digits : List Char) : Option Nat :=
  if digits.isEmpty then none
  else
    digits.foldlM (fun number c => (digitValue? base c).map fun value => number * base + value) 0

/-- The number written by digits, in base ten or after the mark of another base.  In base ten a
zero does not stand before other digits. -/
def magnitude? : List Char → Option Nat
  | '0' :: 'x' :: digits => digits? 16 digits
  | '0' :: 'o' :: digits => digits? 8 digits
  | '0' :: 'b' :: digits => digits? 2 digits
  | '0' :: _ :: _ => none
  | digits => digits? 10 digits

/-- The natural number of a plain scalar below a bound, which may have a plus sign. -/
def natural? (bound : Nat) : Yaml → Option Nat
  | scalar text true =>
    let number := match text.toList with
      | '+' :: digits => magnitude? digits
      | digits => magnitude? digits
    number.filter (· < bound)
  | _ => none

/-- The integer of a plain scalar, which may have a sign. -/
def integer? : Yaml → Option Int
  | scalar text true =>
    match text.toList with
    | '+' :: digits => (magnitude? digits).map Int.ofNat
    | '-' :: digits => (magnitude? digits).map fun magnitude => -(magnitude : Int)
    | digits => (magnitude? digits).map Int.ofNat
  | _ => none

end Yaml

end GridCircuit
