/-!
# Document trees

A document is a tree of numbers, texts, lists and fields.  Fields keep their order and may repeat.

Three forms occur only in trees that were read from text.  They let a decoder meet the flaws of a
document in the order of the text: what stands before a flaw is decoded before the flaw is found.

* `unkept` stands for text that is well formed but has no value: a number out of range, a text
  with half of a surrogate pair, or a tree nested too deeply.  It may be passed over, not decoded.
* `unnamed` is the value of a field whose name has half of a surrogate pair.
* `fault` stands where the text stops being a document.  Nothing follows it.
-/

namespace GridCircuit

/-- A document, or what could be read of one. -/
inductive Json where
  | null
  | bool (value : Bool)
  | integer (value : Int)
  | real (value : Float)
  | text (value : String)
  | array (items : List Json)
  | object (fields : List (String × Json))
  | unkept
  | unnamed (value : Json)
  | fault

namespace Json

mutual

/-- Whether a tree was read without a fault, so that a decoder with no use for it may pass over
it. -/
def isReadable : Json → Bool
  | fault => false
  | unnamed value => isReadable value
  | array items => areReadable items
  | object fields => haveReadableValues fields
  | _ => true

/-- Whether all trees were read without a fault. -/
def areReadable : List Json → Bool
  | [] => true
  | item :: rest => isReadable item && areReadable rest

/-- Whether the values of all fields were read without a fault. -/
def haveReadableValues : List (String × Json) → Bool
  | [] => true
  | (_, value) :: rest => isReadable value && haveReadableValues rest

end

mutual

/-- Whether a tree has a value in every place. -/
def isKept : Json → Bool
  | fault => false
  | unkept => false
  | unnamed _ => false
  | array items => areKept items
  | object fields => haveKeptValues fields
  | _ => true

/-- Whether all trees have a value in every place. -/
def areKept : List Json → Bool
  | [] => true
  | item :: rest => isKept item && areKept rest

/-- Whether the values of all fields have a value in every place. -/
def haveKeptValues : List (String × Json) → Bool
  | [] => true
  | (_, value) :: rest => isKept value && haveKeptValues rest

end

/-- Whether a field under an unknown name may be passed over. -/
def isIgnorable : Json → Bool
  | unnamed _ => false
  | value => value.isReadable

/-- The natural number of a tree, below a bound. -/
def natural? (bound : Nat) : Json → Option Nat
  | integer value => if 0 ≤ value ∧ value < bound then some value.toNat else none
  | _ => none

/-- The number of a tree, whole or not. -/
def number? : Json → Option Float
  | integer value => some (Float.ofInt value)
  | real value => some value
  | _ => none

/-- The text of a tree. -/
def text? : Json → Option String
  | text value => some value
  | _ => none

/-- The truth value of a tree. -/
def bool? : Json → Option Bool
  | bool value => some value
  | _ => none

/-- A number that has a document form; infinities and the absence of a number have none. -/
def ofFloat (value : Float) : Json :=
  if value.isFinite then real value else null

end Json

end GridCircuit
