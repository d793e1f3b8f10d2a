import GridCircuit.Json.Token

/-!
# Reading documents

The words of a document are read one after the other.  The state of the reading is the stack of
the lists and objects that are open, each with what it holds so far.  A word that does not fit
ends the reading: a `fault` goes where the next value belongs, and everything open is closed.

Lists and objects may be nested 127 deep.  What is deeper is read, but it has no value.
-/

namespace GridCircuit.Json

/-- An open list or object, with what it holds so far in reverse. -/
inductive Frame where
  | array (items : List Json)
  | object (fields : List (String × Json))
  /-- An object with the name of the field whose value comes next. -/
  | field (fields : List (String × Json)) (name : Option String)

/-- What may come next. -/
inductive Expectation where
  /-- A value. -/
  | value
  /-- A value or the end of the list that was just opened. -/
  | firstItem
  /-- The name of a field, or the end of the object that was just opened. -/
  | firstName
  /-- The name of a field. -/
  | name
  /-- The colon after a name. -/
  | colon
  /-- A comma or the end of the innermost list or object. -/
  | next
  deriving DecidableEq

/-- How far a reading has come. -/
inductive Progress where
  /-- Inside the document. -/
  | reading (stack : List Frame) (expected : Expectation)
  /-- After the document. -/
  | done (root : Json)
  /-- After the document, where more words follow it. -/
  | surplus (root : Json)

/-- How deeply lists and objects may be nested. -/
def depthLimit : Nat := 127

/-- A field with its value. -/
def namedValue (name : Option String) (value : Json) : String × Json :=
  match name with
  | some name => (name, value)
  | none => ("", .unnamed value)

/-- Puts a value where the innermost open list or object wants one. -/
def deliver (value : Json) : List Frame → Progress
  | [] => .done value
  | .array items :: outer => .reading (.array (value :: items) :: outer) .next
  | .object fields :: outer => .reading (.object (("", value) :: fields) :: outer) .next
  | .field fields name :: outer =>
    .reading (.object (namedValue name value :: fields) :: outer) .next

/-- The value of a list or object that ends with some frames still open around it. -/
def enclose (outer : List Frame) (value : Json) : Json :=
  if outer.length < depthLimit then value else .unkept

/-- The tree of everything open, with a fault as the last value. -/
def collapse (value : Json) : List Frame → Json
  | [] => value
  | frame :: outer =>
    let inner : Json := match frame with
      | .array items => .array (value :: items).reverse
      | .object fields => .object (("", value) :: fields).reverse
      | .field fields name => .object (namedValue name value :: fields).reverse
    collapse (if outer.length < depthLimit then inner else .fault) outer

/-- Ends a reading at a word that does not fit. -/
def giveUp (stack : List Frame) : Progress := .done (collapse .fault stack)

/-- Whether a value may come next. -/
def Expectation.wantsValue (expected : Expectation) : Bool :=
  expected = .value || expected = .firstItem

/-- The reading after one more word inside the document. -/
def readToken (stack : List Frame) (expected : Expectation) (token : Token) : Progress :=
  match token, expected, stack with
  | .openArray, expected, stack =>
    if expected.wantsValue then .reading (.array [] :: stack) .firstItem else giveUp stack
  | .openObject, expected, stack =>
    if expected.wantsValue then .reading (.object [] :: stack) .firstName else giveUp stack
  | .value value, expected, stack =>
    if expected.wantsValue then deliver value stack else giveUp stack
  | .text (some name), .firstName, .object fields :: outer
  | .text (some name), .name, .object fields :: outer =>
    .reading (.field fields (some name) :: outer) .colon
  | .text none, .firstName, .object fields :: outer
  | .text none, .name, .object fields :: outer =>
    .reading (.field fields none :: outer) .colon
  | .text value, expected, stack =>
    if expected.wantsValue then
      deliver (match value with | some value => .text value | none => .unkept) stack
    else giveUp stack
  | .colon, .colon, stack => .reading stack .value
  | .comma, .next, .array items :: outer => .reading (.array items :: outer) .value
  | .comma, .next, .object fields :: outer => .reading (.object fields :: outer) .name
  | .closeArray, .firstItem, .array items :: outer
  | .closeArray, .next, .array items :: outer =>
    deliver (enclose outer (.array items.reverse)) outer
  | .closeObject, .firstName, .object fields :: outer
  | .closeObject, .next, .object fields :: outer =>
    deliver (enclose outer (.object fields.reverse)) outer
  | _, _, stack => giveUp stack

/-- The reading after one more word. -/
def Progress.advance : Progress → Token → Progress
  | .reading stack expected, token => readToken stack expected token
  | .done root, _ => .surplus root
  | .surplus root, _ => .surplus root

/-- A text that was read as a document. -/
structure Source where
  /-- The document, with a fault where the text stops being one. -/
  root : Json
  /-- Whether nothing follows the document. -/
  complete : Bool

/-- The document that a reading arrives at when the text ends. -/
def Progress.finish : Progress → Source
  | .reading stack _ => ⟨collapse .fault stack, true⟩
  | .done root => ⟨root, true⟩
  | .surplus root => ⟨root, false⟩

/-- Reads a text as a document. -/
def read (source : String) : Source :=
  ((tokens source.toList).foldl Progress.advance (.reading [] .value)).finish

end GridCircuit.Json
