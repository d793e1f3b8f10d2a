import GridCircuit.Decimal.Style
import GridCircuit.Json.Basic

/-!
# Printed documents

A document is printed on one line without spaces, or over several lines with two spaces of
indentation per level.  Characters below the space are escaped, and so are quotes and backslashes;
all other characters stand for themselves.
-/

namespace GridCircuit.Json

/-- A hexadecimal digit in lower case. -/
def hexDigit (n : Nat) : Char :=
  if n < 10 then Char.ofNat ('0'.toNat + n) else Char.ofNat ('a'.toNat + (n - 10))

/-- A character inside a printed text. -/
def escape (c : Char) : String :=
  if c = '"' then "\\\""
  else if c = '\\' then "\\\\"
  else if c = '\n' then "\\n"
  else if c = '\r' then "\\r"
  else if c = '\t' then "\\t"
  else if c = Char.ofNat 0x8 then "\\b"
  else if c = Char.ofNat 0xC then "\\f"
  else if c.toNat < 0x20 then
    "\\u00" ++ String.ofList [hexDigit (c.toNat / 16), hexDigit (c.toNat % 16)]
  else c.toString

/-- A text in quotes. -/
def quote (text : String) : String :=
  text.toList.foldl (fun printed c => printed ++ escape c) "\"" ++ "\""

/-- How the parts of a list or of an object are set apart. -/
structure Layout where
  /-- What follows an opening bracket, and a comma, at a nesting level. -/
  before : Nat → String
  /-- What precedes a closing bracket at a nesting level. -/
  after : Nat → String
  /-- What stands between a name and its value. -/
  colon : String

/-- Everything on one line. -/
def Layout.compact : Layout where
  before _ := ""
  after _ := ""
  colon := ":"

/-- A line break and two spaces for each level. -/
def lineBreak (level : Nat) : String :=
  "\n" ++ String.ofList (List.replicate (2 * level) ' ')

/-- One part per line. -/
def Layout.indented : Layout where
  before level := lineBreak (level + 1)
  after level := lineBreak level
  colon := ": "

mutual

/-- Prints a tree at a nesting level.  Places without a value print as `null`. -/
def printAt (layout : Layout) (level : Nat) : Json → String
  | null => "null"
  | bool true => "true"
  | bool false => "false"
  | integer value => toString value
  | real value => Decimal.Style.document.render value
  | text value => quote value
  | array [] => "[]"
  | array (item :: rest) =>
    "[" ++ layout.before level ++ printAt layout (level + 1) item ++
      printItems layout level rest ++ layout.after level ++ "]"
  | object [] => "\x7b\x7d"
  | object ((name, value) :: rest) =>
    "\x7b" ++ layout.before level ++ quote name ++ layout.colon ++
      printAt layout (level + 1) value ++ printFields layout level rest ++ layout.after level ++
      "\x7d"
  | unkept => "null"
  | unnamed _ => "null"
  | fault => "null"

/-- Prints the items after the first. -/
def printItems (layout : Layout) (level : Nat) : List Json → String
  | [] => ""
  | item :: rest =>
    "," ++ layout.before level ++ printAt layout (level + 1) item ++ printItems layout level rest

/-- Prints the fields after the first. -/
def printFields (layout : Layout) (level : Nat) : List (String × Json) → String
  | [] => ""
  | (name, value) :: rest =>
    "," ++ layout.before level ++ quote name ++ layout.colon ++ printAt layout (level + 1) value ++
      printFields layout level rest

end

/-- A document on one line. -/
def compact (tree : Json) : String := tree.printAt .compact 0

/-- A document over several lines. -/
def pretty (tree : Json) : String := tree.printAt .indented 0

end GridCircuit.Json
