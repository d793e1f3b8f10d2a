import GridCircuit.Yaml.Cursor
import GridCircuit.Yaml.Node

/-!
# Scalars of an indented document

A plain or quoted scalar may run over several lines; a line end inside it becomes a space, and
every further line end is kept.  A block scalar keeps its lines, or folds them in the same way
except around lines that are indented further.
-/

namespace GridCircuit.Yaml

/-- Spaces and line ends between two words of a scalar. -/
structure Fold where
  /-- The spaces before the first line end, in reverse. -/
  spaces : List Char
  /-- Whether there was a line end. -/
  crossed : Bool
  /-- The first line end; none where it was escaped. -/
  first : Option Char
  /-- The further line ends, in reverse. -/
  more : List Char

namespace Fold

/-- Words without anything between them. -/
def none : Fold := ⟨[], false, .none, []⟩

/-- What starts after an escaped line end. -/
def escaped : Fold := ⟨[], true, .none, []⟩

/-- Whether there is anything between the words. -/
def isEmpty (fold : Fold) : Bool := fold.spaces.isEmpty && !fold.crossed

/-- One more space; at the start of a line it does not count. -/
def addSpace (fold : Fold) (c : Char) : Fold :=
  if fold.crossed then fold else { fold with spaces := c :: fold.spaces }

/-- One more line end; the spaces before it do not count. -/
def addBreak (fold : Fold) (c : Char) : Fold :=
  if fold.crossed then { fold with more := c :: fold.more } else ⟨[], true, some c, []⟩

/-- What stands between the words in the scalar, in reverse. -/
def joined (fold : Fold) : List Char :=
  if fold.crossed then
    match fold.first with
    | some '\n' => if fold.more.isEmpty then [' '] else fold.more
    | some c => fold.more ++ [c]
    | .none => fold.more
  else fold.spaces

end Fold

/-- A node that was read, the place after it, and whether a key may stand there. -/
structure Reading where
  node : Yaml
  after : Cursor
  fresh : Bool

/-! ### Plain scalars -/

/-- The characters that end or separate the parts of brackets. -/
def isFlowMark (c : Char) : Bool := c = ',' || c = '[' || c = ']' || c = '{' || c = '}'

/-- The characters that no plain scalar starts with. -/
def startMarks : List Char :=
  ['-', '?', ':', ',', '[', ']', '{', '}', '#', '&', '*', '!', '|', '>', '\'', '"', '%', '@',
    Char.ofNat 0x60]

/-- Whether a plain scalar starts at a place. -/
def startsPlain (flow : Bool) : List Char → Bool
  | [] => false
  | c :: rest =>
    if isSpace c || isBreak c then false
    else if startMarks.contains c then
      !endsWord rest && (c = '-' || !flow && (c = '?' || c = ':'))
    else true

/-- Reads a plain scalar.  It ends at a colon that ends a word, at a comment, at a mark between
documents and at a line that is indented less than `indent`; inside brackets it ends at a bracket
or a comma instead of by indentation. -/
def plainFrom (flow : Bool) (indent line column : Nat) (fold : Fold) (words : List Char) :
    List Char → Option Reading
  | [] => some ⟨scalar (String.ofList words.reverse) true, ⟨line, column, []⟩, fold.crossed⟩
  | c :: rest =>
    let stop : Option Reading :=
      some ⟨scalar (String.ofList words.reverse) true, ⟨line, column, c :: rest⟩, fold.crossed⟩
    if isBreak c then plainFrom flow indent (line + 1) 0 (fold.addBreak c) words rest
    else if isSpace c then
      if fold.crossed && column < indent && c = '\t' then none
      else plainFrom flow indent line (column + 1) (fold.addSpace c) words rest
    else if !fold.isEmpty &&
        (!flow && column < indent || c = '#' ||
          (Cursor.mk line column (c :: rest)).atMark) then stop
    else if flow && c = ':' && (match rest with
        | next :: _ => isFlowMark next || next = '?'
        | [] => false) then none
    else if c = ':' && endsWord rest || flow && isFlowMark c then stop
    else plainFrom flow indent line (column + 1) Fold.none (c :: (fold.joined ++ words)) rest

/-! ### Quoted scalars -/

/-- Reads a scalar after its single quote, which is written twice inside. -/
def singleFrom (line column : Nat) (fold : Fold) (words : List Char) :
    List Char → Option Reading
  | [] => none
  | c :: rest =>
    let words' := fold.joined ++ words
    if isBreak c then singleFrom (line + 1) 0 (fold.addBreak c) words rest
    else if isSpace c then singleFrom line (column + 1) (fold.addSpace c) words rest
    else if (Cursor.mk line column (c :: rest)).atMark then none
    else if c = '\'' then
      match rest with
      | '\'' :: rest => singleFrom line (column + 2) Fold.none ('\'' :: words') rest
      | rest =>
        some ⟨scalar (String.ofList words'.reverse) false, ⟨line, column + 1, rest⟩, false⟩
    else singleFrom line (column + 1) Fold.none (c :: words') rest

/-- The characters that stand for another one after a backslash. -/
def escaped? (c : Char) : Option Char :=
  if c = '0' then some (Char.ofNat 0x0)
  else if c = 'a' then some (Char.ofNat 0x7)
  else if c = 'b' then some (Char.ofNat 0x8)
  else if c = 't' ∨ c = '\t' then some '\t'
  else if c = 'n' then some '\n'
  else if c = 'v' then some (Char.ofNat 0xB)
  else if c = 'f' then some (Char.ofNat 0xC)
  else if c = 'r' then some '\r'
  else if c = 'e' then some (Char.ofNat 0x1B)
  else if c = ' ' ∨ c = '"' ∨ c = '/' ∨ c = '\\' then some c
  else if c = 'N' then some (Char.ofNat 0x85)
  else if c = '_' then some (Char.ofNat 0xA0)
  else if c = 'L' then some (Char.ofNat 0x2028)
  else if c = 'P' then some (Char.ofNat 0x2029)
  else none

/-- The number of digits of a character number after a backslash and a letter. -/
def codeLength? (c : Char) : Option Nat :=
  if c = 'x' then some 2
  else if c = 'u' then some 4
  else if c = 'U' then some 8
  else none

/-- What comes before the next character of a scalar in double quotes. -/
inductive Escape where
  | none
  | backslash
  /-- A character number of which some digits are still to come. -/
  | code (left value : Nat)

/-- The character of a number, unless the number is that of a surrogate or too great. -/
def characterOf? (code : Nat) : Option Char :=
  if 0xD800 ≤ code ∧ code < 0xE000 ∨ 0x10FFFF < code then none else some (Char.ofNat code)

/-- Reads a scalar after its double quote. -/
def doubleFrom (line column : Nat) (escape : Escape) (fold : Fold) (words : List Char) :
    List Char → Option Reading
  | [] => none
  | c :: rest =>
    let words' := fold.joined ++ words
    match escape with
    | .backslash =>
      if isBreak c then doubleFrom (line + 1) 0 .none Fold.escaped words rest
      else
        match escaped? c, codeLength? c with
        | some c, _ => doubleFrom line (column + 1) .none Fold.none (c :: words) rest
        | _, some left => doubleFrom line (column + 1) (.code left 0) Fold.none words rest
        | _, _ => none
    | .code left value => do
      let value := value * 16 + (← digitValue? 16 c)
      if left ≤ 1 then
        let c ← characterOf? value
        doubleFrom line (column + 1) .none Fold.none (c :: words) rest
      else doubleFrom line (column + 1) (.code (left - 1) value) Fold.none words rest
    | .none =>
      if isBreak c then doubleFrom (line + 1) 0 .none (fold.addBreak c) words rest
      else if isSpace c then doubleFrom line (column + 1) .none (fold.addSpace c) words rest
      else if (Cursor.mk line column (c :: rest)).atMark then none
      else if c = '"' then
        some ⟨scalar (String.ofList words'.reverse) false, ⟨line, column + 1, rest⟩, false⟩
      else if c = '\\' then doubleFrom line (column + 1) .backslash Fold.none words' rest
      else doubleFrom line (column + 1) .none Fold.none (c :: words') rest

/-! ### Block scalars -/

/-- What happens to the line ends at the end of a block scalar. -/
inductive Chomping where
  /-- All are dropped. -/
  | strip
  /-- One is kept. -/
  | clip
  /-- All are kept. -/
  | keep

/-- How a block scalar is to be read. -/
structure BlockHeader where
  chomping : Chomping
  /-- The indentation relative to the enclosing block, if it is given. -/
  increment : Option Nat

/-- The chomping of a mark. -/
def chompingOf? (c : Char) : Option Chomping :=
  if c = '+' then some .keep else if c = '-' then some .strip else none

/-- The indentation that a digit from one to nine gives. -/
def incrementOf? (c : Char) : Option Nat :=
  if '1' ≤ c ∧ c ≤ '9' then some (c.toNat - '0'.toNat) else none

/-- Reads the marks after the first character of a block scalar, in either order, and gives their
number. -/
def blockHeader : List Char → BlockHeader × Nat
  | a :: b :: _ =>
    match chompingOf? a, incrementOf? a with
    | some chomping, _ =>
      match incrementOf? b with
      | some increment => (⟨chomping, some increment⟩, 2)
      | none => (⟨chomping, none⟩, 1)
    | _, some increment =>
      match chompingOf? b with
      | some chomping => (⟨chomping, some increment⟩, 2)
      | none => (⟨.clip, some increment⟩, 1)
    | _, _ => (⟨.clip, none⟩, 0)
  | [a] =>
    match chompingOf? a, incrementOf? a with
    | some chomping, _ => (⟨chomping, none⟩, 1)
    | _, some increment => (⟨.clip, some increment⟩, 1)
    | _, _ => (⟨.clip, none⟩, 0)
  | [] => (⟨.clip, none⟩, 0)

/-- Passes over the rest of the first line of a block scalar, which may hold a comment. -/
def afterHeader? (cursor : Cursor) : Option Cursor :=
  let cursor := cursor.skipSpaces
  let rest := match cursor.rest with
    | '#' :: comment => comment.dropWhile (!isBreak ·)
    | rest => rest
  match rest with
  | [] => some ⟨cursor.line, cursor.column, []⟩
  | c :: rest => if isBreak c then some ⟨cursor.line + 1, 0, rest⟩ else none

/-- The greatest indentation of the blank lines at the start of a block scalar and of the line
after them.  A tab among the spaces is no indentation. -/
def detectIndent (column greatest : Nat) : List Char → Option Nat
  | [] => some (max greatest column)
  | c :: rest =>
    if c = ' ' then detectIndent (column + 1) greatest rest
    else if c = '\t' then none
    else if isBreak c then detectIndent 0 (max greatest column) rest
    else some (max greatest column)

/-- The part of a block scalar that has been read. -/
structure BlockText where
  /-- The text in reverse. -/
  text : List Char
  /-- The end of the last line, which is not in the text yet. -/
  lineEnd : List Char
  /-- The ends of the blank lines after it, in reverse. -/
  blankEnds : List Char
  /-- Whether the last line began with a space. -/
  afterIndented : Bool

/-- The text with the line ends before another line.  A folded line end becomes a space, or
disappears before blank lines, unless a line at one of its sides is indented further. -/
def BlockText.beforeLine (block : BlockText) (literal indented : Bool) : List Char :=
  if !literal && block.lineEnd = ['\n'] && !block.afterIndented && !indented then
    if block.blankEnds.isEmpty then ' ' :: block.text else block.blankEnds ++ block.text
  else block.blankEnds ++ block.lineEnd ++ block.text

/-- The text with the line ends at its end. -/
def BlockText.finish (block : BlockText) : Chomping → List Char
  | .strip => block.text
  | .clip => block.lineEnd ++ block.text
  | .keep => block.blankEnds ++ block.lineEnd ++ block.text

/-- Reads the lines of a block scalar, which are indented by `indent` at least. -/
def blockFrom (literal : Bool) (indent line column : Nat) (inLine : Bool) (block : BlockText) :
    List Char → Option (BlockText × Cursor)
  | [] => some (block, ⟨line, column, []⟩)
  | c :: rest =>
    if inLine then
      if isBreak c then
        blockFrom literal indent (line + 1) 0 false { block with lineEnd := [c] } rest
      else
        blockFrom literal indent line (column + 1) true { block with text := c :: block.text } rest
    else if c = ' ' && column < indent then
      blockFrom literal indent line (column + 1) false block rest
    else if c = '\t' && column < indent then none
    else if isBreak c then
      blockFrom literal indent (line + 1) 0 false
        { block with blankEnds := c :: block.blankEnds } rest
    else if column = indent then
      blockFrom literal indent line (column + 1) true
        ⟨c :: block.beforeLine literal (isSpace c), [], [], isSpace c⟩ rest
    else some (block, ⟨line, column, c :: rest⟩)

/-- The indentation of a block scalar.  Where it is not given, it is that of the first line, and in
any case more than that of the enclosing block. -/
def blockIndent? (parent : Int) (header : BlockHeader) (lines : List Char) : Option Nat :=
  match header.increment with
  | some increment => some (parent.toNat + increment)
  | none => (detectIndent 0 0 lines).map fun greatest => max greatest (max (parent + 1).toNat 1)

/-- Reads a block scalar after its first character. -/
def blockScalar (literal : Bool) (parent : Int) (cursor : Cursor) : Option Reading := do
  let (header, length) := blockHeader cursor.rest
  let start ← afterHeader? (cursor.advance length)
  let indent ← blockIndent? parent header start.rest
  let (block, after) ←
    blockFrom literal indent start.line start.column false ⟨[], [], [], false⟩ start.rest
  return ⟨scalar (String.ofList (block.finish header.chomping).reverse) false, after, true⟩

end GridCircuit.Yaml
