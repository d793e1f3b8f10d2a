import GridCircuit.Yaml.Scalar

/-!
# Reading indented documents

Blocks are told apart by their columns: the entries of a mapping or of a sequence start in one
column, and what belongs to an entry is indented further.  Only the items of a sequence may start
in the column of the mapping whose value it is.  Brackets make sequences and mappings that do not
depend on columns.

A key is written on one line, in at most 1024 characters, and its colon follows on the same line.
A scalar or a bracket that starts a line is a key when such a colon follows.
-/

namespace GridCircuit.Yaml

/-- Whether the place after a node is the colon that makes the node a key. -/
def isKeyColon (flow : Bool) (start colon : Cursor) : Bool :=
  start.line = colon.line && colon.column ≤ start.column + 1024 &&
    (match colon.rest with
      | ':' :: rest => flow || endsWord rest
      | _ => false)

mutual

/-- Reads a node inside a line: a plain or quoted scalar or a pair of brackets. -/
def readInline (fuel : Nat) (flow : Bool) (indent : Nat) (cursor : Cursor) : Option Reading :=
  match fuel with
  | 0 => none
  | fuel + 1 =>
    if cursor.atMark then none
    else
      match cursor.rest with
      | '\'' :: rest => singleFrom cursor.line (cursor.column + 1) Fold.none [] rest
      | '"' :: rest => doubleFrom cursor.line (cursor.column + 1) .none Fold.none [] rest
      | '[' :: _ => readFlowItems fuel indent [] (cursor.advance 1)
      | '{' :: _ => readFlowEntries fuel indent [] (cursor.advance 1)
      | rest =>
        if startsPlain flow rest then
          plainFrom flow indent cursor.line cursor.column Fold.none [] rest
        else none

/-- Reads an item of a bracket or its end; the items so far are given in reverse. -/
def readFlowItems (fuel indent : Nat) (items : List Yaml) (cursor : Cursor) : Option Reading :=
  match fuel with
  | 0 => none
  | fuel + 1 =>
    let start := cursor.skipFlow
    match start.rest with
    | ']' :: _ => some ⟨sequence items.reverse, start.advance 1, false⟩
    | _ => do
      let item ← readInline fuel true indent start
      let colon := item.after.skipFlow
      let item ←
        if isKeyColon true start colon then do
          let value ← readFlowValue fuel indent ']' (colon.advance 1)
          some { value with node := mapping [(item.node, value.node)] }
        else some item
      let next := item.after.skipFlow
      match next.rest with
      | ',' :: _ => readFlowItems fuel indent (item.node :: items) (next.advance 1)
      | ']' :: _ => some ⟨sequence (item.node :: items).reverse, next.advance 1, false⟩
      | _ => none

/-- Reads an entry of a brace or its end; the entries so far are given in reverse. -/
def readFlowEntries (fuel indent : Nat) (entries : List (Yaml × Yaml)) (cursor : Cursor) :
    Option Reading :=
  match fuel with
  | 0 => none
  | fuel + 1 =>
    let start := cursor.skipFlow
    match start.rest with
    | '}' :: _ => some ⟨mapping entries.reverse, start.advance 1, false⟩
    | _ => do
      let key ← readInline fuel true indent start
      let colon := key.after.skipFlow
      let value ←
        if isKeyColon true start colon then readFlowValue fuel indent '}' (colon.advance 1)
        else some ⟨absent, key.after, false⟩
      let next := value.after.skipFlow
      match next.rest with
      | ',' :: _ => readFlowEntries fuel indent ((key.node, value.node) :: entries) (next.advance 1)
      | '}' :: _ =>
        some ⟨mapping ((key.node, value.node) :: entries).reverse, next.advance 1, false⟩
      | _ => none

/-- Reads the value after a colon inside brackets, which may be left out. -/
def readFlowValue (fuel indent : Nat) (close : Char) (cursor : Cursor) : Option Reading :=
  match fuel with
  | 0 => none
  | fuel + 1 =>
    let start := cursor.skipFlow
    match start.rest with
    | c :: _ =>
      if c = ',' ∨ c = close then some ⟨absent, start, false⟩ else readInline fuel true indent start
    | [] => none

end

/-- Whether a place is the first character of a block scalar. -/
def atBlockScalar (cursor : Cursor) : Bool :=
  match cursor.rest with
  | '|' :: _ => true
  | '>' :: _ => true
  | _ => false

/-- Whether what follows a dash or the colon of a key in a column belongs to it: it does in a line
that has begun before, when it is indented further, and when it is a block scalar in the same
column. -/
def isInside (column : Nat) (start : Gap) : Bool :=
  !start.fresh || column < start.cursor.column ||
    start.cursor.column = column && atBlockScalar start.cursor

mutual

/-- Reads a node that belongs to a block whose column is given. -/
def readBlock (fuel : Nat) (parent : Int) (start : Gap) : Option Reading :=
  match fuel with
  | 0 => none
  | fuel + 1 =>
    let cursor := start.cursor
    if cursor.atIndicator '-' && !cursor.atMark then
      if start.fresh then readItems fuel false [] cursor else none
    else
      match cursor.rest with
      | '|' :: _ => blockScalar true parent (cursor.advance 1)
      | '>' :: _ => blockScalar false parent (cursor.advance 1)
      | _ => do
        let node ← readInline (cursor.rest.length + 1) false (parent + 1).toNat cursor
        let colon := node.after.skipSpaces
        if start.fresh && isKeyColon false cursor colon then
          readEntries fuel cursor.column [] node.node (colon.advance 1)
        else some node

/-- Reads the items of a sequence from a dash on; the items so far are given in reverse.  A
sequence that is not indented further than its mapping ends where the mapping goes on. -/
def readItems (fuel : Nat) (level : Bool) (items : List Yaml) (dash : Cursor) : Option Reading :=
  match fuel with
  | 0 => none
  | fuel + 1 => do
    let start := (dash.advance 1).skip true
    let item ←
      if start.cursor.atEnd || start.cursor.atMark || !isInside dash.column start then
        some ⟨absent, start.cursor, start.fresh⟩
      else readBlock fuel dash.column start
    let items := item.node :: items
    let next := item.after.skip item.fresh
    if next.cursor.atEnd || next.cursor.atMark || next.cursor.column < dash.column then
      some ⟨sequence items.reverse, next.cursor, next.fresh⟩
    else if next.cursor.column = dash.column && next.cursor.atIndicator '-' then
      readItems fuel level items next.cursor
    else if next.cursor.column = dash.column && level then
      some ⟨sequence items.reverse, next.cursor, next.fresh⟩
    else none

/-- Reads the entries of a mapping from the place after a colon on; the entries so far are given
in reverse. -/
def readEntries (fuel : Nat) (column : Nat) (entries : List (Yaml × Yaml)) (key : Yaml)
    (cursor : Cursor) : Option Reading :=
  match fuel with
  | 0 => none
  | fuel + 1 => do
    let value ← readValue fuel column (cursor.skip false)
    let entries := (key, value.node) :: entries
    let next := value.after.skip value.fresh
    if next.cursor.atEnd || next.cursor.atMark || next.cursor.column < column then
      some ⟨mapping entries.reverse, next.cursor, next.fresh⟩
    else if next.cursor.column = column then do
      let key ← readInline (next.cursor.rest.length + 1) false (column + 1) next.cursor
      let colon := key.after.skipSpaces
      if isKeyColon false next.cursor colon then
        readEntries fuel column entries key.node (colon.advance 1)
      else none
    else none

/-- Reads the value of an entry whose key starts in a column.  A value that starts on another line
is indented further than the key, except for a sequence. -/
def readValue (fuel : Nat) (column : Nat) (start : Gap) : Option Reading :=
  match fuel with
  | 0 => none
  | fuel + 1 =>
    if start.cursor.atEnd || start.cursor.atMark then
      some ⟨absent, start.cursor, start.fresh⟩
    else if isInside column start then readBlock fuel column start
    else if start.cursor.column = column && start.cursor.atIndicator '-' then
      readItems fuel true [] start.cursor
    else some ⟨absent, start.cursor, start.fresh⟩

end

/-- Passes over the marks that end a document. -/
def skipEndMarks : Nat → Gap → Gap
  | 0, gap => gap
  | fuel + 1, gap =>
    if gap.cursor.atEndMark then skipEndMarks fuel ((gap.cursor.advance 3).skip false) else gap

/-- Reads the only document of a text.  A text without a document is read as an absent node. -/
def read (source : String) : Option Yaml := do
  let chars := match source.toList with
    | c :: rest => if c.toNat = 0xFEFF then rest else c :: rest
    | [] => []
  if !chars.all isAllowed then none
  let chars := normalize chars
  let fuel := 2 * chars.length + 2
  let first := (Cursor.mk 0 0 chars).skip true
  let start := if first.cursor.atStartMark then (first.cursor.advance 3).skip false else first
  let root ←
    if start.cursor.atEnd || first.cursor.atStartMark && start.cursor.atMark then
      some ⟨absent, start.cursor, start.fresh⟩
    else readBlock fuel (-1) start
  let last := skipEndMarks fuel (root.after.skip root.fresh)
  if last.cursor.atEnd then return root.node else none

end GridCircuit.Yaml
