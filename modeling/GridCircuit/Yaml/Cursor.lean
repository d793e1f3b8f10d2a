/-!
# Places in a document text

Reading an indented document needs to know the line and the column of every place.  Lines end with
a line feed, since `normalize` replaces the other line ends by one, or with a Unicode line or
paragraph separator.
-/

namespace GridCircuit.Yaml

/-- A place in a text, with the text that follows. -/
structure Cursor where
  line : Nat
  column : Nat
  rest : List Char

/-- The Unicode separators of lines and paragraphs. -/
def isSeparator (c : Char) : Bool := c.toNat = 0x2028 || c.toNat = 0x2029

/-- Whether a character ends a line. -/
def isBreak (c : Char) : Bool := c = '\n' || isSeparator c

/-- Whether a character is a space or a tab. -/
def isSpace (c : Char) : Bool := c = ' ' || c = '\t'

/-- Whether a place is followed by a space, a tab or the end of its line. -/
def endsWord : List Char → Bool
  | [] => true
  | c :: _ => isSpace c || isBreak c

/-- Replaces carriage returns and next-line characters by line feeds; a carriage return before a
line feed is dropped. -/
def normalize : List Char → List Char
  | [] => []
  | '\r' :: '\n' :: rest => '\n' :: normalize rest
  | c :: rest => (if c = '\r' ∨ c.toNat = 0x85 then '\n' else c) :: normalize rest

/-- The characters that a document may contain. -/
def isAllowed (c : Char) : Bool :=
  let code := c.toNat
  code = 0x9 || code = 0xA || code = 0xD || 0x20 ≤ code && code ≤ 0x7E || code = 0x85 ||
    0xA0 ≤ code && code ≤ 0xFFFD || 0x10000 ≤ code

namespace Cursor

/-- Whether a place is the end of the text. -/
def atEnd (cursor : Cursor) : Bool := cursor.rest.isEmpty

/-- Whether a line starts with a word of three equal marks. -/
def startsWith3 (mark : Char) : List Char → Bool
  | a :: b :: c :: rest => a = mark && b = mark && c = mark && endsWord rest
  | _ => false

/-- Whether a place is the mark that starts a document. -/
def atStartMark (cursor : Cursor) : Bool := cursor.column = 0 && startsWith3 '-' cursor.rest

/-- Whether a place is the mark that ends a document. -/
def atEndMark (cursor : Cursor) : Bool := cursor.column = 0 && startsWith3 '.' cursor.rest

/-- Whether a place is a mark between documents. -/
def atMark (cursor : Cursor) : Bool := cursor.atStartMark || cursor.atEndMark

/-- The place some characters later in the same line. -/
def advance (cursor : Cursor) (count : Nat) : Cursor :=
  { cursor with column := cursor.column + count, rest := cursor.rest.drop count }

/-- Whether a place is a mark of block structure, a dash or the like, that is a word of its
own. -/
def atIndicator (cursor : Cursor) (indicator : Char) : Bool :=
  match cursor.rest with
  | c :: rest => c = indicator && endsWord rest
  | [] => false

/-- The place after the spaces and tabs of the same line. -/
def skipSpaces (cursor : Cursor) : Cursor :=
  cursor.advance (cursor.rest.takeWhile isSpace).length

end Cursor

/-- A place between words, and whether a key or a dash may stand there: a line has just begun, or
another dash has come before. -/
structure Gap where
  cursor : Cursor
  fresh : Bool

/-- Passes over spaces, line ends and comments.  Outside brackets a tab may not stand where a key
may. -/
def skipFrom (flow : Bool) (line column : Nat) (fresh comment : Bool) : List Char → Gap
  | [] => ⟨⟨line, column, []⟩, fresh⟩
  | c :: rest =>
    if isBreak c then skipFrom flow (line + 1) 0 (fresh || !flow) false rest
    else if comment || c = ' ' || c = '\t' && (flow || !fresh) then
      skipFrom flow line (column + 1) fresh comment rest
    else if c = '#' then skipFrom flow line (column + 1) fresh true rest
    else ⟨⟨line, column, c :: rest⟩, fresh⟩

/-- Passes over what separates words outside brackets. -/
def Cursor.skip (cursor : Cursor) (fresh : Bool) : Gap :=
  skipFrom false cursor.line cursor.column fresh false cursor.rest

/-- Passes over what separates words inside brackets. -/
def Cursor.skipFlow (cursor : Cursor) : Cursor :=
  (skipFrom true cursor.line cursor.column false false cursor.rest).cursor

end GridCircuit.Yaml
