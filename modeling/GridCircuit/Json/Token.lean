import GridCircuit.Decimal.Numeral
import GridCircuit.Json.Basic

/-!
# Words of a document

A document text is a sequence of brackets, commas, colons, texts, numbers and the three words
`true`, `false` and `null`.  `tokens` reads them up to the first place where there is none, which
it marks with the token `fault`.
-/

namespace GridCircuit.Json

/-- A word of a document text. -/
inductive Token where
  | openArray
  | closeArray
  | openObject
  | closeObject
  | comma
  | colon
  /-- A text; nothing if it has half of a surrogate pair. -/
  | text (value : Option String)
  /-- Any other value. -/
  | value (value : Json)
  | fault

/-- The value of a hexadecimal digit. -/
def hexValue? (c : Char) : Option Nat :=
  if '0' ≤ c ∧ c ≤ '9' then some (c.toNat - '0'.toNat)
  else if 'a' ≤ c ∧ c ≤ 'f' then some (c.toNat - 'a'.toNat + 10)
  else if 'A' ≤ c ∧ c ≤ 'F' then some (c.toNat - 'A'.toNat + 10)
  else none

/-- The number written by four hexadecimal digits. -/
def codeUnit? (a b c d : Char) : Option Nat := do
  return ((← hexValue? a) * 16 + (← hexValue? b)) * 256 + (← hexValue? c) * 16 + (← hexValue? d)

/-- The characters that stand for another one after a backslash. -/
def escaped? : Char → Option Char
  | '"' => some '"'
  | '\\' => some '\\'
  | '/' => some '/'
  | 'b' => some (Char.ofNat 0x8)
  | 'f' => some (Char.ofNat 0xC)
  | 'n' => some '\n'
  | 'r' => some '\r'
  | 't' => some '\t'
  | _ => none

/-- The inside of a text, cut into units: characters, and numbers of 16 bits. -/
inductive TextUnit where
  | char (c : Char)
  | code (unit : Nat)

/-- Reads a text after its opening quote, up to and including the closing one. -/
def textUnits? (units : List TextUnit) : List Char → Option (List TextUnit × List Char)
  | '"' :: rest => some (units.reverse, rest)
  | '\\' :: 'u' :: a :: b :: c :: d :: rest =>
    match codeUnit? a b c d with
    | some unit => textUnits? (.code unit :: units) rest
    | none => none
  | '\\' :: c :: rest =>
    match escaped? c with
    | some c => textUnits? (.char c :: units) rest
    | none => none
  | c :: rest => if c.toNat < 0x20 ∨ c = '\\' then none else textUnits? (.char c :: units) rest
  | [] => none

/-- Joins units to a text.  A high surrogate must be followed by a low one, and a low one must
follow a high one. -/
def joinUnits? : List TextUnit → Option (List Char)
  | [] => some []
  | .char c :: rest => (joinUnits? rest).map (c :: ·)
  | .code high :: .code low :: rest =>
    if 0xD800 ≤ high ∧ high < 0xDC00 then
      if 0xDC00 ≤ low ∧ low < 0xE000 then
        (joinUnits? rest).map
          (Char.ofNat (0x10000 + (high - 0xD800) * 0x400 + (low - 0xDC00)) :: ·)
      else none
    else if 0xDC00 ≤ high ∧ high < 0xE000 then none
    else (joinUnits? (.code low :: rest)).map (Char.ofNat high :: ·)
  | .code unit :: rest =>
    if 0xD800 ≤ unit ∧ unit < 0xE000 then none
    else (joinUnits? rest).map (Char.ofNat unit :: ·)

/-- The fraction of a number: after a point there must be a digit. -/
def fraction? : List Char → Option (Option (List Char) × List Char)
  | '.' :: rest =>
    match rest.takeWhile Char.isDigit with
    | [] => none
    | digits => some (some digits, rest.dropWhile Char.isDigit)
  | rest => some (none, rest)

/-- The exponent of a number: after the letter and a sign there must be a digit. -/
def exponent? : List Char → Option (Option Int × List Char)
  | c :: rest =>
    if c = 'e' ∨ c = 'E' then
      let (negative, unsigned) : Bool × List Char := match rest with
        | '+' :: after => (false, after)
        | '-' :: after => (true, after)
        | after => (false, after)
      match unsigned.takeWhile Char.isDigit with
      | [] => none
      | digits =>
        let size : Int := Nat.ofDigitChars 10 digits 0
        some (some (if negative then -size else size), unsigned.dropWhile Char.isDigit)
    else some (none, c :: rest)
  | [] => some (none, [])

/-- The value of a number without point and exponent.  Beyond 64 bits it is a floating-point
number, and so is a negative zero. -/
def wholeNumber (negative : Bool) (digits : List Char) : Json :=
  let magnitude := Nat.ofDigitChars 10 digits 0
  let approximate : Json := match (Decimal.Numeral.ofParts digits [] 0).toFloat? with
    | some value => .real (if negative then -value else value)
    | none => .unkept
  if negative then
    if magnitude ≠ 0 ∧ magnitude ≤ UInt64.size / 2 then .integer (-magnitude) else approximate
  else if magnitude < UInt64.size then .integer magnitude
  else approximate

/-- Reads a number after its sign.  A zero is not followed by another digit. -/
def numeral? (negative : Bool) (source : List Char) : Option (Json × List Char) := do
  let digits := source.takeWhile Char.isDigit
  if digits.isEmpty ∨ digits.head? = some '0' ∧ digits.length ≠ 1 then none
  let (fraction, rest) ← fraction? (source.dropWhile Char.isDigit)
  let (exponent, rest) ← exponent? rest
  match fraction, exponent with
  | none, none => return (wholeNumber negative digits, rest)
  | _, _ =>
    match (Decimal.Numeral.ofParts digits (fraction.getD []) (exponent.getD 0)).toFloat? with
    | some value => return (.real (if negative then -value else value), rest)
    | none => return (.unkept, rest)

/-- Whether a character may stand between words. -/
def isSpace (c : Char) : Bool := c = ' ' || c = '\n' || c = '\t' || c = '\r'

/-- Reads one word, for which the first character decides. -/
def token? : List Char → Option (Token × List Char)
  | '[' :: rest => some (.openArray, rest)
  | ']' :: rest => some (.closeArray, rest)
  | '{' :: rest => some (.openObject, rest)
  | '}' :: rest => some (.closeObject, rest)
  | ',' :: rest => some (.comma, rest)
  | ':' :: rest => some (.colon, rest)
  | '"' :: rest =>
    (textUnits? [] rest).map fun (units, rest) =>
      (.text ((joinUnits? units).map String.ofList), rest)
  | 't' :: 'r' :: 'u' :: 'e' :: rest => some (.value (.bool true), rest)
  | 'f' :: 'a' :: 'l' :: 's' :: 'e' :: rest => some (.value (.bool false), rest)
  | 'n' :: 'u' :: 'l' :: 'l' :: rest => some (.value .null, rest)
  | '-' :: rest => (numeral? true rest).map fun (value, rest) => (.value value, rest)
  | source => (numeral? false source).map fun (value, rest) => (.value value, rest)

/-- Reads at most some number of words. -/
def tokensUpTo : Nat → List Char → List Token
  | 0, _ => [.fault]
  | count + 1, source =>
    match source.dropWhile isSpace with
    | [] => []
    | source =>
      match token? source with
      | some (token, rest) => token :: tokensUpTo count rest
      | none => [.fault]

/-- The words of a text.  Every word takes a character, so the length of the text bounds their
number. -/
def tokens (source : List Char) : List Token := tokensUpTo (source.length + 1) source

end GridCircuit.Json
