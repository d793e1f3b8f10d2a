import GridCircuit.Decimal.Shortest

/-!
# Written numbers

A floating-point number is written with the shortest digits that read back.  What else there is to
decide, where positional notation ends and how a whole number and an exponent look, is a `Style`.
-/

namespace GridCircuit.Decimal

/-- How a number is written. -/
structure Style where
  /-- Which of two equally near decimals is taken. -/
  tie : Tie
  /-- Whether a decimal point at a position is written in place; otherwise an exponent is. -/
  positional : Int → Bool
  /-- What follows a whole number. -/
  whole : String

/-- Labels write every number in place and a whole number without a point. -/
def Style.plain : Style where
  tie := .up
  positional _ := true
  whole := ""

/-- Documents write numbers from `0.00001` up to sixteen digits in place, and a whole number
with a point and a zero. -/
def Style.document : Style where
  tie := .even
  positional point := -4 ≤ point ∧ point ≤ 16
  whole := ".0"

/-- A row of zeros. -/
def zeros (count : Nat) : String :=
  String.ofList (List.replicate count '0')

/-- Digits with the decimal point at its position. -/
def Style.inPlace (style : Style) (digits : List Char) (point : Int) : String :=
  if point ≤ 0 then s!"0.{zeros (-point).toNat}{String.ofList digits}"
  else if digits.length ≤ point then
    s!"{String.ofList digits}{zeros (point - digits.length).toNat}{style.whole}"
  else
    s!"{String.ofList (digits.take point.toNat)}.{String.ofList (digits.drop point.toNat)}"

/-- Digits with an exponent; a positive exponent carries its sign. -/
def withExponent (digits : List Char) (point : Int) : String :=
  let exponent := point - 1
  let fraction := match digits.drop 1 with
    | [] => ""
    | rest => s!".{String.ofList rest}"
  let sign := if exponent < 0 then "-" else "+"
  s!"{String.ofList (digits.take 1)}{fraction}e{sign}{exponent.natAbs}"

/-- The text of a finite magnitude. -/
def Style.magnitude (style : Style) (number : Binary) : String :=
  if number.significand = 0 then s!"0{style.whole}"
  else
    let shortest := number.shortest style.tie
    let digits := Nat.toDigits 10 shortest.significand
    let point := digits.length + shortest.exponent
    if style.positional point then style.inPlace digits point
    else withExponent digits point

/-- The text of a floating-point number. -/
def Style.render (style : Style) (x : Float) : String :=
  if x.isNaN then "NaN"
  else
    let sign := if isNegative x then "-" else ""
    if x.isInf then s!"{sign}inf" else s!"{sign}{style.magnitude (Binary.ofFloat x)}"

end GridCircuit.Decimal
