/-!
# Numerals read into numbers

A whole number is written with at least one digit and may have a sign.  Zeros may stand before
other digits.

A numeral with a point or an exponent stands for a floating-point number.  The reading is quick
rather than exact: as many leading digits as fit into 64 bits are rounded once, and the power of
ten is applied by one multiplication or division, which rounds once more.  Up to fifteen digits
and small exponents the result is the nearest number; beyond that it may be off by one step.
-/

namespace GridCircuit.Decimal

/-! ### Whole numbers -/

/-- The number that digits write. -/
def digits? (digits : List Char) : Option Nat :=
  if digits.isEmpty || !digits.all Char.isDigit then none
  else some (Nat.ofDigitChars 10 digits 0)

/-- The number that digits write after an optional plus sign. -/
def natural? : List Char → Option Nat
  | '+' :: digits => digits? digits
  | digits => digits? digits

/-- The integer that digits write after an optional sign. -/
def integer? : List Char → Option Int
  | '-' :: digits => (digits? digits).map fun magnitude => -(magnitude : Int)
  | numeral => (natural? numeral).map Int.ofNat

/-! ### Floating-point numbers -/

/-- The significant digits of a numeral that fit into 64 bits, and the power of ten that is left
to apply. -/
structure Numeral where
  significand : Nat
  exponent : Int

namespace Numeral

/-- The value of a decimal digit. -/
def digitValue (c : Char) : Nat := c.toNat - '0'.toNat

/-- Whether another digit still fits into the significand. -/
def fits (significand digit : Nat) : Bool := significand * 10 + digit < UInt64.size

/-- Reads the digits before the point: after the first digit that does not fit, the digits only
count. -/
def readWhole (significand : Nat) : List Char → Numeral
  | [] => ⟨significand, 0⟩
  | c :: rest =>
    if fits significand (digitValue c) then
      readWhole (significand * 10 + digitValue c) rest
    else ⟨significand, (rest.length : Int) + 1⟩

/-- Reads the digits after the point: after the first digit that does not fit, the digits are
dropped. -/
def readFraction (numeral : Numeral) : List Char → Numeral
  | [] => numeral
  | c :: rest =>
    if fits numeral.significand (digitValue c) then
      readFraction ⟨numeral.significand * 10 + digitValue c, numeral.exponent - 1⟩ rest
    else numeral

/-- The numeral written by digits before the point, digits after it and an exponent. -/
def ofParts (whole fraction : List Char) (exponent : Int) : Numeral :=
  let mantissa := readFraction (readWhole 0 whole) fraction
  ⟨mantissa.significand, mantissa.exponent + exponent⟩

/-- The greatest power of ten that is a floating-point number. -/
def greatestPower : Nat := 308

/-- Divides by a power of ten, in steps where the power is too great for one. -/
def divideByPower (x : Float) (power : Nat) : Float :=
  if power ≤ greatestPower then x / Float.ofScientific 1 false power
  else if x == 0 then x
  else divideByPower (x / Float.ofScientific 1 false greatestPower) (power - greatestPower)
termination_by power
decreasing_by simp only [greatestPower] at *; omega

/-- The magnitude of a numeral, unless it is too great for a floating-point number. -/
def toFloat? (numeral : Numeral) : Option Float :=
  let mantissa := Float.ofNat numeral.significand
  if numeral.exponent < 0 then some (divideByPower mantissa numeral.exponent.natAbs)
  else if numeral.exponent.toNat ≤ greatestPower then
    let product := mantissa * Float.ofScientific 1 false numeral.exponent.toNat
    if product.isInf then none else some product
  else if numeral.significand = 0 then some mantissa
  else none

end Numeral

end GridCircuit.Decimal
