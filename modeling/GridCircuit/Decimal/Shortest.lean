import GridCircuit.Decimal.Binary

/-!
# The shortest decimal that reads back

Of the decimals that round to a given floating-point number, the shortest has the fewest
significant digits, and among those it is nearest to the number.  For a given number of digits
only the two neighbours of the number on that decimal grid can qualify, so `shortest` tries the
grids of one digit, two digits and so on, and seventeen digits always suffice.  Which of two
equally near neighbours wins is a parameter.
-/

namespace GridCircuit.Decimal

/-- The number `significand * 10 ^ exponent`. -/
structure Digits where
  significand : Nat
  exponent : Int
  deriving DecidableEq

/-- Which of two equally near decimals is taken. -/
inductive Tie where
  /-- The larger one. -/
  | up
  /-- The one whose last digit is even. -/
  | even

/-- The number of decimal digits of a natural number. -/
def digitCount (n : Nat) : Nat := (Nat.toDigits 10 n).length

/-- The position of the decimal point of a positive quotient: the least power of ten above it. -/
def pointPosition (value unit : Nat) : Int :=
  if unit ≤ value then digitCount (value / unit)
  else
    let inverse := (unit + value - 1) / value
    if inverse ≤ 1 then 1 else 1 - digitCount (inverse - 1)

/-- The nearest number of the interval among the multiples of `10 ^ exponent`. -/
def Interval.nearest? (range : Interval) (tie : Tie) (exponent : Int) : Option Nat :=
  let up := tenTo (-exponent).toNat
  let unit := range.unit * tenTo exponent.toNat
  let floor := range.value * up / unit
  let within (candidate : Nat) : Bool :=
    if range.closed then
      range.low * up ≤ candidate * unit && candidate * unit ≤ range.high * up
    else range.low * up < candidate * unit && candidate * unit < range.high * up
  let below := range.value * up - floor * unit
  let above := (floor + 1) * unit - range.value * up
  let preferFloor := below < above || below = above && (match tie with
    | .up => false
    | .even => floor % 2 = 0)
  match within floor, within (floor + 1) with
  | true, true => some (if preferFloor then floor else floor + 1)
  | true, false => some floor
  | false, true => some (floor + 1)
  | false, false => none

/-- Tries the grids of `digits` digits, one digit more and so on. -/
def Interval.shortestFrom (range : Interval) (tie : Tie) (point : Int) :
    (digits attempts : Nat) → Digits
  | digits, 0 =>
    ⟨range.value * tenTo (digits - point).toNat / (range.unit * tenTo (point - digits).toNat),
      point - digits⟩
  | digits, attempts + 1 =>
    match range.nearest? tie (point - digits) with
    | some candidate => ⟨candidate, point - digits⟩
    | none => range.shortestFrom tie point (digits + 1) attempts

/-- Moves the zeros at the end of a significand into the exponent. -/
def Digits.trim (digits : Digits) : Digits :=
  let zeros := (Nat.toDigits 10 digits.significand).reverse.takeWhile (· = '0')
  if digits.significand = 0 then digits
  else ⟨digits.significand / tenTo zeros.length, digits.exponent + zeros.length⟩

/-- The shortest decimal that rounds to a positive binary number. -/
def Binary.shortest (number : Binary) (tie : Tie) : Digits :=
  let range := number.rounding
  (range.shortestFrom tie (pointPosition range.value range.unit) 1 17).trim

end GridCircuit.Decimal
