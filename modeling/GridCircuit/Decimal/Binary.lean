/-!
# Binary numbers

A finite 64-bit floating-point number is a sign and a `Binary`, a natural significand times a
power of two.  The reals that round to it form an interval around it, which `Binary.rounding`
gives in exact arithmetic.
-/

namespace GridCircuit.Decimal

/-- A power of two. -/
def twoTo (exponent : Nat) : Nat := Nat.pow 2 exponent

/-- A power of ten. -/
def tenTo (exponent : Nat) : Nat := Nat.pow 10 exponent

/-- The number `significand * 2 ^ exponent`. -/
structure Binary where
  significand : Nat
  exponent : Int

/-- The magnitude of a finite floating-point number. -/
def Binary.ofFloat (x : Float) : Binary :=
  let bits : Nat := x.toBits.toNat
  let fraction : Nat := bits % twoTo 52
  let biased : Nat := bits / twoTo 52 % twoTo 11
  if biased = 0 then ⟨fraction, -1074⟩
  else ⟨twoTo 52 + fraction, (biased : Int) - 1075⟩

/-- Whether the sign bit of a floating-point number is set. -/
def isNegative (x : Float) : Bool :=
  x.toBits.toNat / twoTo 63 = 1

/-- The numbers `low / unit` to `high / unit` that round to `value / unit`.  The ends belong to
the interval when it is closed. -/
structure Interval where
  low : Nat
  value : Nat
  high : Nat
  unit : Nat
  closed : Bool

/-- The reals that round to a positive binary number: half a step to each side, where the step
below a power of two is half as wide, and the ends included when the significand is even. -/
def Binary.rounding (number : Binary) : Interval :=
  let scale := twoTo number.exponent.toNat
  let below := if number.significand = twoTo 52 ∧ -1074 < number.exponent then 1 else 2
  { low := (4 * number.significand - below) * scale
    value := 4 * number.significand * scale
    high := (4 * number.significand + 2) * scale
    unit := 4 * twoTo (-number.exponent).toNat
    closed := number.significand % 2 = 0 }

end GridCircuit.Decimal
