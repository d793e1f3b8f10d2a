import GridCircuit.Decimal.Binary
import GridCircuit.Operation

/-!
# Distance from the identity

Exponents count half turns, so gates repeat with period two and an even exponent is no rotation at
all.  `distanceFromIdentity` measures how far an exponent is from the nearest even number, in
floating-point arithmetic; the distance of an infinite exponent is not a number.
-/

namespace GridCircuit

/-- What remains of a magnitude of at least two after division by two; it has fewer bits than the
magnitude, so it is exact. -/
def remainderOfMagnitude (number : Decimal.Binary) : Float :=
  if 1 ≤ number.exponent then 0
  else
    let places := (-number.exponent).toNat
    Float.ofNat (number.significand % Decimal.twoTo (places + 1)) /
      Float.ofNat (Decimal.twoTo places)

/-- The remainder of a division by two, with the sign of the dividend. -/
def remainderByTwo (x : Float) : Float :=
  if !x.isFinite then x - x
  else if x.abs < 2 then x
  else
    let remainder := remainderOfMagnitude (Decimal.Binary.ofFloat x)
    if Decimal.isNegative x then -remainder else remainder

/-- The distance of an exponent from the nearest even number. -/
def distanceFromIdentity (exponent : Float) : Float :=
  let remainder := remainderByTwo exponent
  let turned := if remainder < 0 then remainder + 2 else remainder
  let back := 2 - turned
  if back < turned then back else turned

namespace Operation

/-- Whether the operation is a plain gate whose exponent is within a tolerance of none. -/
def isNegligible (tolerance : Float) (operation : Operation) : Bool :=
  match operation.gate?.bind Gate.exponent? with
  | some exponent => distanceFromIdentity exponent ≤ tolerance
  | none => false

/-- Whether the operation is a plain interaction whose exponent is farther than a tolerance from
one half turn; an exponent that is not a number is not. -/
def isPartialInteraction (tolerance : Float) : Operation → Bool
  | plain (.interaction exponent) _ => (distanceFromIdentity exponent - 1).abs > tolerance
  | _ => false

end Operation

end GridCircuit
