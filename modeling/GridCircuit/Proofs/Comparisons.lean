import GridCircuit.Pipeline.Distance
import GridCircuit.Proofs.FiniteNumbers

/-!
# Comparing floating-point numbers

Two floating-point numbers are in order, the one way or the other (`not_lt_iff_le`), unless one of
them is no number: then every comparison is false (`not_lt_of_isNaN`, `not_le_of_isNaN`).

So it matters where the absence of a number can come from.  A sum or a difference with a finite
number has it only from the other side (`isNaN_add`, `isNaN_sub`), and a quotient of finite numbers
only from a divisor that is zero (`isNaN_div`).  The distance of an exponent from the identity is
put together from such steps and a first one, the remainder of the division by two, that is a number
exactly for the finite exponents (`isNaN_distanceFromIdentity`).
-/

namespace GridCircuit

open Float.Model Float.Model.UnpackedFloat

namespace Decimal

/-! ## Comparisons -/

/-- Comparing in the other direction gives the other answer. -/
theorem compare_swap (x y : UnpackedFloat) :
    UnpackedFloat.compare y x = (UnpackedFloat.compare x y).map Ordering.swap := by
  cases x with
  | notANumber => cases y <;> rfl
  | infinity sign =>
      cases y with
      | notANumber => rfl
      | infinity sign' => cases sign <;> cases sign' <;> rfl
      | zero sign' => cases sign <;> rfl
      | finite sign' n f hpos' => cases sign <;> rfl
  | zero sign =>
      cases y with
      | notANumber => rfl
      | infinity sign' => cases sign' <;> rfl
      | zero sign' => rfl
      | finite sign' n f hpos' => cases sign' <;> rfl
  | finite sign m e hpos =>
      cases y with
      | notANumber => rfl
      | infinity sign' => cases sign' <;> rfl
      | zero sign' => cases sign <;> rfl
      | finite sign' n f hpos' =>
          have hswap : (compare f e).then (compare n m) =
              ((compare e f).then (compare m n)).swap := by
            rw [Ordering.swap_then, Int.compare_swap, Nat.compare_swap]
          cases sign <;> cases sign'
          · exact congrArg (fun order => some order.swap) hswap
          · rfl
          · rfl
          · exact congrArg some hswap

/-- Two numbers have an order. -/
theorem exists_compare {x y : UnpackedFloat} (hx : x.isNaN = false) (hy : y.isNaN = false) :
    ∃ order, UnpackedFloat.compare x y = some order := by
  cases x with
  | notANumber => cases hx
  | infinity sign =>
      cases y with
      | notANumber => cases hy
      | infinity sign' => exact ⟨_, rfl⟩
      | _ => cases sign <;> exact ⟨_, rfl⟩
  | zero sign =>
      cases y with
      | notANumber => cases hy
      | zero sign' => exact ⟨_, rfl⟩
      | infinity sign' => cases sign' <;> exact ⟨_, rfl⟩
      | finite sign' n f hpos' => cases sign' <;> exact ⟨_, rfl⟩
  | finite sign m e hpos =>
      cases y with
      | notANumber => cases hy
      | infinity sign' => cases sign' <;> exact ⟨_, rfl⟩
      | zero sign' => cases sign <;> exact ⟨_, rfl⟩
      | finite sign' n f hpos' => cases sign <;> cases sign' <;> exact ⟨_, rfl⟩

theorem compare_eq_none_iff {x y : UnpackedFloat} :
    UnpackedFloat.compare x y = none ↔ x.isNaN = true ∨ y.isNaN = true := by
  constructor
  · intro hnone
    by_contra hnumbers
    rw [not_or, Bool.not_eq_true, Bool.not_eq_true] at hnumbers
    obtain ⟨order, hsome⟩ := exists_compare hnumbers.1 hnumbers.2
    cases hnone.symm.trans hsome
  · rintro (hnan | hnan)
    · cases x with
      | notANumber => rfl
      | _ => cases hnan
    · cases y with
      | notANumber => cases x <;> rfl
      | _ => cases hnan

theorem lt_iff_compare {x y : Float} :
    x < y ↔ UnpackedFloat.compare x.toModel.unpack y.toModel.unpack = some .lt := by
  show decide (UnpackedFloat.lt _ _ = true) = true ↔ _
  rw [decide_eq_true_iff, UnpackedFloat.lt, beq_iff_eq]

theorem le_iff_compare {x y : Float} :
    x ≤ y ↔ ∃ order, UnpackedFloat.compare x.toModel.unpack y.toModel.unpack = some order ∧
      order.isLE = true := by
  show decide (UnpackedFloat.le _ _ = true) = true ↔ _
  rw [decide_eq_true_iff, UnpackedFloat.le, Option.any_eq_true]

/-- Numbers that are not less the one way are in order the other way. -/
theorem not_lt_iff_le {x y : Float} (hx : x.isNaN = false) (hy : y.isNaN = false) :
    ¬ y < x ↔ x ≤ y := by
  rw [lt_iff_compare, le_iff_compare, compare_swap y.toModel.unpack x.toModel.unpack]
  cases hcompare : UnpackedFloat.compare y.toModel.unpack x.toModel.unpack with
  | none =>
      rcases compare_eq_none_iff.mp hcompare with hnan | hnan
      · exact absurd (hy.symm.trans hnan) Bool.false_ne_true
      · exact absurd (hx.symm.trans hnan) Bool.false_ne_true
  | some order => cases order <;> simp [Ordering.swap, Ordering.isLE]

theorem not_lt_of_isNaN {x y : Float} (hnan : x.isNaN = true ∨ y.isNaN = true) : ¬ x < y := by
  rw [lt_iff_compare, compare_eq_none_iff.mpr hnan]
  simp

theorem not_le_of_isNaN {x y : Float} (hnan : x.isNaN = true ∨ y.isNaN = true) : ¬ x ≤ y := by
  rw [le_iff_compare, compare_eq_none_iff.mpr hnan]
  simp

/-! ## Where the absence of a number comes from -/

theorem isNaN_eq_false_of_isFinite {number : UnpackedFloat} (hfinite : number.isFinite = true) :
    number.isNaN = false := by
  rcases exists_of_isFinite hfinite with ⟨sign, rfl⟩ | ⟨sign, mantissa, exponent, hpos, rfl⟩ <;> rfl

/-- Packing neither makes nor removes a number. -/
theorem isNaN_unpack_pack (number : UnpackedFloat) :
    (Float.Model.pack number).unpack.isNaN = number.isNaN := by
  cases number with
  | notANumber => decide
  | infinity sign => cases sign <;> decide
  | zero sign => cases sign <;> decide
  | finite sign mantissa exponent hpos =>
      rcases le_or_gt exponent 971 with hhigh | hhigh
      · exact isNaN_eq_false_of_isFinite (isFinite_unpack_pack hhigh)
      · have hinf := @isInf_unpack_pack sign mantissa exponent hpos hhigh
        cases hunpack : (Float.Model.pack (.finite sign mantissa exponent hpos)).unpack with
        | notANumber => rw [hunpack] at hinf; cases hinf
        | _ => rfl

theorem isNaN_roundWithAccuracy (sign : Sign) (mantissa : Nat) (exponent : Int)
    (accuracy : Accuracy) :
    (roundWithAccuracy Format.binary64 sign mantissa exponent accuracy).isNaN = false :=
  isNaN_eq_false_of_isFinite (isFinite_roundWithAccuracy ..)

theorem isNaN_normalize (mantissa exponent : Int) (sign : Sign) :
    (UnpackedFloat.normalize Format.binary64 mantissa exponent sign).isNaN = false := by
  rw [UnpackedFloat.normalize]
  split
  · exact isNaN_roundWithAccuracy ..
  · rfl
  · exact isNaN_roundWithAccuracy ..

theorem isNaN_unpackedAdd {x y : UnpackedFloat}
    (hfinite : x.isFinite = true ∨ y.isFinite = true) :
    (UnpackedFloat.add Format.binary64 x y).isNaN = (x.isNaN || y.isNaN) := by
  cases x with
  | notANumber => rfl
  | infinity sign =>
      cases y with
      | infinity sign' => rcases hfinite with hfinite | hfinite <;> cases hfinite
      | _ => rfl
  | zero sign =>
      cases y with
      | zero sign' => cases sign <;> cases sign' <;> rfl
      | _ => rfl
  | finite sign m e hpos =>
      cases y with
      | finite sign' n f hpos' => exact isNaN_normalize ..
      | _ => rfl

/-- The sum of two numbers is a number, if one of them is finite. -/
theorem isNaN_add {x y : Float} (hfinite : x.isFinite = true ∨ y.isFinite = true) :
    (x + y).isNaN = (x.isNaN || y.isNaN) := by
  show (Float.Model.pack (UnpackedFloat.add Format.binary64 x.toModel.unpack
    y.toModel.unpack)).unpack.isNaN = (x.toModel.unpack.isNaN || y.toModel.unpack.isNaN)
  rw [isNaN_unpack_pack, isNaN_unpackedAdd hfinite]

/-- Taking a number away is adding its opposite. -/
theorem unpackedSub_eq (x y : UnpackedFloat) :
    UnpackedFloat.sub Format.binary64 x y = UnpackedFloat.add Format.binary64 x y.neg := by
  cases x with
  | notANumber => cases y <;> rfl
  | infinity sign => cases y <;> rfl
  | zero sign => cases y <;> rfl
  | finite sign m e hpos =>
      cases y with
      | finite sign' n f hpos' =>
          have hopposite (k l : Int) : k - sign'.apply l = k + (-sign').apply l := by
            cases sign'
            · exact Int.sub_neg k l
            · exact Int.sub_eq_add_neg
          exact congrArg (UnpackedFloat.normalize Format.binary64 · (min e f) .positive)
            (hopposite _ _)
      | _ => rfl

/-- The difference of two numbers is a number, if one of them is finite. -/
theorem isNaN_sub {x y : Float} (hfinite : x.isFinite = true ∨ y.isFinite = true) :
    (x - y).isNaN = (x.isNaN || y.isNaN) := by
  have hneg : y.toModel.unpack.neg.isFinite = y.toModel.unpack.isFinite ∧
      y.toModel.unpack.neg.isNaN = y.toModel.unpack.isNaN := by
    cases y.toModel.unpack <;> exact ⟨rfl, rfl⟩
  show (Float.Model.pack (UnpackedFloat.sub Format.binary64 x.toModel.unpack
    y.toModel.unpack)).unpack.isNaN = (x.toModel.unpack.isNaN || y.toModel.unpack.isNaN)
  rw [isNaN_unpack_pack, unpackedSub_eq, isNaN_unpackedAdd (hneg.1 ▸ hfinite), hneg.2]

/-- What is not finite leaves no number when it is taken from itself. -/
theorem isNaN_sub_self {x : Float} (hfinite : x.isFinite = false) : (x - x).isNaN = true := by
  show (Float.Model.pack (UnpackedFloat.sub Format.binary64 x.toModel.unpack
    x.toModel.unpack)).unpack.isNaN = true
  replace hfinite : x.toModel.unpack.isFinite = false := hfinite
  rw [isNaN_unpack_pack]
  cases hunpack : x.toModel.unpack with
  | notANumber => rfl
  | infinity sign => cases sign <;> rfl
  | zero sign => rw [hunpack] at hfinite; cases hfinite
  | finite sign m e hpos => rw [hunpack] at hfinite; cases hfinite

theorem isNaN_neg (x : Float) : (-x).isNaN = x.isNaN := by
  show (Float.Model.pack x.toModel.unpack.neg).unpack.isNaN = x.toModel.unpack.isNaN
  rw [isNaN_unpack_pack]
  cases x.toModel.unpack <;> rfl

theorem isNaN_abs (x : Float) : x.abs.isNaN = x.isNaN := by
  show (Float.Model.pack x.toModel.unpack.abs).unpack.isNaN = x.toModel.unpack.isNaN
  rw [isNaN_unpack_pack]
  cases x.toModel.unpack <;> rfl

/-- A finite number divided by one of at least one, or by an infinity, is a number. -/
theorem isNaN_div {x y : Float} (hx : x.isFinite = true)
    (hy : Reaches 0 y.toModel.unpack ∨ y.isInf = true) : (x / y).isNaN = false := by
  show (Float.Model.pack (UnpackedFloat.div Format.binary64 x.toModel.unpack
    y.toModel.unpack)).unpack.isNaN = false
  replace hy : Reaches 0 y.toModel.unpack ∨ y.toModel.unpack.isInf = true := hy
  rw [isNaN_unpack_pack]
  generalize y.toModel.unpack = divisor at *
  cases divisor with
  | zero sign' => rcases hy with hy | hy <;> cases hy
  | notANumber => rcases hy with hy | hy <;> cases hy
  | infinity sign' =>
      rcases exists_of_isFinite hx with ⟨sign, hunpack⟩ | ⟨sign, m, e, hpos, hunpack⟩ <;>
        rw [hunpack] <;> rfl
  | finite sign' n f hpos' =>
      rcases exists_of_isFinite hx with ⟨sign, hunpack⟩ | ⟨sign, m, e, hpos, hunpack⟩
      · rw [hunpack]
        rfl
      · rw [hunpack]
        exact isNaN_roundWithAccuracy ..

/-! ## The remainder of a division by two -/

/-- Rounding a magnitude of full length does not lower it below a power of two, unless it becomes an
infinity. -/
theorem reaches_or_isInf_unpack_pack_round {limit : Int} {sign : Sign} {mantissa : Nat}
    {exponent : Int} {accuracy : Accuracy} (hlength : 52 ≤ mantissa.log2)
    (hlow : -1021 ≤ totalExponent mantissa exponent)
    (hless : limit < totalExponent mantissa exponent) :
    Reaches limit (Float.Model.pack
        (roundWithAccuracy Format.binary64 sign mantissa exponent accuracy)).unpack ∨
      (Float.Model.pack
        (roundWithAccuracy Format.binary64 sign mantissa exponent accuracy)).unpack.isInf =
          true := by
  obtain ⟨rounded, raised, hround, hspec, hkept⟩ :=
    roundWithAccuracy_spec sign mantissa exponent accuracy
  have hsome : mantissa ≠ 0 := by
    rintro rfl
    simp at hlength
  obtain ⟨hzero, hle⟩ := hkept hsome hlow
  obtain ⟨htotal, hraised⟩ := hspec hzero
  rw [hround, dif_neg hzero]
  rcases le_or_gt raised 971 with hhigh | hhigh
  · unfold totalExponent at *
    refine .inl (reaches_unpack_pack (by omega) hhigh (by omega) ?_)
    unfold totalExponent
    omega
  · exact .inr (isInf_unpack_pack hhigh)

/-- A great whole number is read as one at least, or as an infinity. -/
theorem reaches_or_isInf_ofNat {n : Nat} (hgreat : 2 ^ 53 ≤ n) :
    Reaches 0 (Float.ofNat n).toModel.unpack ∨ (Float.ofNat n).isInf = true := by
  have hpos : 0 < n := (Nat.two_pow_pos 53).trans_le hgreat
  have hlog : (n <<< 53 * 10 ^ 0).log2 = n.log2 + 53 := by
    rw [Nat.pow_zero, Nat.mul_one, Nat.shiftLeft_eq, log2_mul_two_pow hpos.ne']
  show Reaches 0 (Float.ofScientific n false 0).toModel.unpack ∨
    (Float.ofScientific n false 0).toModel.unpack.isInf = true
  rw [ofScientific_slow hpos (fun hshort => hgreat.not_gt hshort.1) (by decide), mul_eq]
  refine reaches_or_isInf_unpack_pack_round (by omega) ?_ ?_ <;>
  · unfold totalExponent
    omega

/-- A power of two is read as one at least, or as an infinity. -/
theorem reaches_or_isInf_twoTo (places : Nat) :
    Reaches 0 (Float.ofNat (twoTo places)).toModel.unpack ∨
      (Float.ofNat (twoTo places)).isInf = true := by
  rcases Nat.lt_or_ge places 53 with hshort | hgreat
  · have htable : ∀ places < 53, Reaches 0 (Float.ofNat (twoTo places)).toModel.unpack := by
      decide +kernel
    exact .inl (htable places hshort)
  · exact reaches_or_isInf_ofNat (Nat.pow_le_pow_right (by decide) hgreat)

/-- The significand of a floating-point number has 53 bits at most. -/
theorem significand_ofFloat_lt (x : Float) : (Binary.ofFloat x).significand < UInt64.size := by
  have hfraction : x.toBits.toNat % twoTo 52 < twoTo 52 := Nat.mod_lt _ (Nat.two_pow_pos 52)
  have hroom : twoTo 52 + twoTo 52 ≤ UInt64.size := by decide
  simp only [Binary.ofFloat]
  generalize x.toBits.toNat % twoTo 52 = fraction at *
  generalize twoTo 52 = leading at *
  split
  · exact (Nat.lt_add_left leading hfraction).trans_le hroom
  · exact (Nat.add_lt_add_left hfraction leading).trans_le hroom

end Decimal

open Decimal

theorem isNaN_remainderOfMagnitude {number : Binary} (hfits : number.significand < UInt64.size) :
    (remainderOfMagnitude number).isNaN = false := by
  rw [remainderOfMagnitude]
  split
  · decide
  · apply isNaN_div
    · exact (below_ofNat ((Nat.mod_le _ _).trans_lt hfits)).isFinite
    · exact reaches_or_isInf_twoTo _

/-- What remains of a division by two is a number when the dividend is finite. -/
theorem isNaN_remainderByTwo (x : Float) : (remainderByTwo x).isNaN = !x.isFinite := by
  rw [remainderByTwo]
  cases hfinite : x.isFinite with
  | false => exact isNaN_sub_self hfinite
  | true =>
      have hremainder := isNaN_remainderOfMagnitude (significand_ofFloat_lt x)
      simp only [Bool.not_true, Bool.false_eq_true, if_false]
      split
      · exact isNaN_eq_false_of_isFinite hfinite
      · split
        · rw [isNaN_neg, hremainder]
        · exact hremainder

/-- The distance from the identity is a number exactly for a finite exponent. -/
theorem isNaN_distanceFromIdentity (exponent : Float) :
    (distanceFromIdentity exponent).isNaN = !exponent.isFinite := by
  have htwo : (2 : Float).isFinite = true := by decide
  have hnumber : (2 : Float).isNaN = false := by decide
  rw [← isNaN_remainderByTwo, distanceFromIdentity]
  generalize remainderByTwo exponent = remainder
  have hturned : (if remainder < 0 then remainder + 2 else remainder).isNaN = remainder.isNaN := by
    split
    · rw [isNaN_add (.inr htwo), hnumber, Bool.or_false]
    · rfl
  generalize (if remainder < 0 then remainder + 2 else remainder) = turned at *
  rw [← hturned]
  show (if 2 - turned < turned then 2 - turned else turned).isNaN = turned.isNaN
  split
  · rw [isNaN_sub (.inl htwo), hnumber, Bool.false_or]
  · rfl

end GridCircuit
