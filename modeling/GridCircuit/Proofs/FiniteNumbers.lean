import GridCircuit.Decimal.Numeral
import GridCircuit.Proofs.Magnitudes

/-!
# Numerals are finite

A numeral is read as a finite number or not at all: what is too great for the format is refused, and
nothing else that the reading does leads out of the finite numbers.

* A whole number of 64 bits stays far below the overflow (`below_ofNat`).
* A division by a power of ten keeps it there, because the power is at least two.  This holds for
  any number of divisions (`Numeral.below_divideByPower`).
* A product with a power of ten may overflow, but then it is an infinity, which the reading asks
  about, and never the absence of a number.
-/

namespace GridCircuit.Decimal

open Float.Model Float.Model.UnpackedFloat

/-! ## Whole numbers and powers of ten -/

/-- Moving a number up moves its leading bit. -/
theorem log2_mul_two_pow {n : Nat} (hn : n ≠ 0) (count : Nat) :
    (n * 2 ^ count).log2 = n.log2 + count := by
  have hdiv : n * 2 ^ count / 2 ^ count = n := Nat.mul_div_cancel n (Nat.two_pow_pos count)
  have hlog := log2_div_two_pow_add (k := count) (hdiv.symm ▸ hn)
  rw [← hlog, hdiv]

theorem below_unpack_ofNat {n : Nat} {limit : Int} (hlow : 1 ≤ limit) (hhigh : limit ≤ 1024)
    (hless : (n.log2 : Int) + 1 < limit) :
    Below limit (Float.Model.pack (UnpackedFloat.ofNat Format.binary64 n)).unpack := by
  show Below limit
    (Float.Model.pack (UnpackedFloat.normalize Format.binary64 n 0 .positive)).unpack
  rcases Nat.eq_zero_or_pos n with rfl | hpos
  · exact below_unpack_pack_zero (by omega) .positive
  · have hsome : n ≠ 0 := hpos.ne'
    have hnormalize : UnpackedFloat.normalize Format.binary64 n 0 .positive =
        UnpackedFloat.round Format.binary64 .positive n 0 := by
      have hcompare : compare (n : Int) 0 = .gt := Int.compare_eq_gt.mpr (by omega)
      rw [UnpackedFloat.normalize, hcompare, Int.toNat_natCast]
    rw [hnormalize]
    simp only [UnpackedFloat.round, decreaseExponent, Nat.shiftLeft_eq]
    generalize (0 - Format.binary64.targetExponent (totalExponent n 0)).toNat = count
    apply below_unpack_pack_round
    · omega
    · omega
    · unfold totalExponent
      rw [log2_mul_two_pow hsome]
      omega
    · omega

/-- What is too great for the table of exact powers is computed as a product of whole numbers. -/
theorem ofScientific_slow {n power : Nat} (hsome : 0 < n) (hslow : ¬ (n < 2 ^ 53 ∧ power ≤ 22))
    (hpower : power ≤ 2048) :
    (Float.ofScientific n false power).toModel = Float.Model.pack
      (UnpackedFloat.mul Format.binary64
        (.finite .positive (n <<< 53) (-53) (by simpa [Nat.pos_iff_ne_zero] using hsome.ne'))
        (.finite .positive (10 ^ power) 0 (Nat.pow_pos (by decide)))) := by
  have hguard : ¬ (power : Int) > 2 ^ Format.binary64.exponentBits := by
    have hbits : (2 : Int) ^ Format.binary64.exponentBits = 2048 := rfl
    omega
  have hguard' : ¬ (power : Int) < -((2 ^ Format.binary64.exponentBits : Int) + n.log2) := by
    have hbits : (2 : Int) ^ Format.binary64.exponentBits = 2048 := rfl
    omega
  have hsign : (0 : Int) ≤ (power : Int) := by omega
  rw [Float.ofScientific, dif_neg hslow]
  show Float.Model.pack (UnpackedFloat.ofScientific Format.binary64 n power) = _
  rw [UnpackedFloat.ofScientific, dif_neg hsome.ne', if_neg hguard, if_neg hguard', if_pos hsign]
  rfl

/-- A number of 64 bits is read as a finite number, and with room for what follows. -/
theorem below_ofNat {n : Nat} (hless : n < UInt64.size) :
    Below 66 (Float.ofNat n).toModel.unpack := by
  have hsize : UInt64.size = 2 ^ 64 := rfl
  -- below 53 bits the number is exact, and is multiplied with one
  by_cases hshort : n < 2 ^ 53 ∧ 0 ≤ 22
  · have hfast : Float.ofNat n =
        n.toUInt64.toFloat * Float.exactlyRepresentablePowersOfTen[0] := by
      show Float.ofScientific n false 0 = _
      rw [Float.ofScientific, dif_pos hshort]
      rfl
    have hlog : n.log2 ≤ 52 := log2_le_of_lt hshort.1
    have hwhole : Below 64 (n.toUInt64.toFloat).toModel.unpack := by
      show Below 64 (Float.Model.pack (UnpackedFloat.ofNat Format.binary64 n.toUInt64.toNat)).unpack
      rw [UInt64.toNat_ofNat_of_lt' hless]
      exact below_unpack_ofNat (by decide) (by decide) (by omega)
    have hone : Below 1 (Float.exactlyRepresentablePowersOfTen[0]).toModel.unpack := by
      decide +kernel
    rw [hfast]
    exact hwhole.mul hone (by decide) (by decide)
  · have hsome : 0 < n := by omega
    have hlog : n.log2 ≤ 63 := log2_le_of_lt hless
    show Below 66 (Float.ofScientific n false 0).toModel.unpack
    rw [ofScientific_slow hsome hshort (by decide)]
    refine @Below.mul 64 1 _ _ ?_ ?_ (by decide) (by decide)
    · show totalExponent (n <<< 53) (-53) ≤ 64
      unfold totalExponent
      rw [Nat.shiftLeft_eq, log2_mul_two_pow hsome.ne']
      omega
    · show totalExponent 1 0 ≤ 1
      decide

/-- The powers of ten that are computed, except for the greatest, stay clear of the overflow. -/
theorem computedPower_bounds {power : Nat} (hlow : 23 ≤ power) (hhigh : power ≤ 307) :
    Below 1024 (Float.ofScientific 1 false power).toModel.unpack ∧
      Reaches 1 (Float.ofScientific 1 false power).toModel.unpack := by
  have hgreat : 10 ^ power < 2 ^ (1021 + 1) :=
    (Nat.pow_le_pow_right (by decide) hhigh).trans_lt (by decide +kernel)
  have hfour : 2 ^ 2 ≤ 10 ^ power :=
    (by decide : 2 ^ 2 ≤ 10 ^ 1).trans (Nat.pow_le_pow_right (by decide) (by omega))
  have hpos : 10 ^ power ≠ 0 := by omega
  have hless : (10 ^ power).log2 ≤ 1021 := log2_le_of_lt hgreat
  have htwo : 2 ≤ (10 ^ power).log2 := (Nat.le_log2 hpos).mpr hfour
  have hproduct : (1 <<< 53 * 10 ^ power).log2 = (10 ^ power).log2 + 53 := by
    rw [Nat.mul_comm]
    exact log2_mul_two_pow hpos 53
  have htotal : totalExponent (1 <<< 53 * 10 ^ power) (-53 + 0) = (10 ^ power).log2 + 1 := by
    unfold totalExponent
    omega
  rw [ofScientific_slow (by decide) (by omega) (by omega)]
  constructor
  · apply below_unpack_pack_round
    · decide
    · decide
    · omega
    · decide
  · apply reaches_unpack_pack_round
    · omega
    · omega
    · omega
    · omega

/-- The powers of ten that a numeral is multiplied with, or divided by, are finite, and from the
first power on they are at least two. -/
theorem powerOfTen_bounds {power : Nat} (hpower : power ≤ Numeral.greatestPower) :
    Below 1024 (Float.ofScientific 1 false power).toModel.unpack ∧
      (0 < power → Reaches 1 (Float.ofScientific 1 false power).toModel.unpack) := by
  have hcases : power < 23 ∨ (23 ≤ power ∧ power ≤ 307) ∨ power = 308 := by
    unfold Numeral.greatestPower at hpower
    omega
  rcases hcases with htabulated | ⟨hlow, hhigh⟩ | rfl
  · have htable : ∀ power < 23,
        Below 1024 (Float.ofScientific 1 false power).toModel.unpack ∧
          (0 < power → Reaches 1 (Float.ofScientific 1 false power).toModel.unpack) := by
      decide +kernel
    exact htable power htabulated
  · obtain ⟨hbelow, hreaches⟩ := computedPower_bounds hlow hhigh
    exact ⟨hbelow, fun _ => hreaches⟩
  -- the greatest power has no room for rounding, and needs none
  · decide +kernel

theorem Below.div_powerOfTen {limit : Int} {x : Float} (hx : Below limit x.toModel.unpack)
    (hlow : -1022 ≤ limit) (hhigh : limit ≤ 1024) {power : Nat} (hpos : 0 < power)
    (hpower : power ≤ Numeral.greatestPower) :
    Below limit (x / Float.ofScientific 1 false power).toModel.unpack :=
  hx.div ((powerOfTen_bounds hpower).2 hpos) hlow hhigh

/-- An integer of 64 bits is read as a finite number. -/
theorem isFinite_ofInt {value : Int} (hless : value.natAbs < UInt64.size) :
    (Float.ofInt value).isFinite = true := by
  cases value with
  | ofNat n => exact (below_ofNat hless).isFinite
  | negSucc n => exact isFinite_neg (below_ofNat hless).isFinite

/-! ## Numerals -/

namespace Numeral

theorem readWhole_fits {significand : Nat} (hfits : significand < UInt64.size)
    (digits : List Char) : (readWhole significand digits).significand < UInt64.size := by
  induction digits generalizing significand with
  | nil => exact hfits
  | cons c rest ih =>
      rw [readWhole]
      split
      · exact ih (of_decide_eq_true ‹_›)
      · exact hfits

theorem readFraction_fits {numeral : Numeral} (hfits : numeral.significand < UInt64.size)
    (digits : List Char) : (readFraction numeral digits).significand < UInt64.size := by
  induction digits generalizing numeral with
  | nil => exact hfits
  | cons c rest ih =>
      rw [readFraction]
      split
      · exact ih (of_decide_eq_true ‹_›)
      · exact hfits

theorem ofParts_fits (whole fraction : List Char) (exponent : Int) :
    (ofParts whole fraction exponent).significand < UInt64.size :=
  readFraction_fits (readWhole_fits (by decide) whole) fraction

theorem below_divideByPower {limit : Int} (hlow : -1022 ≤ limit) (hhigh : limit ≤ 1024)
    {x : Float} (hx : Below limit x.toModel.unpack) {power : Nat} (hpower : 0 < power) :
    Below limit (divideByPower x power).toModel.unpack := by
  fun_induction divideByPower x power with
  | case1 x power hle => exact hx.div_powerOfTen hlow hhigh hpower hle
  | case2 x power hgreat hzero => exact hx
  | case3 x power hgreat hsome ih =>
      exact ih (hx.div_powerOfTen hlow hhigh (Nat.succ_pos 307) (Nat.le_refl _)) (by omega)

/-- A numeral whose digits fit into 64 bits is read as a finite number, if it is read at all. -/
theorem isFinite_of_toFloat?_eq_some {numeral : Numeral}
    (hfits : numeral.significand < UInt64.size) {value : Float}
    (hvalue : numeral.toFloat? = some value) : value.isFinite = true := by
  have hmantissa := below_ofNat hfits
  rw [toFloat?] at hvalue
  by_cases hnegative : numeral.exponent < 0
  · rw [if_pos hnegative, Option.some.injEq] at hvalue
    rw [← hvalue]
    exact (below_divideByPower (by decide) (by decide) hmantissa (by omega)).isFinite
  rw [if_neg hnegative] at hvalue
  by_cases hpower : numeral.exponent.toNat ≤ greatestPower
  · rw [if_pos hpower] at hvalue
    have hten := (powerOfTen_bounds hpower).1
    by_cases hinf :
        (Float.ofNat numeral.significand *
          Float.ofScientific 1 false numeral.exponent.toNat).isInf = true
    · simp only [hinf, if_true, reduceCtorEq] at hvalue
    · simp only [hinf, if_false, Option.some.injEq, Bool.false_eq_true] at hvalue
      rw [← hvalue]
      exact isFinite_mul hmantissa.isFinite hten.isFinite (by simpa using hinf)
  · rw [if_neg hpower] at hvalue
    by_cases hzero : numeral.significand = 0
    · rw [if_pos hzero, Option.some.injEq] at hvalue
      rw [← hvalue]
      exact hmantissa.isFinite
    · simp only [hzero, if_false, reduceCtorEq] at hvalue

end Numeral

end GridCircuit.Decimal
