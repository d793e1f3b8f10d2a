import Mathlib.Algebra.Order.Ring.Nat
import Mathlib.Data.Nat.Log

/-!
# Magnitudes of floating-point numbers

A magnitude is followed through an operation by the place of its leading bit, the total exponent.
`Below limit` says that a number is finite and its total exponent at most `limit`, `Reaches limit`
that it is finite and its total exponent greater.

Every operation computes a mantissa with enough bits, rounds it and packs the result.  Rounding
raises the leading bit by one place at most and never lowers it (`roundWithAccuracy_spec`), and
packing keeps what the format has room for (`pack_finite`) and turns all else into an infinity
(`isInf_unpack_pack`).  What is unpacked again is told by the exponent field (`unpack_cases`).  From
this follow the limits of products and quotients (`Below.mul`, `Below.div`), and that finite numbers
have a finite product unless it overflows (`isFinite_mul`).
-/

namespace GridCircuit.Decimal

open Float.Model Float.Model.UnpackedFloat

/-! ## Limits on magnitudes -/

/-- The magnitude is less than a power of two. -/
def Below (limit : Int) : UnpackedFloat → Prop
  | .zero _ => True
  | .finite _ mantissa exponent _ => totalExponent mantissa exponent ≤ limit
  | _ => False

/-- The magnitude is finite and not less than a power of two. -/
def Reaches (limit : Int) : UnpackedFloat → Prop
  | .finite _ mantissa exponent _ => limit < totalExponent mantissa exponent
  | _ => False

instance (limit : Int) : DecidablePred (Below limit)
  | .zero _ => isTrue trivial
  | .finite .. => inferInstanceAs (Decidable (_ ≤ _))
  | .infinity _ => isFalse id
  | .notANumber => isFalse id

instance (limit : Int) : DecidablePred (Reaches limit)
  | .finite .. => inferInstanceAs (Decidable (_ < _))
  | .zero _ => isFalse id
  | .infinity _ => isFalse id
  | .notANumber => isFalse id

/-- A finite number is a zero or has a mantissa. -/
theorem exists_of_isFinite {number : UnpackedFloat} (hfinite : number.isFinite = true) :
    (∃ sign, number = .zero sign) ∨
      ∃ sign mantissa exponent hpos, number = .finite sign mantissa exponent hpos := by
  cases number with
  | zero sign => exact .inl ⟨sign, rfl⟩
  | finite sign mantissa exponent hpos => exact .inr ⟨sign, mantissa, exponent, hpos, rfl⟩
  | infinity sign => exact absurd hfinite Bool.false_ne_true
  | notANumber => exact absurd hfinite Bool.false_ne_true

theorem Below.isFinite {limit : Int} {number : UnpackedFloat} (hbelow : Below limit number) :
    number.isFinite = true := by
  cases number with
  | zero sign => rfl
  | finite sign mantissa exponent hpos => rfl
  | infinity sign => exact hbelow.elim
  | notANumber => exact hbelow.elim

/-! ## Rounding -/

theorem targetExponent_eq (total : Int) :
    Format.binary64.targetExponent total = max (total - 53) (-1074) := rfl

theorem log2_le_of_lt {n k : Nat} (hless : n < 2 ^ (k + 1)) : n.log2 ≤ k := by
  rcases Nat.eq_zero_or_pos n with rfl | hpos
  · exact Nat.zero_le k
  · exact Nat.lt_succ_iff.mp ((Nat.log2_lt hpos.ne').mpr hless)

theorem mantissa_shiftRight (extended : ExtendedMantissa) (count : Nat) :
    (extended >>> count).mantissa = extended.mantissa / 2 ^ count := by
  induction count with
  | zero => exact (Nat.div_one _).symm
  | succ count ih =>
      show (extended >>> count).mantissa / 2 = _
      rw [ih, Nat.div_div_eq_div_mul, Nat.pow_succ]

theorem roundedMantissa_bounds (extended : ExtendedMantissa) :
    extended.mantissa ≤ extended.roundedMantissa ∧
      extended.roundedMantissa ≤ extended.mantissa + 1 := by
  obtain ⟨mantissa, roundBit, stickyBit⟩ := extended
  cases roundBit <;> cases stickyBit <;>
    simp only [ExtendedMantissa.roundedMantissa, ExtendedMantissa.accuracy,
      Accuracy.roundToNearestEven] <;> omega

theorem mantissa_ofMantissaAndAccuracy (mantissa : Nat) (accuracy : Accuracy) :
    (ExtendedMantissa.ofMantissaAndAccuracy mantissa accuracy).mantissa = mantissa := by
  unfold ExtendedMantissa.ofMantissaAndAccuracy
  split <;> rfl

/-- Dropping bits of a number lowers its logarithm by their number. -/
theorem log2_div_two_pow_add {n k : Nat} (hsome : n / 2 ^ k ≠ 0) :
    (n / 2 ^ k).log2 + k = n.log2 := by
  have hle : 2 ^ k ≤ n := (Nat.div_ne_zero_iff.mp hsome).2
  have hn : n ≠ 0 := ((Nat.two_pow_pos k).trans_le hle).ne'
  have hk : k ≤ n.log2 := (Nat.le_log2 hn).mpr hle
  rw [Nat.log2_eq_log_two, Nat.log_div_base_pow, ← Nat.log2_eq_log_two, Nat.sub_add_cancel hk]

theorem div_two_pow_ne_zero {n k : Nat} (hn : n ≠ 0) (hk : k ≤ n.log2) : n / 2 ^ k ≠ 0 := by
  have hle : 2 ^ k ≤ n := (Nat.pow_le_pow_right (by decide) hk).trans (Nat.log2_self_le hn)
  exact (Nat.div_pos hle (Nat.two_pow_pos k)).ne'

/-- Dropping bits leaves the leading bit in its place. -/
theorem totalExponent_div_two_pow {n k : Nat} {exponent : Int} (hsome : n / 2 ^ k ≠ 0) :
    totalExponent (n / 2 ^ k) (exponent + k) = totalExponent n exponent := by
  have hlog := log2_div_two_pow_add hsome
  unfold totalExponent
  omega

/-- A shift to the target exponent drops bits and raises the exponent by their number. -/
theorem shiftToTargetExponent_spec (mantissa : Nat) (exponent : Int) (accuracy : Accuracy) :
    ∃ count : Nat,
      (shiftToTargetExponent Format.binary64 mantissa exponent accuracy).1.mantissa =
          mantissa / 2 ^ count ∧
        (shiftToTargetExponent Format.binary64 mantissa exponent accuracy).2 =
          exponent + count ∧
        exponent + count = max exponent (max (totalExponent mantissa exponent - 53) (-1074)) := by
  refine ⟨(max (totalExponent mantissa exponent - 53) (-1074) - exponent).toNat, ?_, rfl, ?_⟩
  · refine (mantissa_shiftRight _ _).trans ?_
    rw [mantissa_ofMantissaAndAccuracy]
    rfl
  · omega

section

variable {mantissa rounded count : Nat} {exponent : Int}
  (hcount : exponent + count =
    max exponent (max (totalExponent mantissa exponent - 53) (-1074)))
include hcount

/-- Rounding up after bits were dropped raises the leading bit by one place at most. -/
theorem totalExponent_rounded_le (hup : rounded ≤ mantissa / 2 ^ count + 1) :
    totalExponent rounded (exponent + count) ≤
      max (totalExponent mantissa exponent + 1) (-1073) := by
  by_cases hsome : mantissa / 2 ^ count = 0
  · have hlog : rounded.log2 ≤ 0 := log2_le_of_lt (by omega)
    unfold totalExponent at hcount ⊢
    omega
  · have hlog : rounded.log2 ≤ (mantissa / 2 ^ count).log2 + 1 := by
      apply log2_le_of_lt
      calc rounded
          ≤ mantissa / 2 ^ count + 1 := hup
        _ ≤ 2 ^ ((mantissa / 2 ^ count).log2 + 1) := Nat.lt_log2_self
        _ < 2 ^ ((mantissa / 2 ^ count).log2 + 1 + 1) := Nat.pow_lt_pow_succ (by decide)
    have hkept := @totalExponent_div_two_pow mantissa count exponent hsome
    unfold totalExponent at hkept ⊢
    omega

/-- A magnitude that is not too small for the least exponent keeps its leading bit when bits are
dropped. -/
theorem totalExponent_le_rounded (hdown : mantissa / 2 ^ count ≤ rounded) (hsome : mantissa ≠ 0)
    (hnormal : -1021 ≤ totalExponent mantissa exponent) :
    rounded ≠ 0 ∧ totalExponent mantissa exponent ≤ totalExponent rounded (exponent + count) := by
  have hshifted : mantissa / 2 ^ count ≠ 0 := by
    apply div_two_pow_ne_zero hsome
    unfold totalExponent at hcount hnormal
    omega
  have hkept := @totalExponent_div_two_pow mantissa count exponent hshifted
  have hmono : (mantissa / 2 ^ count).log2 ≤ rounded.log2 := by
    simpa only [Nat.log2_eq_log_two] using Nat.log_mono_right hdown
  refine ⟨((Nat.pos_of_ne_zero hshifted).trans_le hdown).ne', ?_⟩
  rw [← hkept]
  unfold totalExponent
  omega

end

/-- Rounding keeps the leading bit of a magnitude or raises it by one place.  Only what is too small
for the least exponent may vanish. -/
theorem roundWithAccuracy_spec (sign : Sign) (mantissa : Nat) (exponent : Int)
    (accuracy : Accuracy) :
    ∃ rounded : Nat, ∃ raised : Int,
      roundWithAccuracy Format.binary64 sign mantissa exponent accuracy =
          (if hzero : rounded = 0 then .zero sign
            else .finite sign rounded raised (Nat.pos_of_ne_zero hzero)) ∧
        (rounded ≠ 0 → totalExponent rounded raised ≤
            max (totalExponent mantissa exponent + 1) (-1073) ∧
          raised = max (max exponent (max (totalExponent mantissa exponent - 53) (-1074)))
            (totalExponent rounded raised - 53)) ∧
        (mantissa ≠ 0 → -1021 ≤ totalExponent mantissa exponent →
          rounded ≠ 0 ∧ totalExponent mantissa exponent ≤ totalExponent rounded raised) := by
  obtain ⟨first, hmantissa, hexponent, hfirst⟩ :=
    shiftToTargetExponent_spec mantissa exponent accuracy
  obtain ⟨hdown, hup⟩ := roundedMantissa_bounds
    (shiftToTargetExponent Format.binary64 mantissa exponent accuracy).1
  rw [roundWithAccuracy]
  generalize shiftToTargetExponent Format.binary64 mantissa exponent accuracy = shifted at *
  obtain ⟨extended, lifted⟩ := shifted
  dsimp only at hmantissa hexponent hdown hup ⊢
  subst hexponent
  rw [hmantissa] at hdown hup
  generalize extended.roundedMantissa = rounded at *
  have hgrown := totalExponent_rounded_le hfirst hup
  have hkept := totalExponent_le_rounded hfirst hdown
  -- the second shift only drops the bit that rounding up may have added
  obtain ⟨second, hfinal, hraised, hsecond⟩ :=
    shiftToTargetExponent_spec rounded (exponent + first) .exact
  generalize shiftToTargetExponent Format.binary64 rounded (exponent + first) .exact = shifted at *
  obtain ⟨final, raised⟩ := shifted
  dsimp only at hfinal hraised ⊢
  subst hraised
  have hsame : final.mantissa ≠ 0 → totalExponent final.mantissa (exponent + first + second) =
      totalExponent rounded (exponent + first) := by
    intro hsome
    rw [hfinal] at hsome ⊢
    exact totalExponent_div_two_pow hsome
  refine ⟨final.mantissa, exponent + first + second, rfl, ?_, ?_⟩
  · intro hsome
    rw [hsame hsome]
    omega
  · intro hsome hnormal
    obtain ⟨hrounded, hle⟩ := hkept hsome hnormal
    have hfinalSome : final.mantissa ≠ 0 := by
      rw [hfinal]
      apply div_two_pow_ne_zero hrounded
      unfold totalExponent at *
      omega
    exact ⟨hfinalSome, hle.trans_eq (hsame hfinalSome).symm⟩

/-- Rounding by itself does not overflow. -/
theorem isFinite_roundWithAccuracy (sign : Sign) (mantissa : Nat) (exponent : Int)
    (accuracy : Accuracy) :
    (roundWithAccuracy Format.binary64 sign mantissa exponent accuracy).isFinite = true := by
  obtain ⟨rounded, raised, hround, -⟩ := roundWithAccuracy_spec sign mantissa exponent accuracy
  rw [hround]
  by_cases hzero : rounded = 0
  · rw [dif_pos hzero]
    rfl
  · rw [dif_neg hzero]
    rfl

/-! ## Packing -/

/-- What unpacking makes of the three fields. -/
theorem unpack_cases (bits : BitVec 64) :
    (@unpackExponent Format.binary64 bits = -1#11 ∧
      (UnpackedFloat.unpack Format.binary64 bits).isFinite = false) ∨
    (@unpackExponent Format.binary64 bits = 0#11 ∧
      ((∃ sign, UnpackedFloat.unpack Format.binary64 bits = .zero sign) ∨
        ∃ sign hpos, UnpackedFloat.unpack Format.binary64 bits =
          .finite sign (@unpackMantissa Format.binary64 bits).toNat (-1074) hpos)) ∨
    (@unpackExponent Format.binary64 bits ≠ -1#11 ∧
      @unpackExponent Format.binary64 bits ≠ 0#11 ∧
      ∃ sign hpos, UnpackedFloat.unpack Format.binary64 bits =
        .finite sign (1#1 ++ @unpackMantissa Format.binary64 bits).toNat
          ((@unpackExponent Format.binary64 bits).toNat - 1075) hpos) := by
  delta UnpackedFloat.unpack
  by_cases hfull : @unpackExponent Format.binary64 bits = -1#11
  · refine .inl ⟨hfull, ?_⟩
    rw [if_pos hfull]
    split <;> rfl
  · by_cases hsubnormal : @unpackExponent Format.binary64 bits = 0#11
    · refine .inr (.inl ⟨hsubnormal, ?_⟩)
      rw [if_neg hfull, if_pos hsubnormal, hsubnormal]
      by_cases hzero : @unpackMantissa Format.binary64 bits = 0#52
      · rw [dif_pos hzero]
        exact .inl ⟨_, rfl⟩
      · rw [dif_neg hzero]
        have hpos : 0 < (@unpackMantissa Format.binary64 bits).toNat :=
          Nat.pos_of_ne_zero fun hnat => hzero (BitVec.eq_of_toNat_eq hnat)
        exact .inr ⟨_, hpos, rfl⟩
    · refine .inr (.inr ⟨hfull, hsubnormal, ?_⟩)
      rw [if_neg hfull, if_neg hsubnormal]
      exact ⟨_, _, rfl⟩

/-- A number that is put together from its fields is less than twice the power of two that the
exponent field stands for, unless it is an infinity or no number. -/
theorem below_unpack_packComponents {limit : Int} {sign : Sign} {exponent : BitVec 11}
    {fraction : BitVec 52} (hexponent : exponent ≠ -1#11)
    (hless : (exponent.toNat : Int) - 1022 ≤ limit) :
    Below limit (UnpackedFloat.unpack Format.binary64
      (packComponents Format.binary64 sign exponent fraction)) := by
  have hcases := unpack_cases (packComponents Format.binary64 sign exponent fraction)
  rw [unpackMantissa_packComponents, unpackExponent_packComponents] at hcases
  rcases hcases with ⟨hfull, -⟩ | ⟨-, ⟨_, hzero⟩ | ⟨_, _, hfinite⟩⟩ | ⟨-, -, _, _, hfinite⟩
  · exact absurd hfull hexponent
  · rw [hzero]
    trivial
  · have hlog : fraction.toNat.log2 ≤ 51 := log2_le_of_lt fraction.isLt
    rw [hfinite]
    show totalExponent _ _ ≤ limit
    unfold totalExponent
    omega
  · have hlog : (1#1 ++ fraction).toNat.log2 ≤ 52 := log2_le_of_lt (1#1 ++ fraction).isLt
    rw [hfinite]
    show totalExponent _ _ ≤ limit
    unfold totalExponent
    omega

theorem reaches_unpack_packComponents {limit : Int} {sign : Sign} {exponent : BitVec 11}
    {fraction : BitVec 52} (hexponent : exponent ≠ -1#11) (hnormal : exponent ≠ 0#11)
    (hless : limit < (exponent.toNat : Int) - 1022) :
    Reaches limit (UnpackedFloat.unpack Format.binary64
      (packComponents Format.binary64 sign exponent fraction)) := by
  have hcases := unpack_cases (packComponents Format.binary64 sign exponent fraction)
  rw [unpackMantissa_packComponents, unpackExponent_packComponents] at hcases
  obtain ⟨-, -, _, _, hfinite⟩ :=
    (hcases.resolve_left fun hfull => hexponent hfull.1).resolve_left fun hsubnormal =>
      hnormal hsubnormal.1
  have hmantissa : 2 ^ 52 ≤ (1#1 ++ fraction).toNat := by
    rw [BitVec.toNat_append]
    exact Nat.left_le_or
  have hlog : 52 ≤ (1#1 ++ fraction).toNat.log2 :=
    (Nat.le_log2 (by omega)).mpr hmantissa
  rw [hfinite]
  show limit < totalExponent _ _
  unfold totalExponent
  omega

/-- Packing, with the sizes of the format filled in. -/
theorem pack_eq {sign : Sign} {mantissa : Nat} {exponent : Int} {hpos : 0 < mantissa} :
    UnpackedFloat.pack Format.binary64 (.finite sign mantissa exponent hpos) =
      if 2 ^ 11 ≤ (exponent + 1023 + (52 : Nat)).toNat + 1 then
        packedInfinity Format.binary64 sign
      else if mantissa.log2 + 1 = 53 then
        packComponents Format.binary64 sign
          (BitVec.ofNat 11 (exponent + 1023 + (52 : Nat)).toNat) (BitVec.ofNat 52 mantissa)
      else packComponents Format.binary64 sign 0#11 (BitVec.ofNat 52 mantissa) :=
  rfl

/-- What packing makes of a number that the format has room for. -/
theorem pack_finite {sign : Sign} {mantissa : Nat} {exponent : Int} {hpos : 0 < mantissa}
    (hhigh : exponent ≤ 971) :
    ∃ field : BitVec 11, field.toNat = (exponent + 1075).toNat ∧ field ≠ -1#11 ∧
      UnpackedFloat.pack Format.binary64 (.finite sign mantissa exponent hpos) =
        if mantissa.log2 + 1 = 53 then
          packComponents Format.binary64 sign field (BitVec.ofNat 52 mantissa)
        else packComponents Format.binary64 sign 0#11 (BitVec.ofNat 52 mantissa) := by
  have hsum : (exponent + 1023 + (52 : Nat)).toNat = (exponent + 1075).toNat := by omega
  have hless : (exponent + 1075).toNat ≤ 2046 := by omega
  generalize (exponent + 1075).toNat = biased at *
  have hfield : (BitVec.ofNat 11 biased).toNat = biased := by
    rw [BitVec.toNat_ofNat, Nat.mod_eq_of_lt (by omega)]
  refine ⟨BitVec.ofNat 11 biased, hfield, ?_, ?_⟩
  · intro hfull
    have hnat : biased = (-1#11).toNat := hfield.symm.trans (congrArg BitVec.toNat hfull)
    have hones : (-1#11).toNat = 2047 := rfl
    omega
  · have hroom : ¬ 2 ^ 11 ≤ biased + 1 := by omega
    rw [pack_eq, hsum, if_neg hroom]

/-- Packing keeps a magnitude below its limit. -/
theorem below_unpack_pack {limit : Int} (hlimit : -1022 ≤ limit) {sign : Sign} {mantissa : Nat}
    {exponent : Int} {hpos : 0 < mantissa} (hhigh : exponent ≤ 971)
    (hless : totalExponent mantissa exponent ≤ limit) :
    Below limit (Float.Model.pack (.finite sign mantissa exponent hpos)).unpack := by
  obtain ⟨field, hfield, hroom, hpack⟩ := @pack_finite sign mantissa exponent hpos hhigh
  show Below limit (UnpackedFloat.unpack Format.binary64 (UnpackedFloat.pack Format.binary64 _))
  rw [hpack]
  split
  · apply below_unpack_packComponents hroom
    unfold totalExponent at hless
    omega
  · exact below_unpack_packComponents (by decide) hlimit

/-- Packing keeps a magnitude of full length above its limit. -/
theorem reaches_unpack_pack {limit : Int} {sign : Sign} {mantissa : Nat} {exponent : Int}
    {hpos : 0 < mantissa} (hlow : -1074 ≤ exponent) (hhigh : exponent ≤ 971)
    (hlength : mantissa.log2 = 52) (hless : limit < totalExponent mantissa exponent) :
    Reaches limit (Float.Model.pack (.finite sign mantissa exponent hpos)).unpack := by
  obtain ⟨field, hfield, hroom, hpack⟩ := @pack_finite sign mantissa exponent hpos hhigh
  show Reaches limit (UnpackedFloat.unpack Format.binary64 (UnpackedFloat.pack Format.binary64 _))
  rw [hpack, if_pos (by omega)]
  apply reaches_unpack_packComponents hroom
  · rintro rfl
    have hzero : (0#11).toNat = 0 := rfl
    omega
  · unfold totalExponent at hless
    omega

theorem below_unpack_pack_zero {limit : Int} (hlimit : -1022 ≤ limit) (sign : Sign) :
    Below limit (Float.Model.pack (.zero sign)).unpack :=
  below_unpack_packComponents (by decide) hlimit

/-- Rounding needs room for one more bit. -/
theorem below_unpack_pack_round {limit : Int} (hlow : -1022 ≤ limit) (hhigh : limit ≤ 1024)
    {sign : Sign} {mantissa : Nat} {exponent : Int} {accuracy : Accuracy}
    (hless : totalExponent mantissa exponent < limit) (hexponent : exponent ≤ 971) :
    Below limit (Float.Model.pack
      (roundWithAccuracy Format.binary64 sign mantissa exponent accuracy)).unpack := by
  obtain ⟨rounded, raised, hround, hspec, -⟩ :=
    roundWithAccuracy_spec sign mantissa exponent accuracy
  rw [hround]
  by_cases hzero : rounded = 0
  · rw [dif_pos hzero]
    exact below_unpack_pack_zero hlow sign
  · obtain ⟨htotal, hraised⟩ := hspec hzero
    rw [dif_neg hzero]
    apply below_unpack_pack hlow <;> omega

/-- Rounding a magnitude of more than full length does not lower it below a power of two. -/
theorem reaches_unpack_pack_round {limit : Int} {sign : Sign} {mantissa : Nat} {exponent : Int}
    {accuracy : Accuracy} (hlength : 52 ≤ mantissa.log2)
    (hlow : -1021 ≤ totalExponent mantissa exponent)
    (hhigh : totalExponent mantissa exponent < 1024)
    (hless : limit < totalExponent mantissa exponent) :
    Reaches limit (Float.Model.pack
      (roundWithAccuracy Format.binary64 sign mantissa exponent accuracy)).unpack := by
  obtain ⟨rounded, raised, hround, hspec, hkept⟩ :=
    roundWithAccuracy_spec sign mantissa exponent accuracy
  have hsome : mantissa ≠ 0 := by
    rintro rfl
    simp at hlength
  obtain ⟨hzero, hle⟩ := hkept hsome hlow
  obtain ⟨htotal, hraised⟩ := hspec hzero
  rw [hround, dif_neg hzero]
  unfold totalExponent at *
  apply reaches_unpack_pack
  · omega
  · omega
  · omega
  · unfold totalExponent
    omega

/-! ## Products and quotients -/

/-- Magnitudes are multiplied exactly, and then rounded. -/
theorem mul_eq {sign sign' : Sign} {m n : Nat} {e f : Int} {hpos : 0 < m} {hpos' : 0 < n} :
    UnpackedFloat.mul Format.binary64 (.finite sign m e hpos) (.finite sign' n f hpos') =
      roundWithAccuracy Format.binary64 (sign * sign') (m * n) (e + f) .exact :=
  rfl

theorem totalExponent_mul_le (m n : Nat) (e f : Int) :
    totalExponent (m * n) (e + f) ≤ totalExponent m e + totalExponent n f := by
  have hlog : (m * n).log2 ≤ m.log2 + n.log2 + 1 := by
    apply log2_le_of_lt
    calc m * n
        < 2 ^ (m.log2 + 1) * 2 ^ (n.log2 + 1) :=
          Nat.mul_lt_mul'' Nat.lt_log2_self Nat.lt_log2_self
      _ = 2 ^ (m.log2 + n.log2 + 1 + 1) := by
          rw [← Nat.pow_add]
          congr 1
          omega
  unfold totalExponent
  omega

/-- A product is below the product of the limits, and rounding at most doubles it. -/
theorem Below.mul {limit limit' : Int} {x y : UnpackedFloat} (hx : Below limit x)
    (hy : Below limit' y) (hlow : -1022 ≤ limit + limit' + 1) (hhigh : limit + limit' ≤ 900) :
    Below (limit + limit' + 1)
      (Float.Model.pack (UnpackedFloat.mul Format.binary64 x y)).unpack := by
  rcases exists_of_isFinite hx.isFinite with ⟨sign, rfl⟩ | ⟨sign, m, e, hpos, rfl⟩
  · rcases exists_of_isFinite hy.isFinite with ⟨sign', rfl⟩ | ⟨sign', n, f, hpos', rfl⟩
    · exact below_unpack_pack_zero hlow _
    · exact below_unpack_pack_zero hlow _
  · rcases exists_of_isFinite hy.isFinite with ⟨sign', rfl⟩ | ⟨sign', n, f, hpos', rfl⟩
    · exact below_unpack_pack_zero hlow _
    · have htotal := totalExponent_mul_le m n e f
      have hless : totalExponent m e ≤ limit := hx
      have hless' : totalExponent n f ≤ limit' := hy
      rw [mul_eq]
      unfold totalExponent at *
      apply below_unpack_pack_round hlow
      · omega
      · unfold totalExponent
        omega
      · omega

theorem log2_div_add_log2_le {m n shift : Nat} (hsome : (m <<< shift) / n ≠ 0) :
    ((m <<< shift) / n).log2 + n.log2 ≤ m.log2 + shift := by
  have hn : n ≠ 0 := by
    rintro rfl
    exact hsome (Nat.div_zero _)
  have hless : 2 ^ (((m <<< shift) / n).log2 + n.log2) < 2 ^ (m.log2 + shift + 1) := by
    calc 2 ^ (((m <<< shift) / n).log2 + n.log2)
        = 2 ^ ((m <<< shift) / n).log2 * 2 ^ n.log2 := Nat.pow_add ..
      _ ≤ (m <<< shift) / n * n :=
          Nat.mul_le_mul (Nat.log2_self_le hsome) (Nat.log2_self_le hn)
      _ ≤ m <<< shift := Nat.div_mul_le_self _ _
      _ = m * 2 ^ shift := Nat.shiftLeft_eq m shift
      _ < 2 ^ (m.log2 + 1) * 2 ^ shift :=
          Nat.mul_lt_mul_of_pos_right Nat.lt_log2_self (Nat.two_pow_pos shift)
      _ = 2 ^ (m.log2 + shift + 1) := by
          rw [← Nat.pow_add]
          congr 1
          omega
  exact Nat.lt_succ_iff.mp ((Nat.pow_lt_pow_iff_right (by decide)).mp hless)

/-- Dividing by two at least makes room for the bit that rounding may add. -/
theorem totalExponent_divCore_lt {m n : Nat} {e f limit : Int} (hlow : -1022 ≤ limit)
    (hless : totalExponent m e ≤ limit) (htwo : 1 < totalExponent n f) :
    totalExponent (divCore Format.binary64 m e n f).1 (divCore Format.binary64 m e n f).2.1 <
        limit ∧
      (divCore Format.binary64 m e n f).2.1 ≤ max (limit - 55) (-1074) := by
  have htarget : min (e - f)
      (Format.binary64.targetExponent (totalExponent m e - totalExponent n f)) ≤
        max (limit - 55) (-1074) := by
    rw [targetExponent_eq]
    omega
  have hshift : min (e - f)
      (Format.binary64.targetExponent (totalExponent m e - totalExponent n f)) ≤ e - f :=
    min_le_left _ _
  unfold divCore
  generalize min (e - f) (Format.binary64.targetExponent _) = target at *
  refine ⟨?_, htarget⟩
  unfold totalExponent at *
  by_cases hsome : (m <<< (e - f - target).toNat) / n = 0
  · simp only [hsome, Nat.log2_zero]
    omega
  · have hlog := log2_div_add_log2_le hsome
    simp only
    omega

/-- Division by two or more keeps a magnitude below its limit. -/
theorem Below.div {limit : Int} {x y : UnpackedFloat} (hx : Below limit x) (hy : Reaches 1 y)
    (hlow : -1022 ≤ limit) (hhigh : limit ≤ 1024) :
    Below limit (Float.Model.pack (UnpackedFloat.div Format.binary64 x y)).unpack := by
  cases y with
  | infinity sign => exact hy.elim
  | notANumber => exact hy.elim
  | zero sign => exact hy.elim
  | finite sign n f hpos =>
      rcases exists_of_isFinite hx.isFinite with ⟨sign', rfl⟩ | ⟨sign', m, e, hpos', rfl⟩
      · exact below_unpack_pack_zero hlow _
      · obtain ⟨htotal, hexponent⟩ := totalExponent_divCore_lt hlow hx hy
        have hroom : (divCore Format.binary64 m e n f).2.1 ≤ 971 := by omega
        exact below_unpack_pack_round hlow hhigh htotal hroom

/-! ## Overflow and signs -/

/-- What the format has room for is packed to something finite. -/
theorem isFinite_unpack_pack {sign : Sign} {mantissa : Nat} {exponent : Int} {hpos : 0 < mantissa}
    (hhigh : exponent ≤ 971) :
    (Float.Model.pack (.finite sign mantissa exponent hpos)).unpack.isFinite = true := by
  have hless : totalExponent mantissa exponent ≤
      max (-1022) (totalExponent mantissa exponent) := le_max_right ..
  exact (below_unpack_pack (le_max_left ..) hhigh hless).isFinite

/-- What the format has no room for is packed to an infinity. -/
theorem isInf_unpack_pack {sign : Sign} {mantissa : Nat} {exponent : Int} {hpos : 0 < mantissa}
    (hhigh : 971 < exponent) :
    (Float.Model.pack (.finite sign mantissa exponent hpos)).unpack.isInf = true := by
  have hroom : 2 ^ 11 ≤ (exponent + 1023 + (52 : Nat)).toNat + 1 := by omega
  show (UnpackedFloat.unpack Format.binary64
    (UnpackedFloat.pack Format.binary64 _)).isInf = true
  rw [pack_eq, if_pos hroom]
  cases sign <;> decide

/-- A finite number is packed to something finite, unless it overflows. -/
theorem isFinite_or_isInf_unpack_pack {number : UnpackedFloat} (hfinite : number.isFinite = true) :
    (Float.Model.pack number).unpack.isFinite = true ∨
      (Float.Model.pack number).unpack.isInf = true := by
  rcases exists_of_isFinite hfinite with ⟨sign, rfl⟩ | ⟨sign, mantissa, exponent, hpos, rfl⟩
  · exact .inl (below_unpack_pack_zero le_rfl sign).isFinite
  · rcases le_or_gt exponent 971 with hhigh | hhigh
    · exact .inl (isFinite_unpack_pack hhigh)
    · exact .inr (isInf_unpack_pack hhigh)

theorem isFinite_unpackedMul {x y : UnpackedFloat} (hx : x.isFinite = true)
    (hy : y.isFinite = true) : (UnpackedFloat.mul Format.binary64 x y).isFinite = true := by
  rcases exists_of_isFinite hx with ⟨sign, rfl⟩ | ⟨sign, m, e, hpos, rfl⟩
  · rcases exists_of_isFinite hy with ⟨sign', rfl⟩ | ⟨sign', n, f, hpos', rfl⟩
    · rfl
    · rfl
  · rcases exists_of_isFinite hy with ⟨sign', rfl⟩ | ⟨sign', n, f, hpos', rfl⟩
    · rfl
    · rw [mul_eq]
      exact isFinite_roundWithAccuracy ..

/-- The product of finite numbers is finite unless it overflows. -/
theorem isFinite_mul {x y : Float} (hx : x.isFinite = true) (hy : y.isFinite = true)
    (hfits : (x * y).isInf = false) : (x * y).isFinite = true := by
  rcases isFinite_or_isInf_unpack_pack (isFinite_unpackedMul hx hy) with hfinite | hinf
  · exact hfinite
  · exact absurd (hfits.symm.trans hinf) Bool.false_ne_true

/-- A packed number has an exponent that the format has room for. -/
theorem exponent_le_of_unpack {bits : BitVec 64} {sign : Sign} {mantissa : Nat} {exponent : Int}
    {hpos : 0 < mantissa}
    (hunpack : UnpackedFloat.unpack Format.binary64 bits = .finite sign mantissa exponent hpos) :
    exponent ≤ 971 := by
  have hcases := unpack_cases bits
  rw [hunpack] at hcases
  rcases hcases with ⟨-, hfull⟩ | ⟨-, ⟨_, hzero⟩ | ⟨_, _, hfinite⟩⟩ | ⟨hfull, -, _, _, hfinite⟩
  · exact absurd hfull.symm Bool.false_ne_true
  · cases hzero
  · cases hfinite
    decide
  · have hroom : (@unpackExponent Format.binary64 bits).toNat ≠ 2047 := fun hnat =>
      hfull (BitVec.eq_of_toNat_eq hnat)
    have hfield : (@unpackExponent Format.binary64 bits).toNat < 2048 :=
      (@unpackExponent Format.binary64 bits).isLt
    cases hfinite
    omega

theorem isFinite_neg {x : Float} (hx : x.isFinite = true) : (-x).isFinite = true := by
  show (Float.Model.pack x.toModel.unpack.neg).unpack.isFinite = true
  rcases exists_of_isFinite hx with ⟨sign, hunpack⟩ | ⟨sign, mantissa, exponent, hpos, hunpack⟩
  · rw [hunpack]
    exact (below_unpack_pack_zero le_rfl (-sign)).isFinite
  · rw [hunpack]
    exact isFinite_unpack_pack (exponent_le_of_unpack hunpack)

end GridCircuit.Decimal
