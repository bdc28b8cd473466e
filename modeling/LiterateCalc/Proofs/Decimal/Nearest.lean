import Mathlib.Algebra.Order.Field.Basic
import Mathlib.Tactic.FieldSimp
import Mathlib.Tactic.Ring
import LiterateCalc.Proofs.Decimal.Counts
import LiterateCalc.Proofs.Decimal.Exact

/-! Rounding to the nearest float. The bits that are shifted out of a significand tell on which side of a half
the rest is, so that a quotient is at most half a unit of its last place away from the exact one. -/
namespace LiterateCalc.Decimal
open Float.Model (Format UnpackedFloat totalExponent)
open Float.Model.UnpackedFloat

/-- The first bit behind a significand tells whether at least a half is left, the other whether anything is
left besides that half. -/
structure Approximates (extended : ExtendedMantissa) (value : ℚ) : Prop where
  low : extended.mantissa ≤ value
  high : value < extended.mantissa + 1
  round : extended.roundBit = true ↔ extended.mantissa + 1 / 2 ≤ value
  sticky : extended.stickyBit = false → value = extended.mantissa ∨ value = extended.mantissa + 1 / 2

section
variable {extended : ExtendedMantissa} {value : ℚ}

theorem Approximates.eq_mantissa (approximates : Approximates extended value)
    (none : (extended.roundBit || extended.stickyBit) = false) : value = extended.mantissa := by
  rw [Bool.or_eq_false_iff] at none
  refine (approximates.sticky none.2).resolve_right fun half => ?_
  rw [approximates.round.mpr half.ge] at none
  cases none.1

theorem Approximates.shiftRightOne (approximates : Approximates extended value) :
    Approximates extended.shiftRightOne (value / 2) := by
  have low := approximates.low
  have high := approximates.high
  have cut : ((extended.mantissa / 2 : ℕ) : ℚ) * 2 + (extended.mantissa % 2 : ℕ) = extended.mantissa := by
    exact_mod_cast Nat.div_add_mod' extended.mantissa 2
  rcases Nat.mod_two_eq_zero_or_one extended.mantissa with even | odd
  · rw [even, Nat.cast_zero, add_zero] at cut
    refine ⟨?_, ?_, ?_, ?_⟩ <;> simp only [ExtendedMantissa.shiftRightOne]
    · linarith
    · linarith
    · simp only [even, bne_self_eq_false, Bool.false_eq_true, false_iff, not_le]
      linarith
    · intro none
      have same := approximates.eq_mantissa none
      left
      linarith
  · rw [odd, Nat.cast_one] at cut
    refine ⟨?_, ?_, ?_, ?_⟩ <;> simp only [ExtendedMantissa.shiftRightOne]
    · linarith
    · linarith
    · refine iff_of_true (by rw [odd]; rfl) ?_
      linarith
    · intro none
      have same := approximates.eq_mantissa none
      right
      linarith

theorem shiftRight_succ (count : Nat) : extended >>> (count + 1) = (extended >>> count).shiftRightOne := rfl

theorem Approximates.shiftRight (approximates : Approximates extended value) (count : Nat) :
    Approximates (extended >>> count) (value / 2 ^ count) := by
  induction count with
  | zero =>
    rw [pow_zero, div_one]
    exact approximates
  | succ count ih =>
    rw [shiftRight_succ, pow_succ, ← div_div]
    exact ih.shiftRightOne

theorem mantissa_shiftRight (extended : ExtendedMantissa) (count : Nat) :
    (extended >>> count).mantissa = extended.mantissa / 2 ^ count := by
  induction count with
  | zero => exact (Nat.div_one _).symm
  | succ count ih =>
    rw [shiftRight_succ, Nat.pow_succ, ← Nat.div_div_eq_div_mul, ← ih]
    rfl

/-- Rounding goes to the nearest whole number. -/
theorem Approximates.rounded (approximates : Approximates extended value) :
    |(extended.roundedMantissa : ℚ) - value| ≤ 1 / 2 := by
  obtain ⟨low, high, round, sticky⟩ := approximates
  obtain ⟨significand, first, rest⟩ := extended
  simp only at low high round sticky
  rw [abs_le]
  cases first with
  | false =>
    have below : ¬ (significand + 1 / 2 : ℚ) ≤ value := fun above => by simpa using round.mpr above
    have down : ExtendedMantissa.roundedMantissa ⟨significand, false, rest⟩ = significand := by cases rest <;> rfl
    rw [down]
    constructor <;> linarith
  | true =>
    have above := round.mp rfl
    cases rest with
    | true =>
      have up : ExtendedMantissa.roundedMantissa ⟨significand, true, true⟩ = significand + 1 := rfl
      rw [up, Nat.cast_succ]
      constructor <;> linarith
    | false =>
      have tie : ExtendedMantissa.roundedMantissa ⟨significand, true, false⟩ = significand + significand % 2 := rfl
      rw [tie]
      rcases sticky rfl with same | half
      · linarith
      · rcases Nat.mod_two_eq_zero_or_one significand with even | odd
        · rw [even]
          push_cast
          constructor <;> linarith
        · rw [odd]
          push_cast
          constructor <;> linarith

theorem le_roundedMantissa (extended : ExtendedMantissa) : extended.mantissa ≤ extended.roundedMantissa := by
  unfold ExtendedMantissa.roundedMantissa Accuracy.roundToNearestEven
  split <;> omega

theorem approximates_add (significand : Nat) {first rest : Bool} {fraction : ℚ} (low : 0 ≤ fraction)
    (high : fraction < 1) (round : first = true ↔ 1 / 2 ≤ fraction)
    (sticky : rest = false → fraction = 0 ∨ fraction = 1 / 2) :
    Approximates ⟨significand, first, rest⟩ (significand + fraction) where
  low := by simpa using low
  high := by simpa using high
  round := by simpa using round
  sticky := by simpa using sticky

/-- A quotient without its fraction, and the bits of that fraction. -/
theorem approximates_quotient (numerator : Nat) {denominator : Nat} (positive : 0 < denominator) :
    Approximates (.ofMantissaAndAccuracy (numerator / denominator)
      (accuracyOfFraction (numerator % denominator) denominator)) (numerator / denominator) := by
  have large : (0 : ℚ) < denominator := by exact_mod_cast positive
  have whole : (numerator : ℚ) = (numerator / denominator : ℕ) * denominator + (numerator % denominator : ℕ) := by
    exact_mod_cast (Nat.div_add_mod' numerator denominator).symm
  have cut : (numerator : ℚ) / denominator =
      (numerator / denominator : ℕ) + (numerator % denominator : ℕ) / denominator := by
    rw [div_eq_iff large.ne', add_mul, div_mul_cancel₀ _ large.ne']
    exact whole
  have below : (numerator % denominator : ℕ) / (denominator : ℚ) < 1 :=
    (div_lt_one large).mpr (by exact_mod_cast Nat.mod_lt numerator positive)
  have above : (0 : ℚ) ≤ (numerator % denominator : ℕ) / denominator := by positivity
  rw [cut]
  generalize numerator / denominator = quotient
  generalize numerator % denominator = rest at below above ⊢
  have half : (1 / 2 ≤ (rest : ℚ) / denominator) ↔ denominator ≤ 2 * rest := by
    rw [le_div_iff₀ large, ← Nat.cast_le (α := ℚ), Nat.cast_mul, Nat.cast_ofNat]
    constructor <;> intro side <;> linarith
  unfold accuracyOfFraction
  split
  · rename_i none
    exact approximates_add quotient above below (iff_of_false nofun (half.not.mpr (by omega))) fun _ =>
      .inl (by rw [none, Nat.cast_zero, zero_div])
  · rcases lt_trichotomy (2 * rest) denominator with less | same | more
    · rw [compare_lt_iff_lt.mpr less]
      exact approximates_add quotient above below (iff_of_false nofun (half.not.mpr (by omega))) nofun
    · have twice : (2 * rest : ℚ) = denominator := by exact_mod_cast same
      rw [compare_eq_iff_eq.mpr same]
      refine approximates_add quotient above below (iff_of_true rfl (half.mpr same.ge)) fun _ => .inr ?_
      rw [div_eq_iff large.ne']
      linarith
    · rw [compare_gt_iff_gt.mpr more]
      exact approximates_add quotient above below (iff_of_true rfl (half.mpr more.le)) nofun

end

section
variable {significand : Nat} {exponent : Int}

/-- A significand with all bits of a float, or more, is shifted until it has just these. -/
theorem shiftToTargetExponent_eq (wide : 52 ≤ significand.log2) (least : -1074 ≤ exponent) (accuracy : Accuracy) :
    shiftToTargetExponent Format.binary64 significand exponent accuracy =
      (ExtendedMantissa.ofMantissaAndAccuracy significand accuracy >>> (significand.log2 - 52),
        exponent + (significand.log2 - 52 : ℕ)) := by
  have amount : (Format.binary64.targetExponent (totalExponent significand exponent) - exponent).toNat =
      significand.log2 - 52 := by
    change (max (significand.log2 + 1 + exponent - 53) (-1074) - exponent).toNat = _
    omega
  simp only [shiftToTargetExponent, shiftToExponent, amount]

/-- What rounding leaves is shifted once more, if it does not fit. -/
theorem shift_rounded (full : 2 ^ 52 ≤ significand) (fits : significand ≤ 2 ^ 53) (least : -1074 ≤ exponent) :
    ∃ number : Binary, (shiftToTargetExponent Format.binary64 significand exponent .exact).1.mantissa =
        number.significand ∧
      (shiftToTargetExponent Format.binary64 significand exponent .exact).2 = number.exponent ∧
      2 ^ 52 ≤ number.significand ∧ number.significand < 2 ^ 53 ∧ exponent ≤ number.exponent ∧
      number.toRat = significand * 2 ^ exponent := by
  by_cases narrow : significand < 2 ^ 53
  · have bits : significand.log2 = 52 := (Nat.log2_eq_iff (by omega)).mpr ⟨full, narrow⟩
    rw [shiftToTargetExponent_eq bits.ge least, bits]
    exact ⟨⟨significand, exponent⟩, rfl, by simp, full, narrow, le_refl _, rfl⟩
  · obtain rfl : significand = 2 ^ 53 := by omega
    have bits : (2 ^ 53 : ℕ).log2 = 53 := Nat.log2_two_pow
    rw [shiftToTargetExponent_eq (by rw [bits]; decide) least, bits]
    refine ⟨⟨2 ^ 52, exponent + 1⟩, rfl, rfl, le_refl _, ?_, by simp, ?_⟩
    · exact Nat.pow_lt_pow_right (by decide) (by decide)
    · rw [Binary.toRat, zpow_add_one₀ (by norm_num)]
      push_cast
      ring

theorem mantissa_ofMantissaAndAccuracy (significand : Nat) (accuracy : Accuracy) :
    (ExtendedMantissa.ofMantissaAndAccuracy significand accuracy).mantissa = significand := by
  rcases accuracy with _ | order
  · rfl
  · cases order <;> rfl

/-- Where so many bits are cut off that a float is left, its last place is no coarser than the number allows. -/
theorem rounding_error {count rounded : ℕ} {value : ℚ} {step : ℤ} (low : 2 ^ (52 + count) ≤ value)
    (near : |(rounded : ℚ) - value / 2 ^ count| ≤ 1 / 2) (small : value * 2 ^ exponent < 2 ^ (53 + step)) :
    |rounded * 2 ^ (exponent + count) - value * 2 ^ exponent| ≤ 2 ^ (step - 1) := by
  have lower : (2 : ℚ) ^ (52 + (exponent + count)) ≤ value * 2 ^ exponent := calc
    (2 : ℚ) ^ (52 + (exponent + count)) = 2 ^ (52 + count) * 2 ^ exponent := by
      rw [← zpow_natCast, ← zpow_add₀ (by norm_num)]
      congr 1
      push_cast
      ring
    _ ≤ value * 2 ^ exponent := mul_le_mul_of_nonneg_right low (by positivity)
  have coarse : exponent + count ≤ step := by
    have powers := (zpow_lt_zpow_iff_right₀ (by norm_num : (1 : ℚ) < 2)).mp (lower.trans_lt small)
    omega
  have apart : rounded * 2 ^ (exponent + count) - value * 2 ^ exponent =
      (rounded - value / 2 ^ count) * 2 ^ (exponent + count) := by
    rw [zpow_add₀ (by norm_num), zpow_natCast]
    field_simp
  calc
    |rounded * 2 ^ (exponent + count) - value * 2 ^ exponent| =
        |rounded - value / 2 ^ count| * 2 ^ (exponent + count) := by
      rw [apart, abs_mul, abs_zpow, abs_two]
    _ ≤ 1 / 2 * 2 ^ (exponent + count) := mul_le_mul_of_nonneg_right near (by positivity)
    _ = 2 ^ (exponent + count - 1) := by
      rw [zpow_sub_one₀ (by norm_num)]
      ring
    _ ≤ 2 ^ (step - 1) := zpow_le_zpow_right₀ (by norm_num) (by omega)

/-- A significand without its last bits fills the 53 bits that are left. -/
theorem shifted_filled (positive : significand ≠ 0) (bits : significand.log2 = 52 + count) :
    2 ^ 52 ≤ significand / 2 ^ count ∧ significand / 2 ^ count < 2 ^ 53 := by
  have low := Nat.log2_self_le positive
  have high := Nat.lt_log2_self (n := significand)
  rw [bits] at low high
  constructor
  · rw [Nat.le_div_iff_mul_le (Nat.two_pow_pos count), ← Nat.pow_add]
    exact low
  · rw [Nat.div_lt_iff_lt_mul (Nat.two_pow_pos count), ← Nat.pow_add]
    exact high.trans_eq (by congr 1; omega)

/-- Rounding moves a number by at most half a unit of the last place. -/
theorem roundWithAccuracy_near {accuracy : Accuracy} {value : ℚ}
    (approximates : Approximates (.ofMantissaAndAccuracy significand accuracy) value) (full : 2 ^ 52 ≤ significand)
    (least : -1074 ≤ exponent) :
    ∃ number : Binary, roundWithAccuracy Format.binary64 .positive significand exponent accuracy =
        number.unpacked false ∧
      2 ^ 52 ≤ number.significand ∧ number.significand < 2 ^ 53 ∧ -1074 ≤ number.exponent ∧
      ∀ step : ℤ, value * 2 ^ exponent < 2 ^ (53 + step) →
        |number.toRat - value * 2 ^ exponent| ≤ 2 ^ (step - 1) := by
  have positive : significand ≠ 0 := by omega
  have wide : 52 ≤ significand.log2 := (Nat.le_log2 positive).mpr full
  obtain ⟨count, bits⟩ := Nat.exists_eq_add_of_le wide
  obtain ⟨least_kept, most_kept⟩ := shifted_filled positive bits
  have near := (approximates.shiftRight count).rounded
  have cut := mantissa_shiftRight (.ofMantissaAndAccuracy significand accuracy) count
  have above := le_roundedMantissa (ExtendedMantissa.ofMantissaAndAccuracy significand accuracy >>> count)
  have below := roundedMantissa_le (ExtendedMantissa.ofMantissaAndAccuracy significand accuracy >>> count)
  rw [mantissa_ofMantissaAndAccuracy] at cut
  rw [cut] at above below
  have last : rounding significand exponent accuracy = shiftToTargetExponent Format.binary64
      (ExtendedMantissa.ofMantissaAndAccuracy significand accuracy >>> count).roundedMantissa
      (exponent + count) .exact := by
    rw [rounding, shiftToTargetExponent_eq wide least, bits, Nat.add_sub_cancel_left]
  generalize (ExtendedMantissa.ofMantissaAndAccuracy significand accuracy >>> count).roundedMantissa = rounded at *
  have higher : -1074 ≤ exponent + count := by omega
  obtain ⟨number, same, power, filled, fits, up, equal⟩ := shift_rounded (least_kept.trans above) (by omega) higher
  refine ⟨number, ?_, filled, fits, by omega, fun step small => ?_⟩
  · have some : 0 < number.significand := by omega
    rw [Binary.unpacked_pos false some, roundWithAccuracy_finite (by rwa [last, same]), UnpackedFloat.finite.injEq,
      last]
    exact ⟨rfl, same, power⟩
  · have whole : (significand : ℚ) ≤ value := by
      rw [← mantissa_ofMantissaAndAccuracy significand accuracy]
      exact approximates.low
    have low := Nat.log2_self_le positive
    rw [bits] at low
    have many : (2 : ℚ) ^ (52 + count) ≤ significand := by exact_mod_cast low
    rw [equal]
    exact rounding_error (many.trans whole) near small

variable {first second : Binary}

theorem toRat_log2 (positive : 0 < first.significand) :
    2 ^ (first.significand.log2 + first.exponent) ≤ first.toRat ∧
      first.toRat < 2 ^ (first.significand.log2 + 1 + first.exponent) := by
  have low : (2 : ℚ) ^ first.significand.log2 ≤ first.significand := by
    exact_mod_cast Nat.log2_self_le (Nat.ne_of_gt positive)
  have high : (first.significand : ℚ) < 2 ^ (first.significand.log2 + 1) := by
    exact_mod_cast Nat.lt_log2_self
  constructor
  · rw [zpow_add₀ two_ne_zero, zpow_natCast]
    exact mul_le_mul_of_nonneg_right low (by positivity)
  · rw [zpow_add₀ two_ne_zero, ← Nat.cast_succ, zpow_natCast]
    exact mul_lt_mul_of_pos_right high (by positivity)

/-- Numbers of some bits have a quotient of as many bits as they differ by, or of one more. -/
theorem quotient_log2 (positive : 0 < first.significand) (filled : 0 < second.significand) :
    2 ^ (first.significand.log2 + first.exponent - second.significand.log2 - second.exponent - 1) <
        first.toRat / second.toRat ∧
      first.toRat / second.toRat <
        2 ^ (first.significand.log2 + first.exponent - second.significand.log2 - second.exponent + 1) := by
  obtain ⟨firstLow, firstHigh⟩ := toRat_log2 positive
  obtain ⟨secondLow, secondHigh⟩ := toRat_log2 filled
  have some : 0 < second.toRat := (zpow_pos two_pos _).trans_le secondLow
  constructor
  · calc
      (2 : ℚ) ^ (first.significand.log2 + first.exponent - second.significand.log2 - second.exponent - 1) =
          2 ^ (first.significand.log2 + first.exponent) / 2 ^ (second.significand.log2 + 1 + second.exponent) := by
        rw [← zpow_sub₀ two_ne_zero]
        congr 1
        ring
      _ < 2 ^ (first.significand.log2 + first.exponent) / second.toRat :=
        div_lt_div_of_pos_left (by positivity) some secondHigh
      _ ≤ first.toRat / second.toRat := div_le_div_of_nonneg_right firstLow some.le
  · calc
      first.toRat / second.toRat < 2 ^ (first.significand.log2 + 1 + first.exponent) / second.toRat :=
        div_lt_div_of_pos_right firstHigh some
      _ ≤ 2 ^ (first.significand.log2 + 1 + first.exponent) / 2 ^ (second.significand.log2 + second.exponent) :=
        div_le_div_of_nonneg_left (by positivity) (by positivity) secondLow
      _ = _ := by
        rw [← zpow_sub₀ two_ne_zero]
        congr 1
        ring

theorem le_quotient {numerator denominator : ℕ} {step : ℤ} (filled : 0 < denominator)
    (wide : (2 : ℚ) ^ (52 + step) ≤ numerator / denominator * 2 ^ step) : 2 ^ 52 ≤ numerator / denominator := by
  rw [zpow_add₀ two_ne_zero] at wide
  have wide := le_of_mul_le_mul_right wide (zpow_pos two_pos step)
  rw [le_div_iff₀ (by exact_mod_cast filled)] at wide
  rw [Nat.le_div_iff_mul_le filled]
  exact_mod_cast wide

theorem significand_pos (low : 1 ≤ first.toRat / second.toRat) : 0 < first.significand := by
  by_contra none
  have zero : first.toRat = 0 := by simp [Binary.toRat, Nat.eq_zero_of_not_pos none]
  rw [zero, zero_div] at low
  exact absurd low (by norm_num)

/-- The first significand is shifted by what the exponents leave over. -/
theorem shifted_quotient {target : ℤ} {shift : ℕ} (filled : 0 < second.significand)
    (parts : first.exponent - second.exponent = target + shift) :
    ((first.significand <<< shift : ℕ) : ℚ) / second.significand * 2 ^ target = first.toRat / second.toRat := by
  have some : (second.significand : ℚ) ≠ 0 := by exact_mod_cast filled.ne'
  rw [Nat.shiftLeft_eq, Binary.toRat, Binary.toRat,
    show first.exponent = second.exponent + (target + shift) by omega, zpow_add₀ two_ne_zero,
    zpow_add₀ two_ne_zero, zpow_natCast, Nat.cast_mul, Nat.cast_pow, Nat.cast_ofNat]
  field_simp

/-- A number that is close to one below two to the tenth is canonical. -/
theorem canonical_of_close {number : Binary} {exact : ℚ} (full : 2 ^ 52 ≤ number.significand)
    (fits : number.significand < 2 ^ 53) (least : -1074 ≤ number.exponent) (high : exact < 2 ^ (10 : ℤ))
    (close : |number.toRat - exact| ≤ 2 ^ (-44 : ℤ)) : Canonical number := by
  have bound : (2 : ℚ) ^ (52 + number.exponent) < 2 ^ (11 : ℤ) := calc
    (2 : ℚ) ^ (52 + number.exponent) ≤ number.toRat := Binary.le_toRat full
    _ ≤ exact + 2 ^ (-44 : ℤ) := by linarith [(abs_le.mp close).2]
    _ < 2 ^ (11 : ℤ) := by
      norm_num at high ⊢
      linarith
  have exponents := (zpow_lt_zpow_iff_right₀ one_lt_two).mp bound
  exact ⟨fits, .inl full, least, by omega⟩

/-- Shifted so far that it has all bits of a float, a quotient is rounded to the nearest one. -/
theorem round_quotient {target : ℤ} {shift : ℕ} (filled : 0 < second.significand)
    (parts : first.exponent - second.exponent = target + shift) (least : -1074 ≤ target)
    (wide : 2 ^ (52 + target) ≤ first.toRat / second.toRat) (high : first.toRat / second.toRat < 2 ^ (10 : ℤ)) :
    ∃ number : Binary, roundWithAccuracy Format.binary64 .positive (first.significand <<< shift / second.significand)
        target (accuracyOfFraction (first.significand <<< shift % second.significand) second.significand) =
        number.unpacked false ∧
      Canonical number ∧ |number.toRat - first.toRat / second.toRat| ≤ 2 ^ (-44 : ℤ) := by
  have scaled := shifted_quotient filled parts
  have near := roundWithAccuracy_near (approximates_quotient (first.significand <<< shift) filled)
    (le_quotient filled (wide.trans_eq scaled.symm)) least
  rw [scaled] at near
  obtain ⟨number, same, full, fits, least, near⟩ := near
  have close := near (-43) (by simpa using high)
  exact ⟨number, same, canonical_of_close full fits least high close, close⟩

/-- The exponent at which a quotient has the bits of a float, or more. -/
def quotientExponent (first second : Binary) : ℤ :=
  min (first.exponent - second.exponent) (max (first.significand.log2 + 1 + first.exponent -
    (second.significand.log2 + 1 + second.exponent) - 53) (-1074))

theorem div_unpacked (positive : 0 < first.significand) (filled : 0 < second.significand)
    (aimed : quotientExponent first second = target) :
    UnpackedFloat.div Format.binary64 (first.unpacked false) (second.unpacked false) =
      roundWithAccuracy Format.binary64 .positive
        (first.significand <<< (first.exponent - second.exponent - target).toNat / second.significand) target
        (accuracyOfFraction
          (first.significand <<< (first.exponent - second.exponent - target).toNat % second.significand)
          second.significand) := by
  rw [Binary.unpacked_pos false positive, Binary.unpacked_pos false filled, ← aimed]
  rfl

/-- A quotient from one up to a thousand and twenty-four is at most half a unit of its last place away. -/
theorem div_near (canonical : Canonical first) (filled : 0 < second.significand)
    (low : 1 ≤ first.toRat / second.toRat) (high : first.toRat / second.toRat < 2 ^ (10 : ℤ)) :
    ∃ number : Binary, UnpackedFloat.div Format.binary64 (first.unpacked false) (second.unpacked false) =
        number.unpacked false ∧
      Canonical number ∧ |number.toRat - first.toRat / second.toRat| ≤ 2 ^ (-44 : ℤ) := by
  have positive := significand_pos low
  obtain ⟨more, less⟩ := quotient_log2 positive filled
  have narrow : first.significand.log2 < 53 := (Nat.log2_lt (Nat.ne_of_gt positive)).mpr canonical.fits
  generalize bits_eq : first.significand.log2 + first.exponent - second.significand.log2 - second.exponent = bits
    at more less
  have upper : bits - 1 < 10 := (zpow_lt_zpow_iff_right₀ one_lt_two).mp (more.trans high)
  have lower : 0 < bits + 1 := by
    rw [← zpow_lt_zpow_iff_right₀ (one_lt_two (α := ℚ)), zpow_zero]
    exact low.trans_lt less
  obtain ⟨target, target_eq⟩ : ∃ target, quotientExponent first second = target := ⟨_, rfl⟩
  rw [div_unpacked positive filled target_eq]
  unfold quotientExponent at target_eq
  have wide : (2 : ℚ) ^ (52 + target) ≤ first.toRat / second.toRat := calc
    (2 : ℚ) ^ (52 + target) ≤ 2 ^ (bits - 1) := zpow_le_zpow_right₀ one_le_two (by omega)
    _ ≤ first.toRat / second.toRat := more.le
  exact round_quotient filled (by omega) (by omega) wide high

theorem meaning_div {value other : Float} (left : meaning value = .finite false first)
    (right : meaning other = .finite false second) (filled : 0 < second.significand)
    (low : 1 ≤ first.toRat / second.toRat) (high : first.toRat / second.toRat < 2 ^ (10 : ℤ)) :
    ∃ number, meaning (value / other) = .finite false number ∧
      |number.toRat - first.toRat / second.toRat| ≤ 2 ^ (-44 : ℤ) := by
  obtain ⟨number, same, canonical, near⟩ := div_near (.of_meaning left) filled low high
  refine ⟨number, canonical.meaning_pack ?_, near⟩
  rw [← same, ← unpack_of_meaning left, ← unpack_of_meaning right]
  rfl

end
end LiterateCalc.Decimal
