import LiterateCalc.Decimal.Numeral
import LiterateCalc.Proofs.Decimal.Floats
import LiterateCalc.Proofs.Decimal.Plain
import LiterateCalc.Proofs.Expression.Words

/-! The digits of a count are read as that count, and as a finite float if it has at most sixty-four bits:
rounding keeps numbers of a moderate size finite. -/
namespace LiterateCalc.Decimal
open Float.Model (Format totalExponent UnpackedFloat)
open Float.Model.UnpackedFloat

/-- Zero, or a number with a significand of at most `width` bits and an exponent up to `top`. -/
inductive Bounded (width : Nat) (top : Int) : UnpackedFloat → Prop
  | zero (sign : Sign) : Bounded width top (.zero sign)
  | finite {sign : Sign} {significand : Nat} {exponent : Int} (positive : 0 < significand)
      (small : significand < 2 ^ width) (low : exponent ≤ top) :
      Bounded width top (.finite sign significand exponent positive)

theorem Bounded.isFinite {number : UnpackedFloat} (bounded : Bounded width top number) :
    number.isFinite = true := by
  cases bounded <;> rfl

theorem shiftRight_le (extended : ExtendedMantissa) (count : Nat) :
    (extended >>> count).mantissa ≤ extended.mantissa := by
  change (Nat.repeat ExtendedMantissa.shiftRightOne count extended).mantissa ≤ _
  induction count with
  | zero => exact Nat.le_refl _
  | succ count ih => exact Nat.le_trans (Nat.div_le_self _ 2) ih

theorem roundedMantissa_le (extended : ExtendedMantissa) : extended.roundedMantissa ≤ extended.mantissa + 1 := by
  unfold ExtendedMantissa.roundedMantissa Accuracy.roundToNearestEven
  split <;> omega

section
variable {significand width : Nat} {exponent top : Int} (small : significand < 2 ^ width) (low : exponent ≤ top)
  (above : -1074 ≤ top)
include small low above

theorem shiftToTargetExponent_le :
    (shiftToTargetExponent Format.binary64 significand exponent .exact).1.mantissa < 2 ^ width ∧
      (shiftToTargetExponent Format.binary64 significand exponent .exact).2 ≤ top + width := by
  have digits : significand.log2 ≤ width := by
    by_cases zero : significand = 0
    · simp [zero]
    · exact Nat.le_of_lt ((Nat.log2_lt zero).mpr small)
  constructor
  · exact Nat.lt_of_le_of_lt (shiftRight_le _ _) small
  · have shifted : (shiftToTargetExponent Format.binary64 significand exponent .exact).2 =
        exponent + (max (significand.log2 + 1 + exponent - 53) (-1074) - exponent).toNat := rfl
    omega

/-- Rounding adds at most one bit to the significand, and shifts by at most as many bits as there are. -/
theorem bounded_round (sign : Sign) :
    Bounded (width + 1) (top + width + (width + 1))
      (roundWithAccuracy Format.binary64 sign significand exponent .exact) := by
  obtain ⟨narrow, first⟩ := shiftToTargetExponent_le small low above
  have rounded := roundedMantissa_le (shiftToTargetExponent Format.binary64 significand exponent .exact).1
  have wider : (shiftToTargetExponent Format.binary64 significand exponent .exact).1.roundedMantissa <
      2 ^ (width + 1) := by
    rw [Nat.pow_succ]
    omega
  have last := shiftToTargetExponent_le wider first (by omega)
  rcases Nat.eq_zero_or_pos (rounding significand exponent .exact).1.mantissa with empty | positive
  · rw [roundWithAccuracy_zero empty]
    exact .zero sign
  · rw [roundWithAccuracy_finite positive]
    exact .finite positive last.1 (by exact_mod_cast last.2)

end

theorem bounded_unpack (sign : Sign) (exponent : BitVec 11) (significand : BitVec 52)
    (low : (exponent.toNat : Int) ≤ top + 1075) (below : top ≤ 900) (above : -1074 ≤ top) :
    Bounded 53 top (unpack Format.binary64 (packComponents Format.binary64 sign exponent significand)) := by
  have proper : exponent ≠ -1#11 := by
    rintro rfl
    change (2047 : Int) ≤ top + 1075 at low
    omega
  by_cases least : exponent = 0#11
  · rw [least]
    by_cases empty : significand = 0#52
    · rw [empty, unpack_zero]
      exact .zero sign
    · rw [unpack_subnormal (toNat_pos empty)]
      exact .finite _ (Nat.lt_of_lt_of_le significand.isLt (by decide)) above
  · have bound := significand.isLt
    rw [unpack_normal proper least (by omega)]
    exact .finite _ (by omega) (by omega)

theorem Bounded.unpack_pack {number : UnpackedFloat} (bounded : Bounded width top number) (below : top ≤ 900)
    (above : -1074 ≤ top) :
    Bounded 53 top (unpack Format.binary64 (pack Format.binary64 number)) := by
  cases bounded with
  | zero sign =>
    have kept : unpack Format.binary64 (pack Format.binary64 (.zero sign)) = .zero sign := unpack_zero
    rw [kept]
    exact .zero sign
  | @finite sign significand exponent positive small low =>
    rw [pack_finite, if_neg (by omega)]
    by_cases full : significand.log2 + 1 = 53
    · rw [if_pos full]
      apply bounded_unpack _ _ _ _ below above
      change (((exponent + 1023 + 52).toNat % 2048 : Nat) : Int) ≤ top + 1075
      omega
    · rw [if_neg full]
      apply bounded_unpack _ _ _ _ below above
      change (0 : Int) ≤ top + 1075
      omega

theorem Bounded.mul {first second : UnpackedFloat} (bounded : Bounded width top first)
    (also : Bounded others limit second) (above : -1074 ≤ top + limit) :
    Bounded (width + others + 1) (top + limit + (width + others : Nat) + (width + others + 1 : Nat))
      (UnpackedFloat.mul Format.binary64 first second) := by
  cases bounded with
  | zero sign => cases also <;> exact .zero _
  | @finite sign significand exponent positive small low =>
    cases also with
    | zero other => exact .zero _
    | @finite other second power filled narrow down =>
      have product : significand * second < 2 ^ (width + others) := by
        rw [Nat.pow_add]
        exact Nat.mul_lt_mul'' small narrow
      exact bounded_round product (Int.add_le_add low down) above _

/-- A whole number below the number of significands is stored as it is. -/
theorem bounded_ofUInt64 {count : Nat} (bound : count < 2 ^ (53 : Nat)) :
    Bounded 53 211 (Float.Model.ofUInt64 count.toUInt64).unpack := by
  have same : count.toUInt64.toNat = count := Nat.mod_eq_of_lt (by omega)
  suffices rounded : Bounded 106 211 (UnpackedFloat.ofUInt64 Format.binary64 count.toUInt64) from
    rounded.unpack_pack (by decide) (by decide)
  unfold UnpackedFloat.ofUInt64 UnpackedFloat.ofNat UnpackedFloat.ofInt UnpackedFloat.normalize
  rw [same]
  split
  · rename_i less
    rw [Int.compare_eq_lt] at less
    omega
  · exact .zero _
  · have shift : (0 - Format.binary64.targetExponent (totalExponent count 0)).toNat ≤ 52 := by
      rw [targetExponent_eq, totalExponent]
      omega
    have wide : count <<< (0 - Format.binary64.targetExponent (totalExponent count 0)).toNat < 2 ^ 105 := by
      rw [Nat.shiftLeft_eq]
      calc
        count * 2 ^ _ < 2 ^ 53 * 2 ^ 52 :=
          Nat.mul_lt_mul_of_lt_of_le bound (Nat.pow_le_pow_right (by decide) shift) (Nat.two_pow_pos _)
        _ = 2 ^ 105 := by decide
    have low : (0 : Int) - (0 - Format.binary64.targetExponent (totalExponent count 0)).toNat ≤ 0 := by omega
    exact bounded_round wide low (by decide) _

theorem bounded_ofScientific {count : Nat} (bound : count < 2 ^ (64 : Nat)) :
    Bounded 119 184 (UnpackedFloat.ofScientific Format.binary64 count 0) := by
  unfold UnpackedFloat.ofScientific
  by_cases zero : count = 0
  · rw [dif_pos zero]
    exact .zero _
  · have large : ¬ (0 : Int) < -(2 ^ Format.binary64.exponentBits + count.log2) := by
      change ¬ (0 : Int) < -(2048 + count.log2)
      omega
    have small : count <<< Format.binary64.mantissaBits < 2 ^ 117 := by
      rw [Nat.shiftLeft_eq]
      change count * 2 ^ 53 < 2 ^ 117
      omega
    have one : 10 ^ Int.toNat 0 < 2 ^ 1 := by decide
    rw [dif_neg zero, if_neg (by decide), if_neg large, if_pos (Int.le_refl 0)]
    exact (Bounded.finite _ small (Int.le_refl (-53))).mul (.finite _ one (Int.le_refl 0)) (by decide)

theorem ofScientific_isFinite {count : Nat} (bound : count < 2 ^ (64 : Nat)) :
    (Float.ofScientific count false 0).isFinite = true := by
  unfold Float.ofScientific
  split
  · rename_i small
    have unit : (Float.ofBits 4607182418800017408).toModel.unpack = .finite .positive (2 ^ 52) (-52) (by decide) := by
      rfl
    have one : Bounded 53 (-52) (Float.ofBits 4607182418800017408).toModel.unpack := by
      rw [unit]
      exact .finite _ (by decide) (Int.le_refl _)
    have product := (bounded_ofUInt64 small.1).mul one (by decide)
    exact (product.unpack_pack (by decide) (by decide)).isFinite
  · exact ((bounded_ofScientific bound).unpack_pack (by decide) (by decide)).isFinite

theorem digitsValue_decimal (count : Nat) : digitsValue (Text.decimal count) = count := by
  have same : digitsValue (Text.decimal count) = Nat.ofDigitChars 10 (Text.decimal count) 0 := by
    simp only [digitsValue, Nat.ofDigitChars, Nat.mul_comm]
    rfl
  exact same.trans (Nat.ofDigitChars_toDigits (by omega) (Nat.le_refl 10))

theorem decimal_ne_nil (count : Nat) : Text.decimal count ≠ [] := Nat.toDigits_ne_nil

/-- Only zero starts with a zero. -/
theorem decimal_head {count : Nat} (positive : count ≠ 0) : (Text.decimal count).head? ≠ some '0' := by
  induction count using Nat.strongRecOn with
  | ind count ih =>
    by_cases short : count < 10
    · rw [Text.decimal, Nat.toDigits_of_lt_base short]
      intro zero
      have digit := Nat.toNat_digitChar_sub_48_of_lt_ten short
      rw [Option.some.inj zero] at digit
      exact positive digit.symm
    · have before := ih (count / 10) (by omega) (by omega)
      rw [Text.decimal, Nat.toDigits_of_base_le (by omega) (by omega)]
      rwa [List.head?_append, Option.or_of_isSome (List.isSome_head?.mpr Nat.toDigits_ne_nil)]

theorem digitRun_append {digits rest : List Char} (each : ∀ c ∈ digits, isDigit c = true)
    (outside : rest.takeWhile isDigit = []) : digitRun (digits ++ rest) = (digits, rest) := by
  obtain ⟨whole, left⟩ := Expression.run_append each outside
  rw [digitRun, whole, left]

theorem digitRun_decimal (count : Nat) : digitRun (Text.decimal count) = (Text.decimal count, []) := by
  have digits : ∀ c ∈ Text.decimal count, isDigit c = true := fun c => isDigit_of_mem_decimal
  have run := digitRun_append digits List.takeWhile_nil
  rwa [List.append_nil] at run

theorem readNumeral_decimal (count : Nat) : readNumeral (Text.decimal count) = some (Numeral.toFloat ⟨count, 0⟩) := by
  have filled : (Text.decimal count).isEmpty = false := List.isEmpty_eq_false_iff.mpr (decimal_ne_nil count)
  simp only [readNumeral, scanNumeral, digitRun_decimal, fractionRun, exponentRun, filled, List.append_nil,
    Bool.false_and, digitsValue_decimal]
  rfl

theorem count_toFloat_isFinite {count : Nat} (bound : count < 2 ^ (64 : Nat)) :
    (Numeral.toFloat ⟨count, 0⟩).isFinite = true := by
  unfold Numeral.toFloat
  split
  · rfl
  · rename_i positive
    have short : digitCount count ≤ 20 := by
      rw [digitCount, if_neg positive, Text.decimal, Nat.length_toDigits_le_iff (by omega) (by omega)]
      omega
    dsimp only
    rw [if_neg (by omega), if_neg (by omega), if_pos (Int.le_refl 0)]
    exact ofScientific_isFinite bound

end LiterateCalc.Decimal
