import LiterateCalc.Decimal.Binary

namespace LiterateCalc.Decimal
open Float.Model (Format UnpackedFloat)
open Float.Model.UnpackedFloat

theorem toNat_pos {word : BitVec 52} (filled : word ≠ 0#52) : 0 < word.toNat :=
  Nat.pos_of_ne_zero fun none => filled (BitVec.eq_of_toNat_eq none)

section
variable (bits : BitVec 64)

theorem unpackMantissa_eq : @unpackMantissa Format.binary64 bits = bits.extractLsb' 0 52 := rfl

theorem unpackExponent_eq : @unpackExponent Format.binary64 bits = bits.extractLsb' 52 11 := rfl

theorem unpackSign_eq : @unpackSign Format.binary64 bits = bits.extractLsb' 63 1 := rfl

theorem toNat_unpackMantissa : (@unpackMantissa Format.binary64 bits).toNat = fractionBits bits.toNat := by
  rw [unpackMantissa_eq, BitVec.extractLsb'_toNat]
  rfl

theorem toNat_unpackExponent : (@unpackExponent Format.binary64 bits).toNat = exponentBits bits.toNat := by
  rw [unpackExponent_eq, BitVec.extractLsb'_toNat, Nat.shiftRight_eq_div_pow]
  rfl

theorem unpackSign_negative :
    (Sign.ofBitVec (@unpackSign Format.binary64 bits) == .negative) = signBit bits.toNat := by
  have bit : (@unpackSign Format.binary64 bits).toNat = bits.toNat / 2 ^ (63 : Nat) % 2 := by
    rw [unpackSign_eq, BitVec.extractLsb'_toNat, Nat.shiftRight_eq_div_pow]
  rw [signBit, ← bit]
  generalize @unpackSign Format.binary64 bits = sign
  revert sign
  decide

/-- A word is put together from the parts that are read of it. -/
theorem packComponents_parts :
    packComponents Format.binary64 (Sign.ofBitVec (@unpackSign Format.binary64 bits))
      (unpackExponent bits) (unpackMantissa bits) = bits := by
  have sign : ∀ bit : BitVec 1, (Sign.ofBitVec bit).toBitVec = bit := by decide
  rw [packComponents, sign, unpackSign_eq, unpackExponent_eq, unpackMantissa_eq,
    BitVec.extractLsb'_append_extractLsb'_eq_extractLsb' (by decide),
    BitVec.extractLsb'_append_extractLsb'_eq_extractLsb' (by decide)]
  exact BitVec.extractLsb'_eq_self

end

section
variable {sign : Sign} {exponent : BitVec 11} {significand : BitVec 52}

theorem ofBitVec_unpackSign :
    Sign.ofBitVec (@unpackSign Format.binary64 (packComponents Format.binary64 sign exponent significand)) =
      sign := by
  change Sign.ofBitVec ((sign.toBitVec ++ exponent ++ significand).extractLsb' 63 1) = sign
  rw [BitVec.extractLsb'_append_eq_of_le (by decide), BitVec.extractLsb'_append_eq_of_le (by decide)]
  cases sign <;> rfl

theorem fractionBits_packComponents :
    fractionBits (packComponents Format.binary64 sign exponent significand).toNat = significand.toNat := by
  rw [← toNat_unpackMantissa, unpackMantissa_packComponents]

theorem exponentBits_packComponents :
    exponentBits (packComponents Format.binary64 sign exponent significand).toNat = exponent.toNat := by
  rw [← toNat_unpackExponent, unpackExponent_packComponents]

theorem signBit_packComponents :
    signBit (packComponents Format.binary64 sign exponent significand).toNat = (sign == .negative) := by
  rw [← unpackSign_negative, ofBitVec_unpackSign]

theorem pack_finite (number : Nat) (power : Int) (positive : 0 < number) :
    pack Format.binary64 (.finite sign number power positive) =
      if 2048 ≤ (power + 1023 + 52).toNat + 1 then packedInfinity Format.binary64 sign
      else if number.log2 + 1 = 53 then
        packComponents Format.binary64 sign (BitVec.ofNat 11 (power + 1023 + 52).toNat) (BitVec.ofNat 52 number)
      else packComponents Format.binary64 sign 0#11 (BitVec.ofNat 52 number) := rfl

theorem unpack_special :
    unpack Format.binary64 (packComponents Format.binary64 sign (-1#11) significand) =
      if significand = 0#52 then .infinity sign else .notANumber := by
  unfold unpack
  dsimp only
  rw [if_pos unpackExponent_packComponents, unpackMantissa_packComponents, ofBitVec_unpackSign]

theorem unpack_zero : unpack Format.binary64 (packComponents Format.binary64 sign 0#11 0#52) = .zero sign := by
  cases sign <;> rfl

theorem unpack_subnormal (positive : 0 < significand.toNat) :
    unpack Format.binary64 (packComponents Format.binary64 sign 0#11 significand) =
      .finite sign significand.toNat (-1074) positive := by
  have filled : significand ≠ 0#52 := by
    rintro rfl
    exact Nat.lt_irrefl 0 positive
  unfold unpack
  dsimp only
  rw [if_neg (by rw [unpackExponent_packComponents]; decide), if_pos unpackExponent_packComponents,
    dif_neg (by rwa [unpackMantissa_packComponents]), UnpackedFloat.finite.injEq, ofBitVec_unpackSign,
    unpackMantissa_packComponents, unpackExponent_packComponents]
  exact ⟨rfl, rfl, rfl⟩

theorem unpack_normal (proper : exponent ≠ -1#11) (more : exponent ≠ 0#11)
    (positive : 0 < significand.toNat + 2 ^ (52 : Nat)) :
    unpack Format.binary64 (packComponents Format.binary64 sign exponent significand) =
      .finite sign (significand.toNat + 2 ^ (52 : Nat)) (exponent.toNat - 1075) positive := by
  have whole : (1#1 ++ significand).toNat = significand.toNat + 2 ^ (52 : Nat) := by
    rw [BitVec.toNat_append]
    exact (Nat.shiftLeft_add_eq_or_of_lt significand.isLt 1).symm.trans (Nat.add_comm _ _)
  unfold unpack
  dsimp only
  rw [if_neg (by rwa [unpackExponent_packComponents]), if_neg (by rwa [unpackExponent_packComponents]),
    UnpackedFloat.finite.injEq, ofBitVec_unpackSign, unpackMantissa_packComponents,
    unpackExponent_packComponents, whole]
  exact ⟨rfl, rfl, rfl⟩

end

/-- What holds of the words of all kinds of floats holds of every word. -/
theorem packComponents_cases {motive : BitVec 64 → Prop} (bits : BitVec 64)
    (special : ∀ sign significand, motive (packComponents Format.binary64 sign (-1#11) significand))
    (zero : ∀ sign, motive (packComponents Format.binary64 sign 0#11 0#52))
    (subnormal : ∀ sign significand, 0 < significand.toNat →
      motive (packComponents Format.binary64 sign 0#11 significand))
    (normal : ∀ sign exponent significand, exponent ≠ -1#11 → exponent ≠ 0#11 →
      motive (packComponents Format.binary64 sign exponent significand)) : motive bits := by
  rw [← packComponents_parts bits]
  generalize Sign.ofBitVec (@unpackSign Format.binary64 bits) = sign
  generalize @unpackExponent Format.binary64 bits = exponent
  generalize @unpackMantissa Format.binary64 bits = significand
  by_cases ones : exponent = -1#11
  · rw [ones]
    exact special sign significand
  by_cases least : exponent = 0#11
  · rw [least]
    by_cases empty : significand = 0#52
    · rw [empty]
      exact zero sign
    · exact subnormal sign significand (toNat_pos empty)
  · exact normal sign exponent significand ones least

theorem eq_packedInfinity {bits : BitVec 64} (infinite : unpack Format.binary64 bits = .infinity sign) :
    bits = packedInfinity Format.binary64 sign := by
  cases bits using packComponents_cases with
  | special other significand =>
    rw [unpack_special] at infinite
    by_cases empty : significand = 0#52
    · rw [if_pos empty] at infinite
      rw [empty, UnpackedFloat.infinity.inj infinite]
      rfl
    · rw [if_neg empty] at infinite
      cases infinite
  | zero other =>
    rw [unpack_zero] at infinite
    cases infinite
  | subnormal other significand positive =>
    rw [unpack_subnormal positive] at infinite
    cases infinite
  | normal other exponent significand proper more =>
    rw [unpack_normal proper more (by omega)] at infinite
    cases infinite

theorem targetExponent_eq (total : Int) : Format.binary64.targetExponent total = max (total - 53) (-1074) := rfl

section
variable {sign : Sign} {significand : Nat} {exponent : Int} {accuracy : Accuracy}

/-- The significand and the exponent that rounding leaves of a number. -/
def rounding (significand : Nat) (exponent : Int) (accuracy : Accuracy) : ExtendedMantissa × Int :=
  let first := shiftToTargetExponent Format.binary64 significand exponent accuracy
  shiftToTargetExponent Format.binary64 first.1.roundedMantissa first.2 .exact

theorem roundWithAccuracy_zero (empty : (rounding significand exponent accuracy).1.mantissa = 0) :
    roundWithAccuracy Format.binary64 sign significand exponent accuracy = .zero sign :=
  dif_pos empty

theorem roundWithAccuracy_finite (positive : 0 < (rounding significand exponent accuracy).1.mantissa) :
    roundWithAccuracy Format.binary64 sign significand exponent accuracy =
      .finite sign (rounding significand exponent accuracy).1.mantissa
        (rounding significand exponent accuracy).2 positive :=
  dif_neg (Nat.ne_of_gt positive)

end
end LiterateCalc.Decimal
