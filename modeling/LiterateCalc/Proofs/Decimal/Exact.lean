import Mathlib.Algebra.Order.Field.Power
import Mathlib.Tactic.Linarith
import LiterateCalc.Decimal.Binary
import LiterateCalc.Proofs.Decimal.Comparison

namespace LiterateCalc.Decimal
open Float.Model (Format UnpackedFloat)
open Float.Model.UnpackedFloat

/-- The number as a fraction. -/
def Binary.toRat (number : Binary) : ℚ := number.significand * 2 ^ number.exponent

/-- What an unpacked float stands for; a zero has the least exponent. -/
def Meaning.ofUnpacked : UnpackedFloat → Meaning
  | .notANumber => .nan
  | .infinity sign => .infinite (sign == .negative)
  | .zero sign => .finite (sign == .negative) ⟨0, -1074⟩
  | .finite sign significand exponent _ => .finite (sign == .negative) ⟨significand, exponent⟩

/-- A significand that fits, and uses all of its bits unless the exponent is the least. -/
structure Canonical (number : Binary) : Prop where
  fits : number.significand < 2 ^ 53
  full : 2 ^ 52 ≤ number.significand ∨ number.exponent = -1074
  least : -1074 ≤ number.exponent
  most : number.exponent ≤ 971

section
variable (bits : BitVec 64)

theorem ofBits_eq : Meaning.ofBits bits.toNat = .ofUnpacked (unpack Format.binary64 bits) := by
  unfold Meaning.ofBits
  dsimp only
  cases bits using packComponents_cases with
  | special sign significand =>
    rw [exponentBits_packComponents, fractionBits_packComponents, signBit_packComponents, unpack_special,
      if_pos (show (-1#11).toNat = 2047 from rfl)]
    by_cases empty : significand = 0#52
    · rw [empty]
      rfl
    · rw [if_neg (Nat.ne_of_gt (toNat_pos empty)), if_neg empty]
      rfl
  | zero sign =>
    rw [exponentBits_packComponents, fractionBits_packComponents, signBit_packComponents, unpack_zero]
    rfl
  | subnormal sign significand positive =>
    rw [exponentBits_packComponents, fractionBits_packComponents, signBit_packComponents,
      unpack_subnormal positive]
    rfl
  | normal sign exponent significand proper more =>
    have below : exponent.toNat ≠ 2047 := fun same => proper (BitVec.eq_of_toNat_eq same)
    have above : exponent.toNat ≠ 0 := fun same => more (BitVec.eq_of_toNat_eq same)
    rw [exponentBits_packComponents, fractionBits_packComponents, signBit_packComponents,
      unpack_normal proper more (by omega), if_neg below, if_neg above]
    rfl

/-- The float that arithmetic works with is the exact number. -/
theorem meaning_eq (value : Float) : meaning value = .ofUnpacked value.toModel.unpack :=
  ofBits_eq value.toModel.toBits.toBitVec

theorem canonical_ofBits (finite : Meaning.ofBits bits.toNat = .finite negative number) : Canonical number := by
  have small : fractionBits bits.toNat < 2 ^ 52 := Nat.mod_lt _ (Nat.two_pow_pos 52)
  have power : exponentBits bits.toNat < 2 ^ 11 := Nat.mod_lt _ (Nat.two_pow_pos 11)
  unfold Meaning.ofBits at finite
  simp only at finite
  split at finite
  · split at finite <;> cases finite
  · rename_i proper
    split at finite
    · obtain ⟨-, rfl⟩ := Meaning.finite.inj finite
      exact ⟨Nat.lt_trans small (by decide), .inr rfl, Int.le_refl _, (by decide : (-1074 : Int) ≤ 971)⟩
    · obtain ⟨-, rfl⟩ := Meaning.finite.inj finite
      constructor <;> simp only <;> omega

end

section
variable {value : Float} {number : Binary}

theorem Canonical.of_meaning (finite : meaning value = .finite negative number) : Canonical number :=
  canonical_ofBits value.toModel.toBits.toBitVec finite

/-- The unpacked float that stands for a number. -/
def Binary.unpacked (negative : Bool) (number : Binary) : UnpackedFloat :=
  if positive : 0 < number.significand then
    .finite (if negative then .negative else .positive) number.significand number.exponent positive
  else .zero (if negative then .negative else .positive)

theorem Binary.unpacked_pos (negative : Bool) (positive : 0 < number.significand) :
    number.unpacked negative =
      .finite (if negative then .negative else .positive) number.significand number.exponent positive :=
  dif_pos positive

theorem Binary.unpacked_zero (negative : Bool) (zero : ¬ 0 < number.significand) :
    number.unpacked negative = .zero (if negative then .negative else .positive) :=
  dif_neg zero

theorem ofUnpacked_eq_finite {unpacked : UnpackedFloat}
    (finite : Meaning.ofUnpacked unpacked = .finite negative number) : unpacked = number.unpacked negative := by
  cases unpacked with
  | notANumber => cases finite
  | infinity sign => cases finite
  | zero sign =>
    obtain ⟨rfl, rfl⟩ := Meaning.finite.inj finite
    cases sign <;> rfl
  | finite sign significand exponent positive =>
    obtain ⟨rfl, rfl⟩ := Meaning.finite.inj finite
    rw [Binary.unpacked_pos _ positive]
    cases sign <;> rfl

theorem unpack_of_meaning (finite : meaning value = .finite negative number) :
    value.toModel.unpack = number.unpacked negative :=
  ofUnpacked_eq_finite ((meaning_eq value).symm.trans finite)

theorem Canonical.ofUnpacked_unpacked (canonical : Canonical number) (negative : Bool) :
    Meaning.ofUnpacked (number.unpacked negative) = .finite negative number := by
  by_cases positive : 0 < number.significand
  · rw [Binary.unpacked_pos negative positive]
    cases negative <;> rfl
  · have none : number.significand = 0 := Nat.eq_zero_of_not_pos positive
    have least : number.exponent = -1074 := canonical.full.resolve_left (by omega)
    obtain ⟨significand, exponent⟩ := number
    subst none least
    rw [Binary.unpacked_zero negative positive]
    cases negative <;> rfl

theorem unpack_full (sign : Sign) {significand : Nat} {exponent : Int} (positive : 0 < significand)
    (fits : significand < 2 ^ 53) (full : 2 ^ 52 ≤ significand) (least : -1074 ≤ exponent)
    (most : exponent ≤ 971) :
    unpack Format.binary64 (packComponents Format.binary64 sign
      (BitVec.ofNat 11 (exponent + 1023 + 52).toNat) (BitVec.ofNat 52 significand)) =
        .finite sign significand exponent positive := by
  have power : (BitVec.ofNat 11 (exponent + 1023 + 52).toNat).toNat = (exponent + 1075).toNat := by
    rw [BitVec.toNat_ofNat]
    omega
  have rest : (BitVec.ofNat 52 significand).toNat = significand - 2 ^ 52 := by
    rw [BitVec.toNat_ofNat]
    omega
  have proper : BitVec.ofNat 11 (exponent + 1023 + 52).toNat ≠ -1#11 := fun same => by
    have ones := congrArg BitVec.toNat same
    rw [power, show (-1#11).toNat = 2047 from rfl] at ones
    omega
  have more : BitVec.ofNat 11 (exponent + 1023 + 52).toNat ≠ 0#11 := fun same => by
    have none := congrArg BitVec.toNat same
    rw [power, show (0#11).toNat = 0 from rfl] at none
    omega
  rw [unpack_normal proper more (by omega), UnpackedFloat.finite.injEq, rest, power]
  exact ⟨rfl, by omega, by omega⟩

theorem unpack_small (sign : Sign) {significand : Nat} (positive : 0 < significand) (small : significand < 2 ^ 52) :
    unpack Format.binary64 (packComponents Format.binary64 sign 0#11 (BitVec.ofNat 52 significand)) =
      .finite sign significand (-1074) positive := by
  have whole : (BitVec.ofNat 52 significand).toNat = significand := Nat.mod_eq_of_lt small
  rw [unpack_subnormal (by rwa [whole]), UnpackedFloat.finite.injEq]
  exact ⟨rfl, whole, rfl⟩

/-- Storing a number in the bits of a float keeps it. -/
theorem Canonical.unpack_pack (canonical : Canonical number) (negative : Bool) :
    unpack Format.binary64 (pack Format.binary64 (number.unpacked negative)) = number.unpacked negative := by
  by_cases positive : 0 < number.significand
  · have most := canonical.most
    rw [Binary.unpacked_pos negative positive, pack_finite, if_neg (by omega)]
    by_cases full : 2 ^ 52 ≤ number.significand
    · have bits := (Nat.log2_eq_iff (Nat.ne_of_gt positive)).mpr ⟨full, canonical.fits⟩
      rw [if_pos (congrArg (· + 1) bits)]
      exact unpack_full _ positive canonical.fits full canonical.least most
    · have bits : number.significand.log2 < 52 := (Nat.log2_lt (Nat.ne_of_gt positive)).mpr (by omega)
      rw [if_neg (by omega), canonical.full.resolve_left full]
      exact unpack_small _ positive (by omega)
  · rw [Binary.unpacked_zero negative positive]
    exact unpack_zero

theorem Canonical.meaning_pack (canonical : Canonical number)
    (stored : value.toModel = Float.Model.pack (number.unpacked negative)) :
    meaning value = .finite negative number := by
  rw [meaning_eq, stored]
  exact (congrArg _ (canonical.unpack_pack negative)).trans (canonical.ofUnpacked_unpacked negative)

theorem meaning_abs (finite : meaning value = .finite negative number) : meaning value.abs = .finite false number := by
  refine (Canonical.of_meaning finite).meaning_pack ?_
  have stored : value.abs.toModel = Float.Model.pack value.toModel.unpack.abs := rfl
  rw [stored, unpack_of_meaning finite]
  by_cases positive : 0 < number.significand
  · rw [Binary.unpacked_pos negative positive, Binary.unpacked_pos false positive]
    rfl
  · rw [Binary.unpacked_zero negative positive, Binary.unpacked_zero false positive]
    rfl

end

section
variable {first second : Binary}

theorem Canonical.toRat_lt (canonical : Canonical first) : first.toRat < 2 ^ (53 + first.exponent) := by
  rw [zpow_add₀ (by norm_num)]
  exact mul_lt_mul_of_pos_right (by exact_mod_cast canonical.fits) (by positivity)

theorem Binary.le_toRat (full : 2 ^ 52 ≤ first.significand) : 2 ^ (52 + first.exponent) ≤ first.toRat := by
  rw [zpow_add₀ two_ne_zero]
  exact mul_le_mul_of_nonneg_right (by exact_mod_cast full) (by positivity)

/-- Numbers that are not too small lie on a grid. -/
theorem Canonical.on_grid (canonical : Canonical first) {step : ℤ} (above : 2 ^ (52 + step) ≤ first.toRat) :
    ∃ count : ℕ, first.toRat = count * 2 ^ step := by
  have powers : (2 : ℚ) ^ (52 + step) < 2 ^ (53 + first.exponent) := above.trans_lt canonical.toRat_lt
  have coarse : step ≤ first.exponent := by
    have exponents := (zpow_lt_zpow_iff_right₀ (by norm_num)).mp powers
    omega
  refine ⟨first.significand * 2 ^ (first.exponent - step).toNat, ?_⟩
  rw [Binary.toRat, Nat.cast_mul, Nat.cast_pow, ← zpow_natCast, Int.toNat_of_nonneg (by omega), mul_assoc,
    Nat.cast_ofNat, ← zpow_add₀ (by norm_num), Int.sub_add_cancel]

/-- What lies below a whole number is at least one step of the grid below it. -/
theorem Canonical.gap (canonical : Canonical first) {step bound : ℕ} (below : first.toRat < bound)
    (wide : 2 ^ 52 / 2 ^ step + 1 / 2 ^ step ≤ (bound : ℚ)) : first.toRat ≤ bound - 1 / 2 ^ step := by
  rcases lt_or_ge first.toRat (2 ^ 52 / 2 ^ step) with small | large
  · linarith
  · have grid : (2 : ℚ) ^ (52 + -(step : ℤ)) ≤ first.toRat := by
      rwa [zpow_add₀ two_ne_zero, zpow_neg, zpow_natCast, ← div_eq_mul_inv]
    obtain ⟨count, same⟩ := canonical.on_grid grid
    rw [zpow_neg, zpow_natCast, ← div_eq_mul_inv] at same
    have positive : (0 : ℚ) < 2 ^ step := by positivity
    have fewer : count < bound * 2 ^ step := by
      rw [same, div_lt_iff₀ positive] at below
      exact_mod_cast below
    have next : (count : ℚ) + 1 ≤ bound * 2 ^ step := by exact_mod_cast fewer
    rw [same, le_sub_iff_add_le, ← add_div, div_le_iff₀ positive]
    exact next

theorem Canonical.lt_of_exponent_lt (canonical : Canonical first) (also : Canonical second)
    (less : first.exponent < second.exponent) : first.toRat < second.toRat := by
  have least := canonical.least
  have full : 2 ^ 52 ≤ second.significand := also.full.resolve_right (by omega)
  calc
    first.toRat < 2 ^ (53 + first.exponent) := canonical.toRat_lt
    _ ≤ 2 ^ (52 + second.exponent) := zpow_le_zpow_right₀ (by norm_num) (by omega)
    _ ≤ second.toRat := Binary.le_toRat full

theorem Canonical.le_iff (canonical : Canonical first) (also : Canonical second) :
    ((first.unpacked false).compare (second.unpacked false)).any (·.isLE) = true ↔ first.toRat ≤ second.toRat := by
  by_cases positive : 0 < first.significand
  · by_cases filled : 0 < second.significand
    · rw [Binary.unpacked_pos false positive, Binary.unpacked_pos false filled]
      change ((compare first.exponent second.exponent).then
        (compare first.significand second.significand)).isLE = true ↔ _
      rcases lt_trichotomy first.exponent second.exponent with less | same | more
      · rw [compare_lt_iff_lt.mpr less]
        exact iff_of_true rfl (canonical.lt_of_exponent_lt also less).le
      · rw [compare_eq_iff_eq.mpr same, Ordering.eq_then, Binary.toRat, Binary.toRat, same,
          mul_le_mul_iff_left₀ (by positivity), Nat.cast_le]
        exact Nat.isLE_compare
      · rw [compare_gt_iff_gt.mpr more]
        exact iff_of_false nofun (not_le.mpr (also.lt_of_exponent_lt canonical more))
    · rw [Binary.unpacked_pos false positive, Binary.unpacked_zero false filled]
      have none : second.significand = 0 := Nat.eq_zero_of_not_pos filled
      refine iff_of_false nofun (not_le.mpr ?_)
      simp only [Binary.toRat, none, Nat.cast_zero, zero_mul]
      have some : (0 : ℚ) < first.significand := by exact_mod_cast positive
      positivity
  · have none : first.significand = 0 := Nat.eq_zero_of_not_pos positive
    rw [Binary.unpacked_zero false positive]
    refine iff_of_true ?_ ?_
    · by_cases filled : 0 < second.significand
      · rw [Binary.unpacked_pos false filled]
        rfl
      · rw [Binary.unpacked_zero false filled]
        rfl
    · simp only [Binary.toRat, none, Nat.cast_zero, zero_mul]
      positivity

theorem le_iff_toRat (left : meaning value = .finite false first) (right : meaning other = .finite false second) :
    value ≤ other ↔ first.toRat ≤ second.toRat := by
  rw [le_iff_compare, unpack_of_meaning left, unpack_of_meaning right]
  exact (Canonical.of_meaning left).le_iff (.of_meaning right)

end
end LiterateCalc.Decimal
