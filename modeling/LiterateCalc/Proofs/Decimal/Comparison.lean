import LiterateCalc.Proofs.Decimal.Floats

namespace LiterateCalc.Decimal
open Float.Model (Format UnpackedFloat)
open Float.Model.UnpackedFloat

theorem sign_swap (first second : Sign) : (compare first second).swap = compare second first := by
  cases first <;> cases second <;> rfl

theorem magnitudes_swap (first second : Int) (more others : Nat) :
    ((compare first second).then (compare more others)).swap = (compare second first).then (compare others more) := by
  rw [Ordering.swap_then, Int.compare_swap, Nat.compare_swap]

theorem compare_swap (left right : UnpackedFloat) :
    (left.compare right).map Ordering.swap = right.compare left := by
  cases left with
  | notANumber => cases right <;> rfl
  | infinity sign =>
    cases right with
    | infinity other => exact congrArg some (sign_swap sign other)
    | notANumber | zero other | finite other significand exponent positive => cases sign <;> rfl
  | zero sign =>
    cases right with
    | notANumber | zero other => rfl
    | infinity other | finite other significand exponent positive => cases other <;> rfl
  | finite sign significand exponent positive =>
    cases right with
    | notANumber | zero other => cases sign <;> rfl
    | infinity other => cases sign <;> cases other <;> rfl
    | finite other otherSignificand otherExponent otherPositive =>
      have swapped := magnitudes_swap exponent otherExponent significand otherSignificand
      cases sign <;> cases other
      · exact congrArg (fun order => some order.swap) swapped
      · rfl
      · rfl
      · exact congrArg some swapped

theorem compare_eq_none {left right : UnpackedFloat} :
    left.compare right = none ↔ left.isNaN = true ∨ right.isNaN = true := by
  cases left with
  | notANumber => exact iff_of_true (by cases right <;> rfl) (.inl rfl)
  | infinity sign | zero sign | finite sign significand exponent positive =>
    cases right with
    | notANumber => exact iff_of_true (by cases sign <;> rfl) (.inr rfl)
    | infinity other | zero other | finite other otherSignificand otherExponent otherPositive =>
      refine iff_of_false ?_ (by rintro (unordered | unordered) <;> cases unordered)
      cases sign <;> cases other <;> exact nofun

theorem lt_iff_compare {left right : Float} :
    left < right ↔ left.toModel.unpack.compare right.toModel.unpack = some .lt := by
  change decide (left.toModel < right.toModel) = true ↔ _
  rw [decide_eq_true_iff]
  change (left.toModel.unpack.compare right.toModel.unpack == some .lt) = true ↔ _
  exact beq_iff_eq

theorem le_iff_compare {left right : Float} :
    left ≤ right ↔ (left.toModel.unpack.compare right.toModel.unpack).any (·.isLE) = true := by
  change decide (left.toModel ≤ right.toModel) = true ↔ _
  rw [decide_eq_true_iff]
  rfl

theorem not_lt_of_isNaN {left right : Float} (unordered : left.isNaN = true ∨ right.isNaN = true) :
    ¬ left < right := by
  rw [lt_iff_compare, compare_eq_none.mpr unordered]
  exact nofun

/-- What is not above another number is at most as large, if both are numbers. -/
theorem le_iff_not_lt {left right : Float} :
    right ≤ left ↔ ¬ left < right ∧ ¬ (left.isNaN = true ∨ right.isNaN = true) := by
  have ordered := @compare_eq_none left.toModel.unpack right.toModel.unpack
  rw [lt_iff_compare, le_iff_compare, ← compare_swap left.toModel.unpack]
  change _ ↔ _ ∧ ¬ (left.toModel.unpack.isNaN = true ∨ right.toModel.unpack.isNaN = true)
  rw [← ordered]
  cases left.toModel.unpack.compare right.toModel.unpack with
  | none => simp
  | some order => cases order <;> simp

/-- Only an exponent of ones stands for something other than a number. -/
theorem isNaN_unpack_packComponents (sign : Sign) {exponent : BitVec 11} (significand : BitVec 52)
    (proper : exponent ≠ -1#11) :
    (unpack Format.binary64 (packComponents Format.binary64 sign exponent significand)).isNaN = false := by
  by_cases least : exponent = 0#11
  · rw [least]
    by_cases empty : significand = 0#52
    · rw [empty, unpack_zero]
      rfl
    · rw [unpack_subnormal (toNat_pos empty)]
      rfl
  · rw [unpack_normal proper least (by omega)]
    rfl

/-- Storing a float in its bits may round it to infinity, but keeps it a number. -/
theorem isNaN_unpack_pack (number : UnpackedFloat) :
    (unpack Format.binary64 (pack Format.binary64 number)).isNaN = number.isNaN := by
  cases number with
  | notANumber => rfl
  | infinity sign => cases sign <;> rfl
  | zero sign => cases sign <;> rfl
  | finite sign significand exponent positive =>
    rw [pack_finite]
    by_cases large : 2048 ≤ (exponent + 1023 + 52).toNat + 1
    · rw [if_pos large]
      cases sign <;> rfl
    · rw [if_neg large]
      by_cases full : significand.log2 + 1 = 53
      · rw [if_pos full]
        apply isNaN_unpack_packComponents
        intro same
        have ones := congrArg BitVec.toNat same
        change (exponent + 1023 + 52).toNat % 2048 = 2047 at ones
        omega
      · rw [if_neg full]
        apply isNaN_unpack_packComponents
        decide

theorem isNaN_round (sign : Sign) (significand : Nat) (exponent : Int) :
    (UnpackedFloat.round Format.binary64 sign significand exponent).isNaN = false := by
  unfold UnpackedFloat.round
  dsimp only
  generalize decreaseExponent significand exponent _ = decreased
  rcases Nat.eq_zero_or_pos (rounding decreased.1 decreased.2 .exact).1.mantissa with empty | positive
  · rw [roundWithAccuracy_zero empty]
    rfl
  · rw [roundWithAccuracy_finite positive]
    rfl

theorem isNaN_normalize (significand exponent : Int) (sign : Sign) :
    (UnpackedFloat.normalize Format.binary64 significand exponent sign).isNaN = false := by
  unfold UnpackedFloat.normalize
  split
  · exact isNaN_round _ _ _
  · rfl
  · exact isNaN_round _ _ _

theorem isNaN_sub_infinity (sign other : Sign) :
    (sub Format.binary64 (infinity sign) (infinity other)).isNaN = true ↔ sign = other := by
  cases sign <;> cases other
  · exact iff_of_true rfl rfl
  · exact iff_of_false nofun nofun
  · exact iff_of_false nofun nofun
  · exact iff_of_true rfl rfl

theorem isNaN_sub_zero (sign other : Sign) : (sub Format.binary64 (zero sign) (zero other)).isNaN = false := by
  cases sign <;> cases other <;> rfl

theorem isNaN_sub_of_finite {left right : UnpackedFloat} (finite : left.isInf = false)
    (ordered : left.isNaN = false) : (sub Format.binary64 left right).isNaN = right.isNaN := by
  cases left with
  | notANumber => cases ordered
  | infinity sign => cases finite
  | zero sign =>
    cases right with
    | zero other => exact isNaN_sub_zero sign other
    | notANumber | infinity other | finite other significand exponent positive => rfl
  | finite sign significand exponent positive =>
    cases right with
    | notANumber | infinity other | zero other => rfl
    | finite other otherSignificand otherExponent otherPositive => exact isNaN_normalize _ _ _

theorem isNaN_sub (left right : UnpackedFloat) :
    (sub Format.binary64 left right).isNaN = true ↔
      left.isNaN = true ∨ right.isNaN = true ∨ left.isInf = true ∧ left = right := by
  cases left with
  | notANumber => exact iff_of_true rfl (.inl rfl)
  | infinity sign =>
    cases right with
    | notANumber => exact iff_of_true rfl (.inr (.inl rfl))
    | infinity other =>
      rw [isNaN_sub_infinity]
      constructor
      · rintro rfl
        exact .inr (.inr ⟨rfl, rfl⟩)
      · rintro (unordered | unordered | ⟨-, same⟩)
        · cases unordered
        · cases unordered
        · exact UnpackedFloat.infinity.inj same
    | zero other | finite other significand exponent positive =>
      refine iff_of_false nofun ?_
      rintro (unordered | unordered | ⟨-, same⟩)
      · cases unordered
      · cases unordered
      · cases same
  | zero sign | finite sign significand exponent positive =>
    rw [isNaN_sub_of_finite rfl rfl]
    constructor
    · exact fun unordered => .inr (.inl unordered)
    · rintro (unordered | unordered | ⟨infinite, -⟩)
      · cases unordered
      · exact unordered
      · cases infinite

theorem isNaN_abs (number : UnpackedFloat) : number.abs.isNaN = number.isNaN := by
  cases number <;> rfl

/-- There is one float for each infinity. -/
theorem unpack_eq_of_isInf {left right : Float} (infinite : left.isInf = true) :
    left.toModel.unpack = right.toModel.unpack ↔ left = right := by
  refine ⟨fun same => ?_, congrArg fun number : Float => number.toModel.unpack⟩
  obtain ⟨⟨leftBits, leftValid⟩⟩ := left
  obtain ⟨⟨rightBits, rightValid⟩⟩ := right
  change (unpack Format.binary64 leftBits.toBitVec).isInf = true at infinite
  change unpack Format.binary64 leftBits.toBitVec = unpack Format.binary64 rightBits.toBitVec at same
  cases form : unpack Format.binary64 leftBits.toBitVec with
  | infinity sign =>
    have bits := (eq_packedInfinity form).trans (eq_packedInfinity (same.symm.trans form)).symm
    obtain rfl := UInt64.toBitVec_inj.mp bits
    rfl
  | notANumber | zero sign | finite sign significand exponent positive =>
    rw [form] at infinite
    cases infinite

/-- The distance of two floats is a number, unless one of them is not, or both are the same infinity. -/
theorem isNaN_abs_sub (left right : Float) :
    (left - right).abs.isNaN = true ↔
      left.isNaN = true ∨ right.isNaN = true ∨ left.isInf = true ∧ left = right := by
  have stored : (left - right).abs.isNaN =
      (sub Format.binary64 left.toModel.unpack right.toModel.unpack).isNaN := calc
    (left - right).abs.isNaN = (left - right).toModel.unpack.abs.isNaN := isNaN_unpack_pack _
    _ = (left - right).toModel.unpack.isNaN := isNaN_abs _
    _ = _ := isNaN_unpack_pack _
  rw [stored, isNaN_sub]
  exact or_congr_right (or_congr_right (and_congr_right unpack_eq_of_isInf))

end LiterateCalc.Decimal
