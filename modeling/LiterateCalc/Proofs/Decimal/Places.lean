import Mathlib.Tactic.Ring
import LiterateCalc.Decimal.Rounding
import LiterateCalc.Proofs.Decimal.Counts
import LiterateCalc.Proofs.Decimal.Exact
import LiterateCalc.Proofs.Decimal.Longest

/-! Numbers with a given number of places. Their digits are read back as the units of the last place, and they
reach a round number exactly if the number before rounding is at most half a unit below it. -/
namespace LiterateCalc.Decimal

/-- The number that a numeral stands for. -/
def Numeral.toRat (numeral : Numeral) : ℚ := numeral.digits * 10 ^ numeral.exponent

/-- An even number is reached from half a unit below it on. -/
theorem le_roundQuotient_iff {bound numerator denominator : Nat} (even : bound % 2 = 0) (positive : 0 < denominator) :
    bound ≤ roundQuotient numerator denominator ↔ (bound : ℚ) - 1 / 2 ≤ numerator / denominator := by
  obtain ⟨above, below⟩ := roundQuotient_near numerator positive
  have cleared : (bound : ℚ) - 1 / 2 ≤ numerator / denominator ↔
      2 * bound * denominator ≤ 2 * numerator + denominator := by
    rw [le_div_iff₀ (by exact_mod_cast positive), ← Nat.cast_le (α := ℚ)]
    push_cast
    constructor <;> intro side <;> linarith
  rw [cleared]
  generalize rounded_eq : roundQuotient numerator denominator = rounded at *
  constructor
  · intro reached
    calc
      2 * bound * denominator ≤ 2 * rounded * denominator :=
        Nat.mul_le_mul_right _ (Nat.mul_le_mul_left 2 reached)
      _ ≤ 2 * numerator + denominator := below
  · intro close
    have next : 2 * bound * denominator ≤ (2 * rounded + 2) * denominator := by
      rw [Nat.add_mul] at above ⊢
      omega
    have near : bound ≤ rounded + 1 := by
      have := Nat.le_of_mul_le_mul_right next positive
      omega
    rcases Nat.lt_or_eq_of_le near with less | same
    · omega
    · -- The number is half-way between two whole ones, and would have gone to the even one.
      have twice : 2 * numerator = denominator + rounded * (2 * denominator) := by
        subst same
        simp only [Nat.add_mul, Nat.mul_add, Nat.mul_assoc, Nat.mul_left_comm rounded] at close above ⊢
        omega
      have tie : 2 * (numerator % denominator) = denominator := by
        rw [← Nat.mul_mod_mul_left, twice, Nat.add_mul_mod_self_right, Nat.mod_eq_of_lt (by omega)]
      have also := roundQuotient_tie tie
      omega

theorem padded_digits (width number : Nat) : ∀ c ∈ padded width number, isDigit c = true := by
  intro c inside
  rcases List.mem_append.mp inside with zero | digit
  · obtain ⟨-, rfl⟩ := List.mem_replicate.mp zero
    rfl
  · exact isDigit_of_mem_decimal digit

theorem padded_length (width number : Nat) : width ≤ (padded width number).length := by
  simp only [padded, List.length_append, List.length_replicate]
  omega

theorem digitsValue_zeros (count : Nat) (digits : List Char) :
    digitsValue (List.replicate count '0' ++ digits) = digitsValue digits := by
  induction count with
  | zero => rfl
  | succ count ih =>
    rw [List.replicate_succ, List.cons_append, ← ih]
    rfl

theorem digitsValue_padded (width number : Nat) : digitsValue (padded width number) = number :=
  (digitsValue_zeros _ _).trans (digitsValue_decimal number)

/-- A number of units of the last place is written with its point where it belongs. -/
theorem withPoint_unsigned (places units : Nat) : Unsigned (withPoint places units) ⟨units, -places⟩ := by
  have digits := padded_digits (places + 1) units
  have long := padded_length (places + 1) units
  have read := digitsValue_padded (places + 1) units
  unfold withPoint
  generalize padded (places + 1) units = text at digits long read
  simp only
  split
  · rename_i none
    subst none
    have whole : Mantissa text text 0 := .whole ⟨List.ne_nil_of_length_pos (by omega), digits⟩
    have unsigned := Unsigned.intro whole .none
    rw [List.append_nil, read] at unsigned
    exact unsigned
  · have front : Digits (text.take (text.length - places)) := by
      refine ⟨List.ne_nil_of_length_pos ?_, fun c inside => digits c (List.mem_of_mem_take inside)⟩
      rw [List.length_take]
      omega
    have back : ∀ c ∈ text.drop (text.length - places), isDigit c = true := fun c inside =>
      digits c (List.mem_of_mem_drop inside)
    have unsigned := Unsigned.intro (.pointed front back) .none
    rw [List.append_nil, List.take_append_drop, read, List.length_drop, Int.zero_sub] at unsigned
    have count : text.length - (text.length - places) = places := by omega
    rwa [count] at unsigned

/-- Characters of no number end the reading of one. -/
theorem Unsigned.scan_before (unsigned : Unsigned text numeral) (ends : ∀ c rest, more = c :: rest → ¬ IsMark c) :
    scanNumeral (text ++ more) = some (numeral, more) := by
  obtain ⟨⟨found, rest, scanned, short⟩, alone⟩ := unsigned.scan more
  obtain ⟨front, cut, other⟩ := scanNumeral_sound scanned
  have same : front = text ∧ rest = more := by
    rcases List.append_eq_append_iff.mp cut with ⟨_ | ⟨c, part⟩, rfl, rfl⟩ | ⟨part, rfl, rfl⟩
    · simp
    · exact absurd (other.marks c (List.mem_append_right text List.mem_cons_self)) (ends c _ rfl)
    · rw [List.length_append] at short
      obtain rfl : part = [] := List.eq_nil_of_length_eq_zero (by omega)
      simp
  obtain ⟨rfl, rfl⟩ := same
  rw [scanned, ← (Prod.mk.inj (Option.some.inj ((other.scan []).2.symm.trans alone))).1]

/-- The units of the last of some places that a number is rounded to. -/
def Binary.units (places : Nat) (number : Binary) : Nat :=
  roundQuotient (number.numerator * 10 ^ places) number.denominator

theorem fixed_eq (finite : meaning value = .finite negative number) (places : Nat) :
    fixed places value = signed negative (withPoint places (number.units places)) := by
  rw [fixed, finite]
  rfl

theorem Binary.toRat_eq (number : Binary) : number.toRat = number.numerator / number.denominator := by
  have power : (2 : ℚ) ^ number.exponent = 2 ^ number.exponent.toNat / 2 ^ (-number.exponent).toNat := by
    rw [← zpow_natCast, ← zpow_natCast, ← zpow_sub₀ two_ne_zero, Int.toNat_sub_toNat_neg]
  rw [toRat, numerator, denominator, power]
  push_cast
  ring

/-- A round number is reached from half a unit of the last place below it on. -/
theorem le_units_iff {bound places : Nat} (even : bound * 10 ^ places % 2 = 0) (number : Binary) :
    bound ≤ Numeral.toRat ⟨number.units places, -places⟩ ↔ bound - 1 / (2 * 10 ^ places) ≤ number.toRat := by
  have positive : (0 : ℚ) < 10 ^ places := by positivity
  calc
    (bound : ℚ) ≤ Numeral.toRat ⟨number.units places, -places⟩ ↔
        bound * 10 ^ places ≤ number.units places := by
      rw [Numeral.toRat, zpow_neg, zpow_natCast, ← div_eq_mul_inv, le_div_iff₀ positive]
      exact_mod_cast Iff.rfl
    _ ↔ (bound * 10 ^ places : ℚ) - 1 / 2 ≤ number.toRat * 10 ^ places := by
      rw [Binary.units, le_roundQuotient_iff even number.denominator_pos, number.toRat_eq]
      push_cast
      rw [div_mul_eq_mul_div]
    _ ↔ bound - 1 / (2 * 10 ^ places) ≤ number.toRat := by
      rw [← div_le_iff₀ positive, sub_div, mul_div_cancel_right₀ _ positive.ne', div_div]

/-- A number that is rounded to some places, and signed, is read with what follows it. -/
theorem scan_signed (negative : Bool) (places units : Nat) (ends : ∀ c rest, more = c :: rest → ¬ IsMark c) :
    scanNumeral (signRun (signed negative (withPoint places units ++ more))).2 = some (⟨units, -places⟩, more) := by
  have unsigned := withPoint_unsigned places units
  have signs : (signRun (signed negative (withPoint places units ++ more))).2 = withPoint places units ++ more := by
    cases negative with
    | false => exact congrArg Prod.snd (signRun_append .none unsigned more)
    | true => exact congrArg Prod.snd (signRun_append .minus unsigned more)
  rw [signs, unsigned.scan_before ends]

end LiterateCalc.Decimal
