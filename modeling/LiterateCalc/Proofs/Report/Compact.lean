import LiterateCalc.Proofs.Decimal.Nearest
import LiterateCalc.Proofs.Decimal.Places
import LiterateCalc.Report.Style

/-! Numbers in the compact style. The unit is chosen before rounding, so that numbers just below a thousand of
a unit are shown as a thousand of it. -/
namespace LiterateCalc.Report
open Decimal

/-- Numbers that are shown as a thousand, although there is a bigger unit. -/
def Spills (places : Nat) (magnitude : ℚ) : Prop :=
  1000 - 1 / (2 * 10 ^ places) ≤ magnitude ∧ magnitude < 1000 ∨
    999950 ≤ magnitude ∧ magnitude < 1000000 ∨
      999950000 ≤ magnitude ∧ magnitude < 1000000000

def suffixes : List (List Char) := [[], ['k'], ['M'], ['B']]

/-- The units of the compact style. -/
inductive Scale
  | thousand
  | million
  | billion

namespace Scale

/-- The power of a thousand that a unit is. -/
def power : Scale → ℕ
  | thousand => 1
  | million => 2
  | billion => 3

def divisor : Scale → Float
  | thousand => 1e3
  | million => 1e6
  | billion => 1e9

def mark : Scale → Char
  | thousand => 'k'
  | million => 'M'
  | billion => 'B'

/-- The binary form of a unit's float. -/
def exact (scale : Scale) : Binary := ⟨1000 ^ scale.power * 2 ^ (53 - 10 * scale.power), 10 * scale.power - 53⟩

/-- Where the numbers begin that tenths of a unit round to a thousand of it. -/
def limit (scale : Scale) : ℕ := 999950 * 1000 ^ (scale.power - 1)

end Scale

section
variable {number quotient unit : Binary} {value divisor : Float} {places : Nat} {magnitude : ℚ}

theorem lt_thousand_iff (places : Nat) (number : Binary) :
    Numeral.toRat ⟨number.units places, -places⟩ < 1000 ↔ number.toRat < 1000 - 1 / (2 * 10 ^ places) := by
  have even : (1000 * 10 ^ places : ℕ) % 2 = 0 := by omega
  have reached := le_units_iff even number
  rw [Nat.cast_ofNat] at reached
  rw [← not_le, reached, not_le]

/-- Floats from a thousand less half a tenth on are the nearest ones to no smaller number. -/
theorem reaches_of_near (canonical : Canonical quotient) {exact : ℚ}
    (near : |quotient.toRat - exact| ≤ 2 ^ (-44 : ℤ)) (above : 999.95 ≤ exact) : 999.95 ≤ quotient.toRat := by
  have low := (abs_le.mp near).1
  have grid : (2 : ℚ) ^ (52 + -43 : ℤ) ≤ quotient.toRat := by
    norm_num at low above ⊢
    linarith
  obtain ⟨count, same⟩ := canonical.on_grid grid
  have many : (8795653217556889 : ℚ) < count := by
    rw [same] at low
    norm_num at low above
    linarith
  have more : (8795653217556890 : ℚ) ≤ count := by exact_mod_cast many
  rw [same]
  norm_num
  linarith

theorem one_le_iff (number : Binary) :
    1 ≤ Numeral.toRat ⟨number.units 1, -1⟩ ↔ 0.95 ≤ number.toRat := by
  have reached := @le_units_iff 1 1 (by decide) number
  norm_num at reached ⊢
  exact reached

/-- The text of a number in a unit is read as a quotient rounded to tenths, in front of the unit. -/
theorem scan_scaled (finite : meaning value = .finite negative number) (known : meaning divisor = .finite false unit)
    (filled : 0 < unit.significand) (low : unit.toRat ≤ number.toRat) (high : number.toRat < 1000 * unit.toRat)
    (sign : Bool) (other : ¬ IsMark mark) :
    ∃ numeral, scanNumeral (signRun (signed sign (fixed 1 (value.abs / divisor) ++ [mark]))).2 =
        some (numeral, [mark]) ∧ 1 ≤ numeral.toRat ∧
      (999.95 * unit.toRat ≤ number.toRat → ¬ numeral.toRat < 1000) ∧
      (number.toRat < (999.95 - 2 ^ (-44 : ℤ)) * unit.toRat → numeral.toRat < 1000) := by
  have positive : 0 < unit.toRat := mul_pos (by exact_mod_cast filled) (zpow_pos two_pos _)
  rw [← div_lt_iff₀ positive] at high
  obtain ⟨quotient, divided, near⟩ := meaning_div (meaning_abs finite) known filled ((one_le_div positive).mpr low)
    (high.trans (by norm_num))
  have ends : ∀ c rest, [mark] = c :: rest → ¬ IsMark c := by
    rintro c rest same
    obtain ⟨rfl, -⟩ := List.cons.inj same
    exact other
  have thousand := lt_thousand_iff 1 quotient
  have tenth : (1000 - 1 / (2 * 10 ^ 1) : ℚ) = 999.95 := by norm_num
  rw [tenth] at thousand
  refine ⟨⟨quotient.units 1, -1⟩, ?_, ?_, fun above => ?_, fun below => ?_⟩
  · rw [fixed_eq divided]
    exact scan_signed sign 1 (quotient.units 1) ends
  · have least := (abs_le.mp near).1
    have whole := (one_le_div positive).mpr low
    rw [one_le_iff]
    norm_num at least ⊢
    linarith
  · have reached := reaches_of_near (.of_meaning divided) near ((le_div_iff₀ positive).mpr above)
    exact thousand.not.mpr (not_lt.mpr reached)
  · have most := (abs_le.mp near).2
    rw [← div_lt_iff₀ positive] at below
    exact thousand.mpr (by linarith)

namespace Scale

theorem meaning_divisor (scale : Scale) : meaning scale.divisor = .finite false scale.exact := by
  cases scale <;> rfl

theorem significand_pos (scale : Scale) : 0 < scale.exact.significand := by
  cases scale <;> decide

theorem toRat_exact (scale : Scale) : scale.exact.toRat = 1000 ^ scale.power := by
  cases scale <;> norm_num [exact, power, Binary.toRat]

theorem limit_eq (scale : Scale) : (scale.limit : ℚ) = 999.95 * 1000 ^ scale.power := by
  cases scale <;> norm_num [limit, power]

theorem not_isMark (scale : Scale) : ¬ IsMark scale.mark := by
  cases scale <;> simp [mark, IsMark, isDigit]

theorem mark_mem (scale : Scale) : [scale.mark] ∈ suffixes := by
  cases scale <;> decide

/-- Among the numbers shown in a unit, those that spill over are the ones from its limit on. -/
theorem not_spills_iff (scale : Scale) (low : 1000 ^ scale.power ≤ magnitude)
    (high : magnitude < 1000 ^ (scale.power + 1)) (bound : magnitude < 999900000000) :
    ¬ Spills places magnitude ↔ magnitude < scale.limit := by
  cases scale with
  | thousand =>
    norm_num [power, limit] at low high ⊢
    constructor
    · exact fun inside => not_le.mp fun close => inside (.inr (.inl ⟨close, high⟩))
    · rintro less (⟨-, small⟩ | ⟨close, -⟩ | ⟨more, -⟩) <;> linarith
  | million =>
    norm_num [power, limit] at low high ⊢
    constructor
    · exact fun inside => not_le.mp fun close => inside (.inr (.inr ⟨close, high⟩))
    · rintro less (⟨-, small⟩ | ⟨-, small⟩ | ⟨close, -⟩) <;> linarith
  | billion =>
    norm_num [power, limit] at low high ⊢
    refine iff_of_true ?_ (by linarith)
    rintro (⟨-, small⟩ | ⟨-, small⟩ | ⟨-, small⟩) <;> linarith

/-- Below the limit of a unit there is a gap that is wider than what rounding a quotient can bridge. -/
theorem below_gap (scale : Scale) (canonical : Canonical number) (less : number.toRat < scale.limit) :
    number.toRat < (999.95 - 2 ^ (-44 : ℤ)) * 1000 ^ scale.power := by
  have wide : 2 ^ 52 / 2 ^ (43 - 10 * scale.power) + 1 / 2 ^ (43 - 10 * scale.power) ≤ (scale.limit : ℚ) := by
    cases scale <;> norm_num [limit, power]
  have fine : 2 ^ (-44 : ℤ) * 1000 ^ scale.power < 1 / (2 ^ (43 - 10 * scale.power) : ℚ) := by
    cases scale <;> norm_num [power]
  have gap := canonical.gap less wide
  rw [sub_mul, ← limit_eq]
  exact gap.trans_lt (sub_lt_sub_left fine _)

theorem le_divisor_iff (scale : Scale) (finite : meaning value = .finite negative number) :
    scale.divisor ≤ value.abs ↔ 1000 ^ scale.power ≤ number.toRat := by
  rw [le_iff_toRat scale.meaning_divisor (meaning_abs finite), toRat_exact]

/-- A number that reaches a unit but no bigger one is read back from what it is shown as in this unit. -/
theorem scan_compact (scale : Scale) (finite : meaning value = .finite negative number)
    (low : 1000 ^ scale.power ≤ number.toRat) (high : number.toRat < 1000 ^ (scale.power + 1))
    (bound : number.toRat < 999900000000) (places : Nat) (sign : Bool) :
    ∃ numeral suffix, scanNumeral (signRun (signed sign (fixed 1 (value.abs / scale.divisor) ++ [scale.mark]))).2 =
        some (numeral, suffix) ∧ suffix ∈ suffixes ∧ (numeral.toRat < 1000 ↔ ¬ Spills places number.toRat) ∧
      (suffix ≠ [] → 1 ≤ numeral.toRat) := by
  have reached : scale.exact.toRat ≤ number.toRat := by rwa [toRat_exact]
  have exceeded : number.toRat < 1000 * scale.exact.toRat := by rwa [toRat_exact, ← pow_succ']
  obtain ⟨numeral, read, one, spills, small⟩ :=
    scan_scaled finite scale.meaning_divisor scale.significand_pos reached exceeded sign scale.not_isMark
  rw [toRat_exact] at spills small
  refine ⟨numeral, [scale.mark], read, scale.mark_mem, ?_, fun _ => one⟩
  rw [scale.not_spills_iff low high bound]
  rcases lt_or_ge number.toRat scale.limit with less | more
  · exact iff_of_true (small (scale.below_gap (.of_meaning finite) less)) less
  · exact iff_of_false (spills (scale.limit_eq ▸ more)) (not_lt.mpr more)

end Scale

theorem not_spills_below (below : magnitude < 1000) :
    ¬ Spills places magnitude ↔ magnitude < 1000 - 1 / (2 * 10 ^ places) := by
  rw [← not_le, not_iff_not]
  refine ⟨?_, fun close => .inl ⟨close, below⟩⟩
  rintro (⟨close, -⟩ | ⟨more, -⟩ | ⟨more, -⟩)
  · exact close
  all_goals linarith

/-- A number below its last thousand of billions is read back from the compact style. It is shown as less than a
thousand unless it is just below a thousand of its unit, and in front of a suffix as at least one. -/
theorem compact_numeral (finite : meaning value = .finite negative number) (bound : number.toRat < 999900000000)
    (decimals : Option Nat) :
    ∃ numeral suffix, scanNumeral (signRun (Style.compact.format decimals value)).2 = some (numeral, suffix) ∧
      suffix ∈ suffixes ∧ (numeral.toRat < 1000 ↔ ¬ Spills (decimals.getD 2) number.toRat) ∧
      (suffix ≠ [] → 1 ≤ numeral.toRat) := by
  have billions : 1e9 ≤ value.abs ↔ _ := Scale.billion.le_divisor_iff finite
  have millions : 1e6 ≤ value.abs ↔ _ := Scale.million.le_divisor_iff finite
  have thousands : 1e3 ≤ value.abs ↔ _ := Scale.thousand.le_divisor_iff finite
  change ∃ numeral suffix,
    scanNumeral (signRun (compactText (decimals.getD 2) value)).2 = some (numeral, suffix) ∧ _
  unfold compactText
  simp only [billions, millions, thousands]
  split
  · rename_i large
    have high : number.toRat < 1000 ^ 4 := by linarith
    exact Scale.billion.scan_compact finite large high bound _ _
  rename_i high
  split
  · rename_i large
    exact Scale.million.scan_compact finite large (not_le.mp high) bound _ _
  rename_i high
  split
  · rename_i large
    exact Scale.thousand.scan_compact finite large (not_le.mp high) bound _ _
  · rename_i below
    have below : number.toRat < 1000 := by simpa [Scale.power] using below
    have ends : ∀ c rest, [] = c :: rest → ¬ IsMark c := fun c rest same =>
      absurd same.symm (List.cons_ne_nil c rest)
    have read := scan_signed negative (decimals.getD 2) (number.units (decimals.getD 2)) ends
    rw [List.append_nil, ← fixed_eq finite] at read
    refine ⟨_, [], read, by decide, ?_, fun filled => absurd rfl filled⟩
    rw [lt_thousand_iff, not_spills_below below]

/-- Of a number that lies far from any thousand of a unit. -/
theorem compact_numeral_thousands : ∃ numeral suffix,
    scanNumeral (signRun (Style.compact.format none (-1234.0))).2 = some (numeral, suffix) ∧
      suffix ∈ suffixes ∧ numeral.toRat < 1000 ∧ (suffix ≠ [] → 1 ≤ numeral.toRat) := by
  have exact : meaning (-1234.0) = .finite true ⟨1234 * 2 ^ 42, -42⟩ := rfl
  have size : Binary.toRat ⟨1234 * 2 ^ 42, -42⟩ = 1234 := by norm_num [Binary.toRat]
  obtain ⟨numeral, suffix, read, listed, below, above⟩ := compact_numeral exact (by rw [size]; norm_num) none
  refine ⟨numeral, suffix, read, listed, below.mpr ?_, above⟩
  rw [size]
  norm_num [Spills]

/-- A number that rounds to a thousand thousands is shown as these, not as one million. -/
theorem compact_spills :
    meaning 999960.0 = .finite false ⟨999960 * 2 ^ 33, -33⟩ ∧
      Binary.toRat ⟨999960 * 2 ^ 33, -33⟩ < 999900000000 ∧
      scanNumeral (signRun (Style.compact.format none 999960.0)).2 = some (⟨10000, -1⟩, ['k']) ∧
      ¬ Numeral.toRat ⟨10000, -1⟩ < 1000 := by
  refine ⟨rfl, ?_, by decide +kernel, ?_⟩
  · norm_num [Binary.toRat]
  · norm_num [Numeral.toRat]

end
end LiterateCalc.Report
