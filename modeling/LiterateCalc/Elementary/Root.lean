import LiterateCalc.Elementary.Nearest

namespace LiterateCalc.Elementary
open scoped Decimal
open Decimal (Binary meaning)

/-- The greatest number below `2 ^ bits` above `found` whose power is at most `number`. -/
def rootFrom (degree number : Nat) : (bits found : Nat) → Nat
  | 0, found => found
  | bits + 1, found =>
    if (found + 2 ^ bits) ^ degree ≤ number then rootFrom degree number bits (found + 2 ^ bits)
    else rootFrom degree number bits found

/-- The root of a number, rounded down. -/
def root (degree number : Nat) : Nat := rootFrom degree number (Nat.log2 number / degree + 1) 0

theorem rootFrom_pow_le {degree number : Nat} :
    ∀ (bits : Nat) {found : Nat}, found ^ degree ≤ number →
      rootFrom degree number bits found ^ degree ≤ number
  | 0, _, holds => holds
  | bits + 1, found, holds => by
    unfold rootFrom
    split
    · rename_i higher
      exact rootFrom_pow_le bits higher
    · exact rootFrom_pow_le bits holds

theorem lt_rootFrom_pow {degree number : Nat} :
    ∀ (bits : Nat) {found : Nat}, number < (found + 2 ^ bits) ^ degree →
      number < (rootFrom degree number bits found + 1) ^ degree
  | 0, found, holds => by simpa [rootFrom] using holds
  | bits + 1, found, holds => by
    unfold rootFrom
    split
    · refine lt_rootFrom_pow bits ?_
      rw [Nat.pow_succ] at holds
      rwa [Nat.add_assoc, ← Nat.mul_two]
    · rename_i above
      exact lt_rootFrom_pow bits (Nat.lt_of_not_le above)

/-- The power of a root does not exceed the number. -/
theorem root_pow_le {degree : Nat} (positive : 0 < degree) (number : Nat) :
    root degree number ^ degree ≤ number := by
  refine rootFrom_pow_le _ ?_
  rw [Nat.zero_pow positive]
  exact Nat.zero_le _

/-- The next number's power does. -/
theorem lt_root_pow {degree : Nat} (positive : 0 < degree) (number : Nat) :
    number < (root degree number + 1) ^ degree := by
  have bits : Nat.log2 number + 1 ≤ (Nat.log2 number / degree + 1) * degree := by
    have whole := Nat.div_add_mod (Nat.log2 number) degree
    have rest := Nat.mod_lt (Nat.log2 number) positive
    rw [Nat.add_mul, Nat.one_mul, Nat.mul_comm]
    omega
  refine lt_rootFrom_pow _ ?_
  rw [Nat.zero_add, ← Nat.pow_mul]
  exact Nat.lt_of_lt_of_le Nat.lt_log2_self (Nat.pow_le_pow_right Nat.two_pos bits)

/-- Sixty or more bits of a cube root, and one more bit that says whether anything was cut off. -/
def cubeRootBinary (number : Binary) : Binary :=
  let shift := (number.exponent % 3).toNat + 180
  let scaled := number.significand * 2 ^ shift
  let found := root 3 scaled
  let rest := if found ^ (3 : Nat) = scaled then 0 else 1
  ⟨2 * found + rest, (number.exponent - shift) / 3 - 1⟩

/-- The cube root; it has the sign of the number. -/
def cubeRoot (value : Float) : Float :=
  match meaning value with
  | .finite negative magnitude =>
    if magnitude.significand = 0 then value else nearest negative (cubeRootBinary magnitude)
  | _ => value

end LiterateCalc.Elementary
