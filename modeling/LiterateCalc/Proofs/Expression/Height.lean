import LiterateCalc.Proofs.Expression.Reading
import LiterateCalc.Proofs.Expression.Words

/-! How high the trees are that a limited nesting lets through. A chain of operators counts
only at its own level, so a chain may stand on the left of another one: the heights that
can be read go up to the sum of all levels. -/
namespace LiterateCalc.Expression

/-- The sum of the numbers up to `levels`. -/
def heightLimit : Nat → Nat
  | 0 => 0
  | levels + 1 => heightLimit levels + levels + 1

theorem two_mul_heightLimit (levels : Nat) : 2 * heightLimit levels = levels * (levels + 1) := by
  induction levels with
  | zero => rfl
  | succ levels ih =>
    simp only [heightLimit, Nat.mul_add, ih, Nat.add_mul]
    omega

/-- All trees of a reader are lower than the limit. -/
def LowReader (limit : Nat) (reader : OperandReader) : Prop :=
  ∀ power tokens tree rest, reader.outcome power tokens = .ok (tree, rest) → tree.height < limit

section
variable {reader : OperandReader}

theorem arguments_height (low : LowReader limit reader)
    (found : ArgumentsRead reader tokens trees ending rest) : argumentsHeight trees ≤ limit := by
  induction found with
  | last inner =>
    have bound := low _ _ _ _ inner
    simp only [argumentsHeight]
    omega
  | more inner others ih =>
    have bound := low _ _ _ _ inner
    simp only [argumentsHeight]
    omega

theorem primary_height (low : LowReader limit reader)
    (found : PrimaryRead stop reader tokens tree rest) : tree.height ≤ limit := by
  cases found with
  | number | reference | emptyCall => exact Nat.zero_le _
  | call inner => exact arguments_height low (arguments_read inner)
  | signed symbol inner => exact low _ _ _ _ inner
  | group inner => exact Nat.le_of_lt (low _ _ _ _ inner)

/-- Every operator of a chain may raise the tree by one. -/
theorem operators_height (low : LowReader limit reader)
    (found : OperatorsRead reader power room left tokens tree rest)
    (high : left.height ≤ top) (enough : limit ≤ top) : tree.height ≤ top + room := by
  induction found generalizing top with
  | stop weak => omega
  | @step token operator leftPower rightPower tokens right after room left tree rest span
      symbol strong inner others ih =>
    have bound := low _ _ _ _ inner
    have raised : tree.height ≤ top + 1 + room :=
      ih (by simp only [Expression.height]; omega) (by omega)
    omega

end

theorem readerOf_height (stop levels : Nat) : LowReader (heightLimit levels) (readerOf stop levels) := by
  induction levels with
  | zero =>
    intro power tokens tree rest found
    cases found
  | succ levels ih =>
    intro power tokens tree rest found
    rw [outcome_succ, bind_eq_ok] at found
    obtain ⟨⟨first, after⟩, start, folded⟩ := found
    have low := primary_height ih (primary_read start)
    have whole := operators_height ih (operators_read folded) low (Nat.le_refl _)
    simp only [heightLimit]
    omega

end LiterateCalc.Expression
