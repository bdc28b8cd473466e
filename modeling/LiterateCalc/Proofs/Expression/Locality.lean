import LiterateCalc.Proofs.Expression.GrammarCompleteness

/-! What is read depends on no more than it takes: a reader that stops in front of some tokens reads the
same tree in front of any others at which it has to stop, also at the end of the text. -/
namespace LiterateCalc.Expression
open Text (Span)

section
variable {stop levels power : Nat} {tokens used rest others : List Located}

theorem Ends.weaken (ends : Ends power tokens) (weaker : power ≤ strong) : Ends strong tokens := by
  unfold Ends at ends ⊢
  omega

/-- What no operator goes on with, the operand of a sign does not go on with. -/
theorem Ends.sign (ends : Ends power tokens) (bounded : power ≤ 8) : Ends signPower tokens := by
  have powers := nextPower_cases tokens
  unfold Ends signPower at *
  omega

theorem filled_of_arguments (found : arguments stop (readerOf stop levels) opening tokens = .ok result) :
    closes tokens = false := by
  rw [arguments_eq, bind_eq_ok] at found
  obtain ⟨first, inner, _⟩ := found
  exact filled_of_outcome inner

/-- There are no tokens, or the first of them is an operator. -/
def Continues (tokens : List Located) : Prop :=
  tokens = [] ∨ ∃ token span later found, tokens = ⟨token, span⟩ :: later ∧ infixOperator? token = some found

theorem Continues.opens (continues : Continues used) (alone : opens others = false) :
    opens (used ++ others) = false := by
  rcases continues with rfl | ⟨token, span, later, found, rfl, symbol⟩
  · exact alone
  · exact opens_of_operator symbol

/-- An operand before the operators ends there also with other tokens behind them. -/
theorem Continues.ends (continues : Continues used) (before : Ends power (used ++ rest))
    (behind : Ends power others) : Ends power (used ++ others) := by
  rcases continues with rfl | ⟨token, span, later, found, rfl, symbol⟩
  · exact behind
  · exact before

/-- What the reader takes off the front is read alike before any tokens that it stops at, wherever the
text ends. -/
def LocalReader (stop levels : Nat) : Prop :=
  ∀ power tokens tree rest, power ≤ 8 → (readerOf stop levels).outcome power tokens = .ok (tree, rest) →
    Ends power rest ∧ ∃ used, tokens = used ++ rest ∧
      ∀ another others, Ends power others → opens others = false →
        (readerOf another levels).outcome power (used ++ others) = .ok (tree, others)

/-- Arguments end with a closing parenthesis, so that anything may follow them. -/
theorem arguments_local (known : LocalReader stop levels)
    (found : ArgumentsRead (readerOf stop levels) tokens trees ending rest) :
    ∃ used, tokens = used ++ rest ∧ ∀ another opening others,
      arguments another (readerOf another levels) opening (used ++ others) = .ok ((trees, ending), others) := by
  induction found with
  | @last tokens tree closing rest inner =>
    obtain ⟨_, used, rfl, again⟩ := known 0 _ _ _ (Nat.zero_le 8) inner
    refine ⟨used ++ [⟨.rightParen, closing⟩], by simp, ?_⟩
    intro another opening others
    rw [arguments_eq, List.append_assoc, List.singleton_append, again another _ (.inl rfl) rfl]
    rfl
  | @more tokens tree comma later trees ending rest inner _ ih =>
    obtain ⟨_, used, rfl, again⟩ := known 0 _ _ _ (Nat.zero_le 8) inner
    obtain ⟨more, rfl, next⟩ := ih
    refine ⟨used ++ ⟨.comma, comma⟩ :: more, by simp, ?_⟩
    intro another opening others
    rw [arguments_eq, List.append_assoc, List.cons_append, again another _ (.inl rfl) rfl]
    simp only [Except.bind, afterArgument_comma, next]
    rfl

/-- An operand behind a sign ends where no power follows; a name ends where no parenthesis opens. -/
theorem primary_local (known : LocalReader stop levels)
    (found : PrimaryRead stop (readerOf stop levels) tokens tree rest) :
    ∃ used, tokens = used ++ rest ∧ ∀ another others, (Ends signPower rest → Ends signPower others) →
      opens others = false → primary another (readerOf another levels) (used ++ others) = .ok (tree, others) := by
  cases found with
  | number => exact ⟨[_], rfl, fun _ _ _ _ => primary_number⟩
  | reference => exact ⟨[_], rfl, fun _ _ _ alone => primary_reference alone⟩
  | emptyCall => exact ⟨[_, _, _], rfl, fun _ _ _ _ => primary_emptyCall⟩
  | @call span _ trees ending _ name opening inner =>
    obtain ⟨used, rfl, again⟩ := arguments_local known (arguments_read inner)
    refine ⟨⟨.identifier name, span⟩ :: ⟨.leftParen, opening⟩ :: used, rfl, ?_⟩
    intro another others _ _
    have same := again another span others
    rw [List.cons_append, List.cons_append, primary_call (filled_of_arguments same), same]
    rfl
  | @signed token operator _ tree _ span symbol inner =>
    obtain ⟨ends, used, rfl, again⟩ := known signPower _ _ _ (by decide) inner
    refine ⟨⟨token, span⟩ :: used, rfl, ?_⟩
    intro another others stops alone
    rw [List.cons_append, primary_signed symbol, again another others (stops ends) alone]
    rfl
  | @group _ tree closing _ opening inner =>
    obtain ⟨_, used, rfl, again⟩ := known 0 _ _ _ (Nat.zero_le 8) inner
    refine ⟨⟨.leftParen, opening⟩ :: used ++ [⟨.rightParen, closing⟩], by simp, ?_⟩
    intro another others _ _
    rw [List.cons_append, List.cons_append, List.append_assoc, List.singleton_append, primary_group,
      again another _ (.inl rfl) rfl]
    rfl

theorem operators_local (known : LocalReader stop levels)
    (found : OperatorsRead (readerOf stop levels) power room left tokens tree rest) :
    Ends power rest ∧ ∃ used, tokens = used ++ rest ∧ Continues used ∧
      ∀ another others, Ends power others → opens others = false →
        operators (readerOf another levels) power room left (used ++ others) = .ok (tree, others) := by
  induction found with
  | stop weak => exact ⟨weak, [], rfl, .inl rfl, fun _ _ stops _ => operators_stop stops⟩
  | @step token operator leftPower rightPower _ right _ room left tree rest span symbol strong inner _ ih =>
    have powers : leftPower ≤ rightPower ∧ rightPower ≤ 8 := by
      cases token <;> simp_all [infixOperator?] <;> omega
    obtain ⟨before, used, rfl, again⟩ := known rightPower _ _ _ powers.2 inner
    obtain ⟨ends, more, rfl, continues, next⟩ := ih
    refine ⟨ends, ⟨token, span⟩ :: (used ++ more), by simp, .inr ⟨token, span, _, _, rfl, symbol⟩, ?_⟩
    intro another others stops alone
    -- The right operand ends at the next operator of the chain, or where the whole chain ends.
    have behind : Ends rightPower others := stops.weaken (Nat.le_trans strong powers.1)
    rw [List.cons_append, List.append_assoc, operators_step symbol strong,
      again another _ (continues.ends before behind) (continues.opens alone)]
    exact next another others stops alone

theorem readerOf_local (stop levels : Nat) : LocalReader stop levels := by
  induction levels with
  | zero =>
    intro power tokens tree rest _ found
    cases found
  | succ levels ih =>
    intro power tokens tree rest bounded found
    rw [outcome_succ, bind_eq_ok] at found
    obtain ⟨⟨first, after⟩, start, folded⟩ := found
    obtain ⟨used, rfl, again⟩ := primary_local ih (primary_read start)
    obtain ⟨ends, more, rfl, continues, next⟩ := operators_local ih (operators_read folded)
    refine ⟨ends, used ++ more, by simp, ?_⟩
    intro another others stops alone
    have behind (before : Ends signPower (more ++ rest)) : Ends signPower (more ++ others) :=
      continues.ends before (stops.sign bounded)
    rw [outcome_succ, List.append_assoc, again another _ behind (continues.opens alone)]
    exact next another others stops alone

/-- The tokens before the rest are read as the same tree alone. -/
theorem ofTokens_alone (read : (readerOf stop maxNesting).outcome 0 tokens = .ok (tree, rest)) :
    ∃ used, tokens = used ++ rest ∧ ∀ another, ofTokens another used = .ok tree := by
  obtain ⟨_, used, rfl, again⟩ := readerOf_local stop maxNesting 0 _ _ _ (Nat.zero_le 8) read
  refine ⟨used, rfl, ?_⟩
  intro another
  have alone := again another [] (.inl rfl) rfl
  rw [List.append_nil] at alone
  rw [ofTokens_eq, alone]
  rfl

end
end LiterateCalc.Expression
