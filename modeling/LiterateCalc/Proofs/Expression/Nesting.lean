import LiterateCalc.Proofs.Expression.Reading

namespace LiterateCalc.Expression
open Text (Span)

section
variable {stop : Nat} {reader : OperandReader}

/-- Arguments nest too deep only where one of them does. -/
theorem arguments_tooDeep (failed : arguments stop reader opening tokens = .error error)
    (deep : error.fault = .tooDeep) :
    ∃ later, later.length ≤ tokens.length ∧ reader.outcome 0 later = .error error := by
  induction size : tokens.length using Nat.strongRecOn generalizing tokens with
  | _ size ih =>
    rw [arguments_eq, bind_eq_error] at failed
    rcases failed with first | ⟨⟨tree, after⟩, inner, continued⟩
    · exact ⟨tokens, by omega, first⟩
    · unfold afterArgument at continued
      split at continued
      · rename_i comma later same
        obtain rfl : after = _ := same
        rw [map_eq_error] at continued
        have shorter := OperandReader.outcome_shorter inner
        simp only [List.length_cons] at shorter
        obtain ⟨last, bound, found⟩ := ih later.length (by omega) continued rfl
        exact ⟨last, by omega, found⟩
      · cases continued
      · obtain rfl := Except.error.inj continued
        cases deep

/-- An operand without operators nests too deep only where an operand after its first token does. -/
theorem primary_tooDeep (failed : primary stop reader tokens = .error error)
    (deep : error.fault = .tooDeep) :
    ∃ power later, later.length < tokens.length ∧ reader.outcome power later = .error error := by
  cases tokens with
  | nil =>
    obtain rfl := Except.error.inj failed
    cases deep
  | cons next later =>
    obtain ⟨token, span⟩ := next
    cases token with
    | number value =>
      rw [primary_number] at failed
      cases failed
    | identifier name =>
      cases called : opens later with
      | false =>
        rw [primary_reference called] at failed
        cases failed
      | true =>
        obtain ⟨opening, inside, rfl⟩ := eq_cons_of_opens called
        cases empty : closes inside with
        | true =>
          obtain ⟨closing, after, rfl⟩ := eq_cons_of_closes empty
          rw [primary_emptyCall] at failed
          cases failed
        | false =>
          rw [primary_call empty, map_eq_error] at failed
          obtain ⟨last, bound, found⟩ := arguments_tooDeep failed deep
          exact ⟨0, last, by simp only [List.length_cons]; omega, found⟩
    | minus | plus =>
      rw [primary_signed rfl, map_eq_error] at failed
      exact ⟨signPower, later, by simp, failed⟩
    | leftParen =>
      rw [primary_group, bind_eq_error] at failed
      rcases failed with inner | ⟨⟨tree, after⟩, inner, closed⟩
      · exact ⟨0, later, by simp, inner⟩
      · unfold closeGroup at closed
        split at closed
        · cases closed
        · obtain rfl := Except.error.inj closed
          cases deep
    | _ =>
      rw [primary_unexpected rfl] at failed
      obtain rfl := Except.error.inj failed
      cases deep

/-- A chain of operators fails where an operand does, or with more operators than it has room for. -/
theorem operators_error (failed : operators reader power room left tokens = .error error) :
    (∃ rightPower later, later.length < tokens.length ∧
      reader.outcome rightPower later = .error error) ∨ room < tokens.length := by
  induction room generalizing left tokens with
  | zero =>
    rcases ends_or_strong power tokens with weak | ⟨_, _, _, _, _, _, rfl, symbol, strong⟩
    · rw [operators_stop weak] at failed
      cases failed
    · exact .inr (by simp)
  | succ room ih =>
    rcases ends_or_strong power tokens with weak | ⟨_, _, _, _, _, _, rfl, symbol, strong⟩
    · rw [operators_stop weak] at failed
      cases failed
    · rw [operators_step symbol strong, bind_eq_error] at failed
      rcases failed with inner | ⟨⟨right, after⟩, inner, continued⟩
      · exact .inl ⟨_, _, by simp, inner⟩
      · dsimp only at continued
        have shorter := OperandReader.outcome_shorter inner
        simp only [List.length_cons]
        rcases ih continued with ⟨rightPower, later, bound, found⟩ | more
        · exact .inl ⟨rightPower, later, by omega, found⟩
        · exact .inr (by omega)

end

theorem levels_le_length (failed : (readerOf stop levels).outcome power tokens = .error error)
    (deep : error.fault = .tooDeep) : levels ≤ tokens.length := by
  induction levels generalizing power tokens with
  | zero => exact Nat.zero_le _
  | succ levels ih =>
    rw [outcome_succ, bind_eq_error] at failed
    rcases failed with start | ⟨⟨first, after⟩, start, folded⟩
    · obtain ⟨inner, later, shorter, found⟩ := primary_tooDeep start deep
      have enough := ih found
      omega
    · dsimp only at folded
      have taken := primary_shorter start
      rcases operators_error folded with ⟨rightPower, later, shorter, found⟩ | more
      · have enough := ih found
        omega
      · omega

end LiterateCalc.Expression
