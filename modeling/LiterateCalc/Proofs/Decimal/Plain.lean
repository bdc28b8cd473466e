import LiterateCalc.Decimal.Numeral
import LiterateCalc.Decimal.Shortest

namespace LiterateCalc.Decimal

/-- Whether a text has only digits and points. -/
def Plain (text : List Char) : Prop := ∀ c ∈ text, isDigit c = true ∨ c = '.'

theorem Plain.append (left : Plain text) (right : Plain more) : Plain (text ++ more) := by
  intro c inside
  rcases List.mem_append.mp inside with first | second
  · exact left c first
  · exact right c second

theorem Plain.part {text part : List Char} (plain : Plain text) (within : part ⊆ text) : Plain part :=
  fun c inside => plain c (within inside)

theorem isDigit_of_mem_decimal {c : Char} (inside : c ∈ Text.decimal count) : isDigit c = true := by
  have digit := Nat.isDigit_of_mem_toDigits (by omega) (Nat.le_refl 10) inside
  simp only [Char.isDigit, Bool.and_eq_true, decide_eq_true_eq] at digit
  simpa [isDigit, Char.le_def] using digit

theorem decimal_plain (count : Nat) : Plain (Text.decimal count) :=
  fun _ inside => .inl (isDigit_of_mem_decimal inside)

theorem padded_plain (width number : Nat) : Plain (padded width number) := by
  refine .append ?_ (decimal_plain number)
  intro c inside
  obtain ⟨-, rfl⟩ := List.mem_replicate.mp inside
  exact .inl rfl

theorem positional_plain (digits : Nat) (exponent : Int) : Plain (positional digits exponent) := by
  unfold positional
  split
  · exact decimal_plain _
  · have all := padded_plain ((-exponent).toNat + 1) digits
    have whole := fun count => all.part (List.take_subset count _)
    dsimp only
    split
    · exact whole _
    · refine (whole _).append ?_
      intro c inside
      rcases List.mem_cons.mp inside with rfl | fraction
      · exact .inr rfl
      · have kept := (List.dropWhile_sublist _).subset (List.mem_reverse.mp fraction)
        exact all c (List.drop_subset _ _ (List.mem_reverse.mp kept))

theorem shortest_plain (finite : meaning value = .finite false magnitude) : Plain (shortest value) := by
  unfold shortest
  rw [finite]
  simp only [signed, Bool.false_eq_true, if_false]
  split
  · intro c inside
    obtain rfl := List.mem_singleton.mp inside
    exact .inl rfl
  · exact positional_plain _ _

end LiterateCalc.Decimal
