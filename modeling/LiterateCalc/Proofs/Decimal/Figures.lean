import LiterateCalc.Proofs.Decimal.Plain

namespace LiterateCalc

/-- Digits, points and signs, the letters of what is no number, and the marks of the styles. -/
def figures : List Char := "0123456789.+-einfNa$%kMB".toList

namespace Decimal

theorem mem_figures_of_isDigit {c : Char} (digit : isDigit c = true) : c ∈ figures := by
  have all : ∀ code < 58, 48 ≤ code → Char.ofNat code ∈ figures := by decide
  simp only [isDigit, Bool.and_eq_true, decide_eq_true_eq] at digit
  have low : 48 ≤ c.toNat := digit.1
  have high : c.toNat ≤ 57 := digit.2
  rw [← Char.ofNat_toNat c]
  exact all c.toNat (by omega) low

theorem Plain.subset_figures (plain : Plain text) : text ⊆ figures := by
  intro c inside
  rcases plain c inside with digit | rfl
  · exact mem_figures_of_isDigit digit
  · decide

theorem signed_figures (negative : Bool) (shown : text ⊆ figures) : signed negative text ⊆ figures := by
  cases negative with
  | false => exact shown
  | true => exact List.cons_subset.mpr ⟨by decide, shown⟩

theorem unlimited_figures (negative : Bool) : unlimited negative ⊆ figures := by
  cases negative <;> decide

theorem withPoint_figures (places units : Nat) : withPoint places units ⊆ figures := by
  have digits := (padded_plain (places + 1) units).subset_figures
  unfold withPoint
  dsimp only
  split
  · exact digits
  · apply List.append_subset.mpr
    refine ⟨List.Subset.trans (List.take_subset _ _) digits, List.cons_subset.mpr ⟨by decide, ?_⟩⟩
    exact List.Subset.trans (List.drop_subset _ _) digits

theorem fixed_figures (places : Nat) (value : Float) : fixed places value ⊆ figures := by
  unfold fixed
  split
  · decide
  · exact unlimited_figures _
  · exact signed_figures _ (withPoint_figures _ _)

theorem scientific_figures (places : Nat) (value : Float) : scientific places value ⊆ figures := by
  unfold scientific
  split
  · decide
  · exact unlimited_figures _
  · apply signed_figures
    apply List.append_subset.mpr
    refine ⟨withPoint_figures _ _, List.cons_subset.mpr ⟨by decide, ?_⟩⟩
    exact signed_figures _ (decimal_plain _).subset_figures

theorem shortest_figures (value : Float) : shortest value ⊆ figures := by
  unfold shortest
  split
  · decide
  · exact unlimited_figures _
  · apply signed_figures
    split
    · decide
    · exact (positional_plain _ _).subset_figures

end Decimal

end LiterateCalc
