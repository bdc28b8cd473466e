import Mathlib.Data.List.Infix
import LiterateCalc.Text.Lines

namespace LiterateCalc.Text
variable {mark c : Char} {part tail before left right text : List Char}

/-- A beginning without some character ends before the first one. -/
theorem prefix_append_cons (absent : c ∉ part) : part <+: left ++ c :: right ↔ part <+: left := by
  refine ⟨?_, fun starts => starts.trans (List.prefix_append left (c :: right))⟩
  intro starts
  rcases List.prefix_or_prefix_of_prefix starts (List.prefix_append left (c :: right)) with inside | beyond
  · exact inside
  · obtain ⟨more, rfl⟩ := beyond
    cases more with
    | nil => rw [List.append_nil]
    | cons first more =>
      rw [List.prefix_append_right_inj, List.cons_prefix_cons] at starts
      obtain ⟨rfl, -⟩ := starts
      exact absurd (List.mem_append_right left List.mem_cons_self) absent

theorem startsWith_append_cons (absent : c ∉ part) :
    startsWith part (left ++ c :: right) = startsWith part left := by
  rw [startsWith, startsWith, Bool.eq_iff_iff, List.isPrefixOf_iff_prefix, List.isPrefixOf_iff_prefix]
  exact prefix_append_cons absent

theorem infix_of_infix_concat (absent : c ∉ part) (found : part <:+: text ++ [c]) : part <:+: text := by
  rcases List.infix_concat_iff.mp found with ending | inside
  · rcases List.suffix_concat_iff.mp ending with rfl | ⟨front, rfl, -⟩
    · exact List.nil_infix
    · exact absurd (List.mem_append_right front (List.mem_singleton_self c)) absent
  · exact inside

theorem containsText_iff : containsText part text = true ↔ part <:+: text := by
  induction text with
  | nil => rw [containsText, List.isEmpty_iff, List.infix_nil]
  | cons c text ih =>
    rw [containsText, Bool.or_eq_true, startsWith, List.isPrefixOf_iff_prefix, ih, List.infix_cons_iff]

/-- A text is cut at a part where it stands, if the part does not stand before. The part cannot overlap
itself, as its first character does not come again in it. -/
theorem splitFirst_append (single : mark ∉ tail) (absent : ¬ (mark :: tail) <:+: before) (after : List Char) :
    splitFirst (mark :: tail) (before ++ mark :: (tail ++ after)) = some (before, after) := by
  induction before with
  | nil =>
    have starts : startsWith (mark :: tail) (mark :: (tail ++ after)) = true :=
      List.isPrefixOf_iff_prefix.mpr (List.prefix_append (mark :: tail) after)
    rw [List.nil_append, splitFirst, if_pos starts]
    simp
  | cons c before ih =>
    have later : ¬ startsWith (mark :: tail) (c :: (before ++ mark :: (tail ++ after))) = true := by
      intro starts
      obtain ⟨rfl, rest⟩ := List.cons_prefix_cons.mp (List.isPrefixOf_iff_prefix.mp starts)
      have here : (mark :: tail) <+: mark :: before :=
        List.cons_prefix_cons.mpr ⟨rfl, (prefix_append_cons single).mp rest⟩
      exact absent here.isInfix
    rw [List.cons_append, splitFirst, if_neg later, ih fun inside => absent (List.infix_cons inside)]
    rfl

end LiterateCalc.Text
