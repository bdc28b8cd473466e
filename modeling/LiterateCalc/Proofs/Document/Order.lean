import Mathlib.Data.List.Nodup
import LiterateCalc.Document.Basic

namespace LiterateCalc
variable {definitions front back : List Variable} {first second entry : Variable}

/-- One variable is declared before another one. -/
def Precedes (definitions : List Variable) (first second : Variable) : Prop :=
  [first, second].Sublist definitions

theorem Precedes.mem (precedes : Precedes definitions first second) :
    first ∈ definitions ∧ second ∈ definitions :=
  ⟨precedes.subset List.mem_cons_self, precedes.subset (by simp)⟩

theorem Precedes.filter (precedes : Precedes definitions first second) (kept : p first = true)
    (keptToo : p second = true) : Precedes (definitions.filter p) first second := by
  have both := List.Sublist.filter p precedes
  rwa [List.filter_cons_of_pos kept, List.filter_cons_of_pos keptToo, List.filter_nil] at both

section
variable (cut : definitions = front ++ entry :: back)
include cut

theorem precedes_of_front (early : first ∈ front) : Precedes definitions first entry := by
  rw [cut]
  exact (List.singleton_sublist.mpr early).append (List.singleton_sublist.mpr List.mem_cons_self)

theorem precedes_of_back (late : second ∈ back) : Precedes definitions entry second := by
  rw [cut]
  exact (List.nil_sublist front).append ((List.singleton_sublist.mpr late).cons_cons entry)

/-- Where no variable is declared twice, those that precede one stand in front of it. -/
theorem Precedes.mem_front (precedes : Precedes definitions first entry) (distinct : definitions.Nodup) :
    first ∈ front := by
  rw [cut] at precedes distinct
  obtain ⟨upper, lower, same, inUpper, inLower⟩ := List.cons_sublist_iff.mp precedes
  rw [List.singleton_sublist] at inLower
  rcases List.append_eq_append_iff.mp same with ⟨middle, rfl, rest⟩ | ⟨middle, rfl, rest⟩
  · cases middle with
    | nil => simpa using inUpper
    | cons next middle =>
      obtain ⟨rfl, rfl⟩ := List.cons.inj rest
      have repeated := (List.nodup_cons.mp (List.nodup_append.mp distinct).2.1).1
      exact absurd (List.mem_append_right middle inLower) repeated
  · exact List.mem_append_left middle inUpper

end

theorem Precedes.asymm (precedes : Precedes definitions first second) (distinct : definitions.Nodup) :
    ¬ Precedes definitions second first := by
  intro reversed
  obtain ⟨front, back, cut⟩ := List.append_of_mem precedes.mem.1
  obtain ⟨start, middle, rfl⟩ := List.append_of_mem (reversed.mem_front cut distinct)
  rw [List.append_assoc, List.cons_append] at cut
  have earlier := precedes.mem_front cut distinct
  rw [cut] at distinct
  exact (List.nodup_append.mp distinct).2.2 first earlier first (by simp) rfl

theorem precedes_total (inside : first ∈ definitions) (other : second ∈ definitions) :
    first = second ∨ Precedes definitions first second ∨ Precedes definitions second first := by
  obtain ⟨front, back, cut⟩ := List.append_of_mem inside
  rw [cut] at other
  rcases List.mem_append.mp other with early | here
  · exact .inr (.inr (precedes_of_front cut early))
  · rcases List.mem_cons.mp here with rfl | late
    · exact .inl rfl
    · exact .inr (.inl (precedes_of_back cut late))

end LiterateCalc
