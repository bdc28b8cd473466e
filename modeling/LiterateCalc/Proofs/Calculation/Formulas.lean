import LiterateCalc.Proofs.Calculation.Record
import LiterateCalc.Proofs.Document.Order

/-! The formulas of a document hold of the values that a calculator shows, as far as they refer back.
A formula that refers to its own variable or to a later one fails at the start, unless the name is that
of a constant. -/
namespace LiterateCalc
open Evaluation (Values Source evaluate constant?)
variable {document : Document} {entry : Variable} {name : String} {definitions front back : List Variable}

/-- A variable refers to itself, or to one that is declared after it. -/
def Variable.RefersAhead (entry : Variable) (definitions : List Variable) (name : String) : Prop :=
  entry.RefersTo name ∧ ∃ later, (later = entry ∨ Precedes definitions entry later) ∧ later.name = name

theorem Variable.RefersAhead.mem (ahead : entry.RefersAhead definitions name) (inside : entry ∈ definitions) :
    name ∈ definitions.map (·.name) := by
  obtain ⟨-, later, rfl | precedes, rfl⟩ := ahead
  · exact List.mem_map_of_mem inside
  · exact List.mem_map_of_mem precedes.mem.2

theorem Variable.refersTo_iff (found : Expression.parse entry.expression = .ok tree) :
    entry.RefersTo name ↔ name ∈ tree.references := by
  constructor
  · rintro ⟨other, again, inside⟩
    rw [found] at again
    obtain rfl := Except.ok.inj again
    exact inside
  · intro inside
    exact ⟨tree, found, inside⟩

section
variable (cut : definitions = front ++ entry :: back)
include cut

/-- A name that a variable refers to, but not ahead, is calculated only in front of it. -/
theorem Variable.mem_front_iff (refers : entry.RefersTo name) (behind : ¬ entry.RefersAhead definitions name) :
    name ∈ front.map (·.name) ↔ name ∈ definitions.map (·.name) := by
  constructor
  · intro early
    rw [cut, List.map_append]
    exact List.mem_append_left _ early
  · intro inside
    obtain ⟨other, member, rfl⟩ := List.mem_map.mp inside
    rw [cut] at member
    rcases List.mem_append.mp member with early | here
    · exact List.mem_map_of_mem early
    · rcases List.mem_cons.mp here with rfl | late
      · exact absurd ⟨refers, other, .inl rfl, rfl⟩ behind
      · exact absurd ⟨refers, other, .inr (precedes_of_back cut late), rfl⟩ behind

/-- The names ahead of a variable are not among those in front of it. -/
theorem Variable.RefersAhead.not_mem_front (ahead : entry.RefersAhead definitions name)
    (distinct : (definitions.map (·.name)).Nodup) : name ∉ front.map (·.name) := by
  obtain ⟨-, later, place, rfl⟩ := ahead
  intro early
  obtain ⟨other, inFront, same⟩ := List.mem_map.mp early
  have precedes := precedes_of_front cut inFront
  rcases place with rfl | behind
  · exact Calculation.fresh_of_cut distinct cut early
  · obtain rfl : other = later := List.inj_on_of_nodup_map distinct precedes.mem.1 behind.mem.2 same
    exact behind.asymm distinct.of_map precedes

end

/-- No calculated variable of a consistent document is an input. -/
theorem Document.Consistent.not_mem_inputs (consistent : document.Consistent)
    (inside : name ∈ document.calculated.map (·.name)) : name ∉ document.inputs := by
  rw [consistent.inputs]
  intro listed
  obtain ⟨entry, calculated, rfl⟩ := List.mem_map.mp inside
  obtain ⟨other, input, same⟩ := List.mem_map.mp listed
  rw [Document.calculated, List.mem_filter] at calculated
  rw [List.mem_filter] at input
  obtain rfl := List.inj_on_of_nodup_map consistent.aligned.definitions_distinct input.1 calculated.1 same
  simp [input.2] at calculated

namespace Calculation

/-- In each state that a calculator comes to, a variable that refers to nothing ahead has the result
that its formula gives for all the values shown. -/
theorem Calculator.run_formula (produced : document.Produced) (given : Values) (operations : List Operation)
    (inside : entry ∈ document.calculated)
    (behind : ∀ name, ¬ entry.RefersAhead document.calculated name) :
    let state := ((start document given).1.run operations).state
    state.Shows entry.name (evaluate (state.inputs.overlay state.calculated).get? entry.expression) := by
  intro state
  have records := run_records produced given operations
  obtain ⟨front, back, cut⟩ := List.append_of_mem inside
  have sees : evaluate (state.inputs.overlay state.calculated).get? entry.expression =
      evaluate (state.sightAfter front) entry.expression := by
    apply Variable.evaluate_congr
    intro name refers
    rw [records.sightAfter_eq (Variable.mem_front_iff cut refers (behind name)), sight_eq]
  rw [sees]
  exact records.shows front entry back cut

/-- An input becomes infinite, and the formula that squares it fails. -/
theorem Calculator.run_formula_infinite :
    ∃ document entry, Document.readAs .markdown {} "x = 1\ny = x * x\nz = y" = .ok document ∧
      entry ∈ document.calculated ∧ entry.expression = "x * x" ∧
      (∀ name, ¬ entry.RefersAhead document.calculated name) ∧
      let state := ((start document ∅).1.run [.setInput "x" (1.0 / 0.0)]).state
      state.Shows entry.name (evaluate (state.inputs.overlay state.calculated).get? entry.expression) := by
  let x : Variable := ⟨"x", "1", true, "", 0, 1, ⟨0, 5⟩⟩
  let y : Variable := ⟨"y", "x * x", false, "", 1, 2, ⟨6, 15⟩⟩
  let z : Variable := ⟨"z", "y", false, "", 2, 3, ⟨16, 21⟩⟩
  let part : Section := ⟨"", 0, 0, false, [x, y, z], [.definition x, .definition y, .definition z]⟩
  have success : Document.readAs .markdown {} "x = 1\ny = x * x\nz = y" =
      .ok ⟨.markdown, "default", [part], [x, y, z], ["x"]⟩ := by rfl
  have words : Expression.tokenize "x * x".toList =
      .ok [⟨.identifier "x", ⟨0, 1⟩⟩, ⟨.star, ⟨2, 3⟩⟩, ⟨.identifier "x", ⟨4, 5⟩⟩] := by with_unfolding_all rfl
  have square : Expression.parse y.expression =
      .ok (.binary .multiply (.reference "x" ⟨0, 1⟩) (.reference "x" ⟨4, 5⟩)) := by
    rw [Expression.parse, Expression.parseText, words]
    rfl
  have inside : y ∈ [y, z] := List.mem_cons_self
  have behind : ∀ name, ¬ y.RefersAhead [y, z] name := by
    intro name ahead
    have only : name ∈ ["x"] := (Variable.refersTo_iff square).mp ahead.1
    rw [List.mem_singleton.mp only] at ahead
    exact absurd (ahead.mem inside) (by decide)
  exact ⟨_, y, success, inside, rfl, behind, run_formula (.read success) ∅ _ inside behind⟩

/-- In the first state, a variable has failed that refers ahead to a name other than that of a constant. -/
theorem Calculator.start_ahead (produced : document.Produced) (given : Values)
    (inside : entry ∈ document.calculated) (ahead : entry.RefersAhead document.calculated name)
    (unnamed : constant? name = none) :
    let state := (start document given).1.state
    entry.name ∈ state.errors.keys ∧ state.calculated.get? entry.name = some 0.0 := by
  intro state
  have records : State.Records document.calculated state := run_records produced given []
  have consistent := produced.consistent
  obtain ⟨front, back, cut⟩ := List.append_of_mem inside
  have missing : state.sightAfter front name = none := by
    have late := ahead.not_mem_front cut consistent.calculated_distinct
    have unset : name ∉ state.inputs.keys := by
      intro input
      have listed := (State.mem_initial_inputs consistent given name).mp input
      exact consistent.not_mem_inputs (ahead.mem inside) listed
    rw [State.sightAfter, if_neg late, NameMap.get?_eq_none unset]
  obtain ⟨tree, found, reference⟩ := ahead.1
  obtain ⟨error, failed⟩ := Evaluation.evaluate_of_unvalued found reference missing unnamed
  have shows := records.shows front entry back cut
  rw [failed] at shows
  exact ⟨NameMap.mem_keys.mpr (by rw [shows.2]; rfl), shows.1⟩

/-- Two variables that refer to each other: the first one fails. -/
theorem Calculator.start_ahead_circle :
    ∃ document entry, Document.readAs .markdown {} "x = y\ny = x" = .ok document ∧
      entry ∈ document.calculated ∧ entry.name = "x" ∧ entry.RefersAhead document.calculated "y" ∧
      constant? "y" = none ∧
      let state := (start document ∅).1.state
      "x" ∈ state.errors.keys ∧ state.calculated.get? "x" = some 0.0 := by
  let x : Variable := ⟨"x", "y", false, "", 0, 1, ⟨0, 5⟩⟩
  let y : Variable := ⟨"y", "x", false, "", 1, 2, ⟨6, 11⟩⟩
  let part : Section := ⟨"", 0, 0, false, [x, y], [.definition x, .definition y]⟩
  have success : Document.readAs .markdown {} "x = y\ny = x" =
      .ok ⟨.markdown, "default", [part], [x, y], []⟩ := by rfl
  have reference : Expression.parse x.expression = .ok (.reference "y" ⟨0, 1⟩) := Expression.parse_name "y" (by decide)
  have inside : x ∈ [x, y] := List.mem_cons_self
  have ahead : x.RefersAhead [x, y] "y" :=
    ⟨(Variable.refersTo_iff reference).mpr (List.mem_cons_self), y, .inr (.refl _), rfl⟩
  exact ⟨_, x, success, inside, rfl, ahead, by decide, start_ahead (.read success) ∅ inside ahead (by decide)⟩

/-- Two variables with the names of constants refer to each other, and the first one has the value of
a constant. -/
theorem Calculator.constants_circle :
    ∃ document entry, Document.readAs .markdown {} "PI = E\nE = PI" = .ok document ∧
      entry ∈ document.calculated ∧ entry.name = "PI" ∧ entry.RefersAhead document.calculated "E" ∧
      let state := (start document ∅).1.state
      state.errors.get? "PI" = none ∧ state.calculated.get? "PI" = some 2.718281828459045 := by
  let pi : Variable := ⟨"PI", "E", false, "", 0, 1, ⟨0, 6⟩⟩
  let e : Variable := ⟨"E", "PI", false, "", 1, 2, ⟨7, 13⟩⟩
  let part : Section := ⟨"", 0, 0, false, [pi, e], [.definition pi, .definition e]⟩
  have success : Document.readAs .markdown {} "PI = E\nE = PI" =
      .ok ⟨.markdown, "default", [part], [pi, e], []⟩ := by rfl
  have reference : Expression.parse pi.expression = .ok (.reference "E" ⟨0, 1⟩) := Expression.parse_name "E" (by decide)
  have ahead : pi.RefersAhead [pi, e] "E" :=
    ⟨(Variable.refersTo_iff reference).mpr List.mem_cons_self, e, .inr (.refl _), rfl⟩
  refine ⟨_, pi, success, List.mem_cons_self, rfl, ahead, ?_⟩
  have records := run_records (.read success) ∅ []
  have shows := records.shows [] pi [e] rfl
  rw [Evaluation.evaluate_of_parse reference] at shows
  exact ⟨shows.2, shows.1⟩

end Calculation
end LiterateCalc
