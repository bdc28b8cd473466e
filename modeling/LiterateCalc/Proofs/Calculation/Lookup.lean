import LiterateCalc.Proofs.Calculation.Formulas
import LiterateCalc.Report.Lines

namespace LiterateCalc
open Evaluation (Values)
variable {document : Document} {entry : Variable}

theorem Document.mem_calculated (inside : entry ∈ document.definitions) (calculated : entry.isInput = false) :
    entry ∈ document.calculated :=
  List.mem_filter.mpr ⟨inside, by simp [calculated]⟩

/-- A variable of a consistent document is an input exactly if its name is listed. -/
theorem Document.Consistent.mem_inputs_iff (consistent : document.Consistent) (inside : entry ∈ document.definitions) :
    entry.name ∈ document.inputs ↔ entry.isInput = true := by
  constructor
  · intro listed
    cases input : entry.isInput with
    | true => rfl
    | false =>
      have calculated := List.mem_map_of_mem (f := (·.name)) (Document.mem_calculated inside input)
      exact absurd listed (consistent.not_mem_inputs calculated)
  · intro input
    rw [consistent.inputs]
    exact List.mem_map_of_mem (List.mem_filter.mpr ⟨inside, input⟩)

namespace Calculation

/-- The value of a variable among those of its kind. -/
def State.own? (state : State) (entry : Variable) : Option Float :=
  (if entry.isInput then state.inputs else state.calculated).get? entry.name

theorem State.shownValue_eq {state : State} (found : state.own? entry = some value) :
    Report.shownValue state entry = value := by
  rw [own?] at found
  rw [Report.shownValue, found, Option.getD_some]

section
variable (produced : document.Produced) (given : Values) (operations : List Operation)
include produced

/-- Each variable has a value of its kind. -/
theorem Calculator.run_own? (inside : entry ∈ document.definitions) :
    ∃ value, (((start document given).1.run operations).state).own? entry = some value := by
  apply Option.isSome_iff_exists.mp
  rw [State.own?]
  cases input : entry.isInput with
  | true =>
    have listed := (produced.consistent.mem_inputs_iff inside).mpr input
    have first := (State.mem_initial_inputs produced.consistent given _).mpr listed
    rw [start_eq, run_ofInputs]
    exact NameMap.mem_keys.mp (NameMap.mem_keys_overlay.mpr (.inr first))
  | false =>
    have calculated := List.mem_map_of_mem (f := (·.name)) (Document.mem_calculated inside input)
    exact NameMap.mem_keys.mp (((run_records produced given operations).names _).mpr calculated)

/-- Under the name of a calculated variable there is nothing among the inputs but what was written. -/
theorem Calculator.run_inputs_calculated (inside : entry ∈ document.definitions) (calculated : entry.isInput = false) :
    ((start document given).1.run operations).state.inputs.get? entry.name =
      Operation.lastWrite? operations entry.name := by
  have unlisted : entry.name ∉ (State.initial document given).inputs.keys := by
    rw [State.mem_initial_inputs produced.consistent, produced.consistent.mem_inputs_iff inside, calculated]
    decide
  rw [start_eq, run_ofInputs, ← Operation.get?_lastWrites]
  have written := NameMap.get?_overlay (State.initial document given).inputs (Operation.lastWrites operations) entry.name
  rw [NameMap.get?_eq_none unlisted, Option.or_none] at written
  exact written

end

/-- A look-up finds the value that the report shows for a variable exactly if it is an input, or nothing
else was written last under its name. Otherwise it finds what was written. -/
theorem Calculator.value?_eq_shown_iff {document : Document} (produced : document.Produced) (given : Values)
    (operations : List Operation) (inside : entry ∈ document.definitions) :
    let calculator := (start document given).1.run operations
    ∃ value, calculator.state.own? entry = some value ∧ Report.shownValue calculator.state entry = value ∧
      (calculator.value? entry.name = some value ↔ entry.isInput = true ∨
        ∀ written, Operation.lastWrite? operations entry.name = some written → written = value) ∧
      (entry.isInput = false → ∀ written, Operation.lastWrite? operations entry.name = some written →
        calculator.value? entry.name = some written) := by
  intro calculator
  obtain ⟨value, found⟩ := run_own? produced given operations inside
  refine ⟨value, found, State.shownValue_eq found, ?_⟩
  rw [State.own?] at found
  rw [value?]
  cases input : entry.isInput with
  | true =>
    rw [input, if_pos rfl] at found
    rw [found]
    simp
  | false =>
    rw [input, if_neg (by decide)] at found
    rw [run_inputs_calculated produced given operations inside input, found]
    cases Operation.lastWrite? operations entry.name with
    | none => simp
    | some written => simp

/-- A value that is written to a name without a variable leaves both look-ups of a calculated variable alike. -/
theorem Calculator.value?_eq_shown_unwritten :
    let operations : List Operation := [.setInput "x" 3.0, .setInput "z" 5.0]
    ∃ document entry, Document.readAs .markdown {} "x = 1\ny = x" = .ok document ∧
      entry ∈ document.definitions ∧ entry.name = "y" ∧ entry.isInput = false ∧
      let calculator := (start document ∅).1.run operations
      calculator.value? "y" = some (Report.shownValue calculator.state entry) := by
  let x : Variable := ⟨"x", "1", true, "", 0, 1, ⟨0, 5⟩⟩
  let y : Variable := ⟨"y", "x", false, "", 1, 2, ⟨6, 11⟩⟩
  let part : Section := ⟨"", 0, 0, false, [x, y], [.definition x, .definition y]⟩
  have success : Document.readAs .markdown {} "x = 1\ny = x" =
      .ok ⟨.markdown, "default", [part], [x, y], ["x"]⟩ := by rfl
  intro operations
  have inside : y ∈ [x, y] := List.mem_cons_of_mem _ List.mem_cons_self
  obtain ⟨value, -, shown, same, -⟩ := value?_eq_shown_iff (.read success) ∅ operations inside
  refine ⟨_, y, success, inside, rfl, rfl, ?_⟩
  dsimp only
  rw [shown]
  have unwritten : Operation.lastWrite? operations y.name = none := by rfl
  exact same.mpr (.inr fun written found => absurd (unwritten.symm.trans found) (by simp))

/-- What is written to a calculated variable is looked up, and not the value of its formula that the
report shows. -/
theorem Calculator.value?_overwritten :
    ∃ document entry, Document.readAs .markdown {} "y = E" = .ok document ∧
      entry ∈ document.definitions ∧ entry.name = "y" ∧ entry.isInput = false ∧
      let calculator := (start document ∅).1.run [.setInput "y" 5.0]
      calculator.value? "y" = some 5.0 ∧
        Report.shownValue calculator.state entry = 2.718281828459045 ∧ (5.0 : Float) ≠ 2.718281828459045 := by
  let y : Variable := ⟨"y", "E", false, "", 0, 1, ⟨0, 5⟩⟩
  have success : Document.readAs .markdown {} "y = E" =
      .ok ⟨.markdown, "default", [⟨"", 0, 0, false, [y], [.definition y]⟩], [y], []⟩ := by rfl
  have inside : y ∈ [y] := List.mem_cons_self
  have reference : Expression.parse y.expression = .ok (.reference "E" ⟨0, 1⟩) := Expression.parse_name "E" (by decide)
  have written := run_inputs_calculated (.read success) ∅ [.setInput "y" 5.0] inside rfl
  have shows := (run_records (.read success) ∅ [.setInput "y" 5.0]).shows [] y [] rfl
  rw [Evaluation.evaluate_of_parse reference] at shows
  refine ⟨_, y, success, inside, rfl, rfl, ?_, State.shownValue_eq shows.1, by decide⟩
  rw [value?, written]
  rfl

end Calculation
end LiterateCalc
