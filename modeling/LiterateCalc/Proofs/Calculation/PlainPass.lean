import LiterateCalc.Proofs.Calculation.Record

/-! A pass that keeps all values in one map: the inputs, and over them each result as soon as it is known.
The pass that puts a scope over the inputs shows the same values after each variable, and leaves the same
results. -/
namespace LiterateCalc.Calculation
open Evaluation (Values Environment EvaluationError evaluate)

/-- The values that the next variable sees, and the results so far. -/
structure PlainPass where
  values : Values
  results : List (String × Except EvaluationError Float)

namespace PlainPass
variable {inputs : Values} {layered : State.Pass} {plain : PlainPass} {definitions before after : List Variable}
  {entry : Variable}

/-- The value that a result leaves. A failure leaves zero. -/
def valueOf : Except EvaluationError Float → Float
  | .ok value => value
  | .error _ => 0.0

def messageOf? : Except EvaluationError Float → Option String
  | .ok _ => none
  | .error error => some error.message

def step (plain : PlainPass) (entry : Variable) : PlainPass :=
  let result := evaluate plain.values.get? entry.expression
  { values := plain.values.insert entry.name (valueOf result)
    results := plain.results ++ [(entry.name, result)] }

/-- Calculates variables in order, from the values of the inputs on. -/
def run (inputs : Values) (definitions : List Variable) : PlainPass := definitions.foldl step ⟨inputs, []⟩

/-- The state that consists of the inputs and the results. -/
def state (inputs : Values) (plain : PlainPass) : State :=
  { inputs
    calculated := .ofList (plain.results.map fun (name, result) => (name, valueOf result))
    errors := .ofList (plain.results.filterMap fun (name, result) => (messageOf? result).map (name, ·)) }

theorem state_step (inputs : Values) (plain : PlainPass) (entry : Variable) :
    (plain.step entry).state inputs =
      (plain.state inputs).record entry.name (evaluate plain.values.get? entry.expression) := by
  rw [step]
  cases evaluate plain.values.get? entry.expression with
  | ok value | error error => simp [state, State.record, valueOf, messageOf?, NameMap.ofList_concat]

theorem run_concat (inputs : Values) (before : List Variable) (entry : Variable) :
    run inputs (before ++ [entry]) = (run inputs before).step entry := by
  rw [run, List.foldl_append]
  rfl

/-- A pass with a scope has the same results as one with a single map, and shows the same values. -/
structure Matches (inputs : Values) (layered : State.Pass) (plain : PlainPass) : Prop where
  environment : layered.environment = (Environment.ofBase inputs).push (plain.state inputs).calculated
  values : layered.environment.flatten = plain.values
  errors : layered.errors = (plain.state inputs).errors

theorem Matches.start (inputs : Values) :
    Matches inputs ⟨(Environment.ofBase inputs).push ∅, ∅⟩ ⟨inputs, []⟩ := ⟨rfl, rfl, rfl⟩

theorem Matches.step (same : Matches inputs layered plain) (entry : Variable) :
    Matches inputs (layered.step entry) (plain.step entry) := by
  obtain ⟨environment, errors⟩ := layered
  obtain ⟨rfl, shown, rfl⟩ := same
  have shown : inputs.overlay (plain.state inputs).calculated = plain.values := shown
  have next := state_step inputs plain entry
  -- Both passes evaluate against the same values now, and each of them records the result in its own way.
  rw [State.Pass.step_push, sight_eq, shown]
  cases result : evaluate plain.values.get? entry.expression with
  | ok value | error error =>
    rw [result] at next
    refine ⟨by rw [next]; rfl, ?_, by rw [next]; rfl⟩
    rw [PlainPass.step, result, valueOf, ← shown]
    exact NameMap.overlay_insert _ _ _ _

theorem Matches.run (inputs : Values) (definitions : List Variable) :
    Matches inputs (State.pass inputs definitions) (run inputs definitions) := by
  induction definitions using List.reverseRecOn with
  | nil => exact .start inputs
  | append_singleton before entry ih =>
    rw [run_concat, State.pass, List.foldl_append]
    exact ih.step entry

theorem run_quiet (fresh : name ∉ definitions.map (·.name)) :
    ((run inputs definitions).state inputs).errors.get? name = none := by
  induction definitions using List.reverseRecOn with
  | nil => rfl
  | append_singleton before entry ih =>
    rw [List.map_append, List.mem_append, not_or, List.map_singleton, List.mem_singleton] at fresh
    rw [run_concat, state_step, State.errors_record (Ne.symm fresh.2)]
    exact ih fresh.1

/-- With different names, a result stays until the end of the pass. -/
theorem run_shows (distinct : (definitions.map (·.name)).Nodup) (cut : definitions = before ++ entry :: after) :
    ((run inputs definitions).state inputs).Shows entry.name
      (evaluate (run inputs before).values.get? entry.expression) := by
  induction after using List.reverseRecOn generalizing definitions with
  | nil =>
    rw [cut, run_concat, state_step]
    exact State.shows_record (run_quiet (fresh_of_cut distinct cut))
  | append_singleton after last ih =>
    have shorter : definitions = (before ++ entry :: after) ++ [last] := by simpa using cut
    have apart : last.name ∉ (before ++ entry :: after).map (·.name) := fresh_of_cut distinct shorter
    rw [shorter, List.map_append] at distinct
    rw [shorter, run_concat, state_step]
    refine (ih (List.nodup_append.mp distinct).1 rfl).record ?_
    intro same
    rw [same] at apart
    exact apart (List.mem_map_of_mem (List.mem_append_right before List.mem_cons_self))

end PlainPass

/-- A pass over a document leaves the inputs, and the results of a pass that writes each of them over the
inputs in one map. Both show the same values after each variable. With different names, each variable has the
value or the message that its expression gives for the map at its turn. -/
theorem State.recalculate_plain (document : Document) (state : State) :
    (∀ before, before <+: document.calculated →
      (pass state.inputs before).environment.flatten = (PlainPass.run state.inputs before).values) ∧
    state.recalculate document = (PlainPass.run state.inputs document.calculated).state state.inputs ∧
    ((document.definitions.map (·.name)).Nodup → ∀ before entry after,
      document.calculated = before ++ entry :: after →
        (state.recalculate document).Shows entry.name
          (evaluate (PlainPass.run state.inputs before).values.get? entry.expression)) := by
  have whole : state.recalculate document =
      (PlainPass.run state.inputs document.calculated).state state.inputs := by
    have same := PlainPass.Matches.run state.inputs document.calculated
    simp only [recalculate, same.environment, same.errors, Environment.pop_push]
    rfl
  refine ⟨fun before _ => (PlainPass.Matches.run state.inputs before).values, whole, ?_⟩
  intro distinct before entry after cut
  rw [whole]
  exact PlainPass.run_shows (distinct.sublist (List.filter_sublist.map _)) cut

/-- Two variables that refer to each other, while a number has been written to the second: the first takes
this number, the second the value of the first. -/
theorem State.recalculate_plain_written :
    let state : State := ⟨(∅ : Values).insert "z" 5.0, ∅, ∅⟩
    ∃ document y z, Document.readAs .markdown {} "y = z\nz = y" = .ok document ∧ document.calculated = [y, z] ∧
      (document.definitions.map (·.name)).Nodup ∧
      [y] <+: document.calculated ∧
      (pass state.inputs [y]).environment.flatten = (state.inputs.insert "y" 5.0) ∧
      (state.recalculate document).Shows "z" (.ok 5.0) := by
  intro state
  let y : Variable := ⟨"y", "z", false, "", 0, 1, ⟨0, 5⟩⟩
  let z : Variable := ⟨"z", "y", false, "", 1, 2, ⟨6, 11⟩⟩
  let part : Section := ⟨"", 0, 0, false, [y, z], [.definition y, .definition z]⟩
  let document : Document := ⟨.markdown, "default", [part], [y, z], []⟩
  have success : Document.readAs .markdown {} "y = z\nz = y" = .ok document := by rfl
  have distinct : (document.definitions.map (·.name)).Nodup := by decide
  have first : evaluate state.inputs.get? "z" = .ok 5.0 := by
    have reference : Expression.parse "z" = .ok (.reference "z" ⟨0, 1⟩) := Expression.parse_name "z" (by decide)
    rw [Evaluation.evaluate_of_parse reference]
    rfl
  have values : (PlainPass.run state.inputs [y]).values = state.inputs.insert "y" 5.0 := by
    change state.inputs.insert "y" (PlainPass.valueOf (evaluate state.inputs.get? "z")) = _
    rw [first]
    rfl
  have second : evaluate (PlainPass.run state.inputs [y]).values.get? "y" = .ok 5.0 := by
    have reference : Expression.parse "y" = .ok (.reference "y" ⟨0, 1⟩) := Expression.parse_name "y" (by decide)
    rw [Evaluation.evaluate_of_parse reference, values]
    rfl
  obtain ⟨shown, -, shows⟩ := recalculate_plain document state
  have early : [y] <+: document.calculated := ⟨[z], rfl⟩
  have result := shows distinct [y] z [] rfl
  rw [second] at result
  exact ⟨document, y, z, success, rfl, distinct, early, (shown [y] early).trans values, result⟩

end LiterateCalc.Calculation
