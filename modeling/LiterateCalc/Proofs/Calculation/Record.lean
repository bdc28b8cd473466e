import LiterateCalc.Proofs.Calculation.Reachable
import LiterateCalc.Proofs.Evaluation.References

/-! What is left of each variable after a pass: the result of its expression, for the values of the
variables before it and the inputs under them. Variables that come later leave it as it is. -/
namespace LiterateCalc
open Evaluation (Source EvaluationError evaluate)

/-- The expression of a variable can be read, and a name is among its references. -/
def Variable.RefersTo (entry : Variable) (name : String) : Prop :=
  ∃ tree, Expression.parse entry.expression = .ok tree ∧ name ∈ tree.references

/-- The result of a variable comes from the names that it refers to. -/
theorem Variable.evaluate_congr {entry : Variable} {source other : Source}
    (agree : ∀ name, entry.RefersTo name → source name = other name) :
    evaluate source entry.expression = evaluate other entry.expression :=
  Evaluation.evaluate_congr fun tree found name inside => agree name ⟨tree, found, inside⟩

namespace Calculation
namespace State
variable {state : State} {definitions before done : List Variable} {entry : Variable}

/-- A state has a result for a name: a value and no message, or a message and the value zero. -/
def Shows (state : State) (name : String) : Except EvaluationError Float → Prop
  | .ok value => state.calculated.get? name = some value ∧ state.errors.get? name = none
  | .error error =>
    state.calculated.get? name = some 0.0 ∧ state.errors.get? name = some error.message

/-- Two states have the same for a name, be it a value, a message or nothing. -/
def Agrees (state other : State) (name : String) : Prop :=
  state.calculated.get? name = other.calculated.get? name ∧ state.errors.get? name = other.errors.get? name

theorem Shows.agrees {other : State} (shows : state.Shows name result) (showsToo : other.Shows name result) :
    state.Agrees other name := by
  cases result with
  | ok value | error error => exact ⟨shows.1.trans showsToo.1.symm, shows.2.trans showsToo.2.symm⟩

/-- Adds a result to a state, as a pass does. -/
def record (state : State) (name : String) : Except EvaluationError Float → State
  | .ok value => { state with calculated := state.calculated.insert name value }
  | .error error =>
    { state with
      calculated := state.calculated.insert name 0.0
      errors := state.errors.insert name error.message }

/-- What a variable sees of a state in which those before it are calculated, and it is not. -/
def sightAfter (state : State) (before : List Variable) : Source := fun name =>
  if name ∈ before.map (·.name) then state.calculated.get? name else state.inputs.get? name

section
variable {name other : String} {result : Except EvaluationError Float}

theorem record_inputs : (state.record name result).inputs = state.inputs := by
  cases result <;> rfl

theorem mem_calculated_record :
    other ∈ (state.record name result).calculated.keys ↔ other = name ∨ other ∈ state.calculated.keys := by
  cases result <;> exact NameMap.mem_keys_insert

theorem mem_errors_record (inside : other ∈ (state.record name result).errors.keys) :
    other = name ∨ other ∈ state.errors.keys := by
  cases result with
  | ok value => exact .inr inside
  | error error => exact NameMap.mem_keys_insert.mp inside

theorem calculated_record (different : name ≠ other) :
    (state.record name result).calculated.get? other = state.calculated.get? other := by
  cases result <;> exact (NameMap.get?_insert _ _ _ _).trans (if_neg different)

theorem errors_record (different : name ≠ other) :
    (state.record name result).errors.get? other = state.errors.get? other := by
  cases result with
  | ok value => rfl
  | error error => exact (NameMap.get?_insert _ _ _ _).trans (if_neg different)

theorem shows_record (quiet : state.errors.get? name = none) : (state.record name result).Shows name result := by
  cases result with
  | ok value => exact ⟨(NameMap.get?_insert _ _ _ _).trans (if_pos rfl), quiet⟩
  | error error =>
    exact ⟨(NameMap.get?_insert _ _ _ _).trans (if_pos rfl), (NameMap.get?_insert _ _ _ _).trans (if_pos rfl)⟩

theorem Shows.record (shows : state.Shows other shown) (different : name ≠ other) :
    (state.record name result).Shows other shown := by
  cases shown with
  | ok value | error error =>
    exact ⟨(calculated_record different).trans shows.1, (errors_record different).trans shows.2⟩

theorem sightAfter_record (fresh : name ∉ before.map (·.name)) :
    (state.record name result).sightAfter before = state.sightAfter before := by
  funext other
  unfold sightAfter
  by_cases early : other ∈ before.map (·.name)
  · have different : name ≠ other := by
      rintro rfl
      exact fresh early
    rw [if_pos early, if_pos early, calculated_record different]
  · rw [if_neg early, if_neg early, record_inputs]

end

/-- A state has the result of each variable, and nothing else. -/
structure Records (definitions : List Variable) (state : State) : Prop where
  names : ∀ name, name ∈ state.calculated.keys ↔ name ∈ definitions.map (·.name)
  failed : ∀ name ∈ state.errors.keys, name ∈ definitions.map (·.name)
  shows : ∀ before entry after, definitions = before ++ entry :: after →
    state.Shows entry.name (evaluate (state.sightAfter before) entry.expression)

/-- Names that are calculated exactly if they are calculated before a variable are seen by it as they
are in the state. -/
theorem Records.sightAfter_eq (records : Records definitions state)
    (same : name ∈ before.map (·.name) ↔ name ∈ definitions.map (·.name)) :
    state.sightAfter before name = sight state.inputs state.calculated name := by
  have known := records.names name
  rw [← same] at known
  unfold sightAfter sight
  by_cases early : name ∈ before.map (·.name)
  · obtain ⟨value, found⟩ := Option.isSome_iff_exists.mp (NameMap.mem_keys.mp (known.mpr early))
    rw [if_pos early, found]
    rfl
  · rw [if_neg early, NameMap.get?_eq_none (fun late => early (known.mp late))]
    rfl

theorem Records.quiet (records : Records definitions state) (fresh : name ∉ definitions.map (·.name)) :
    state.errors.get? name = none :=
  NameMap.get?_eq_none fun inside => fresh (records.failed name inside)

/-- A variable with a new name adds its result, and leaves those of the others. -/
theorem Records.record (records : Records done state) (fresh : entry.name ∉ done.map (·.name)) :
    Records (done ++ [entry])
      (state.record entry.name (evaluate (sight state.inputs state.calculated) entry.expression)) := by
  refine ⟨?_, ?_, ?_⟩
  · intro name
    rw [mem_calculated_record, records.names, List.map_append, List.mem_append, or_comm]
    simp
  · intro name inside
    rw [List.map_append, List.mem_append]
    rcases mem_errors_record inside with rfl | old
    · exact .inr (by simp)
    · exact .inl (records.failed name old)
  · intro before other after cut
    rcases List.eq_nil_or_concat after with rfl | ⟨rest, last, rfl⟩
    · obtain ⟨rfl, single⟩ := List.append_inj' cut rfl
      obtain rfl := List.head_eq_of_cons_eq single
      have sees : state.sightAfter done = sight state.inputs state.calculated := by
        funext name
        exact records.sightAfter_eq Iff.rfl
      rw [sightAfter_record fresh, sees]
      exact shows_record (records.quiet fresh)
    · have longer : done ++ [entry] = (before ++ other :: rest) ++ [last] := by simpa using cut
      obtain ⟨rfl, -⟩ := List.append_inj' longer rfl
      rw [List.map_append, List.mem_append, List.map_cons, List.mem_cons, not_or, not_or] at fresh
      rw [sightAfter_record fresh.1]
      exact (records.shows before other rest rfl).record fresh.2.1

/-- A pass over variables with different names records each of them. -/
theorem recalculate_records (document : Document) (distinct : (document.calculated.map (·.name)).Nodup)
    (state : State) : Records document.calculated (state.recalculate document) := by
  have start : Records [] ⟨state.inputs, ∅, ∅⟩ := by
    refine ⟨fun _ => Iff.rfl, ?_, ?_⟩
    · intro name inside
      cases inside
    · intro before entry after cut
      simp at cut
  refine state.recalculate_induction (motive := fun done scope errors => Records done ⟨state.inputs, scope, errors⟩)
    document start ?_ ?_
  · intro done entry rest scope errors value cut result records
    have next := records.record (fresh_of_cut distinct cut)
    rwa [result] at next
  · intro done entry rest scope errors error cut result records
    have next := records.record (fresh_of_cut distinct cut)
    rwa [result] at next

end State

/-- In each state that a calculator comes to, all variables are recorded. -/
theorem Calculator.run_records {document : Document} (produced : document.Produced)
    (given : Evaluation.Values) (operations : List Operation) :
    State.Records document.calculated ((start document given).1.run operations).state := by
  rw [start_eq, run_ofInputs]
  exact State.recalculate_records document produced.consistent.calculated_distinct _

end Calculation
end LiterateCalc
