import LiterateCalc.Calculation.State

namespace LiterateCalc
open Evaluation (Values Environment EvaluationError evaluate evaluateText)

theorem Evaluation.evaluate_finite {source : Source} {text : String} {value : Float}
    (success : evaluate source text = .ok value) : value.isFinite = true := by
  unfold evaluate evaluateText at success
  split at success
  · cases success
    decide
  · split at success
    · cases success
    · split at success
      · cases success
        assumption
      · cases success

namespace Calculation
variable {inputs scope : Values} {errors : NameMap String} {definitions : List Variable}

/-- What a variable sees in a pass: the values calculated so far, over the inputs. -/
def sight (inputs scope : Values) : Evaluation.Source := fun name => scope.get? name <|> inputs.get? name

theorem sight_eq (inputs scope : Values) : sight inputs scope = (inputs.overlay scope).get? := by
  funext name
  rw [NameMap.get?_overlay, sight]
  cases scope.get? name <;> rfl

namespace State

theorem Pass.step_push (inputs scope : Values) (errors : NameMap String) (entry : Variable) :
    Pass.step ⟨(Environment.ofBase inputs).push scope, errors⟩ entry =
      match evaluate (sight inputs scope) entry.expression with
      | .ok value => ⟨(Environment.ofBase inputs).push (scope.insert entry.name value), errors⟩
      | .error error =>
        ⟨(Environment.ofBase inputs).push (scope.insert entry.name 0.0),
          errors.insert entry.name error.message⟩ := by
  have same : ((Environment.ofBase inputs).push scope).get? = sight inputs scope := by
    funext name
    exact Environment.get?_push _ _ _
  rw [Pass.step, same]
  rfl

/-- What holds before a pass and is kept by each variable, with a value or a failure, holds after it. -/
theorem recalculate_induction {motive : List Variable → Values → NameMap String → Prop}
    (document : Document) (state : State) (start : motive [] ∅ ∅)
    (success : ∀ done entry rest scope errors value, document.calculated = done ++ entry :: rest →
      evaluate (sight state.inputs scope) entry.expression = .ok value → motive done scope errors →
        motive (done ++ [entry]) (scope.insert entry.name value) errors)
    (failure : ∀ done entry rest scope errors error, document.calculated = done ++ entry :: rest →
      evaluate (sight state.inputs scope) entry.expression = .error error → motive done scope errors →
        motive (done ++ [entry]) (scope.insert entry.name 0.0) (errors.insert entry.name error.message)) :
    motive document.calculated (state.recalculate document).calculated
      (state.recalculate document).errors := by
  have through : ∀ rest done scope errors, document.calculated = done ++ rest → motive done scope errors →
      let last := rest.foldl Pass.step ⟨(Environment.ofBase state.inputs).push scope, errors⟩
      motive document.calculated (last.environment.pop.1.getD ∅) last.errors := by
    intro rest
    induction rest with
    | nil =>
      intro done scope errors cut kept
      rw [List.append_nil] at cut
      rw [cut]
      exact kept
    | cons entry rest ih =>
      intro done scope errors cut kept
      have further : document.calculated = (done ++ [entry]) ++ rest := by simpa using cut
      rw [List.foldl_cons, Pass.step_push]
      cases result : evaluate (sight state.inputs scope) entry.expression with
      | ok value => exact ih _ _ _ further (success _ _ _ _ _ _ cut result kept)
      | error error => exact ih _ _ _ further (failure _ _ _ _ _ _ cut result kept)
  exact through document.calculated [] ∅ ∅ rfl start

end State

/-- What the values and messages of a pass are for the variables that it has come to. -/
structure Covers (definitions : List Variable) (scope : Values) (errors : NameMap String) : Prop where
  names : ∀ name, name ∈ scope.keys ↔ name ∈ definitions.map (·.name)
  finite : ∀ name value, scope.get? name = some value → value.isFinite = true
  failed : ∀ name ∈ errors.keys, scope.get? name = some 0.0

theorem Covers.empty : Covers [] ∅ ∅ := by
  refine ⟨fun _ => Iff.rfl, ?_, ?_⟩
  · intro name value found
    cases found
  · intro name inside
    cases inside

theorem Covers.names_insert (covers : Covers definitions scope errors) (entry : Variable) (value : Float)
    (name : String) :
    name ∈ (scope.insert entry.name value).keys ↔ name ∈ (definitions ++ [entry]).map (·.name) := by
  rw [NameMap.mem_keys_insert, covers.names, List.map_append, List.mem_append, or_comm]
  simp

theorem Covers.finite_insert (covers : Covers definitions scope errors) (entry : Variable) {value : Float}
    (finite : value.isFinite = true) (name : String) (other : Float)
    (found : (scope.insert entry.name value).get? name = some other) : other.isFinite = true := by
  rw [NameMap.get?_insert] at found
  split at found
  · cases found
    exact finite
  · exact covers.finite name other found

/-- A new name has no message yet, so that older failures keep the value zero. -/
theorem Covers.failed_insert (covers : Covers definitions scope errors) {entry : Variable}
    (fresh : entry.name ∉ definitions.map (·.name)) (value : Float) (name : String) (inside : name ∈ errors.keys) :
    (scope.insert entry.name value).get? name = some 0.0 := by
  have zero := covers.failed name inside
  have old : name ∈ definitions.map (·.name) := by
    rw [← covers.names, NameMap.mem_keys, zero]
    rfl
  have other : entry.name ≠ name := by
    rintro rfl
    exact fresh old
  rw [NameMap.get?_insert, if_neg other, zero]

/-- Where names differ, a variable has another one than all before it. -/
theorem fresh_of_cut (distinct : (definitions.map (·.name)).Nodup) (cut : definitions = done ++ entry :: rest) :
    entry.name ∉ done.map (·.name) := by
  intro inside
  rw [cut, List.map_append, List.map_cons, List.nodup_append] at distinct
  exact distinct.2.2 _ inside _ List.mem_cons_self rfl

/-- A pass over variables with different names covers all of them. -/
theorem covers_recalculate (document : Document) (distinct : (document.calculated.map (·.name)).Nodup)
    (state : State) :
    Covers document.calculated (state.recalculate document).calculated
      (state.recalculate document).errors := by
  refine state.recalculate_induction (motive := Covers) document .empty ?_ ?_
  · intro done entry rest scope errors value cut result covers
    exact ⟨covers.names_insert entry value, covers.finite_insert entry (Evaluation.evaluate_finite result),
      covers.failed_insert (fresh_of_cut distinct cut) value⟩
  · intro done entry rest scope errors error cut result covers
    refine ⟨covers.names_insert entry 0.0, covers.finite_insert entry (by decide), ?_⟩
    intro name inside
    rcases NameMap.mem_keys_insert.mp inside with rfl | old
    · rw [NameMap.get?_insert, if_pos rfl]
    · exact covers.failed_insert (fresh_of_cut distinct cut) 0.0 name old

end Calculation
end LiterateCalc
