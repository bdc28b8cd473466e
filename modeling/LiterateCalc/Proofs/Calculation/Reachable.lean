import LiterateCalc.Proofs.Calculation.History
import LiterateCalc.Proofs.Calculation.Pass
import LiterateCalc.Proofs.Document.Consistency

namespace LiterateCalc
open Evaluation (Values)
variable {document : Document} {given : Values} {operations : List Calculation.Operation}

theorem Document.findVariable?_name {entry : Variable} (found : document.findVariable? name = some entry) :
    entry.name = name := by
  simpa [Document.findVariable?] using List.find?_some found

theorem Document.Consistent.calculated_distinct (consistent : document.Consistent) :
    (document.calculated.map (·.name)).Nodup :=
  consistent.aligned.definitions_distinct.sublist (List.filter_sublist.map _)

/-- Each input of a consistent document is one of its variables. -/
theorem Document.Consistent.findVariable?_isSome (consistent : document.Consistent) (inside : name ∈ document.inputs) :
    (document.findVariable? name).isSome = true := by
  rw [consistent.inputs] at inside
  obtain ⟨entry, member, rfl⟩ := List.mem_map.mp inside
  exact List.find?_isSome.mpr ⟨entry, (List.mem_filter.mp member).1, beq_self_eq_true _⟩

namespace Calculation

namespace State

/-- The first values of the inputs, in a list. -/
theorem initial_inputs (document : Document) (given : Values) : (initial document given).inputs =
    .ofList ((document.inputs.filterMap document.findVariable?).map fun entry =>
      (entry.name, initialValue given entry)) := by
  rw [NameMap.ofList, List.foldl_map]
  rfl

theorem mem_initial_inputs (consistent : document.Consistent) (given : Values) (name : String) :
    name ∈ (initial document given).inputs.keys ↔ name ∈ document.inputs := by
  rw [initial_inputs, NameMap.mem_keys_ofList, List.map_map, List.mem_map]
  constructor
  · rintro ⟨entry, inside, rfl⟩
    obtain ⟨name, listed, found⟩ := List.mem_filterMap.mp inside
    rwa [← Document.findVariable?_name found] at listed
  · intro listed
    obtain ⟨entry, found⟩ := Option.isSome_iff_exists.mp (consistent.findVariable?_isSome listed)
    exact ⟨entry, List.mem_filterMap.mpr ⟨name, listed, found⟩, Document.findVariable?_name found⟩

/-- Only given values for inputs count. -/
theorem initial_inputs_congr {others : Values}
    (same : ∀ name ∈ document.inputs, others.get? name = given.get? name) :
    (initial document others).inputs = (initial document given).inputs := by
  rw [initial_inputs, initial_inputs]
  congr 1
  apply List.map_congr_left
  intro entry inside
  obtain ⟨name, listed, found⟩ := List.mem_filterMap.mp inside
  rw [← Document.findVariable?_name found] at listed
  rw [initialValue, initialValue, same _ listed]

end State

/-- What holds of the state of a calculator after some operations on it. -/
structure State.Covers (document : Document) (operations : List Operation) (state : State) : Prop where
  calculated : ∀ name, name ∈ state.calculated.keys ↔ name ∈ document.calculated.map (·.name)
  finite : ∀ name value, state.calculated.get? name = some value → value.isFinite = true
  /-- A variable that fails has the value zero. -/
  errors : ∀ name ∈ state.errors.keys,
    name ∈ document.calculated.map (·.name) ∧ state.calculated.get? name = some 0.0
  inputs : ∀ name ∈ document.inputs, name ∈ state.inputs.keys
  /-- Other names among the inputs have been written. -/
  written : ∀ name ∈ state.inputs.keys,
    name ∈ document.inputs ∨ ∃ value, Operation.setInput name value ∈ operations

theorem Operation.mem_lastWrites {name : String} :
    name ∈ (lastWrites operations).keys ↔ ∃ value, Operation.setInput name value ∈ operations := by
  rw [lastWrites, NameMap.mem_keys_ofList, List.mem_map]
  constructor
  · rintro ⟨⟨name, value⟩, inside, rfl⟩
    obtain ⟨operation, member, write⟩ := List.mem_filterMap.mp inside
    cases operation with
    | setInput name value =>
      cases write
      exact ⟨value, member⟩
    | recalculate => cases write
  · rintro ⟨value, member⟩
    exact ⟨(name, value), List.mem_filterMap.mpr ⟨_, member, rfl⟩, rfl⟩

/-- In each state that a calculator for a document comes to, exactly the calculated variables have
calculated values, all finite, and zero after a failure. Given values for other names than inputs
make no difference. -/
theorem Calculator.run_covers (produced : document.Produced) (given : Values) (operations : List Operation) :
    let state := ((start document given).1.run operations).state
    state.Covers document operations ∧
      ∀ others : Values, (∀ name ∈ document.inputs, others.get? name = given.get? name) →
        ((start document others).1.run operations).state = state := by
  intro state
  have consistent := produced.consistent
  have reached : state = .ofInputs document
      ((State.initial document given).inputs.overlay (Operation.lastWrites operations)) :=
    congrArg Calculator.state (run_ofInputs _ _ _)
  constructor
  · have covers := covers_recalculate document consistent.calculated_distinct
      ⟨(State.initial document given).inputs.overlay (Operation.lastWrites operations), ∅, ∅⟩
    rw [reached]
    refine ⟨covers.names, covers.finite, ?_, ?_, ?_⟩
    · intro name inside
      have zero := covers.failed name inside
      refine ⟨?_, zero⟩
      rw [← covers.names, NameMap.mem_keys, zero]
      rfl
    · intro name inside
      apply NameMap.mem_keys_overlay.mpr
      exact .inr ((State.mem_initial_inputs consistent given name).mpr inside)
    · intro name inside
      rcases NameMap.mem_keys_overlay.mp inside with written | first
      · exact .inr (Operation.mem_lastWrites.mp written)
      · exact .inl ((State.mem_initial_inputs consistent given name).mp first)
  · intro others same
    rw [start_eq, run_ofInputs, State.initial_inputs_congr same, reached]
    rfl

/-- One variable is calculated, one fails; an input becomes infinite. Values for names without a
variable can be written, but not given at the start. -/
theorem Calculator.run_covers_unknown :
    let operations : List Operation := [.setInput "x" (1.0 / 0.0), .setInput "q" 3.0]
    ∃ document, Document.readAs .markdown {} "x = 1\ny = x * 2\nz = w" = .ok document ∧
      document.calculated.map (·.name) = ["y", "z"] ∧
      ((start document ∅).1.run operations).state.Covers document operations ∧
      ((start document ((∅ : Values).insert "w" 7.0)).1.run operations).state =
        ((start document ∅).1.run operations).state := by
  let x : Variable := ⟨"x", "1", true, "", 0, 1, ⟨0, 5⟩⟩
  let y : Variable := ⟨"y", "x * 2", false, "", 1, 2, ⟨6, 15⟩⟩
  let z : Variable := ⟨"z", "w", false, "", 2, 3, ⟨16, 21⟩⟩
  let part : Section := ⟨"", 0, 0, false, [x, y, z], [.definition x, .definition y, .definition z]⟩
  have success : Document.readAs .markdown {} "x = 1\ny = x * 2\nz = w" =
      .ok ⟨.markdown, "default", [part], [x, y, z], ["x"]⟩ := by rfl
  intro operations
  obtain ⟨covers, others⟩ := Calculator.run_covers (.read success) ∅ operations
  refine ⟨_, success, rfl, covers, others _ ?_⟩
  intro name inside
  rw [List.mem_singleton.mp inside]
  rfl

end Calculation
end LiterateCalc
