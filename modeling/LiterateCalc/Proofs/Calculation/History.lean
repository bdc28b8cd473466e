import Mathlib.Data.List.Infix
import LiterateCalc.Calculation.Calculator

/-! What is left of the operations on a calculator: the last value that each input was given. The
state after a run is that of a single pass over these inputs, and each pass is announced once. -/
namespace LiterateCalc.Calculation
open Evaluation (Values)

namespace State

/-- A pass looks at nothing but the inputs. -/
theorem recalculate_congr {first second : State} (document : Document) (same : first.inputs = second.inputs) :
    first.recalculate document = second.recalculate document := by
  simp only [recalculate, same]

/-- The state after a pass over given inputs. -/
def ofInputs (document : Document) (inputs : Values) : State :=
  recalculate document { inputs, calculated := ∅, errors := ∅ }

theorem recalculate_eq (document : Document) (state : State) :
    state.recalculate document = ofInputs document state.inputs :=
  recalculate_congr document rfl

end State

namespace Operation

/-- The name and the value that an operation gives to an input. -/
def write? : Operation → Option (String × Float)
  | .setInput name value => some (name, value)
  | .recalculate => none

/-- What an operation announces that leads to a state. -/
def announcement (operation : Operation) (after : State) : List Event :=
  match operation with
  | .setInput _ _ => [.inputsChanged after.inputs, .calculatedChanged after.calculated]
  | .recalculate => [.calculatedChanged after.calculated]

/-- The last value that operations give to an input. -/
def lastWrite? (operations : List Operation) (name : String) : Option Float :=
  ((operations.filterMap write?).reverse.find? (·.1 == name)).map (·.2)

/-- The last values that operations give to inputs. -/
def lastWrites (operations : List Operation) : Values := .ofList (operations.filterMap write?)

theorem get?_lastWrites (operations : List Operation) (name : String) :
    (lastWrites operations).get? name = lastWrite? operations name :=
  NameMap.get?_ofList _ _

/-- Later operations lie over earlier ones. -/
theorem overlay_lastWrites_append (inputs : Values) (first second : List Operation) :
    inputs.overlay (lastWrites (first ++ second)) =
      (inputs.overlay (lastWrites first)).overlay (lastWrites second) := by
  simp only [lastWrites, List.filterMap_append, NameMap.overlay_ofList, List.foldl_append]

end Operation

namespace Calculator
variable {document : Document} {inputs : Values}

/-- All that is announced while operations are performed one after the other. -/
def announced (calculator : Calculator) : List Operation → List Event
  | [] => []
  | operation :: rest =>
    let (next, events) := calculator.perform operation
    events ++ next.announced rest

/-- A calculator after a pass over given inputs. -/
def ofInputs (document : Document) (inputs : Values) : Calculator := ⟨document, .ofInputs document inputs⟩

theorem start_eq (document : Document) (given : Values) :
    (start document given).1 = ofInputs document (State.initial document given).inputs := rfl

/-- An operation leaves a calculator after a pass over the inputs, with the new value among them. -/
theorem perform_ofInputs (document : Document) (inputs : Values) (operation : Operation) :
    let next := ofInputs document (inputs.overlay (Operation.lastWrites [operation]))
    (ofInputs document inputs).perform operation = (next, operation.announcement next.state) := by
  cases operation <;> rfl

theorem run_cons (calculator : Calculator) (operation : Operation) (rest : List Operation) :
    calculator.run (operation :: rest) = (calculator.perform operation).1.run rest := rfl

theorem run_ofInputs (document : Document) (inputs : Values) (operations : List Operation) :
    (ofInputs document inputs).run operations =
      ofInputs document (inputs.overlay (Operation.lastWrites operations)) := by
  induction operations generalizing inputs with
  | nil => rfl
  | cons operation rest ih =>
    have later := Operation.overlay_lastWrites_append inputs [operation] rest
    rw [List.singleton_append] at later
    rw [run_cons, perform_ofInputs, ih, later]

/-- The operations of a list, each with those up to it. -/
theorem zip_inits_cons (first : α) (rest : List α) :
    (first :: rest).zip (first :: rest).inits.tail =
      (first, [first]) :: (rest.zip rest.inits.tail).map fun step => (step.1, first :: step.2) := by
  have start : rest.inits = [] :: rest.inits.tail := by cases rest <;> simp
  rw [List.inits_cons, List.tail_cons, start, List.map_cons, List.zip_cons_cons, List.tail_cons,
    List.zip_map_right]
  rfl

/-- Each operation is announced with the state that it leads to. -/
theorem announced_ofInputs (document : Document) (inputs : Values) (operations : List Operation) :
    (ofInputs document inputs).announced operations =
      (operations.zip operations.inits.tail).flatMap fun (operation, through) =>
        operation.announcement ((ofInputs document inputs).run through).state := by
  induction operations generalizing inputs with
  | nil => rfl
  | cons operation rest ih =>
    have here := perform_ofInputs document inputs operation
    rw [zip_inits_cons, List.flatMap_cons, List.flatMap_map, announced, here]
    dsimp only
    rw [ih, run_cons, here]
    simp only [run_cons, here]
    rfl

/-- The state of a calculator is that of a pass over its first inputs with the last value written to
each name over them, whatever came before. So another pass changes nothing, and runs with the same
last writes end alike. Each pass announces its values once, after those of a changed input. -/
theorem run_state (document : Document) (given : Values) (operations : List Operation) :
    let calculator := (start document given).1
    let first := State.initial document given
    let last := (calculator.run operations).state
    last = State.recalculate document
        { first with inputs := first.inputs.overlay (Operation.lastWrites operations) } ∧
      (∀ name, last.inputs.get? name = (Operation.lastWrite? operations name).or (first.inputs.get? name)) ∧
      last.recalculate document = last ∧
      (∀ others, (∀ name, Operation.lastWrite? others name = Operation.lastWrite? operations name) →
        (calculator.run others).state = last) ∧
      (start document given).2 = [.calculatedChanged calculator.state.calculated] ∧
      calculator.announced operations =
        (operations.zip operations.inits.tail).flatMap fun (operation, through) =>
          operation.announcement (calculator.run through).state := by
  intro calculator first last
  have reached : last = .ofInputs document (first.inputs.overlay (Operation.lastWrites operations)) :=
    congrArg state (run_ofInputs document first.inputs operations)
  refine ⟨?_, ?_, ?_, ?_, rfl, announced_ofInputs document first.inputs operations⟩
  · rw [reached, State.recalculate_eq]
  · intro name
    rw [reached, ← Operation.get?_lastWrites, ← NameMap.get?_overlay]
    rfl
  · rw [reached, State.recalculate_eq]
    rfl
  · intro others same
    have writes : Operation.lastWrites others = Operation.lastWrites operations := by
      ext1 name
      rw [Operation.get?_lastWrites, Operation.get?_lastWrites, same]
    rw [reached, ← writes]
    exact congrArg state (run_ofInputs document first.inputs others)

/-- Neither the order of the writes nor an overwritten value is left in the state. -/
theorem run_state_reordered :
    let document : Document := ⟨.markdown, "default", [], [⟨"y", "x * 2", false, "", 0, 1, ⟨0, 9⟩⟩], []⟩
    ((start document ∅).1.run [.setInput "x" 1.0, .recalculate, .setInput "x" 3.0, .setInput "z" 2.0]).state =
      ((start document ∅).1.run [.setInput "z" 2.0, .setInput "x" 3.0]).state := by
  intro document
  apply (run_state document ∅ _).2.2.2.1
  intro name
  by_cases x : "x" = name
  · subst x
    rfl
  · simp [Operation.lastWrite?, Operation.write?, List.filterMap_cons, List.find?_cons, x]

end Calculator
end LiterateCalc.Calculation
