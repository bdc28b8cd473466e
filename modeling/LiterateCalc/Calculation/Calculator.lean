import LiterateCalc.Calculation.State

namespace LiterateCalc.Calculation
open Evaluation (Values)

/-- What an operation announces. -/
inductive Event
  | inputsChanged (values : Values)
  | calculatedChanged (values : Values)

structure Calculator where
  document : Document
  state : State

/-- What can be done with a calculator. -/
inductive Operation
  | setInput (name : String) (value : Float)
  | recalculate

namespace Calculator

/-- Runs a pass and announces its values. -/
def recalculate (calculator : Calculator) : Calculator × List Event :=
  let state := calculator.state.recalculate calculator.document
  ({ calculator with state }, [.calculatedChanged state.calculated])

/-- A calculator after its first pass. -/
def start (document : Document) (given : Values) : Calculator × List Event :=
  recalculate ⟨document, .initial document given⟩

/-- Changes an input, announces it, and runs a pass. -/
def setInput (calculator : Calculator) (name : String) (value : Float) : Calculator × List Event :=
  let changed := { calculator with state := calculator.state.setInput name value }
  let (result, events) := changed.recalculate
  (result, .inputsChanged changed.state.inputs :: events)

def perform (calculator : Calculator) : Operation → Calculator × List Event
  | .setInput name value => calculator.setInput name value
  | .recalculate => calculator.recalculate

/-- Performs operations one after the other. -/
def run (calculator : Calculator) (operations : List Operation) : Calculator :=
  operations.foldl (fun current operation => (current.perform operation).1) calculator

/-- The current value of a variable; one among the inputs comes first. -/
def value? (calculator : Calculator) (name : String) : Option Float :=
  calculator.state.inputs.get? name <|> calculator.state.calculated.get? name

end Calculator
end LiterateCalc.Calculation
