import LiterateCalc.Document.Basic
import LiterateCalc.Evaluation.Evaluator

namespace LiterateCalc.Calculation
open Evaluation (Values Environment evaluate)

/-- Values of inputs and of calculated variables, and the messages of those that failed. -/
structure State where
  inputs : Values
  calculated : Values
  errors : NameMap String

/-- The number that a text starts with, after blanks and whatever comes after it. -/
def leadingNumber? (text : List Char) : Option Float := Decimal.scanSigned (Text.trimStart text)

namespace State

instance : Inhabited State := ⟨⟨∅, ∅, ∅⟩⟩

/-- The value that an input starts with: a given one, else the number in its expression, else zero. -/
def initialValue (given : Values) (entry : Variable) : Float :=
  ((given.get? entry.name) <|> leadingNumber? entry.expression.toList).getD 0.0

/-- The values that the inputs start with. Nothing is calculated yet. -/
def initial (document : Document) (given : Values) : State :=
  { inputs := (document.inputs.filterMap document.findVariable?).foldl
      (fun values entry => values.insert entry.name (initialValue given entry)) ∅
    calculated := ∅
    errors := ∅ }

/-- A pass in progress: the environment, and the messages so far. -/
structure Pass where
  environment : Environment
  errors : NameMap String

/-- Calculates one variable. A failure leaves its message, and zero as the value. -/
def Pass.step (pass : Pass) (entry : Variable) : Pass :=
  match evaluate pass.environment.get? entry.expression with
  | .ok value => { pass with environment := pass.environment.set entry.name value }
  | .error error =>
    { environment := pass.environment.set entry.name 0.0
      errors := pass.errors.insert entry.name error.message }

/-- Calculates variables in order. Each sees the inputs and, over them, what came before it. -/
def pass (inputs : Values) (definitions : List Variable) : Pass :=
  definitions.foldl Pass.step ⟨(Environment.ofBase inputs).push ∅, ∅⟩

/-- The state after a pass over a document. -/
def recalculate (document : Document) (state : State) : State :=
  let last := pass state.inputs document.calculated
  { inputs := state.inputs
    calculated := last.environment.pop.1.getD ∅
    errors := last.errors }

/-- Gives an input another value. The calculated values stay until the next pass. -/
def setInput (state : State) (name : String) (value : Float) : State :=
  { state with inputs := state.inputs.insert name value }

end State
end LiterateCalc.Calculation
