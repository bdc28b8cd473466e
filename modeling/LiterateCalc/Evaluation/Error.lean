import LiterateCalc.Expression.Token
import LiterateCalc.Evaluation.Function

namespace LiterateCalc.Evaluation
open Expression (SyntaxError)

inductive EvaluationError
  | undefinedVariable (name : String)
  /-- The arithmetic went through, but its result is infinite or no number. -/
  | invalidResult (value : Float)
  | malformed (cause : SyntaxError)
  | unsupportedOperator (operator : String)
  | unknownFunction (name : String)
  | wrongArity (function : String) (expected : Arity) (actual : Nat)
  | tooDeep
deriving DecidableEq, Inhabited

namespace EvaluationError

/-- An operator that no expression has, and too deep a nesting, are causes of their own. -/
def ofSyntax (error : SyntaxError) : EvaluationError :=
  match error.fault with
  | .unsupportedOperator operator => .unsupportedOperator operator
  | .tooDeep => .tooDeep
  | _ => .malformed error

/-- The name of a value that is not finite. -/
def describeValue (value : Float) : String :=
  if value.isNaN then "NaN" else if 0.0 < value then "Infinity" else "-Infinity"

def message : EvaluationError → String
  | .undefinedVariable name => "undefined variable: " ++ name
  | .invalidResult value => "invalid result: " ++ describeValue value
  | .malformed cause => "syntax error: " ++ cause.message
  | .unsupportedOperator operator => "unsupported operator '" ++ operator ++ "'"
  | .unknownFunction name => "unknown function: " ++ name
  | .wrongArity function expected actual =>
    "wrong number of arguments for " ++ function ++ ": expected " ++ expected.describe ++
      ", got " ++ toString actual
  | .tooDeep => "evaluation error"

end EvaluationError
end LiterateCalc.Evaluation
