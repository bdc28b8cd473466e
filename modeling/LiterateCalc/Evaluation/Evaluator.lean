import LiterateCalc.Expression.Parser
import LiterateCalc.Evaluation.Environment
import LiterateCalc.Evaluation.Error
import LiterateCalc.Decimal.Remainder
import LiterateCalc.Text.Blank

/-! The value of an expression. Operands are evaluated from the left, and the first failure counts. -/
namespace LiterateCalc.Evaluation

/-- The deepest node that is evaluated. -/
def maxDepth : Nat := 256

/-- What a name stands for that has no value of its own. -/
def constant? (name : String) : Option Float :=
  if name = "PI" then some 3.141592653589793
  else if name = "E" then some 2.718281828459045
  else none

def applyUnary : UnaryOperator → Float → Float
  | .minus, value => -value
  | .plus, value => value

def applyBinary : BinaryOperator → Float → Float → Float
  | .add, left, right => left + right
  | .subtract, left, right => left - right
  | .multiply, left, right => left * right
  | .divide, left, right => left / right
  | .remainder, left, right => Decimal.remainder left right
  | .power, left, right => Elementary.power left right

mutual
/-- The value of a tree that stands at a given depth. Infinities and what is no number pass through. -/
def evaluateAt (source : Source) (depth : Nat) : Expression → Except EvaluationError Float
  | .number value => if maxDepth < depth then .error .tooDeep else .ok value
  | .reference name _ =>
    if maxDepth < depth then .error .tooDeep
    else match source name <|> constant? name with
      | some value => .ok value
      | none => .error (.undefinedVariable name)
  | .unary operator operand =>
    if maxDepth < depth then .error .tooDeep
    else (evaluateAt source (depth + 1) operand).map (applyUnary operator)
  | .binary operator left right =>
    if maxDepth < depth then .error .tooDeep
    else match evaluateAt source (depth + 1) left with
      | .error error => .error error
      | .ok first => (evaluateAt source (depth + 1) right).map (applyBinary operator first)
  | .call function arguments _ =>
    if maxDepth < depth then .error .tooDeep
    else match Registry.builtin.get? function with
      | none => .error (.unknownFunction function)
      | some definition =>
        if definition.arity.accepts arguments.length then
          (evaluateArguments source (depth + 1) arguments).map definition.apply
        else .error (.wrongArity function definition.arity arguments.length)

/-- The values of the arguments of a call, which all stand at one depth. -/
def evaluateArguments (source : Source) (depth : Nat) :
    List Expression → Except EvaluationError (List Float)
  | [] => .ok []
  | argument :: rest =>
    match evaluateAt source depth argument with
    | .error error => .error error
    | .ok value => (evaluateArguments source depth rest).map (value :: ·)
end

/-- Reads a text that is not blank and evaluates it. -/
def evaluateTree (source : Source) (text : List Char) : Except EvaluationError Float :=
  match Expression.parseText text with
  | .error error => .error (.ofSyntax error)
  | .ok expression => evaluateAt source 0 expression

/-- The value of a text: zero if it is blank, and always a finite number. -/
def evaluateText (source : Source) (text : List Char) : Except EvaluationError Float :=
  if (Text.trim text).isEmpty then .ok 0.0
  else match evaluateTree source text with
    | .error error => .error error
    | .ok value => if value.isFinite then .ok value else .error (.invalidResult value)

def evaluate (source : Source) (text : String) : Except EvaluationError Float :=
  evaluateText source text.toList

end LiterateCalc.Evaluation
