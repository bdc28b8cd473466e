import LiterateCalc.Expression.Basic
import LiterateCalc.Decimal.Shortest

namespace LiterateCalc.Expression

mutual
def print : Expression → List Char
  | .number value => Decimal.shortest value
  | .reference name _ => name.toList
  | .unary operator operand => '(' :: operator.symbol :: operand.print ++ [')']
  | .binary operator left right =>
    '(' :: left.print ++ ' ' :: operator.symbol :: ' ' :: right.print ++ [')']
  | .call function arguments _ => function.toList ++ '(' :: printArguments arguments ++ [')']

/-- Arguments with a comma and a space between them. -/
def printArguments : List Expression → List Char
  | [] => []
  | argument :: rest => argument.print ++ printMoreArguments rest

def printMoreArguments : List Expression → List Char
  | [] => []
  | argument :: rest => ',' :: ' ' :: argument.print ++ printMoreArguments rest
end

instance : ToString Expression := ⟨fun expression => String.ofList expression.print⟩

end LiterateCalc.Expression
