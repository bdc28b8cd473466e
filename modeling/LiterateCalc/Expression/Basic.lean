import LiterateCalc.Text.Span

namespace LiterateCalc
open Text (Span)

inductive UnaryOperator
  | minus
  | plus
deriving DecidableEq, Inhabited

inductive BinaryOperator
  | add
  | subtract
  | multiply
  | divide
  | remainder
  | power
deriving DecidableEq, Inhabited

def UnaryOperator.symbol : UnaryOperator → Char
  | .minus => '-'
  | .plus => '+'

def BinaryOperator.symbol : BinaryOperator → Char
  | .add => '+'
  | .subtract => '-'
  | .multiply => '*'
  | .divide => '/'
  | .remainder => '%'
  | .power => '^'

/-- An expression tree. References and calls remember where they stand in the text. -/
inductive Expression
  | number (value : Float)
  | reference (name : String) (span : Span)
  | unary (operator : UnaryOperator) (operand : Expression)
  | binary (operator : BinaryOperator) (left right : Expression)
  | call (function : String) (arguments : List Expression) (span : Span)
deriving Inhabited

namespace Expression

mutual
/-- The number of edges on the longest path from the root to a leaf. -/
def height : Expression → Nat
  | .number _ => 0
  | .reference _ _ => 0
  | .unary _ operand => operand.height + 1
  | .binary _ left right => max left.height right.height + 1
  | .call _ arguments _ => argumentsHeight arguments

/-- One more than the greatest height among the arguments, and zero without any. -/
def argumentsHeight : List Expression → Nat
  | [] => 0
  | argument :: rest => max (argument.height + 1) (argumentsHeight rest)
end

mutual
/-- Adds the names that an expression refers to behind those already found, each name once. -/
def addReferences (found : List String) : Expression → List String
  | .number _ => found
  | .reference name _ => if name ∈ found then found else found ++ [name]
  | .unary _ operand => addReferences found operand
  | .binary _ left right => addReferences (addReferences found left) right
  | .call _ arguments _ => addArgumentReferences found arguments

def addArgumentReferences (found : List String) : List Expression → List String
  | [] => found
  | argument :: rest => addArgumentReferences (addReferences found argument) rest
end

/-- The names that an expression refers to, in the order of their first occurrence. -/
def references (expression : Expression) : List String := addReferences [] expression

end Expression
end LiterateCalc
