import LiterateCalc.Expression.Basic
import LiterateCalc.Decimal.Shortest

namespace LiterateCalc.Expression
open Text (Span)

inductive Token
  | number (value : Float)
  | identifier (name : String)
  | plus
  | minus
  | star
  | slash
  | percent
  | caret
  | leftParen
  | rightParen
  | comma
deriving DecidableEq, Inhabited

/-- How messages name a token. -/
def Token.describe : Token → String
  | .number value => "number " ++ String.ofList (Decimal.shortest value)
  | .identifier name => "identifier '" ++ name ++ "'"
  | .plus => "'+'"
  | .minus => "'-'"
  | .star => "'*'"
  | .slash => "'/'"
  | .percent => "'%'"
  | .caret => "'^'"
  | .leftParen => "'('"
  | .rightParen => "')'"
  | .comma => "','"

/-- A token and the part of the text that it was read from. -/
structure Located where
  token : Token
  span : Span
deriving DecidableEq, Inhabited

/-- The deepest nesting that is read: parentheses, signs, arguments, and every operator of a chain. -/
def maxNesting : Nat := 256

/-- Why a text is no expression. -/
inductive Fault
  | unexpectedCharacter (character : Char)
  | unsupportedOperator (operator : String)
  | invalidNumber (text : String)
  | unexpectedToken (token : Token)
  | unexpectedEnd
  | unclosedParen
  | trailingInput (token : Token)
  | tooDeep
deriving DecidableEq, Inhabited

def Fault.message : Fault → String
  | .unexpectedCharacter character => "unexpected character '" ++ character.toString ++ "'"
  | .unsupportedOperator operator => "unsupported operator '" ++ operator ++ "'"
  | .invalidNumber text => "invalid number '" ++ text ++ "'"
  | .unexpectedToken token => "unexpected " ++ token.describe
  | .unexpectedEnd => "unexpected end of expression"
  | .unclosedParen => "expected ')' to close '('"
  | .trailingInput token => "unexpected " ++ token.describe ++ " after expression"
  | .tooDeep => s!"expression nested more than {maxNesting} levels deep"

/-- A fault and the part of the text that shows it. -/
structure SyntaxError where
  fault : Fault
  span : Span
deriving DecidableEq, Inhabited

def SyntaxError.message (error : SyntaxError) : String := error.fault.message

end LiterateCalc.Expression
