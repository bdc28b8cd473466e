import LiterateCalc.Expression.Lexer

/-! Reading an expression from its tokens by the binding powers of its operators.
Nesting is bounded: every recursive call has one level less to spend, and so has
every operator of a chain. -/
namespace LiterateCalc.Expression
open Text (Span byteLength)

/-- The operator that a token writes between two operands, how strongly it holds the
operand on its left, and how strongly an operator has to bind to belong to its right one. -/
def infixOperator? : Token → Option (BinaryOperator × Nat × Nat)
  | .plus => some (.add, 2, 3)
  | .minus => some (.subtract, 2, 3)
  | .star => some (.multiply, 4, 5)
  | .slash => some (.divide, 4, 5)
  | .percent => some (.remainder, 4, 5)
  | .caret => some (.power, 8, 8)
  | _ => none

/-- What an operator has to bind with to stay inside the operand of a sign. -/
def signPower : Nat := 6

/-- A result and the tokens after it, fewer than there were. -/
structure Parsed (α : Type) (tokens : List Located) where
  value : α
  rest : List Located
  shorter : rest.length < tokens.length

/-- A reader of operands: takes what operators have to bind with to belong to the operand. -/
abbrev OperandReader :=
  Nat → (tokens : List Located) → Except SyntaxError (Parsed Expression tokens)

section
variable (stop : Nat)

/-- The place of the next token, or the end of the text. -/
def nextSpan : List Located → Span
  | [] => ⟨stop, stop⟩
  | next :: _ => next.span

variable (operand : OperandReader)

/-- The arguments of a call up to its closing parenthesis, and where that one ends. -/
def parseArguments (opening : Span) (tokens : List Located) :
    Except SyntaxError (Parsed (List Expression × Nat) tokens) :=
  match operand 0 tokens with
  | .error error => .error error
  | .ok ⟨first, rest, shorter⟩ =>
    match rest with
    | ⟨.comma, _⟩ :: more =>
      match parseArguments opening more with
      | .error error => .error error
      | .ok ⟨(others, closing), after, less⟩ =>
        .ok ⟨(first :: others, closing), after, by simp only [List.length_cons] at shorter; omega⟩
    | ⟨.rightParen, span⟩ :: after =>
      .ok ⟨([first], span.stop), after, by simp only [List.length_cons] at shorter; omega⟩
    | _ => .error ⟨.unclosedParen, ⟨opening.start, stop⟩⟩
termination_by tokens.length
decreasing_by simp only [List.length_cons] at shorter; omega

/-- An operand with its signs, but without the operators after it. -/
def parsePrimary (tokens : List Located) : Except SyntaxError (Parsed Expression tokens) :=
  match tokens with
  | [] => .error ⟨.unexpectedEnd, ⟨stop, stop⟩⟩
  | ⟨.number value, _⟩ :: rest => .ok ⟨.number value, rest, by simp⟩
  | ⟨.identifier name, span⟩ :: rest =>
    match rest with
    | ⟨.leftParen, _⟩ :: ⟨.rightParen, closing⟩ :: after =>
      .ok ⟨.call name [] ⟨span.start, closing.stop⟩, after, by simp only [List.length_cons]; omega⟩
    | ⟨.leftParen, _⟩ :: inside =>
      match parseArguments stop operand span inside with
      | .error error => .error error
      | .ok ⟨(arguments, closing), after, shorter⟩ =>
        .ok ⟨.call name arguments ⟨span.start, closing⟩, after, by simp only [List.length_cons]; omega⟩
    | others => .ok ⟨.reference name span, others, by simp⟩
  | ⟨.minus, _⟩ :: rest =>
    match operand signPower rest with
    | .error error => .error error
    | .ok ⟨value, after, shorter⟩ => .ok ⟨.unary .minus value, after, by simp only [List.length_cons]; omega⟩
  | ⟨.plus, _⟩ :: rest =>
    match operand signPower rest with
    | .error error => .error error
    | .ok ⟨value, after, shorter⟩ => .ok ⟨.unary .plus value, after, by simp only [List.length_cons]; omega⟩
  | ⟨.leftParen, opening⟩ :: rest =>
    match operand 0 rest with
    | .error error => .error error
    | .ok ⟨value, ⟨.rightParen, _⟩ :: after, shorter⟩ =>
      .ok ⟨value, after, by simp only [List.length_cons] at *; omega⟩
    | .ok _ => .error ⟨.unclosedParen, ⟨opening.start, stop⟩⟩
  | ⟨token, span⟩ :: _ => .error ⟨.unexpectedToken token, span⟩

theorem parsePrimary_number (value : Float) (span : Span) (rest : List Located) :
    parsePrimary stop operand (⟨.number value, span⟩ :: rest) = .ok ⟨.number value, rest, Nat.lt_succ_self _⟩ := by
  rw [parsePrimary]

/-- Folds to the left the operators that bind at least with `power`, at most `room` of them. -/
def parseOperators (power : Nat) (room : Nat) (left : Expression) (tokens : List Located) :
    Except SyntaxError { found : Expression × List Located // found.2.length ≤ tokens.length } :=
  match tokens with
  | [] => .ok ⟨(left, []), Nat.le_refl _⟩
  | ⟨token, span⟩ :: rest =>
    match infixOperator? token with
    | none => .ok ⟨(left, ⟨token, span⟩ :: rest), Nat.le_refl _⟩
    | some (operator, leftPower, rightPower) =>
      if leftPower < power then .ok ⟨(left, ⟨token, span⟩ :: rest), Nat.le_refl _⟩
      else match room with
        | 0 => .error ⟨.tooDeep, span⟩
        | room + 1 =>
          match operand rightPower rest with
          | .error error => .error error
          | .ok ⟨right, after, shorter⟩ =>
            match parseOperators power room (.binary operator left right) after with
            | .error error => .error error
            | .ok ⟨found, less⟩ => .ok ⟨found, by simp only [List.length_cons]; omega⟩

theorem parseOperators_nil (power room : Nat) (left : Expression) :
    parseOperators operand power room left [] = .ok ⟨(left, []), Nat.le_refl _⟩ := by
  rw [parseOperators]

/-- An operand with the operators that bind at least with `power`, `levels` deep at most. -/
def parseOperand (levels : Nat) (power : Nat) (tokens : List Located) :
    Except SyntaxError (Parsed Expression tokens) :=
  match levels with
  | 0 => .error ⟨.tooDeep, nextSpan stop tokens⟩
  | levels + 1 =>
    match parsePrimary stop (parseOperand levels) tokens with
    | .error error => .error error
    | .ok ⟨first, rest, shorter⟩ =>
      match parseOperators (parseOperand levels) power levels first rest with
      | .error error => .error error
      | .ok ⟨(value, after), less⟩ => .ok ⟨value, after, Nat.lt_of_le_of_lt less shorter⟩

end

/-- The expression that all the tokens of a text write, `stop` bytes long. -/
def ofTokens (stop : Nat) (tokens : List Located) : Except SyntaxError Expression :=
  match parseOperand stop maxNesting 0 tokens with
  | .error error => .error error
  | .ok ⟨value, [], _⟩ => .ok value
  | .ok ⟨_, ⟨token, span⟩ :: _, _⟩ => .error ⟨.trailingInput token, span⟩

def parseText (text : List Char) : Except SyntaxError Expression :=
  match tokenize text with
  | .error error => .error error
  | .ok tokens => ofTokens (byteLength text) tokens

/-- Reads an expression. -/
def parse (source : String) : Except SyntaxError Expression := parseText source.toList

end LiterateCalc.Expression
