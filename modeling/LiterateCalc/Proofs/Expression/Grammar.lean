import LiterateCalc.Expression.Parser

/-! The grammar of expressions over tokens, without the limit on nesting. A sum is terms
with `+` and `-` between them, a term is factors with `*`, `/` and `%` between them, and
both are folded to the left. A factor is a sign before a factor, an atom, or an atom
raised to a factor. An atom is a number, a name, a call or a sum in parentheses. -/
namespace LiterateCalc.Expression

/-- The four kinds of phrases, the loosest first. -/
inductive Level
  | sum
  | term
  | factor
  | atom
deriving DecidableEq

def additive? : Token → Option BinaryOperator
  | .plus => some .add
  | .minus => some .subtract
  | _ => none

def multiplicative? : Token → Option BinaryOperator
  | .star => some .multiply
  | .slash => some .divide
  | .percent => some .remainder
  | _ => none

def sign? : Token → Option UnaryOperator
  | .minus => some .minus
  | .plus => some .plus
  | _ => none

/-- Phrases with a comma between any two neighbours. -/
inductive Listed : List (List Located) → List Located → Prop where
  | none : Listed [] []
  | one : Listed [tokens] tokens
  | more (later : Listed (next :: others) tokens) :
      Listed (first :: next :: others) (first ++ ⟨.comma, comma⟩ :: tokens)

/-- The phrases of each level with the trees that they stand for. A reference has the span
of its name; the span of a call goes from its name to its closing parenthesis. -/
inductive Derives : Level → List Located → Expression → Prop where
  | addition (symbol : additive? token = some operator)
      (before : Derives .sum first left) (after : Derives .term second right) :
      Derives .sum (first ++ ⟨token, span⟩ :: second) (.binary operator left right)
  | ofTerm (inner : Derives .term tokens tree) : Derives .sum tokens tree
  | multiplication (symbol : multiplicative? token = some operator)
      (before : Derives .term first left) (after : Derives .factor second right) :
      Derives .term (first ++ ⟨token, span⟩ :: second) (.binary operator left right)
  | ofFactor (inner : Derives .factor tokens tree) : Derives .term tokens tree
  | signed (symbol : sign? token = some operator) (inner : Derives .factor tokens tree) :
      Derives .factor (⟨token, span⟩ :: tokens) (.unary operator tree)
  | raised (before : Derives .atom first base) (after : Derives .factor second exponent) :
      Derives .factor (first ++ ⟨.caret, span⟩ :: second) (.binary .power base exponent)
  | ofAtom (inner : Derives .atom tokens tree) : Derives .factor tokens tree
  | number : Derives .atom [⟨.number value, span⟩] (.number value)
  | reference : Derives .atom [⟨.identifier name, span⟩] (.reference name span)
  | call (parts : List (List Located × Expression))
      (each : ∀ part ∈ parts, Derives .sum part.1 part.2)
      (listed : Listed (parts.map Prod.fst) inside) :
      Derives .atom (⟨.identifier name, span⟩ :: ⟨.leftParen, opening⟩ :: inside ++ [⟨.rightParen, closing⟩])
        (.call name (parts.map Prod.snd) ⟨span.start, closing.stop⟩)
  | group (inner : Derives .sum tokens tree) :
      Derives .atom (⟨.leftParen, opening⟩ :: tokens ++ [⟨.rightParen, closing⟩]) tree

end LiterateCalc.Expression
