import LiterateCalc.Expression.Printer
import LiterateCalc.Proofs.Decimal.Plain
import LiterateCalc.Proofs.Expression.Words

namespace LiterateCalc.Expression

def signToken : UnaryOperator → Token
  | .minus => .minus
  | .plus => .plus

def operatorToken : BinaryOperator → Token
  | .add => .plus
  | .subtract => .minus
  | .multiply => .star
  | .divide => .slash
  | .remainder => .percent
  | .power => .caret

mutual
/-- The tokens of a written expression. -/
def written : Expression → List Token
  | .number value => [.number value]
  | .reference name _ => [.identifier name]
  | .unary operator operand => .leftParen :: signToken operator :: (written operand ++ [.rightParen])
  | .binary operator left right =>
    .leftParen :: (written left ++ operatorToken operator :: (written right ++ [.rightParen]))
  | .call function arguments _ =>
    .identifier function :: .leftParen :: (writtenArguments arguments ++ [.rightParen])

def writtenArguments : List Expression → List Token
  | [] => []
  | argument :: rest => written argument ++ writtenMore rest

def writtenMore : List Expression → List Token
  | [] => []
  | argument :: rest => .comma :: (written argument ++ writtenMore rest)
end

mutual
/-- The levels that it takes to read a written expression back. The parentheses around an
operator cost one level, and all that follows the operator or the sign one more. -/
def need : Expression → Nat
  | .number _ => 1
  | .reference _ _ => 1
  | .unary _ operand => 2 + need operand
  | .binary _ left right => max (1 + need left) (2 + need right)
  | .call _ arguments _ => 1 + argumentsNeed arguments

/-- The greatest need of the arguments, and zero without any. -/
def argumentsNeed : List Expression → Nat
  | [] => 0
  | argument :: rest => max (need argument) (argumentsNeed rest)
end

mutual
/-- The tree without the places of its names and calls. -/
def withoutSpans : Expression → Expression
  | .number value => .number value
  | .reference name _ => .reference name ⟨0, 0⟩
  | .unary operator operand => .unary operator (withoutSpans operand)
  | .binary operator left right => .binary operator (withoutSpans left) (withoutSpans right)
  | .call function arguments _ => .call function (allWithoutSpans arguments) ⟨0, 0⟩

def allWithoutSpans : List Expression → List Expression
  | [] => []
  | argument :: rest => withoutSpans argument :: allWithoutSpans rest
end

mutual
/-- All variables and functions have names that can be read, and all numbers are finite with a
clear sign bit. -/
def Writable : Expression → Prop
  | .number value => ∃ magnitude, Decimal.meaning value = .finite false magnitude
  | .reference name _ => isName name.toList = true
  | .unary _ operand => Writable operand
  | .binary _ left right => Writable left ∧ Writable right
  | .call function arguments _ => isName function.toList = true ∧ AllWritable arguments

def AllWritable : List Expression → Prop
  | [] => True
  | argument :: rest => Writable argument ∧ AllWritable rest
end

mutual
/-- The numbers in a tree, from the left. -/
def numbers : Expression → List Float
  | .number value => [value]
  | .reference _ _ => []
  | .unary _ operand => numbers operand
  | .binary _ left right => numbers left ++ numbers right
  | .call _ arguments _ => argumentNumbers arguments

def argumentNumbers : List Expression → List Float
  | [] => []
  | argument :: rest => numbers argument ++ argumentNumbers rest
end

/-- Whether a number has a text that is read as the same number. -/
def ReadsBack (value : Float) : Prop := Decimal.readNumeral (Decimal.shortest value) = some value

theorem need_pos (tree : Expression) : 0 < need tree := by
  cases tree <;> simp only [need] <;> omega

theorem signToken_symbol (operator : UnaryOperator) :
    symbolToken? operator.symbol = some (signToken operator) := by
  cases operator <;> rfl

theorem operatorToken_symbol (operator : BinaryOperator) :
    symbolToken? operator.symbol = some (operatorToken operator) := by
  cases operator <;> rfl

theorem apart_printMoreArguments (trees : List Expression) : apart (printMoreArguments trees) = true := by
  cases trees <;> simp only [printMoreArguments] <;> rfl

theorem number_cut (finite : Decimal.meaning value = .finite false magnitude)
    (readsBack : ReadsBack value) : CutsInto (Decimal.shortest value) [.number value] := by
  refine .number ?_ readsBack
  intro c inside
  rcases Decimal.shortest_plain finite c inside with digit | rfl
  · simp [isNumberCharacter, digit]
  · rfl

mutual
theorem print_cut (tree : Expression) (writable : Writable tree)
    (readsBack : ∀ value ∈ numbers tree, ReadsBack value) : CutsInto tree.print (written tree) := by
  cases tree with
  | number value =>
    simp only [Writable] at writable
    obtain ⟨magnitude, finite⟩ := writable
    simp only [print, written]
    exact number_cut finite (readsBack value (by simp [numbers]))
  | reference name span =>
    simp only [Writable] at writable
    simp only [print, written]
    exact .name writable
  | unary operator operand =>
    simp only [Writable] at writable
    simp only [numbers] at readsBack
    have inner := print_cut operand writable readsBack
    simp only [print, written, List.cons_append]
    exact .symbol rfl (.symbol (signToken_symbol operator) (inner.append closing_cut rfl))
  | binary operator left right =>
    simp only [Writable] at writable
    simp only [numbers, List.mem_append] at readsBack
    have first := print_cut left writable.1 fun value inside => readsBack value (.inl inside)
    have second := print_cut right writable.2 fun value inside => readsBack value (.inr inside)
    have rest : CutsInto (' ' :: operator.symbol :: ' ' :: (right.print ++ [')']))
        (operatorToken operator :: (written right ++ [.rightParen])) :=
      .space (.symbol (operatorToken_symbol operator) (.space (second.append closing_cut rfl)))
    simp only [print, written, List.cons_append, List.append_assoc]
    exact .symbol rfl (first.append rest rfl)
  | call function arguments span =>
    simp only [Writable] at writable
    simp only [numbers] at readsBack
    have inner := printArguments_cut arguments writable.2 readsBack
    have name : CutsInto function.toList [.identifier function] := .name writable.1
    simp only [print, written, List.cons_append, List.append_assoc]
    exact name.append (.symbol rfl (inner.append closing_cut rfl)) rfl

theorem printArguments_cut (trees : List Expression) (writable : AllWritable trees)
    (readsBack : ∀ value ∈ argumentNumbers trees, ReadsBack value) :
    CutsInto (printArguments trees) (writtenArguments trees) := by
  cases trees with
  | nil =>
    simp only [printArguments, writtenArguments]
    exact .nil
  | cons tree rest =>
    simp only [AllWritable] at writable
    simp only [argumentNumbers, List.mem_append] at readsBack
    have first := print_cut tree writable.1 fun value inside => readsBack value (.inl inside)
    have others := printMoreArguments_cut rest writable.2 fun value inside => readsBack value (.inr inside)
    simp only [printArguments, writtenArguments]
    exact first.append others (apart_printMoreArguments rest)

theorem printMoreArguments_cut (trees : List Expression) (writable : AllWritable trees)
    (readsBack : ∀ value ∈ argumentNumbers trees, ReadsBack value) :
    CutsInto (printMoreArguments trees) (writtenMore trees) := by
  cases trees with
  | nil =>
    simp only [printMoreArguments, writtenMore]
    exact .nil
  | cons tree rest =>
    simp only [AllWritable] at writable
    simp only [argumentNumbers, List.mem_append] at readsBack
    have first := print_cut tree writable.1 fun value inside => readsBack value (.inl inside)
    have others := printMoreArguments_cut rest writable.2 fun value inside => readsBack value (.inr inside)
    simp only [printMoreArguments, writtenMore, List.cons_append]
    exact .symbol rfl (.space (first.append others (apart_printMoreArguments rest)))
end

end LiterateCalc.Expression
