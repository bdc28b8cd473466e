import LiterateCalc.Proofs.Expression.Grammar

/-! What the readers of operands, operators and arguments give, step by step. The proofs
that they take tokens are left out here, so that results can be compared. -/
namespace LiterateCalc.Expression
open Text (Span)

/-- A result and the tokens after it. -/
abbrev Outcome (α : Type) := Except SyntaxError (α × List Located)

def Parsed.pair (found : Parsed α tokens) : α × List Located := (found.value, found.rest)

def OperandReader.outcome (reader : OperandReader) (power : Nat) (tokens : List Located) :
    Outcome Expression :=
  (reader power tokens).map Parsed.pair

def primary (stop : Nat) (reader : OperandReader) (tokens : List Located) : Outcome Expression :=
  (parsePrimary stop reader tokens).map Parsed.pair

def arguments (stop : Nat) (reader : OperandReader) (opening : Span) (tokens : List Located) :
    Outcome (List Expression × Nat) :=
  (parseArguments stop reader opening tokens).map Parsed.pair

def operators (reader : OperandReader) (power room : Nat) (left : Expression)
    (tokens : List Located) : Outcome Expression :=
  (parseOperators reader power room left tokens).map Subtype.val

/-- The reader that may nest a given number of levels deep. -/
abbrev readerOf (stop levels : Nat) : OperandReader := parseOperand stop levels

theorem bind_eq_ok {result : Except ε α} {next : α → Except ε β} :
    result.bind next = .ok value ↔ ∃ first, result = .ok first ∧ next first = .ok value := by
  cases result <;> simp [Except.bind]

theorem bind_eq_error {result : Except ε α} {next : α → Except ε β} :
    result.bind next = .error fault ↔
      result = .error fault ∨ ∃ first, result = .ok first ∧ next first = .error fault := by
  cases result <;> simp [Except.bind]

theorem map_eq_ok {result : Except ε α} {change : α → β} :
    result.map change = .ok value ↔ ∃ first, result = .ok first ∧ change first = value := by
  cases result <;> simp [Except.map]

theorem map_eq_error {result : Except ε α} {change : α → β} :
    result.map change = .error fault ↔ result = .error fault := by
  cases result <;> simp [Except.map]

section
variable {stop : Nat} {reader : OperandReader} {power room : Nat} {left : Expression}

theorem Parsed.pair_shorter {result : Except SyntaxError (Parsed α tokens)}
    (found : result.map pair = .ok (first, after)) : after.length < tokens.length := by
  obtain ⟨parsed, _, same⟩ := map_eq_ok.mp found
  obtain ⟨_, rfl⟩ := Prod.mk.inj same
  exact parsed.shorter

theorem OperandReader.outcome_shorter (found : reader.outcome power tokens = .ok (tree, rest)) :
    rest.length < tokens.length := Parsed.pair_shorter found

theorem primary_shorter (found : primary stop reader tokens = .ok (tree, rest)) :
    rest.length < tokens.length := Parsed.pair_shorter found

theorem outcome_zero :
    (readerOf stop 0).outcome power tokens = .error ⟨.tooDeep, nextSpan stop tokens⟩ := rfl

theorem outcome_succ (levels : Nat) :
    (readerOf stop (levels + 1)).outcome power tokens =
      (primary stop (readerOf stop levels) tokens).bind fun found =>
        operators (readerOf stop levels) power levels found.1 found.2 := by
  simp only [readerOf, OperandReader.outcome, primary, operators]
  rw [parseOperand]
  cases parsePrimary stop (parseOperand stop levels) tokens with
  | error error => rfl
  | ok first =>
    simp only [Except.map, Except.bind, Parsed.pair]
    cases parseOperators (parseOperand stop levels) power levels first.value first.rest with
    | error error => rfl
    | ok found => rfl

theorem ofTokens_eq (stop : Nat) (tokens : List Located) :
    ofTokens stop tokens = ((readerOf stop maxNesting).outcome 0 tokens).bind fun found =>
      match found.2 with
      | [] => .ok found.1
      | next :: _ => .error ⟨.trailingInput next.token, next.span⟩ := by
  simp only [ofTokens, readerOf, OperandReader.outcome]
  cases parseOperand stop maxNesting 0 tokens with
  | error error => rfl
  | ok found =>
    obtain ⟨tree, rest, shorter⟩ := found
    cases rest <;> rfl

/-- How strongly the next token, if it is an operator, holds the operand before it. -/
def nextPower : List Located → Nat
  | [] => 0
  | next :: _ => ((infixOperator? next.token).map fun found => found.2.1).getD 0

theorem nextPower_cases (tokens : List Located) :
    nextPower tokens = 0 ∨ nextPower tokens = 2 ∨ nextPower tokens = 4 ∨ nextPower tokens = 8 := by
  cases tokens with
  | nil => exact .inl rfl
  | cons next rest =>
    obtain ⟨token, span⟩ := next
    cases token <;> simp [nextPower, infixOperator?]

/-- The next token is no operator that binds at least with `power`. -/
def Ends (power : Nat) (tokens : List Located) : Prop :=
  nextPower tokens = 0 ∨ nextPower tokens < power

theorem nextPower_cons (symbol : infixOperator? token = some (operator, leftPower, rightPower)) :
    nextPower (⟨token, span⟩ :: rest) = leftPower := by
  simp [nextPower, symbol]

theorem operators_stop (weak : Ends power tokens) :
    operators reader power room left tokens = .ok (left, tokens) := by
  unfold operators
  cases tokens with
  | nil => simp [parseOperators_nil, Except.map]
  | cons next rest =>
    obtain ⟨token, span⟩ := next
    cases symbol : infixOperator? token with
    | none => cases room <;> simp [parseOperators, symbol, Except.map]
    | some found =>
      obtain ⟨operator, leftPower, rightPower⟩ := found
      have below : leftPower < power := by
        cases token <;> simp_all [Ends, nextPower, infixOperator?]
      cases room <;> simp [parseOperators, symbol, below, Except.map]

/-- Either the operators end, or the next token is one that binds strongly enough. -/
theorem ends_or_strong (power : Nat) (tokens : List Located) :
    Ends power tokens ∨ ∃ token span rest operator leftPower rightPower,
      tokens = ⟨token, span⟩ :: rest ∧
        infixOperator? token = some (operator, leftPower, rightPower) ∧ power ≤ leftPower := by
  cases tokens with
  | nil => exact .inl (.inl rfl)
  | cons next rest =>
    obtain ⟨token, span⟩ := next
    cases symbol : infixOperator? token with
    | none => exact .inl (.inl (by simp [nextPower, symbol]))
    | some found =>
      obtain ⟨operator, leftPower, rightPower⟩ := found
      by_cases weak : leftPower < power
      · exact .inl (.inr (by rw [nextPower_cons symbol]; exact weak))
      · exact .inr ⟨token, span, rest, operator, leftPower, rightPower, rfl, symbol, Nat.not_lt.mp weak⟩

theorem operators_full (symbol : infixOperator? token = some (operator, leftPower, rightPower))
    (strong : power ≤ leftPower) :
    operators reader power 0 left (⟨token, span⟩ :: rest) = .error ⟨.tooDeep, span⟩ := by
  simp [operators, parseOperators, symbol, Nat.not_lt.mpr strong, Except.map]

theorem operators_step (symbol : infixOperator? token = some (operator, leftPower, rightPower))
    (strong : power ≤ leftPower) :
    operators reader power (room + 1) left (⟨token, span⟩ :: rest) =
      (reader.outcome rightPower rest).bind fun found =>
        operators reader power room (.binary operator left found.1) found.2 := by
  simp only [operators, OperandReader.outcome]
  rw [parseOperators]
  simp only [symbol, Nat.not_lt.mpr strong, if_false]
  cases reader rightPower rest with
  | error error => rfl
  | ok right =>
    simp only [Except.map, Except.bind, Parsed.pair]
    cases parseOperators reader power room (.binary operator left right.value) right.rest with
    | error error => rfl
    | ok found => rfl

/-- What follows an argument: more of them after a comma, or the end of the call. -/
def afterArgument (stop : Nat) (reader : OperandReader) (opening : Span)
    (found : Expression × List Located) : Outcome (List Expression × Nat) :=
  match found.2 with
  | ⟨.comma, _⟩ :: later =>
    (arguments stop reader opening later).map fun others =>
      ((found.1 :: others.1.1, others.1.2), others.2)
  | ⟨.rightParen, closing⟩ :: after => .ok (([found.1], closing.stop), after)
  | _ => .error ⟨.unclosedParen, ⟨opening.start, stop⟩⟩

theorem arguments_eq : arguments stop reader opening tokens =
    (reader.outcome 0 tokens).bind (afterArgument stop reader opening) := by
  simp only [arguments, OperandReader.outcome]
  rw [parseArguments]
  cases reader 0 tokens with
  | error error => rfl
  | ok found =>
    obtain ⟨tree, rest, shorter⟩ := found
    simp only [Except.map, Except.bind, Parsed.pair, afterArgument, arguments]
    cases rest with
    | nil => rfl
    | cons next later =>
      obtain ⟨token, span⟩ := next
      cases token with
      | comma =>
        dsimp only
        cases parseArguments stop reader opening later with
        | error error => rfl
        | ok others => rfl
      | _ => rfl

/-- What follows the tree in parentheses. -/
def closeGroup (stop : Nat) (opening : Span) (found : Expression × List Located) :
    Outcome Expression :=
  match found.2 with
  | ⟨.rightParen, _⟩ :: after => .ok (found.1, after)
  | _ => .error ⟨.unclosedParen, ⟨opening.start, stop⟩⟩

/-- Whether a name before the tokens is called. -/
def opens : List Located → Bool
  | ⟨.leftParen, _⟩ :: _ => true
  | _ => false

/-- Whether the tokens end the arguments of a call. -/
def closes : List Located → Bool
  | ⟨.rightParen, _⟩ :: _ => true
  | _ => false

theorem eq_cons_of_opens (called : opens tokens = true) :
    ∃ opening inside, tokens = ⟨.leftParen, opening⟩ :: inside := by
  unfold opens at called
  split at called
  · exact ⟨_, _, rfl⟩
  · cases called

theorem eq_cons_of_closes (ended : closes tokens = true) :
    ∃ closing rest, tokens = ⟨.rightParen, closing⟩ :: rest := by
  unfold closes at ended
  split at ended
  · exact ⟨_, _, rfl⟩
  · cases ended

theorem primary_number :
    primary stop reader (⟨.number value, span⟩ :: rest) = .ok (.number value, rest) := by
  simp [primary, parsePrimary_number, Except.map, Parsed.pair]

theorem primary_reference (alone : opens rest = false) :
    primary stop reader (⟨.identifier name, span⟩ :: rest) = .ok (.reference name span, rest) := by
  cases rest with
  | nil => simp [primary, parsePrimary, Except.map, Parsed.pair]
  | cons next later =>
    obtain ⟨token, place⟩ := next
    cases token <;> simp_all [primary, parsePrimary, Except.map, Parsed.pair, opens]

theorem primary_emptyCall :
    primary stop reader
        (⟨.identifier name, span⟩ :: ⟨.leftParen, opening⟩ :: ⟨.rightParen, closing⟩ :: rest) =
      .ok (.call name [] ⟨span.start, closing.stop⟩, rest) := by
  simp [primary, parsePrimary, Except.map, Parsed.pair]

theorem primary_call (filled : closes inside = false) :
    primary stop reader (⟨.identifier name, span⟩ :: ⟨.leftParen, opening⟩ :: inside) =
      (arguments stop reader span inside).map fun found =>
        (.call name found.1.1 ⟨span.start, found.1.2⟩, found.2) := by
  simp only [primary, arguments]
  rw [parsePrimary]
  · cases parseArguments stop reader span inside with
    | error error => rfl
    | ok found => rfl
  · intro place after same
    subst same
    cases filled

theorem primary_signed (symbol : sign? token = some operator) :
    primary stop reader (⟨token, span⟩ :: tokens) =
      (reader.outcome signPower tokens).map fun found => (.unary operator found.1, found.2) := by
  simp only [primary, OperandReader.outcome]
  cases token with
  | minus | plus =>
    obtain rfl := Option.some.inj symbol
    rw [parsePrimary]
    cases reader signPower tokens with
    | error error => rfl
    | ok found => rfl
  | _ => cases symbol

theorem primary_group :
    primary stop reader (⟨.leftParen, opening⟩ :: tokens) =
      (reader.outcome 0 tokens).bind (closeGroup stop opening) := by
  simp only [primary, OperandReader.outcome]
  rw [parsePrimary]
  cases reader 0 tokens with
  | error error => rfl
  | ok found =>
    obtain ⟨tree, rest, shorter⟩ := found
    cases rest with
    | nil => rfl
    | cons next later =>
      obtain ⟨token, span⟩ := next
      cases token <;> rfl

/-- Whether an operand can start with a token. -/
def begins : Token → Bool
  | .number _ | .identifier _ | .minus | .plus | .leftParen => true
  | _ => false

theorem primary_unexpected (other : begins token = false) :
    primary stop reader (⟨token, span⟩ :: tokens) = .error ⟨.unexpectedToken token, span⟩ := by
  cases token <;> first | rfl | cases other

theorem filled_of_outcome (found : (readerOf stop levels).outcome power tokens = .ok result) :
    closes tokens = false := by
  cases ended : closes tokens with
  | false => rfl
  | true =>
    obtain ⟨closing, rest, rfl⟩ := eq_cons_of_closes ended
    cases levels with
    | zero => cases found
    | succ levels =>
      rw [outcome_succ, primary_unexpected rfl] at found
      cases found

end

/-- The ways to read an operand without operators. -/
inductive PrimaryRead (stop : Nat) (reader : OperandReader) :
    List Located → Expression → List Located → Prop where
  | number : PrimaryRead stop reader (⟨.number value, span⟩ :: rest) (.number value) rest
  | reference (alone : opens rest = false) :
      PrimaryRead stop reader (⟨.identifier name, span⟩ :: rest) (.reference name span) rest
  | emptyCall :
      PrimaryRead stop reader
        (⟨.identifier name, span⟩ :: ⟨.leftParen, opening⟩ :: ⟨.rightParen, closing⟩ :: rest)
        (.call name [] ⟨span.start, closing.stop⟩) rest
  | call (inner : arguments stop reader span inside = .ok ((trees, ending), rest)) :
      PrimaryRead stop reader (⟨.identifier name, span⟩ :: ⟨.leftParen, opening⟩ :: inside)
        (.call name trees ⟨span.start, ending⟩) rest
  | signed (symbol : sign? token = some operator)
      (inner : reader.outcome signPower tokens = .ok (tree, rest)) :
      PrimaryRead stop reader (⟨token, span⟩ :: tokens) (.unary operator tree) rest
  | group (inner : reader.outcome 0 tokens = .ok (tree, ⟨.rightParen, closing⟩ :: rest)) :
      PrimaryRead stop reader (⟨.leftParen, opening⟩ :: tokens) tree rest

/-- The ways to read the arguments of a call: its trees, and where its closing parenthesis ends. -/
inductive ArgumentsRead (reader : OperandReader) :
    List Located → List Expression → Nat → List Located → Prop where
  | last (inner : reader.outcome 0 tokens = .ok (tree, ⟨.rightParen, closing⟩ :: rest)) :
      ArgumentsRead reader tokens [tree] closing.stop rest
  | more (inner : reader.outcome 0 tokens = .ok (tree, ⟨.comma, comma⟩ :: later))
      (others : ArgumentsRead reader later trees ending rest) :
      ArgumentsRead reader tokens (tree :: trees) ending rest

/-- The ways to fold operators to the left. -/
inductive OperatorsRead (reader : OperandReader) (power : Nat) :
    Nat → Expression → List Located → Expression → List Located → Prop where
  | stop (weak : Ends power tokens) : OperatorsRead reader power room left tokens left tokens
  | step (symbol : infixOperator? token = some (operator, leftPower, rightPower))
      (strong : power ≤ leftPower) (inner : reader.outcome rightPower tokens = .ok (right, after))
      (others : OperatorsRead reader power room (.binary operator left right) after tree rest) :
      OperatorsRead reader power (room + 1) left (⟨token, span⟩ :: tokens) tree rest

theorem closeGroup_eq_ok (found : closeGroup stop opening (tree, tokens) = .ok (value, rest)) :
    value = tree ∧ ∃ closing, tokens = ⟨.rightParen, closing⟩ :: rest := by
  unfold closeGroup at found
  split at found
  · rename_i place after same
    simp only [Except.ok.injEq, Prod.mk.injEq] at found
    obtain ⟨rfl, rfl⟩ := found
    exact ⟨rfl, place, same⟩
  · cases found

theorem primary_read (found : primary stop reader tokens = .ok (tree, rest)) :
    PrimaryRead stop reader tokens tree rest := by
  cases tokens with
  | nil => cases found
  | cons next later =>
    obtain ⟨token, span⟩ := next
    cases token with
    | number value =>
      rw [primary_number] at found
      obtain ⟨rfl, rfl⟩ := Prod.mk.inj (Except.ok.inj found)
      exact .number
    | identifier name =>
      cases called : opens later with
      | false =>
        rw [primary_reference called] at found
        obtain ⟨rfl, rfl⟩ := Prod.mk.inj (Except.ok.inj found)
        exact .reference called
      | true =>
        obtain ⟨opening, inside, rfl⟩ := eq_cons_of_opens called
        cases empty : closes inside with
        | true =>
          obtain ⟨closing, after, rfl⟩ := eq_cons_of_closes empty
          rw [primary_emptyCall] at found
          obtain ⟨rfl, rfl⟩ := Prod.mk.inj (Except.ok.inj found)
          exact .emptyCall
        | false =>
          rw [primary_call empty, map_eq_ok] at found
          obtain ⟨⟨⟨trees, ending⟩, after⟩, inner, same⟩ := found
          obtain ⟨rfl, rfl⟩ := Prod.mk.inj same
          exact .call inner
    | minus | plus =>
      rw [primary_signed rfl, map_eq_ok] at found
      obtain ⟨⟨inside, after⟩, inner, same⟩ := found
      obtain ⟨rfl, rfl⟩ := Prod.mk.inj same
      exact .signed rfl inner
    | leftParen =>
      rw [primary_group, bind_eq_ok] at found
      obtain ⟨⟨inside, after⟩, inner, closed⟩ := found
      obtain ⟨rfl, closing, rfl⟩ := closeGroup_eq_ok closed
      exact .group inner
    | _ =>
      rw [primary_unexpected rfl] at found
      cases found

theorem arguments_read (found : arguments stop reader opening tokens = .ok ((trees, ending), rest)) :
    ArgumentsRead reader tokens trees ending rest := by
  induction size : tokens.length using Nat.strongRecOn generalizing tokens trees ending rest with
  | _ size ih =>
    rw [arguments_eq, bind_eq_ok] at found
    obtain ⟨⟨tree, after⟩, inner, continued⟩ := found
    unfold afterArgument at continued
    split at continued
    · rename_i comma later same
      obtain rfl : after = _ := same
      rw [map_eq_ok] at continued
      obtain ⟨⟨⟨others, closing⟩, last⟩, deeper, same⟩ := continued
      obtain ⟨pair, rfl⟩ := Prod.mk.inj same
      obtain ⟨rfl, rfl⟩ := Prod.mk.inj pair
      have shorter := OperandReader.outcome_shorter inner
      simp only [List.length_cons] at shorter
      exact .more inner (ih later.length (by omega) deeper rfl)
    · rename_i closing later same
      obtain rfl : after = _ := same
      obtain ⟨pair, rfl⟩ := Prod.mk.inj (Except.ok.inj continued)
      obtain ⟨rfl, rfl⟩ := Prod.mk.inj pair
      exact .last inner
    · cases continued

theorem operators_read (found : operators reader power room left tokens = .ok (tree, rest)) :
    OperatorsRead reader power room left tokens tree rest := by
  induction room generalizing left tokens with
  | zero =>
    rcases ends_or_strong power tokens with weak | ⟨_, _, _, _, _, _, rfl, symbol, strong⟩
    · rw [operators_stop weak] at found
      obtain ⟨rfl, rfl⟩ := Prod.mk.inj (Except.ok.inj found)
      exact .stop weak
    · rw [operators_full symbol strong] at found
      cases found
  | succ room ih =>
    rcases ends_or_strong power tokens with weak | ⟨_, _, _, _, _, _, rfl, symbol, strong⟩
    · rw [operators_stop weak] at found
      obtain ⟨rfl, rfl⟩ := Prod.mk.inj (Except.ok.inj found)
      exact .stop weak
    · rw [operators_step symbol strong, bind_eq_ok] at found
      obtain ⟨⟨right, after⟩, inner, continued⟩ := found
      exact .step symbol strong inner (ih continued)

end LiterateCalc.Expression
