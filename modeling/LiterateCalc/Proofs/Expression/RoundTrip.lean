import LiterateCalc.Proofs.Expression.Reading
import LiterateCalc.Proofs.Expression.Written

namespace LiterateCalc.Expression
open Text (Span byteLength)

/-- With enough levels, a result that is good and leaves the rest; with fewer, too deep a nesting. -/
def Recovers (needed levels : Nat) (good : α → Prop) (rest : List Located) (result : Outcome α) : Prop :=
  (needed ≤ levels ∧ ∃ found, result = .ok (found, rest) ∧ good found) ∨
    (levels < needed ∧ ∃ span, result = .error ⟨.tooDeep, span⟩)

section
variable {needed others levels : Nat} {good : α → Prop} {better : β → Prop} {result : Outcome α}

theorem Recovers.done (fits : good found) : Recovers 0 levels good rest (.ok (found, rest)) :=
  .inl ⟨Nat.zero_le levels, found, rfl, fits⟩

theorem Recovers.bind {next : α × List Located → Outcome β} (first : Recovers needed levels good rest result)
    (second : ∀ found, good found → Recovers others levels better after (next (found, rest))) :
    Recovers (max needed others) levels better after (result.bind next) := by
  rcases first with ⟨enough, found, rfl, fits⟩ | ⟨few, span, rfl⟩
  · rcases second found fits with ⟨deeper, value, read, fine⟩ | ⟨few, span, deep⟩
    · exact .inl ⟨Nat.max_le.mpr ⟨enough, deeper⟩, value, read, fine⟩
    · exact .inr ⟨Nat.lt_of_lt_of_le few (Nat.le_max_right _ _), span, deep⟩
  · exact .inr ⟨Nat.lt_of_lt_of_le few (Nat.le_max_left _ _), span, rfl⟩

/-- A step that takes no levels. -/
theorem Recovers.next {next : α × List Located → Outcome β} (first : Recovers needed levels good rest result)
    (second : ∀ found, good found → ∃ value, next (found, rest) = .ok (value, after) ∧ better value) :
    Recovers needed levels better after (result.bind next) := by
  rw [← Nat.max_zero needed]
  refine first.bind ?_
  intro found fits
  obtain ⟨value, read, fine⟩ := second found fits
  rw [read]
  exact .done fine

theorem Recovers.deeper (inner : Recovers needed levels good rest result) :
    Recovers (1 + needed) (levels + 1) good rest result := by
  rcases inner with ⟨enough, read⟩ | ⟨few, deep⟩
  · exact .inl ⟨by omega, read⟩
  · exact .inr ⟨by omega, deep⟩

end

theorem map_eq_bind {result : Except ε α} {change : α → β} :
    result.map change = result.bind fun found => .ok (change found) := by
  cases result <;> rfl

def Alike (tree other : Expression) : Prop := withoutSpans other = withoutSpans tree

/-- The arguments of a call, without the end of the call. -/
def AllAlike (trees : List Expression) (found : List Expression × Nat) : Prop :=
  allWithoutSpans found.1 = allWithoutSpans trees

section
variable {stop levels power needed others : Nat}

/-- A written expression is an operand without operators, and so takes all the levels there are. -/
theorem Recovers.operand {good : Expression → Prop} (positive : 0 < needed)
    (first : ∀ levels,
      Recovers needed (levels + 1) good rest (primary stop (readerOf stop levels) tokens))
    (weak : Ends power rest) :
    Recovers needed levels good rest ((readerOf stop levels).outcome power tokens) := by
  cases levels with
  | zero => exact .inr ⟨positive, _, outcome_zero⟩
  | succ levels =>
    rw [outcome_succ]
    exact (first levels).next fun found fits => ⟨found, operators_stop weak, fits⟩

theorem Recovers.group {good : Expression → Prop}
    (inner : Recovers needed levels good (⟨.rightParen, closing⟩ :: rest)
      ((readerOf stop levels).outcome 0 tokens)) :
    Recovers (1 + needed) (levels + 1) good rest
      (primary stop (readerOf stop levels) (⟨.leftParen, opening⟩ :: tokens)) := by
  rw [primary_group]
  exact inner.deeper.next fun found fits => ⟨found, rfl, fits⟩

theorem Recovers.signed (symbol : sign? token = some operator)
    (inner : Recovers needed levels (Alike tree) rest ((readerOf stop levels).outcome signPower tokens)) :
    Recovers (1 + needed) (levels + 1) (Alike (.unary operator tree)) rest
      (primary stop (readerOf stop levels) (⟨token, span⟩ :: tokens)) := by
  rw [primary_signed symbol, map_eq_bind]
  refine inner.deeper.next fun found fits => ⟨.unary operator found, rfl, ?_⟩
  simp only [Alike, withoutSpans]
  rw [fits]

/-- The left operand may use all levels, but the right one stands one deeper. -/
theorem Recovers.binary (symbol : infixOperator? token = some (operator, leftPower, rightPower))
    (first : ∀ levels, Recovers needed (levels + 1) (Alike left) (⟨token, span⟩ :: tokens)
      (primary stop (readerOf stop levels) before))
    (second : ∀ levels, Recovers others levels (Alike right) rest
      ((readerOf stop levels).outcome rightPower tokens))
    (positive : 0 < others) (weak : Ends 0 rest) :
    Recovers (max needed (1 + others)) levels (Alike (.binary operator left right)) rest
      ((readerOf stop levels).outcome 0 before) := by
  cases levels with
  | zero => exact .inr ⟨by omega, _, outcome_zero⟩
  | succ levels =>
    rw [outcome_succ]
    refine (first levels).bind ?_
    intro found fits
    cases levels with
    | zero => exact .inr ⟨by omega, span, operators_full symbol (Nat.zero_le _)⟩
    | succ room =>
      dsimp only
      rw [operators_step symbol (Nat.zero_le _)]
      refine (second (room + 1)).deeper.next fun other fitsOther => ?_
      refine ⟨.binary operator found other, operators_stop weak, ?_⟩
      simp only [Alike, withoutSpans]
      rw [fits, fitsOther]

theorem Recovers.last
    (inner : Recovers needed levels (Alike tree) (⟨.rightParen, closing⟩ :: rest)
      ((readerOf stop levels).outcome 0 tokens)) :
    Recovers needed levels (AllAlike [tree]) rest (arguments stop (readerOf stop levels) opening tokens) := by
  rw [arguments_eq]
  refine inner.next fun found fits => ⟨([found], closing.stop), rfl, ?_⟩
  simp only [AllAlike, allWithoutSpans]
  rw [fits]

theorem Recovers.more
    (inner : Recovers needed levels (Alike tree) (⟨.comma, comma⟩ :: later)
      ((readerOf stop levels).outcome 0 tokens))
    (following : Recovers others levels (AllAlike trees) rest
      (arguments stop (readerOf stop levels) opening later)) :
    Recovers (max needed others) levels (AllAlike (tree :: trees)) rest
      (arguments stop (readerOf stop levels) opening tokens) := by
  rw [arguments_eq]
  refine inner.bind fun found fits => ?_
  simp only [afterArgument]
  rw [map_eq_bind]
  refine following.next fun list fitAll => ⟨(found :: list.1, list.2), rfl, ?_⟩
  simp only [AllAlike, allWithoutSpans] at fitAll ⊢
  rw [fits, fitAll]

theorem Recovers.call (filled : closes inside = false)
    (inner : Recovers needed levels (AllAlike trees) rest
      (arguments stop (readerOf stop levels) place inside)) :
    Recovers (1 + needed) (levels + 1) (Alike (.call name trees extent)) rest
      (primary stop (readerOf stop levels) (⟨.identifier name, place⟩ :: ⟨.leftParen, opening⟩ :: inside)) := by
  rw [primary_call filled, map_eq_bind]
  refine inner.deeper.next fun found fits => ⟨.call name found.1 ⟨place.start, found.2⟩, rfl, ?_⟩
  simp only [Alike, withoutSpans]
  rw [fits]

end

theorem sign_signToken (operator : UnaryOperator) : sign? (signToken operator) = some operator := by
  cases operator <;> rfl

theorem infixOperator_operatorToken (operator : BinaryOperator) : ∃ leftPower rightPower,
    infixOperator? (operatorToken operator) = some (operator, leftPower, rightPower) := by
  cases operator <;> exact ⟨_, _, rfl⟩

theorem opens_operatorToken (operator : BinaryOperator) (span : Span) (tokens : List Located) :
    opens (⟨operatorToken operator, span⟩ :: tokens) = false := by
  cases operator <;> rfl

/-- No written expression starts with a closing parenthesis. -/
theorem closes_written (tree : Expression) {located : List Located}
    (same : located.map Located.token = written tree ++ more) (rest : List Located) :
    closes (located ++ rest) = false := by
  cases tree
  all_goals
    simp only [written, List.cons_append] at same
    obtain ⟨⟨_, span⟩, later, rfl, rfl, _⟩ := List.map_eq_cons_iff.mp same
    rfl

/-- A tree is read back from its tokens, whatever follows them. -/
def Recoverable (tree : Expression) : Prop :=
  ∀ (stop levels : Nat) (located rest : List Located), located.map Located.token = written tree →
    opens rest = false → Recovers (need tree) (levels + 1) (Alike tree) rest
      (primary stop (readerOf stop levels) (located ++ rest))

/-- The same of the arguments of a call, which its closing parenthesis follows. -/
def AllRecoverable (trees : List Expression) : Prop :=
  ∀ (stop levels : Nat) (opening closing : Span) (located rest : List Located),
    located.map Located.token = writtenArguments trees → Recovers (argumentsNeed trees) levels (AllAlike trees) rest
      (arguments stop (readerOf stop levels) opening (located ++ ⟨.rightParen, closing⟩ :: rest))

section
variable {left right tree : Expression}

/-- In front of a token that is no operator the tree is a whole operand. -/
theorem Recoverable.operand (recoverable : Recoverable tree) (same : located.map Located.token = written tree)
    (alone : opens rest = false) (weak : Ends power rest) :
    Recovers (need tree) levels (Alike tree) rest ((readerOf stop levels).outcome power (located ++ rest)) :=
  .operand (need_pos tree) (fun levels => recoverable stop levels located rest same alone) weak

theorem Recoverable.number (value : Float) : Recoverable (.number value) := by
  intro stop levels located rest same alone
  simp only [written] at same
  obtain ⟨⟨_, span⟩, none, rfl, rfl, empty⟩ := List.map_eq_cons_iff.mp same
  obtain rfl := List.map_eq_nil_iff.mp empty
  simp only [need]
  exact .inl ⟨Nat.le_add_left 1 levels, .number value, primary_number, rfl⟩

theorem Recoverable.reference (name : String) (place : Span) : Recoverable (.reference name place) := by
  intro stop levels located rest same alone
  simp only [written] at same
  obtain ⟨⟨_, span⟩, none, rfl, rfl, empty⟩ := List.map_eq_cons_iff.mp same
  obtain rfl := List.map_eq_nil_iff.mp empty
  simp only [need]
  refine .inl ⟨Nat.le_add_left 1 levels, .reference name span, primary_reference alone, ?_⟩
  simp only [Alike, withoutSpans]

theorem Recoverable.unary (inner : Recoverable tree) (operator : UnaryOperator) :
    Recoverable (.unary operator tree) := by
  intro stop levels located rest same alone
  simp only [written] at same
  obtain ⟨⟨_, opening⟩, _, rfl, rfl, signed⟩ := List.map_eq_cons_iff.mp same
  obtain ⟨⟨_, span⟩, _, rfl, rfl, bracketed⟩ := List.map_eq_cons_iff.mp signed
  obtain ⟨inside, closing, rfl, tokens⟩ := map_eq_closed bracketed
  have inParens : ∀ levels, Recovers (1 + need tree) (levels + 1) (Alike (.unary operator tree))
      (⟨.rightParen, closing⟩ :: rest) (primary stop (readerOf stop levels)
        (⟨signToken operator, span⟩ :: (inside ++ ⟨.rightParen, closing⟩ :: rest))) := fun _ =>
    .signed (sign_signToken operator) (inner.operand tokens rfl (.inl rfl))
  have total : need (.unary operator tree) = 1 + (1 + need tree) := by
    simp only [need]
    omega
  rw [total]
  simp only [List.cons_append, List.append_assoc, List.nil_append]
  exact .group (.operand (by omega) inParens (.inl rfl))

theorem Recoverable.binary (first : Recoverable left) (second : Recoverable right) (operator : BinaryOperator) :
    Recoverable (.binary operator left right) := by
  intro stop levels located rest same alone
  simp only [written] at same
  obtain ⟨⟨_, opening⟩, _, rfl, rfl, operation⟩ := List.map_eq_cons_iff.mp same
  obtain ⟨front, _, rfl, before, operated⟩ := List.map_eq_append_iff.mp operation
  obtain ⟨⟨_, span⟩, _, rfl, rfl, bracketed⟩ := List.map_eq_cons_iff.mp operated
  obtain ⟨back, closing, rfl, behind⟩ := map_eq_closed bracketed
  obtain ⟨leftPower, rightPower, symbol⟩ := infixOperator_operatorToken operator
  have total : need (.binary operator left right) = 1 + max (need left) (1 + need right) := by
    simp only [need]
    omega
  rw [total]
  simp only [List.cons_append, List.append_assoc, List.nil_append]
  have lefts : ∀ levels, Recovers (need left) (levels + 1) (Alike left)
      (⟨operatorToken operator, span⟩ :: (back ++ ⟨.rightParen, closing⟩ :: rest))
      (primary stop (readerOf stop levels) (front ++ _)) := fun levels =>
    first stop levels front _ before (opens_operatorToken operator span _)
  exact .group (.binary symbol lefts (fun _ => second.operand behind rfl (.inl rfl)) (need_pos right) (.inl rfl))

theorem Recoverable.emptyCall (function : String) (place : Span) : Recoverable (.call function [] place) := by
  intro stop levels located rest same alone
  simp only [written, writtenArguments] at same
  obtain ⟨⟨_, span⟩, _, rfl, rfl, called⟩ := List.map_eq_cons_iff.mp same
  obtain ⟨⟨_, opening⟩, _, rfl, rfl, bracketed⟩ := List.map_eq_cons_iff.mp called
  obtain ⟨inside, closing, rfl, nothing⟩ := map_eq_closed bracketed
  obtain rfl := List.map_eq_nil_iff.mp nothing
  simp only [need, argumentsNeed]
  refine .inl ⟨Nat.le_add_left 1 levels, .call function [] ⟨span.start, closing.stop⟩, primary_emptyCall, ?_⟩
  simp only [Alike, withoutSpans]

theorem Recoverable.call {more : List Expression} (inner : AllRecoverable (tree :: more)) (function : String)
    (place : Span) : Recoverable (.call function (tree :: more) place) := by
  intro stop levels located rest same alone
  simp only [written] at same
  obtain ⟨⟨_, span⟩, _, rfl, rfl, called⟩ := List.map_eq_cons_iff.mp same
  obtain ⟨⟨_, opening⟩, _, rfl, rfl, bracketed⟩ := List.map_eq_cons_iff.mp called
  obtain ⟨inside, closing, rfl, tokens⟩ := map_eq_closed bracketed
  have filled : closes (inside ++ ⟨.rightParen, closing⟩ :: rest) = false := by
    simp only [writtenArguments] at tokens
    exact closes_written tree tokens _
  simp only [need, List.cons_append, List.append_assoc, List.nil_append]
  exact .call filled (inner stop levels span closing inside rest tokens)

theorem AllRecoverable.singleton (recoverable : Recoverable tree) : AllRecoverable [tree] := by
  intro stop levels opening closing located rest same
  simp only [writtenArguments, writtenMore, List.append_nil] at same
  simp only [argumentsNeed, Nat.max_zero]
  exact .last (recoverable.operand same rfl (.inl rfl))

theorem AllRecoverable.cons {next : Expression} {others : List Expression} (first : Recoverable tree)
    (following : AllRecoverable (next :: others)) : AllRecoverable (tree :: next :: others) := by
  intro stop levels opening closing located rest same
  simp only [writtenArguments, writtenMore] at same
  obtain ⟨front, _, rfl, before, more⟩ := List.map_eq_append_iff.mp same
  obtain ⟨⟨_, comma⟩, later, rfl, rfl, behind⟩ := List.map_eq_cons_iff.mp more
  rw [argumentsNeed, List.append_assoc, List.cons_append]
  exact .more (first.operand before rfl (.inl rfl)) (following stop levels opening closing later rest behind)

theorem AllRecoverable.of_each (each : ∀ tree ∈ trees, Recoverable tree) (filled : trees ≠ []) :
    AllRecoverable trees := by
  induction trees with
  | nil => exact absurd rfl filled
  | cons tree more ih =>
    obtain ⟨first, later⟩ := List.forall_mem_cons.mp each
    cases more with
    | nil => exact .singleton first
    | cons next others => exact .cons first (ih later (List.cons_ne_nil _ _))

end

mutual
theorem recoverable (tree : Expression) : Recoverable tree := by
  cases tree with
  | number value => exact .number value
  | reference name place => exact .reference name place
  | unary operator operand => exact (recoverable operand).unary operator
  | binary operator left right => exact (recoverable left).binary (recoverable right) operator
  | call function arguments place =>
    have each := all_recoverable arguments
    cases arguments with
    | nil => exact .emptyCall function place
    | cons tree more => exact .call (.of_each each (List.cons_ne_nil _ _)) function place

theorem all_recoverable (trees : List Expression) : ∀ tree ∈ trees, Recoverable tree := by
  cases trees with
  | nil => exact fun _ inside => nomatch inside
  | cons tree rest => exact List.forall_mem_cons.mpr ⟨recoverable tree, all_recoverable rest⟩
end

/-- A written expression is read as the same tree, but for the places in the text, if its need is
at most 256, and nests too deep otherwise. That numbers read back is assumed. -/
theorem parse_print (tree : Expression) (writable : Writable tree)
    (readsBack : ∀ value ∈ numbers tree, ReadsBack value) :
    (need tree ≤ maxNesting →
      ∃ found, parse (toString tree) = .ok found ∧ withoutSpans found = withoutSpans tree) ∧
    (maxNesting < need tree → ∃ span, parse (toString tree) = .error ⟨.tooDeep, span⟩) := by
  obtain ⟨located, same, words⟩ := (print_cut tree writable readsBack).tokenize
  have whole : parse (toString tree) = ofTokens (byteLength tree.print) located := by
    change parse (String.ofList tree.print) = _
    rw [parse, String.toList_ofList, parseText, words]
  have read : Recovers (need tree) maxNesting (Alike tree) []
      ((readerOf (byteLength tree.print) maxNesting).outcome 0 (located ++ [])) :=
    (recoverable tree).operand same rfl (.inl rfl)
  rw [whole, ofTokens_eq]
  rw [List.append_nil] at read
  constructor
  · intro enough
    rcases read with ⟨_, found, done, alike⟩ | ⟨few, _⟩
    · exact ⟨found, by rw [done]; rfl, alike⟩
    · omega
  · intro few
    rcases read with ⟨enough, _⟩ | ⟨_, span, deep⟩
    · omega
    · exact ⟨span, by rw [deep]; rfl⟩

/-- A tree with a number, and one with one sign more than can be read. -/
theorem parse_print_at_limit :
    (∃ found, parse (toString (.binary .power (.number 1.5) (.reference "x" ⟨0, 0⟩) : Expression)) = .ok found ∧
      withoutSpans found = .binary .power (.number 1.5) (.reference "x" ⟨0, 0⟩)) ∧
    ∃ span, parse (toString (Nat.repeat (Expression.unary .minus) 128 (.reference "x" ⟨0, 0⟩))) =
      .error ⟨.tooDeep, span⟩ := by
  constructor
  · have writable : Writable (.binary .power (.number 1.5) (.reference "x" ⟨0, 0⟩)) :=
      ⟨⟨⟨3 * 2 ^ 51, -52⟩, by decide +kernel⟩, rfl⟩
    have readsBack : ∀ value ∈ numbers (.binary .power (.number 1.5) (.reference "x" ⟨0, 0⟩)),
        ReadsBack value := by
      simp only [numbers, List.append_nil, List.mem_singleton, forall_eq]
      unfold ReadsBack
      decide +kernel
    exact (parse_print _ writable readsBack).1 (by decide)
  · have writable : Writable (Nat.repeat (Expression.unary .minus) 128 (.reference "x" ⟨0, 0⟩)) := rfl
    refine (parse_print _ writable ?_).2 (by decide +kernel)
    intro value inside
    cases inside

end LiterateCalc.Expression
