import LiterateCalc.Evaluation.Evaluator

/-! All that is wrong with a tree, in the order in which evaluation comes to it. The first of
these offences is the error of the tree, and a tree without any has a value. -/
namespace LiterateCalc.Evaluation

mutual
/-- What is wrong with a tree at a given depth. A node that stands too deep hides all below it,
and a call that cannot be made hides its arguments. -/
def offences (source : Source) (depth : Nat) : Expression → List EvaluationError
  | .number _ => if maxDepth < depth then [.tooDeep] else []
  | .reference name _ =>
    if maxDepth < depth then [.tooDeep]
    else if (source name <|> constant? name).isSome then [] else [.undefinedVariable name]
  | .unary _ operand =>
    if maxDepth < depth then [.tooDeep] else offences source (depth + 1) operand
  | .binary _ left right =>
    if maxDepth < depth then [.tooDeep]
    else offences source (depth + 1) left ++ offences source (depth + 1) right
  | .call function arguments _ =>
    if maxDepth < depth then [.tooDeep]
    else match Registry.builtin.get? function with
      | none => [.unknownFunction function]
      | some definition =>
        if definition.arity.accepts arguments.length then argumentOffences source (depth + 1) arguments
        else [.wrongArity function definition.arity arguments.length]

/-- What is wrong with the arguments of a call, from the left. -/
def argumentOffences (source : Source) (depth : Nat) : List Expression → List EvaluationError
  | [] => []
  | argument :: rest => offences source depth argument ++ argumentOffences source depth rest
end

/-- A result is the first of the faults, or a value if there is none. -/
def Settles (faults : List EvaluationError) (result : Except EvaluationError α) : Prop :=
  match faults with
  | [] => ∃ value, result = .ok value
  | first :: _ => result = .error first

theorem Settles.map {result : Except EvaluationError α} (settled : Settles faults result)
    (change : α → β) : Settles faults (result.map change) := by
  cases faults with
  | nil =>
    obtain ⟨value, rfl⟩ := settled
    exact ⟨change value, rfl⟩
  | cons first later =>
    obtain rfl : result = .error first := settled
    rfl

/-- The faults of a second step count only after those of the first. -/
theorem Settles.bind {result : Except EvaluationError α} {next : α → Except EvaluationError β}
    (settled : Settles faults result) (after : ∀ value, Settles others (next value)) :
    Settles (faults ++ others) (result.bind next) := by
  cases faults with
  | nil =>
    obtain ⟨value, rfl⟩ := settled
    exact after value
  | cons first later =>
    obtain rfl : result = .error first := settled
    rfl

/-- An error is one of the faults. -/
theorem Settles.mem {result : Except EvaluationError α} (settled : Settles faults result)
    (failed : result = .error error) : error ∈ faults := by
  cases faults with
  | nil =>
    obtain ⟨value, success⟩ := settled
    rw [success] at failed
    cases failed
  | cons first later =>
    obtain rfl := Except.error.inj (settled.symm.trans failed)
    exact List.mem_cons_self

theorem Settles.ok_iff {result : Except EvaluationError α} (settled : Settles faults result) :
    (∃ value, result = .ok value) ↔ faults = [] := by
  cases faults with
  | nil => exact iff_of_true settled rfl
  | cons first later =>
    obtain rfl : result = .error first := settled
    simp

theorem Settles.error_iff {result : Except EvaluationError α} (settled : Settles faults result) :
    result = .error error ↔ faults.head? = some error := by
  cases faults with
  | nil =>
    obtain ⟨value, rfl⟩ := settled
    simp
  | cons first later =>
    obtain rfl : result = .error first := settled
    simp

section
variable {source : Source} {depth : Nat}

theorem evaluateAt_deep (deep : maxDepth < depth) (tree : Expression) :
    evaluateAt source depth tree = .error .tooDeep ∧ offences source depth tree = [.tooDeep] := by
  cases tree <;> simp [evaluateAt, offences, deep]

theorem evaluateAt_binary (shallow : ¬ maxDepth < depth) :
    evaluateAt source depth (.binary operator left right) =
      (evaluateAt source (depth + 1) left).bind fun first =>
        (evaluateAt source (depth + 1) right).map (applyBinary operator first) := by
  simp only [evaluateAt, shallow, if_false]
  cases evaluateAt source (depth + 1) left <;> rfl

theorem evaluateArguments_cons :
    evaluateArguments source depth (tree :: rest) =
      (evaluateAt source depth tree).bind fun value =>
        (evaluateArguments source depth rest).map (value :: ·) := by
  rw [evaluateArguments]
  cases evaluateAt source depth tree <;> rfl

end

mutual
theorem offences_settle (source : Source) (depth : Nat) (tree : Expression) :
    Settles (offences source depth tree) (evaluateAt source depth tree) := by
  by_cases deep : maxDepth < depth
  · rw [(evaluateAt_deep deep tree).1, (evaluateAt_deep deep tree).2]
    rfl
  cases tree with
  | number value => simp [offences, evaluateAt, deep, Settles]
  | reference name span =>
    simp only [offences, evaluateAt, deep, if_false]
    cases source name <|> constant? name <;> simp [Settles]
  | unary operator operand =>
    simp only [offences, evaluateAt, deep, if_false]
    exact (offences_settle source (depth + 1) operand).map _
  | binary operator left right =>
    rw [evaluateAt_binary deep]
    simp only [offences, deep, if_false]
    exact (offences_settle source (depth + 1) left).bind fun value =>
      (offences_settle source (depth + 1) right).map _
  | call function arguments span =>
    have inner := arguments_settle source (depth + 1) arguments
    simp only [offences, evaluateAt, deep, if_false]
    cases Registry.builtin.get? function with
    | none => rfl
    | some definition =>
      dsimp only
      split
      · exact inner.map _
      · rfl

theorem arguments_settle (source : Source) (depth : Nat) (trees : List Expression) :
    Settles (argumentOffences source depth trees) (evaluateArguments source depth trees) := by
  cases trees with
  | nil => exact ⟨[], by simp [evaluateArguments]⟩
  | cons tree rest =>
    rw [evaluateArguments_cons, argumentOffences]
    exact (offences_settle source depth tree).bind fun value =>
      (arguments_settle source depth rest).map _
end

end LiterateCalc.Evaluation
