import LiterateCalc.Proofs.Evaluation.Offences

/-! Which trees the depth limit of evaluation lets through. Only a leaf that stands too deep is
refused for its depth, and it is refused unless a call above it cannot be made. -/
namespace LiterateCalc.Evaluation
open Expression (argumentsHeight)

mutual
/-- Every call is of a known function, with as many arguments as it takes. -/
def Callable : Expression → Prop
  | .number _ | .reference _ _ => True
  | .unary _ operand => Callable operand
  | .binary _ left right => Callable left ∧ Callable right
  | .call function arguments _ =>
    (∃ definition, Registry.builtin.get? function = some definition ∧
      definition.arity.accepts arguments.length = true) ∧ AllCallable arguments

def AllCallable : List Expression → Prop
  | [] => True
  | argument :: rest => Callable argument ∧ AllCallable rest
end

mutual
/-- The names that a tree refers to, from the left, as often as it does. -/
def names : Expression → List String
  | .number _ => []
  | .reference name _ => [name]
  | .unary _ operand => names operand
  | .binary _ left right => names left ++ names right
  | .call _ arguments _ => argumentNames arguments

def argumentNames : List Expression → List String
  | [] => []
  | argument :: rest => names argument ++ argumentNames rest
end

def Valued (source : Source) (name : String) : Prop := (source name <|> constant? name).isSome = true

mutual
theorem height_of_tooDeep (source : Source) (depth : Nat) (tree : Expression)
    (refused : .tooDeep ∈ offences source depth tree) : maxDepth < depth + tree.height := by
  by_cases deep : maxDepth < depth
  · omega
  cases tree with
  | number value => simp [offences, deep] at refused
  | reference name span =>
    simp only [offences, deep, if_false] at refused
    split at refused <;> simp at refused
  | unary operator operand =>
    simp only [offences, deep, if_false] at refused
    have below := height_of_tooDeep source (depth + 1) operand refused
    simp only [Expression.height]
    omega
  | binary operator left right =>
    simp only [offences, deep, if_false, List.mem_append] at refused
    simp only [Expression.height]
    rcases refused with first | second
    · have below := height_of_tooDeep source (depth + 1) left first
      omega
    · have below := height_of_tooDeep source (depth + 1) right second
      omega
  | call function arguments span =>
    simp only [offences, deep, if_false] at refused
    split at refused
    · simp at refused
    · split at refused
      · exact argumentsHeight_of_tooDeep source depth arguments refused
      · simp at refused

/-- The arguments of a call stand one deeper than the call. -/
theorem argumentsHeight_of_tooDeep (source : Source) (depth : Nat) (trees : List Expression)
    (refused : .tooDeep ∈ argumentOffences source (depth + 1) trees) :
    maxDepth < depth + argumentsHeight trees := by
  cases trees with
  | nil => simp [argumentOffences] at refused
  | cons tree rest =>
    simp only [argumentOffences, List.mem_append] at refused
    simp only [argumentsHeight]
    rcases refused with first | others
    · have below := height_of_tooDeep source (depth + 1) tree first
      omega
    · have below := argumentsHeight_of_tooDeep source depth rest others
      omega
end

mutual
theorem Callable.tooDeep {tree : Expression} (callable : Callable tree) (source : Source) (depth : Nat)
    (high : maxDepth < depth + tree.height) : .tooDeep ∈ offences source depth tree := by
  by_cases deep : maxDepth < depth
  · simp [(evaluateAt_deep deep tree).2]
  cases tree with
  | number value =>
    simp only [Expression.height] at high
    omega
  | reference name span =>
    simp only [Expression.height] at high
    omega
  | unary operator operand =>
    simp only [Expression.height] at high
    simp only [Callable] at callable
    simp only [offences, deep, if_false]
    exact callable.tooDeep source (depth + 1) (by omega)
  | binary operator left right =>
    simp only [Expression.height] at high
    simp only [Callable] at callable
    simp only [offences, deep, if_false, List.mem_append]
    by_cases first : maxDepth < depth + 1 + left.height
    · exact .inl (callable.1.tooDeep source (depth + 1) first)
    · exact .inr (callable.2.tooDeep source (depth + 1) (by omega))
  | call function arguments span =>
    simp only [Expression.height] at high
    simp only [Callable] at callable
    obtain ⟨⟨definition, known, accepted⟩, inner⟩ := callable
    simp only [offences, deep, if_false, known, accepted, if_true]
    exact inner.tooDeep source depth (by omega) high

theorem AllCallable.tooDeep {trees : List Expression} (callable : AllCallable trees) (source : Source)
    (depth : Nat) (shallow : depth ≤ maxDepth) (high : maxDepth < depth + argumentsHeight trees) :
    .tooDeep ∈ argumentOffences source (depth + 1) trees := by
  cases trees with
  | nil =>
    simp only [argumentsHeight] at high
    omega
  | cons tree rest =>
    simp only [argumentsHeight] at high
    simp only [AllCallable] at callable
    simp only [argumentOffences, List.mem_append]
    by_cases first : maxDepth < depth + 1 + tree.height
    · exact .inl (callable.1.tooDeep source (depth + 1) first)
    · exact .inr (callable.2.tooDeep source depth shallow (by omega))
end

mutual
/-- With a value for every name and only calls that can be made, depth is all that can be wrong. -/
theorem Callable.only_tooDeep {tree : Expression} (callable : Callable tree) {source : Source}
    (valued : ∀ name ∈ names tree, Valued source name) (depth : Nat) :
    ∀ offence ∈ offences source depth tree, offence = .tooDeep := by
  by_cases deep : maxDepth < depth
  · simp [(evaluateAt_deep deep tree).2]
  cases tree with
  | number value => simp [offences, deep]
  | reference name span =>
    have known : (source name <|> constant? name).isSome = true := valued name (by simp [names])
    rw [offences, if_neg deep, if_pos known]
    simp
  | unary operator operand =>
    simp only [Callable] at callable
    simp only [names] at valued
    simp only [offences, deep, if_false]
    exact callable.only_tooDeep valued (depth + 1)
  | binary operator left right =>
    simp only [Callable] at callable
    simp only [names, List.mem_append] at valued
    simp only [offences, deep, if_false, List.mem_append]
    rintro offence (first | second)
    · exact callable.1.only_tooDeep (fun name inside => valued name (.inl inside)) (depth + 1) offence first
    · exact callable.2.only_tooDeep (fun name inside => valued name (.inr inside)) (depth + 1) offence second
  | call function arguments span =>
    simp only [Callable] at callable
    simp only [names] at valued
    obtain ⟨⟨definition, known, accepted⟩, inner⟩ := callable
    simp only [offences, deep, if_false, known, accepted, if_true]
    exact inner.only_tooDeep valued (depth + 1)

theorem AllCallable.only_tooDeep {trees : List Expression} (callable : AllCallable trees)
    {source : Source} (valued : ∀ name ∈ argumentNames trees, Valued source name) (depth : Nat) :
    ∀ offence ∈ argumentOffences source depth trees, offence = .tooDeep := by
  cases trees with
  | nil => simp [argumentOffences]
  | cons tree rest =>
    simp only [AllCallable] at callable
    simp only [argumentNames, List.mem_append] at valued
    simp only [argumentOffences, List.mem_append]
    rintro offence (first | others)
    · exact callable.1.only_tooDeep (fun name inside => valued name (.inl inside)) depth offence first
    · exact callable.2.only_tooDeep (fun name inside => valued name (.inr inside)) depth offence others
end

/-- No source makes evaluation refuse a tree of moderate height for its depth. -/
theorem evaluateAt_within (source : Source) (within : depth + tree.height ≤ maxDepth) :
    evaluateAt source depth tree ≠ .error .tooDeep := by
  intro refused
  have settled := offences_settle source depth tree
  have high : maxDepth < depth + tree.height := by
    apply height_of_tooDeep source
    rw [refused] at settled
    cases faults : offences source depth tree with
    | nil =>
      rw [faults] at settled
      obtain ⟨value, same⟩ := settled
      cases same
    | cons first later =>
      rw [faults] at settled
      obtain rfl := Except.error.inj settled
      exact List.mem_cons_self
  omega

theorem Callable.evaluateAt_tooDeep (callable : Callable tree)
    (valued : ∀ name ∈ names tree, Valued source name) (high : maxDepth < depth + tree.height) :
    evaluateAt source depth tree = .error .tooDeep := by
  have settled := offences_settle source depth tree
  have refused := callable.tooDeep source depth high
  cases faults : offences source depth tree with
  | nil =>
    rw [faults] at refused
    cases refused
  | cons first later =>
    have only := callable.only_tooDeep valued depth first (by rw [faults]; exact List.mem_cons_self)
    rw [faults, only] at settled
    exact settled

end LiterateCalc.Evaluation
