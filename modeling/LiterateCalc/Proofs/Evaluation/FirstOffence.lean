import LiterateCalc.Proofs.Evaluation.Offences
import LiterateCalc.Proofs.Expression.Reading

/-! The error of a tree is the first offence among its nodes, each node taken before those below it.
A tree that has a value keeps it where it stands less deep. -/
namespace LiterateCalc

namespace Expression

/-- The operands of an operator, or the arguments of a call. -/
def parts : Expression → List Expression
  | .number _ | .reference _ _ => []
  | .unary _ operand => [operand]
  | .binary _ left right => [left, right]
  | .call _ arguments _ => arguments

mutual
/-- The nodes of a tree with the depths at which they stand, each before those below it. -/
def preorder (depth : Nat) : Expression → List (Nat × Expression)
  | .number value => [(depth, .number value)]
  | .reference name span => [(depth, .reference name span)]
  | .unary operator operand => (depth, .unary operator operand) :: preorder (depth + 1) operand
  | .binary operator left right =>
    (depth, .binary operator left right) :: (preorder (depth + 1) left ++ preorder (depth + 1) right)
  | .call function arguments span =>
    (depth, .call function arguments span) :: argumentsPreorder (depth + 1) arguments

def argumentsPreorder (depth : Nat) : List Expression → List (Nat × Expression)
  | [] => []
  | argument :: rest => preorder depth argument ++ argumentsPreorder depth rest
end

theorem argumentsPreorder_eq (depth : Nat) (trees : List Expression) :
    argumentsPreorder depth trees = trees.flatMap (preorder depth) := by
  induction trees with
  | nil => simp [argumentsPreorder]
  | cons tree rest ih => rw [argumentsPreorder, ih, List.flatMap_cons]

theorem preorder_eq (depth : Nat) (tree : Expression) :
    tree.preorder depth = (depth, tree) :: tree.parts.flatMap (preorder (depth + 1)) := by
  cases tree with
  | number | reference | unary | binary => simp [preorder, parts]
  | call function arguments span => rw [preorder, argumentsPreorder_eq, parts]

mutual
/-- What a tree has as soon as its parts have it, every tree has. -/
theorem parts_induction {motive : Expression → Prop}
    (step : ∀ tree, (∀ part ∈ tree.parts, motive part) → motive tree) (tree : Expression) : motive tree := by
  apply step
  cases tree with
  | number value | reference name span => exact List.forall_mem_nil _
  | unary operator operand => exact List.forall_mem_singleton.mpr (parts_induction step operand)
  | binary operator left right =>
    exact List.forall_mem_cons.mpr
      ⟨parts_induction step left, List.forall_mem_singleton.mpr (parts_induction step right)⟩
  | call function arguments span => exact arguments_induction step arguments

theorem arguments_induction {motive : Expression → Prop}
    (step : ∀ tree, (∀ part ∈ tree.parts, motive part) → motive tree) (trees : List Expression) :
    ∀ tree ∈ trees, motive tree := by
  cases trees with
  | nil => exact List.forall_mem_nil _
  | cons tree rest =>
    exact List.forall_mem_cons.mpr ⟨parts_induction step tree, arguments_induction step rest⟩
end

end Expression

namespace Evaluation

/-- What is wrong with a single node at a given depth, whatever stands below it. -/
def offence? (source : Source) (depth : Nat) (node : Expression) : Option EvaluationError :=
  if maxDepth < depth then some .tooDeep
  else match node with
    | .reference name _ =>
      if (source name).isSome || name ∈ ["PI", "E"] then none else some (.undefinedVariable name)
    | .call function arguments _ =>
      match Registry.builtin.get? function with
      | none => some (.unknownFunction function)
      | some definition =>
        if definition.arity.accepts arguments.length then none
        else some (.wrongArity function definition.arity arguments.length)
    | _ => none

/-- A name has a value of its own or that of one of the two constants. -/
theorem valued_iff (source : Source) (name : String) :
    (source name <|> constant? name).isSome = ((source name).isSome || name ∈ ["PI", "E"]) := by
  cases source name with
  | some value => rfl
  | none =>
    change (constant? name).isSome = decide (name ∈ ["PI", "E"])
    unfold constant?
    split
    · simp [*]
    · split <;> simp [*]

theorem argumentOffences_eq (source : Source) (depth : Nat) (trees : List Expression) :
    argumentOffences source depth trees = trees.flatMap (offences source depth) := by
  induction trees with
  | nil => simp [argumentOffences]
  | cons tree rest ih => rw [argumentOffences, ih, List.flatMap_cons]

/-- A node with an offence hides all that is below it. -/
theorem offences_eq (source : Source) (depth : Nat) (tree : Expression) :
    offences source depth tree = match offence? source depth tree with
      | some fault => [fault]
      | none => tree.parts.flatMap (offences source (depth + 1)) := by
  by_cases deep : maxDepth < depth
  · simp only [(evaluateAt_deep deep tree).2, offence?, deep, if_true]
  cases tree with
  | number value => simp [offences, offence?, deep, Expression.parts]
  | reference name span =>
    simp only [offences, offence?, deep, if_false, Expression.parts, List.flatMap_nil, valued_iff]
    split <;> rfl
  | unary operator operand => simp [offences, offence?, deep, Expression.parts]
  | binary operator left right => simp [offences, offence?, deep, Expression.parts]
  | call function arguments span =>
    simp only [offences, offence?, deep, if_false, Expression.parts, argumentOffences_eq]
    cases Registry.builtin.get? function with
    | none => rfl
    | some definition =>
      dsimp only
      split <;> rfl

theorem head?_flatMap_eq {first : α → List β} {second : α → List γ} {change : γ → Option β} {items : List α}
    (same : ∀ item ∈ items, (first item).head? = (second item).findSome? change) :
    (items.flatMap first).head? = (items.flatMap second).findSome? change := by
  induction items with
  | nil => rfl
  | cons item rest ih =>
    obtain ⟨here, later⟩ := List.forall_mem_cons.mp same
    rw [List.flatMap_cons, List.flatMap_cons, List.head?_append, List.findSome?_append, here, ih later]

/-- Nodes below an offence come after it, so that the first offence of all is not hidden. -/
theorem offences_head? (source : Source) (depth : Nat) (tree : Expression) :
    (offences source depth tree).head? =
      (tree.preorder depth).findSome? fun node => offence? source node.1 node.2 := by
  induction tree using Expression.parts_induction generalizing depth with
  | step tree ih =>
    rw [offences_eq, Expression.preorder_eq, List.findSome?_cons]
    cases offence? source depth tree with
    | some fault => rfl
    | none => exact head?_flatMap_eq fun part inside => ih part inside (depth + 1)

mutual
theorem evaluateAt_shallower {source : Source} {depth shallower : Nat} {tree : Expression}
    (within : shallower ≤ depth) (success : evaluateAt source depth tree = .ok value) :
    evaluateAt source shallower tree = .ok value := by
  have shallow : ¬ maxDepth < depth := by
    intro deep
    rw [(evaluateAt_deep deep tree).1] at success
    cases success
  have shallowToo : ¬ maxDepth < shallower := by omega
  have below : shallower + 1 ≤ depth + 1 := Nat.succ_le_succ within
  cases tree with
  | number | reference => simpa only [evaluateAt, shallow, shallowToo, if_false] using success
  | unary operator operand =>
    simp only [evaluateAt, shallow, shallowToo, if_false] at success ⊢
    obtain ⟨inner, found, rfl⟩ := Expression.map_eq_ok.mp success
    rw [evaluateAt_shallower below found]
    rfl
  | binary operator left right =>
    rw [evaluateAt_binary shallow] at success
    obtain ⟨first, foundFirst, rest⟩ := Expression.bind_eq_ok.mp success
    obtain ⟨second, foundSecond, rfl⟩ := Expression.map_eq_ok.mp rest
    rw [evaluateAt_binary shallowToo, evaluateAt_shallower below foundFirst, evaluateAt_shallower below foundSecond]
    rfl
  | call function arguments span =>
    simp only [evaluateAt, shallow, shallowToo, if_false] at success ⊢
    cases known : Registry.builtin.get? function with
    | none =>
      rw [known] at success
      cases success
    | some definition =>
      simp only [known] at success ⊢
      split at success
      · rename_i accepted
        obtain ⟨values, found, rfl⟩ := Expression.map_eq_ok.mp success
        rw [if_pos accepted, evaluateArguments_shallower below found]
        rfl
      · cases success

theorem evaluateArguments_shallower {source : Source} {depth shallower : Nat} {trees : List Expression}
    (within : shallower ≤ depth) (success : evaluateArguments source depth trees = .ok values) :
    evaluateArguments source shallower trees = .ok values := by
  cases trees with
  | nil => simpa only [evaluateArguments] using success
  | cons tree rest =>
    rw [evaluateArguments_cons] at success
    obtain ⟨first, foundFirst, remaining⟩ := Expression.bind_eq_ok.mp success
    obtain ⟨others, foundOthers, rfl⟩ := Expression.map_eq_ok.mp remaining
    rw [evaluateArguments_cons, evaluateAt_shallower within foundFirst, evaluateArguments_shallower within foundOthers]
    rfl
end

/-- A tree has a value exactly if nothing is wrong with it, and else its error is the first offence that
a node has, from the left and from above. Less deep, a tree with a value has the same one. -/
theorem evaluateAt_first_offence (source : Source) (depth : Nat) (tree : Expression) :
    let faults := offences source depth tree
    ((∃ value, evaluateAt source depth tree = .ok value) ↔ faults = []) ∧
      (∀ error, evaluateAt source depth tree = .error error ↔ faults.head? = some error) ∧
      faults.head? = (tree.preorder depth).findSome? (fun node => offence? source node.1 node.2) ∧
      ∀ value shallower, shallower ≤ depth → evaluateAt source depth tree = .ok value →
        evaluateAt source shallower tree = .ok value := by
  intro faults
  have settled : Settles faults (evaluateAt source depth tree) := offences_settle source depth tree
  exact ⟨settled.ok_iff, fun error => settled.error_iff, offences_head? source depth tree,
    fun value shallower => evaluateAt_shallower⟩

/-- Of three arguments that are all wrong, the first one counts. A constant as deep as can be keeps its
value further up. -/
theorem evaluateAt_first_offence_arguments :
    let source : Source := fun _ => none
    let arguments : List Expression :=
      [.reference "a" ⟨4, 5⟩, .call "rate" [.reference "b" ⟨12, 13⟩] ⟨7, 14⟩, .call "sqrt" [] ⟨16, 22⟩]
    let tree : Expression := .call "max" arguments ⟨0, 23⟩
    let constant : Expression := .reference "PI" ⟨0, 2⟩
    offences source 0 tree =
        [.undefinedVariable "a", .unknownFunction "rate", .wrongArity "sqrt" (.exactly 1) 0] ∧
      evaluateAt source 0 tree = .error (.undefinedVariable "a") ∧
      3 ≤ 256 ∧ evaluateAt source 256 constant = .ok 3.141592653589793 ∧
      evaluateAt source 3 constant = .ok 3.141592653589793 := by
  intro source arguments tree constant
  have faults : offences source 0 tree =
      [.undefinedVariable "a", .unknownFunction "rate", .wrongArity "sqrt" (.exactly 1) 0] := by rfl
  have failed := ((evaluateAt_first_offence source 0 tree).2.1 (.undefinedVariable "a")).mpr (by rw [faults]; rfl)
  have deep : evaluateAt source 256 constant = .ok 3.141592653589793 := by rfl
  have less : 3 ≤ 256 := by decide
  exact ⟨faults, failed, less, deep, (evaluateAt_first_offence source 256 constant).2.2.2 _ 3 less deep⟩

end Evaluation
end LiterateCalc
