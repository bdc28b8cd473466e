import LiterateCalc.Proofs.Evaluation.Offences

namespace LiterateCalc

namespace Expression

mutual
/-- The tree with another one in place of every reference to a name. -/
def substitute (name : String) (replacement : Expression) : Expression → Expression
  | .number value => .number value
  | .reference other span => if other = name then replacement else .reference other span
  | .unary operator operand => .unary operator (substitute name replacement operand)
  | .binary operator left right =>
    .binary operator (substitute name replacement left) (substitute name replacement right)
  | .call function arguments span => .call function (substituteArguments name replacement arguments) span

def substituteArguments (name : String) (replacement : Expression) : List Expression → List Expression
  | [] => []
  | argument :: rest => substitute name replacement argument :: substituteArguments name replacement rest
end

theorem substituteArguments_length (name : String) (replacement : Expression) (trees : List Expression) :
    (substituteArguments name replacement trees).length = trees.length := by
  induction trees with
  | nil => simp only [substituteArguments]
  | cons tree rest ih => simp only [substituteArguments, List.length_cons, ih]

end Expression

namespace Evaluation
open Expression (argumentsHeight substitute substituteArguments)

/-- The source with a value of its own for one name, before that of a constant too. -/
def Source.set (source : Source) (name : String) (value : Float) : Source :=
  fun other => if name = other then some value else source other

mutual
/-- How deep a tree stands does not matter while all of it is within the limit. -/
theorem evaluateAt_level {source : Source} {depth other : Nat} {tree : Expression}
    (within : depth + tree.height ≤ maxDepth) (withinOther : other + tree.height ≤ maxDepth) :
    evaluateAt source depth tree = evaluateAt source other tree := by
  have shallow : ¬ maxDepth < depth := by omega
  have shallowOther : ¬ maxDepth < other := by omega
  cases tree with
  | number | reference => simp only [evaluateAt, shallow, shallowOther, if_false]
  | unary operator operand =>
    rw [Expression.height] at within withinOther
    have inner : evaluateAt source (depth + 1) operand = evaluateAt source (other + 1) operand :=
      evaluateAt_level (by omega) (by omega)
    simp only [evaluateAt, shallow, shallowOther, if_false, inner]
  | binary operator left right =>
    rw [Expression.height] at within withinOther
    have first : evaluateAt source (depth + 1) left = evaluateAt source (other + 1) left :=
      evaluateAt_level (by omega) (by omega)
    have second : evaluateAt source (depth + 1) right = evaluateAt source (other + 1) right :=
      evaluateAt_level (by omega) (by omega)
    rw [evaluateAt_binary shallow, evaluateAt_binary shallowOther, first, second]
  | call function arguments span =>
    rw [Expression.height] at within withinOther
    have inner : evaluateArguments source (depth + 1) arguments = evaluateArguments source (other + 1) arguments :=
      evaluateArguments_level within withinOther
    simp only [evaluateAt, shallow, shallowOther, if_false, inner]

theorem evaluateArguments_level {source : Source} {depth other : Nat} {trees : List Expression}
    (within : depth + argumentsHeight trees ≤ maxDepth) (withinOther : other + argumentsHeight trees ≤ maxDepth) :
    evaluateArguments source (depth + 1) trees = evaluateArguments source (other + 1) trees := by
  cases trees with
  | nil => simp only [evaluateArguments]
  | cons tree rest =>
    rw [argumentsHeight] at within withinOther
    have first : evaluateAt source (depth + 1) tree = evaluateAt source (other + 1) tree :=
      evaluateAt_level (by omega) (by omega)
    have others : evaluateArguments source (depth + 1) rest = evaluateArguments source (other + 1) rest :=
      evaluateArguments_level (by omega) (by omega)
    rw [evaluateArguments_cons, evaluateArguments_cons, first, others]
end

/-- A tree has this value at every depth that leaves room for it. -/
def HasValue (source : Source) (tree : Expression) (value : Float) : Prop :=
  ∀ depth, depth + tree.height ≤ maxDepth → evaluateAt source depth tree = .ok value

theorem hasValue_of_top (found : evaluateAt source 0 tree = .ok value) : HasValue source tree value := by
  intro depth within
  rw [← found]
  exact evaluateAt_level within (by omega)

mutual
/-- The replacement comes to stand at all the depths where the name stood. -/
theorem evaluateAt_substitute {source : Source} {name : String} {replacement : Expression} {result : Float}
    (inlined : HasValue source replacement result) {depth : Nat} {tree : Expression}
    (within : depth + (substitute name replacement tree).height ≤ maxDepth) :
    evaluateAt source depth (substitute name replacement tree) =
      evaluateAt (source.set name result) depth tree := by
  have shallow : ¬ maxDepth < depth := by omega
  cases tree with
  | number value => simp only [substitute, evaluateAt]
  | reference other span =>
    rw [substitute] at within ⊢
    by_cases same : other = name
    · rw [if_pos same] at within ⊢
      rw [inlined depth within]
      simp [evaluateAt, shallow, Source.set, same]
    · rw [if_neg same]
      simp only [evaluateAt, Source.set, Ne.symm same, if_false]
  | unary operator operand =>
    rw [substitute] at within ⊢
    rw [Expression.height] at within
    have inner : evaluateAt source (depth + 1) (substitute name replacement operand) =
        evaluateAt (source.set name result) (depth + 1) operand := evaluateAt_substitute inlined (by omega)
    simp only [evaluateAt, shallow, if_false, inner]
  | binary operator left right =>
    rw [substitute] at within ⊢
    rw [Expression.height] at within
    have first : evaluateAt source (depth + 1) (substitute name replacement left) =
        evaluateAt (source.set name result) (depth + 1) left := evaluateAt_substitute inlined (by omega)
    have second : evaluateAt source (depth + 1) (substitute name replacement right) =
        evaluateAt (source.set name result) (depth + 1) right := evaluateAt_substitute inlined (by omega)
    rw [evaluateAt_binary shallow, evaluateAt_binary shallow, first, second]
  | call function arguments span =>
    rw [substitute] at within ⊢
    rw [Expression.height] at within
    have inner := evaluateArguments_substitute inlined within
    simp only [evaluateAt, shallow, if_false, Expression.substituteArguments_length, inner]

theorem evaluateArguments_substitute {source : Source} {name : String} {replacement : Expression}
    {result : Float} (inlined : HasValue source replacement result) {depth : Nat} {trees : List Expression}
    (within : depth + argumentsHeight (substituteArguments name replacement trees) ≤ maxDepth) :
    evaluateArguments source (depth + 1) (substituteArguments name replacement trees) =
      evaluateArguments (source.set name result) (depth + 1) trees := by
  cases trees with
  | nil => simp only [substituteArguments, evaluateArguments]
  | cons tree rest =>
    rw [substituteArguments] at within ⊢
    rw [argumentsHeight] at within
    have first : evaluateAt source (depth + 1) (substitute name replacement tree) =
        evaluateAt (source.set name result) (depth + 1) tree := evaluateAt_substitute inlined (by omega)
    have others : evaluateArguments source (depth + 1) (substituteArguments name replacement rest) =
        evaluateArguments (source.set name result) (depth + 1) rest := evaluateArguments_substitute inlined (by omega)
    rw [evaluateArguments_cons, evaluateArguments_cons, first, others]
end

/-- A tree with a definition inlined has the value, or the error, that the tree itself has where the name
stands for the value of the definition. -/
theorem evaluateAt_inlined (source : Source) (name : String) (tree replacement : Expression) (value : Float)
    (found : evaluateAt source 0 replacement = .ok value)
    (within : (substitute name replacement tree).height ≤ maxDepth) :
    evaluateAt source 0 (substitute name replacement tree) = evaluateAt (source.set name value) 0 tree := by
  have inlined : HasValue source replacement value := hasValue_of_top found
  have fits : 0 + (substitute name replacement tree).height ≤ maxDepth := by
    rw [Nat.zero_add]
    exact within
  exact evaluateAt_substitute inlined fits

/-- A name that hides a constant, with an infinite value. -/
theorem evaluateAt_inlined_infinite :
    let source : Source := fun name => if name = "x" then some 0.0 else none
    let quotient : Expression := .binary .divide (.number 1.0) (.reference "x" ⟨4, 5⟩)
    let difference : Expression := .binary .subtract (.reference "E" ⟨0, 1⟩)
      (.call "max" [.reference "E" ⟨8, 9⟩, .reference "x" ⟨11, 12⟩] ⟨4, 13⟩)
    evaluateAt source 0 quotient = .ok infinity ∧
      (substitute "E" quotient difference).height = 3 ∧ 3 ≤ maxDepth ∧
      evaluateAt source 0 (substitute "E" quotient difference) =
        evaluateAt (source.set "E" infinity) 0 difference ∧
      evaluateAt source 0 (substitute "E" quotient difference) = .ok noNumber := by
  intro source quotient difference
  have found : evaluateAt source 0 quotient = .ok infinity := by rfl
  have height : (substitute "E" quotient difference).height = 3 := by rfl
  have low : 3 ≤ maxDepth := by decide
  have same := evaluateAt_inlined source "E" difference quotient infinity found (by rw [height]; exact low)
  exact ⟨found, height, low, same, same.trans (by rfl)⟩

end Evaluation
end LiterateCalc
