import LiterateCalc.Proofs.Evaluation.Depth
import LiterateCalc.Proofs.Evaluation.FirstOffence
import LiterateCalc.Proofs.Expression.Acceptance
import LiterateCalc.Proofs.Text.Trimming

namespace LiterateCalc

namespace Evaluation

/-- A list has the names of another one, each of them once, in the order of their first occurrence. -/
structure FirstMentions (mentions listed : List String) : Prop where
  same : ∀ name, name ∈ listed ↔ name ∈ mentions
  ordered : listed.Pairwise fun first second => mentions.idxOf first < mentions.idxOf second

theorem FirstMentions.nil : FirstMentions [] [] := ⟨fun _ => Iff.rfl, List.Pairwise.nil⟩

theorem FirstMentions.distinct (lists : FirstMentions mentions listed) : listed.Nodup := by
  refine lists.ordered.imp ?_
  rintro first second less rfl
  exact Nat.lt_irrefl _ less

/-- A mention counts if its name is not listed yet, and leaves the first mentions of others in place. -/
theorem FirstMentions.mention (lists : FirstMentions mentions listed) (name : String) :
    FirstMentions (mentions ++ [name]) (if name ∈ listed then listed else listed ++ [name]) := by
  have kept : ∀ other ∈ listed, (mentions ++ [name]).idxOf other = mentions.idxOf other := by
    intro other inside
    rw [List.idxOf_append, if_pos ((lists.same other).mp inside)]
  have ordered : listed.Pairwise fun first second =>
      (mentions ++ [name]).idxOf first < (mentions ++ [name]).idxOf second := by
    refine lists.ordered.imp_of_mem ?_
    intro first second inFirst inSecond less
    rwa [kept first inFirst, kept second inSecond]
  by_cases old : name ∈ listed
  · rw [if_pos old]
    refine ⟨?_, ordered⟩
    intro other
    rw [lists.same, List.mem_append, List.mem_singleton]
    refine ⟨.inl, ?_⟩
    rintro (inside | rfl)
    · exact inside
    · exact (lists.same other).mp old
  · rw [if_neg old]
    have fresh : name ∉ mentions := fun inside => old ((lists.same name).mpr inside)
    refine ⟨?_, List.pairwise_append.mpr ⟨ordered, List.pairwise_singleton _ _, ?_⟩⟩
    · intro other
      rw [List.mem_append, List.mem_append, lists.same]
    · intro earlier inside last final
      have early := List.idxOf_lt_length_of_mem ((lists.same earlier).mp inside)
      rw [List.mem_singleton.mp final, kept earlier inside, List.idxOf_append, if_neg fresh]
      omega

mutual
theorem FirstMentions.addReferences {mentions listed : List String} (lists : FirstMentions mentions listed)
    (tree : Expression) : FirstMentions (mentions ++ names tree) (Expression.addReferences listed tree) := by
  cases tree with
  | number value =>
    rw [names, List.append_nil, Expression.addReferences]
    exact lists
  | reference name span =>
    rw [names, Expression.addReferences]
    exact lists.mention name
  | unary operator operand =>
    rw [names, Expression.addReferences]
    exact lists.addReferences operand
  | binary operator left right =>
    rw [names, Expression.addReferences, ← List.append_assoc]
    exact (lists.addReferences left).addReferences right
  | call function arguments span =>
    rw [names, Expression.addReferences]
    exact lists.addArgumentReferences arguments

theorem FirstMentions.addArgumentReferences {mentions listed : List String}
    (lists : FirstMentions mentions listed) (trees : List Expression) :
    FirstMentions (mentions ++ argumentNames trees) (Expression.addArgumentReferences listed trees) := by
  cases trees with
  | nil =>
    rw [argumentNames, List.append_nil, Expression.addArgumentReferences]
    exact lists
  | cons tree rest =>
    rw [argumentNames, Expression.addArgumentReferences, ← List.append_assoc]
    exact (lists.addReferences tree).addArgumentReferences rest
end

theorem references_listed (tree : Expression) : FirstMentions (names tree) tree.references :=
  FirstMentions.nil.addReferences tree

theorem mem_references : name ∈ tree.references ↔ name ∈ names tree := (references_listed tree).same name

section
variable {source other : Source}

mutual
/-- Sources that agree on the names in a tree give it the same value or the same error. -/
theorem evaluateAt_congr {tree : Expression} (agree : ∀ name ∈ names tree, source name = other name)
    (depth : Nat) : evaluateAt source depth tree = evaluateAt other depth tree := by
  by_cases deep : maxDepth < depth
  · rw [(evaluateAt_deep deep tree).1, (evaluateAt_deep deep tree).1]
  cases tree with
  | number value => simp only [evaluateAt]
  | reference name span =>
    simp only [names, List.mem_singleton] at agree
    simp only [evaluateAt, agree name rfl]
  | unary operator operand =>
    simp only [names] at agree
    simp only [evaluateAt, evaluateAt_congr agree (depth + 1)]
  | binary operator left right =>
    simp only [names, List.mem_append] at agree
    have first := evaluateAt_congr (fun name inside => agree name (.inl inside)) (depth + 1)
    have second := evaluateAt_congr (fun name inside => agree name (.inr inside)) (depth + 1)
    rw [evaluateAt_binary deep, evaluateAt_binary deep, first, second]
  | call function arguments span =>
    simp only [names] at agree
    simp only [evaluateAt, evaluateArguments_congr agree (depth + 1)]

theorem evaluateArguments_congr {trees : List Expression}
    (agree : ∀ name ∈ argumentNames trees, source name = other name) (depth : Nat) :
    evaluateArguments source depth trees = evaluateArguments other depth trees := by
  cases trees with
  | nil => simp only [evaluateArguments]
  | cons tree rest =>
    simp only [argumentNames, List.mem_append] at agree
    have first := evaluateAt_congr (fun name inside => agree name (.inl inside)) depth
    have others := evaluateArguments_congr (fun name inside => agree name (.inr inside)) depth
    rw [evaluateArguments_cons, evaluateArguments_cons, first, others]
end

mutual
/-- Where nothing is wrong with a tree, every name in it has a value. -/
theorem valued_of_offences {tree : Expression} (sound : offences source depth tree = []) :
    ∀ name ∈ names tree, Valued source name := by
  have shallow : ¬ maxDepth < depth := by
    intro deep
    have refused : offences source depth tree = [.tooDeep] := (evaluateAt_deep deep tree).2
    rw [refused] at sound
    cases sound
  cases tree with
  | number value => simp [names]
  | reference name span =>
    simp only [offences, shallow, if_false] at sound
    simp only [names, List.mem_singleton]
    rintro name rfl
    split at sound
    · assumption
    · cases sound
  | unary operator operand =>
    simp only [offences, shallow, if_false] at sound
    simp only [names]
    exact valued_of_offences sound
  | binary operator left right =>
    simp only [offences, shallow, if_false, List.append_eq_nil_iff] at sound
    simp only [names, List.mem_append]
    rintro name (inside | inside)
    · exact valued_of_offences sound.1 name inside
    · exact valued_of_offences sound.2 name inside
  | call function arguments span =>
    simp only [offences, shallow, if_false] at sound
    simp only [names]
    split at sound
    · cases sound
    · split at sound
      · exact valued_of_argumentOffences sound
      · cases sound

theorem valued_of_argumentOffences {trees : List Expression}
    (sound : argumentOffences source depth trees = []) : ∀ name ∈ argumentNames trees, Valued source name := by
  cases trees with
  | nil => simp [argumentNames]
  | cons tree rest =>
    simp only [argumentOffences, List.append_eq_nil_iff] at sound
    simp only [argumentNames, List.mem_append]
    rintro name (inside | inside)
    · exact valued_of_offences sound.1 name inside
    · exact valued_of_argumentOffences sound.2 name inside
end

theorem valued_of_evaluateAt (success : evaluateAt source depth tree = .ok value) :
    ∀ name ∈ names tree, Valued source name := by
  have settled := offences_settle source depth tree
  cases faults : offences source depth tree with
  | nil => exact valued_of_offences faults
  | cons first later =>
    rw [faults, success] at settled
    cases settled

/-- The references of a tree are the names in it, each once and in the order of their first occurrence. The
result of the tree, a value or an error, is the same for all sources that agree on them, and a value needs
one for each of them, if only that of a constant. -/
theorem references_exact (tree : Expression) :
    tree.references.Nodup ∧
      (∀ name, name ∈ tree.references ↔ name ∈ names tree) ∧
      tree.references.Pairwise (fun first second => (names tree).idxOf first < (names tree).idxOf second) ∧
      (∀ source other : Source, (∀ name ∈ tree.references, source name = other name) →
        ∀ depth, evaluateAt source depth tree = evaluateAt other depth tree) ∧
      ∀ (source : Source) depth value, evaluateAt source depth tree = .ok value →
        ∀ name ∈ tree.references, (source name).isSome = true ∨ name ∈ ["PI", "E"] := by
  have lists := references_listed tree
  refine ⟨lists.distinct, lists.same, lists.ordered, ?_, ?_⟩
  · intro source other agree
    exact evaluateAt_congr fun name inside => agree name ((lists.same name).mpr inside)
  · intro source depth value success name inside
    have valued : Valued source name := valued_of_evaluateAt success name ((lists.same name).mp inside)
    rw [Valued, valued_iff, Bool.or_eq_true, decide_eq_true_eq] at valued
    exact valued

/-- A name that comes twice is listed once, where it comes first, and the name of a function is not listed. -/
theorem references_exact_repeated :
    let tree : Expression := .binary .add (.reference "x" ⟨0, 1⟩)
      (.call "max" [.reference "PI" ⟨8, 10⟩, .reference "x" ⟨12, 13⟩] ⟨4, 14⟩)
    let source : Source := fun name => if name = "x" then some 2.0 else none
    let other : Source := fun name => if name = "x" then some 2.0 else if name = "max" then some 1.0 else none
    tree.references = ["x", "PI"] ∧ (∀ name ∈ tree.references, source name = other name) ∧
      (∀ depth, evaluateAt source depth tree = evaluateAt other depth tree) ∧
      ∃ value, evaluateAt source 0 tree = .ok value ∧
        ∀ name ∈ tree.references, (source name).isSome = true ∨ name ∈ ["PI", "E"] := by
  intro tree source other
  have listed : tree.references = ["x", "PI"] := by rfl
  have agree : ∀ name ∈ tree.references, source name = other name := by
    rw [listed]
    simp [source, other]
  obtain ⟨-, -, -, same, needed⟩ := references_exact tree
  exact ⟨listed, agree, same source other agree, _, rfl, needed source 0 _ rfl⟩

/-- What is read is evaluated as a tree, for no blank text can be read. -/
theorem evaluate_of_parse (found : Expression.parse text = .ok tree) (source : Source) :
    evaluate source text = (evaluateAt source 0 tree).bind fun value =>
      if value.isFinite then .ok value else .error (.invalidResult value) := by
  have filled : (Text.trim text.toList).isEmpty = false := by
    cases empty : (Text.trim text.toList).isEmpty with
    | false => rfl
    | true => exact absurd found (Expression.parse_blank (Text.blank_of_trim (List.isEmpty_iff.mp empty)) tree)
  have read : Expression.parseText text.toList = .ok tree := found
  simp only [evaluate, evaluateText, evaluateTree, filled, read, Bool.false_eq_true, if_false]
  cases evaluateAt source 0 tree <;> rfl

/-- Sources that agree on the references of a text give it the same value or the same error. -/
theorem evaluate_congr (agree : ∀ tree, Expression.parse text = .ok tree →
      ∀ name ∈ tree.references, source name = other name) :
    evaluate source text = evaluate other text := by
  cases found : Expression.parse text with
  | error error =>
    have failed : Expression.parseText text.toList = .error error := found
    simp only [evaluate, evaluateText, evaluateTree, failed]
  | ok tree =>
    rw [evaluate_of_parse found, evaluate_of_parse found]
    rw [evaluateAt_congr fun name inside => agree tree found name (mem_references.mpr inside)]

/-- A reference without a value makes the evaluation fail, if nothing else does. -/
theorem evaluate_of_unvalued (found : Expression.parse text = .ok tree) (inside : name ∈ tree.references)
    (missing : source name = none) (unnamed : constant? name = none) :
    ∃ error, evaluate source text = .error error := by
  rw [evaluate_of_parse found]
  cases result : evaluateAt source 0 tree with
  | error error => exact ⟨error, rfl⟩
  | ok value =>
    have valued := valued_of_evaluateAt result name (mem_references.mp inside)
    simp [Valued, missing, unnamed] at valued

end
end Evaluation
end LiterateCalc
