import LiterateCalc.Proofs.Expression.Reading

/-! What reading keeps: where the tokens have a property, the trees that are read from them have it, and so
have the faults that are found among them. -/
namespace LiterateCalc.Expression
open Text (Span)

/-- A property of the tokens of a text, of the trees read from them and of the faults found among them. -/
structure Kept (stop : Nat) (token : Located → Prop) (tree : Expression → Prop)
    (fault : SyntaxError → Prop) : Prop where
  number : tree (.number value)
  reference : token ⟨.identifier name, span⟩ → tree (.reference name span)
  unary : tree operand → tree (.unary operator operand)
  binary : tree left → tree right → tree (.binary operator left right)
  call : token ⟨.identifier name, start⟩ → (∀ argument ∈ trees, tree argument) → tree (.call name trees span)
  ended : fault ⟨.unexpectedEnd, ⟨stop, stop⟩⟩
  unexpected : token next → fault ⟨.unexpectedToken next.token, next.span⟩
  unclosed : token next → fault ⟨.unclosedParen, ⟨next.span.start, stop⟩⟩
  deep : (∀ next ∈ tokens, token next) → fault ⟨.tooDeep, nextSpan stop tokens⟩

/-- A result with a property that leaves tokens with theirs, or a fault with its own. -/
def Holds (token : Located → Prop) (found : α → Prop) (fault : SyntaxError → Prop) : Outcome α → Prop
  | .ok (value, rest) => found value ∧ ∀ next ∈ rest, token next
  | .error error => fault error

section
variable {stop levels : Nat} {token : Located → Prop} {tree : Expression → Prop} {fault : SyntaxError → Prop}
variable {reader : OperandReader} {tokens rest : List Located}

theorem Holds.bind {result : Outcome α} {next : α × List Located → Outcome β} {found : α → Prop} {later : β → Prop}
    (first : Holds token found fault result)
    (onward : ∀ value rest, result = .ok (value, rest) → found value → (∀ next ∈ rest, token next) →
      Holds token later fault (next (value, rest))) : Holds token later fault (result.bind next) := by
  cases result with
  | error error => exact first
  | ok pair => exact onward pair.1 pair.2 rfl first.1 first.2

theorem Holds.map {result : Outcome α} {found : α → Prop} {later : β → Prop}
    (first : Holds token found fault result) (change : α → β) (kept : ∀ value, found value → later (change value)) :
    Holds token later fault (result.map fun pair => (change pair.1, pair.2)) := by
  cases result with
  | error error => exact first
  | ok pair => exact ⟨kept pair.1 first.1, first.2⟩

/-- The properties hold of every result of the reader. -/
def KeepingReader (token : Located → Prop) (tree : Expression → Prop) (fault : SyntaxError → Prop)
    (reader : OperandReader) : Prop :=
  ∀ power tokens, (∀ next ∈ tokens, token next) → Holds token tree fault (reader.outcome power tokens)

namespace Kept
variable (kept : Kept stop token tree fault)
include kept

theorem arguments (keeping : KeepingReader token tree fault reader) (name : token opening)
    (drawn : ∀ next ∈ tokens, token next) :
    Holds token (fun found => ∀ argument ∈ found.1, tree argument) fault
      (Expression.arguments stop reader opening.span tokens) := by
  induction size : tokens.length using Nat.strongRecOn generalizing tokens with
  | _ size ih =>
    rw [arguments_eq]
    apply (keeping 0 tokens drawn).bind
    intro first after read here left
    have shorter := OperandReader.outcome_shorter read
    unfold afterArgument
    split
    · rename_i comma later same
      obtain rfl : after = _ := same
      simp only [List.length_cons] at shorter
      have others := ih later.length (by omega) (List.forall_mem_cons.mp left).2 rfl
      exact others.map (fun others => (first :: others.1, others.2)) fun _ more =>
        List.forall_mem_cons.mpr ⟨here, more⟩
    · rename_i closing rest same
      obtain rfl : after = _ := same
      exact ⟨List.forall_mem_singleton.mpr here, (List.forall_mem_cons.mp left).2⟩
    · exact kept.unclosed name

/-- A name alone, or with the arguments that it is called with. -/
theorem named (keeping : KeepingReader token tree fault reader) (here : token ⟨.identifier name, span⟩)
    (drawn : ∀ next ∈ tokens, token next) :
    Holds token tree fault (primary stop reader (⟨.identifier name, span⟩ :: tokens)) := by
  cases called : opens tokens with
  | false =>
    rw [primary_reference called]
    exact ⟨kept.reference here, drawn⟩
  | true =>
    obtain ⟨opening, inside, rfl⟩ := eq_cons_of_opens called
    obtain ⟨_, within⟩ := List.forall_mem_cons.mp drawn
    cases empty : closes inside with
    | true =>
      obtain ⟨closing, after, rfl⟩ := eq_cons_of_closes empty
      rw [primary_emptyCall]
      exact ⟨kept.call here (List.forall_mem_nil _), (List.forall_mem_cons.mp within).2⟩
    | false =>
      rw [primary_call empty]
      apply (kept.arguments keeping here within).map fun found => Expression.call name found.1 ⟨span.start, found.2⟩
      intro found each
      exact kept.call here each

theorem primary (keeping : KeepingReader token tree fault reader) (drawn : ∀ next ∈ tokens, token next) :
    Holds token tree fault (Expression.primary stop reader tokens) := by
  cases tokens with
  | nil => exact kept.ended
  | cons next later =>
    obtain ⟨here, behind⟩ := List.forall_mem_cons.mp drawn
    obtain ⟨kind, span⟩ := next
    cases kind with
    | number value =>
      rw [primary_number]
      exact ⟨kept.number, behind⟩
    | identifier name => exact kept.named keeping here behind
    | minus | plus =>
      rw [primary_signed rfl]
      exact (keeping signPower later behind).map _ fun _ operand => kept.unary operand
    | leftParen =>
      rw [primary_group]
      apply (keeping 0 later behind).bind
      intro inner after read found left
      unfold closeGroup
      split
      · rename_i closing rest same
        obtain rfl : after = _ := same
        exact ⟨found, (List.forall_mem_cons.mp left).2⟩
      · exact kept.unclosed here
    | _ =>
      rw [primary_unexpected rfl]
      exact kept.unexpected here

theorem operators (keeping : KeepingReader token tree fault reader) (before : tree left)
    (drawn : ∀ next ∈ tokens, token next) :
    Holds token tree fault (Expression.operators reader power room left tokens) := by
  induction room generalizing left tokens with
  | zero =>
    rcases ends_or_strong power tokens with weak | ⟨_, _, _, _, _, _, rfl, symbol, strong⟩
    · rw [operators_stop weak]
      exact ⟨before, drawn⟩
    · rw [operators_full symbol strong]
      exact kept.deep drawn
  | succ room ih =>
    rcases ends_or_strong power tokens with weak | ⟨_, _, _, _, _, _, rfl, symbol, strong⟩
    · rw [operators_stop weak]
      exact ⟨before, drawn⟩
    · rw [operators_step symbol strong]
      apply (keeping _ _ (List.forall_mem_cons.mp drawn).2).bind
      intro right after _ operand left
      exact ih (kept.binary before operand) left

theorem readerOf (levels : Nat) : KeepingReader token tree fault (readerOf stop levels) := by
  induction levels with
  | zero =>
    intro power tokens drawn
    exact kept.deep drawn
  | succ levels ih =>
    intro power tokens drawn
    rw [outcome_succ]
    apply (kept.primary ih drawn).bind
    intro first after _ found left
    exact kept.operators ih found left

theorem ofTokens_ok (drawn : ∀ next ∈ tokens, token next) (found : ofTokens stop tokens = .ok value) :
    tree value := by
  have holds := kept.readerOf maxNesting 0 tokens drawn
  rw [ofTokens_eq, bind_eq_ok] at found
  obtain ⟨⟨first, rest⟩, read, whole⟩ := found
  rw [read] at holds
  split at whole
  · obtain rfl := Except.ok.inj whole
    exact holds.1
  · cases whole

/-- A fault of tokens is found while reading them, or it is the first token behind a tree. -/
theorem ofTokens_error (drawn : ∀ next ∈ tokens, token next) (failed : ofTokens stop tokens = .error error) :
    fault error ∨ ∃ value next rest, token next ∧ error = ⟨.trailingInput next.token, next.span⟩ ∧
      (Expression.readerOf stop maxNesting).outcome 0 tokens = .ok (value, next :: rest) := by
  have holds := kept.readerOf maxNesting 0 tokens drawn
  rw [ofTokens_eq, bind_eq_error] at failed
  rcases failed with reading | ⟨⟨value, rest⟩, read, trailing⟩
  · rw [reading] at holds
    exact .inl holds
  · rw [read] at holds
    split at trailing
    · cases trailing
    · rename_i next later same
      obtain rfl : rest = _ := same
      exact .inr ⟨value, next, later, holds.2 next List.mem_cons_self, (Except.error.inj trailing).symm, read⟩

end Kept
end
end LiterateCalc.Expression
