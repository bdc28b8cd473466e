import LiterateCalc.Proofs.Expression.Kept

namespace LiterateCalc.Expression
open Text (Span)

section
variable {stop : Nat} {whole tokens : List Located}

/-- The places for a fault among the tokens of a text that ends at `stop`. -/
inductive Shown (stop : Nat) (whole : List Located) : Span → Prop where
  | token (member : next ∈ whole) : Shown stop whole next.span
  | ending : Shown stop whole ⟨stop, stop⟩
  | opened (member : next ∈ whole) : Shown stop whole ⟨next.span.start, stop⟩

/-- A fault found before all the tokens were read. -/
structure Blames (stop : Nat) (whole : List Located) (error : SyntaxError) : Prop where
  shown : Shown stop whole error.span
  reading : ∀ token, error.fault ≠ .trailingInput token

theorem Shown.next (inside : ∀ next ∈ tokens, next ∈ whole) : Shown stop whole (nextSpan stop tokens) := by
  cases tokens with
  | nil => exact .ending
  | cons next rest => exact .token (inside next List.mem_cons_self)

theorem blames_kept (stop : Nat) (whole : List Located) :
    Kept stop (· ∈ whole) (fun _ => True) (Blames stop whole) where
  number := trivial
  reference _ := trivial
  unary _ := trivial
  binary _ _ := trivial
  call _ _ := trivial
  ended := ⟨.ending, by simp⟩
  unexpected member := ⟨.token member, by simp⟩
  unclosed member := ⟨.opened member, by simp⟩
  deep inside := ⟨.next inside, by simp⟩

/-- A fault of tokens is found while reading them, or it is the first token behind a tree. -/
theorem ofTokens_blames (failed : ofTokens stop tokens = .error error) :
    Blames stop tokens error ∨ ∃ tree next rest, next ∈ tokens ∧ error = ⟨.trailingInput next.token, next.span⟩ ∧
      (readerOf stop maxNesting).outcome 0 tokens = .ok (tree, next :: rest) :=
  (blames_kept stop tokens).ofTokens_error (fun _ member => member) failed

theorem ofTokens_shown (failed : ofTokens stop tokens = .error error) : Shown stop tokens error.span := by
  rcases ofTokens_blames failed with blames | ⟨_, next, _, member, rfl, _⟩
  · exact blames.shown
  · exact .token member

end
end LiterateCalc.Expression
