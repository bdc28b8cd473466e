import LiterateCalc.Proofs.Expression.Acceptance
import LiterateCalc.Proofs.Expression.Kept

namespace LiterateCalc.Expression
open Text (Span byteLength)

mutual
/-- The names of variables and of functions in a tree. -/
def identifiers : Expression → List String
  | .number _ => []
  | .reference name _ => [name]
  | .unary _ operand => identifiers operand
  | .binary _ left right => identifiers left ++ identifiers right
  | .call function arguments _ => function :: argumentIdentifiers arguments

def argumentIdentifiers : List Expression → List String
  | [] => []
  | argument :: rest => identifiers argument ++ argumentIdentifiers rest
end

/-- The token that a fault shows. -/
def Fault.token? : Fault → Option Token
  | .unexpectedToken token | .trailingInput token => some token
  | _ => none

section
variable {allowed : Token → Prop} {tokens : List Located}

/-- The tokens have a property. -/
def Drawn (allowed : Token → Prop) (tokens : List Located) : Prop := ∀ next ∈ tokens, allowed next.token

/-- The names have a property as tokens. -/
def Named (allowed : Token → Prop) (names : List String) : Prop := ∀ name ∈ names, allowed (.identifier name)

/-- A fault lies in the order of tokens, and shows one with a property if it shows one. -/
structure Fault.Misplaces (allowed : Token → Prop) (fault : Fault) : Prop where
  grammatical : fault.isLexical = false
  shown : ∀ token, fault.token? = some token → allowed token

theorem Fault.Misplaces.of_none {fault : Fault} (grammatical : fault.isLexical = false) (blind : fault.token? = none) :
    fault.Misplaces allowed := by
  refine ⟨grammatical, ?_⟩
  intro token shown
  rw [blind] at shown
  cases shown

theorem Fault.Misplaces.of_token {fault : Fault} (grammatical : fault.isLexical = false)
    (seen : fault.token? = some token) (here : allowed token) : fault.Misplaces allowed := by
  refine ⟨grammatical, ?_⟩
  intro other shown
  obtain rfl := Option.some.inj (seen.symm.trans shown)
  exact here

theorem argumentIdentifiers_named (each : ∀ argument ∈ trees, Named allowed (identifiers argument)) :
    Named allowed (argumentIdentifiers trees) := by
  induction trees with
  | nil => exact List.forall_mem_nil _
  | cons tree rest ih =>
    obtain ⟨here, others⟩ := List.forall_mem_cons.mp each
    exact List.forall_mem_append.mpr ⟨here, ih others⟩

theorem named_kept (stop : Nat) (allowed : Token → Prop) :
    Kept stop (fun next => allowed next.token) (fun tree => Named allowed (identifiers tree))
      fun error => error.fault.Misplaces allowed where
  number := List.forall_mem_nil _
  reference name := List.forall_mem_singleton.mpr name
  unary operand := operand
  binary left right := List.forall_mem_append.mpr ⟨left, right⟩
  call name each := List.forall_mem_cons.mpr ⟨name, argumentIdentifiers_named each⟩
  ended := .of_none rfl rfl
  unexpected here := .of_token rfl rfl here
  unclosed _ := .of_none rfl rfl
  deep _ := .of_none rfl rfl

/-- The names in a tree are among the tokens that it is read from. -/
theorem ofTokens_named (drawn : Drawn allowed tokens) (found : ofTokens stop tokens = .ok tree) :
    Named allowed (identifiers tree) := (named_kept stop allowed).ofTokens_ok drawn found

/-- The token that a fault shows is among those that are no expression. -/
theorem ofTokens_misplaces (drawn : Drawn allowed tokens) (failed : ofTokens stop tokens = .error error) :
    error.fault.Misplaces allowed := by
  rcases (named_kept stop allowed).ofTokens_error drawn failed with misplaces | ⟨_, next, _, here, rfl, _⟩
  · exact misplaces
  · exact .of_token rfl rfl here

end

end LiterateCalc.Expression
