import Mathlib.Data.List.TakeWhile
import LiterateCalc.Proofs.Decimal.Figures
import LiterateCalc.Proofs.Evaluation.Offences
import LiterateCalc.Proofs.Expression.Mentions

/-! What stands in the message of a failed evaluation: names, numbers and operators of its text. Only a
character that no expression has is shown as it is. -/
namespace LiterateCalc
open Expression (Token Located Fault SyntaxError isSpace isNumberCharacter isLetter isNameCharacter isForeign)

/-- Neither a line break nor an opening bracket. -/
def IsQuiet (c : Char) : Prop := c ≠ '\n' ∧ c ≠ '['

instance : DecidablePred IsQuiet := fun c => inferInstanceAs (Decidable (c ≠ '\n' ∧ c ≠ '['))

def Quiet (text : String) : Prop := ∀ c ∈ text.toList, IsQuiet c

-- Named, since the search prefers an instance that goes through all characters.
instance : Decidable (Quiet text) := List.decidableBAll IsQuiet text.toList

theorem Quiet.append (first : Quiet text) (second : Quiet more) : Quiet (text ++ more) := by
  intro c inside
  rw [String.toList_append, List.mem_append] at inside
  exact inside.elim (first c) (second c)

theorem Quiet.within (quiet : Quiet text) (front : Quiet before) (back : Quiet after) :
    Quiet (before ++ text ++ after) :=
  (front.append quiet).append back

theorem quiet_ofList : Quiet (String.ofList text) ↔ ∀ c ∈ text, IsQuiet c := by
  rw [Quiet, String.toList_ofList]

theorem quiet_of_figures (shown : text ⊆ figures) : Quiet (String.ofList text) := by
  have all : ∀ c ∈ figures, IsQuiet c := quiet_ofList.mp (by decide)
  exact quiet_ofList.mpr fun c inside => all c (shown inside)

theorem quiet_count (count : Nat) : Quiet (toString count) := by
  rw [Nat.toString_eq_ofList_toDigits]
  exact quiet_of_figures (Decimal.decimal_plain count).subset_figures

namespace Expression

theorem isQuiet_of_isNameCharacter {c : Char} (named : isNameCharacter c = true) : IsQuiet c := by
  constructor <;> rintro rfl <;> cases named

theorem isQuiet_of_isNumberCharacter {c : Char} (number : isNumberCharacter c = true) : IsQuiet c := by
  constructor <;> rintro rfl <;> cases number

theorem isQuiet_of_isForeign {c : Char} (foreign : isForeign c = true) : IsQuiet c := by
  constructor <;> rintro rfl <;> cases foreign

theorem withDigits_quiet {start : List Char} (quiet : ∀ c ∈ start, IsQuiet c) (rest : List Char) :
    ∀ c ∈ withDigits start rest, IsQuiet c := by
  unfold withDigits
  split
  · intro c inside
    cases inside
  · intro c inside
    rcases List.mem_append.mp inside with front | digit
    · exact quiet c front
    · have number : isNumberCharacter c = true := by simp [isNumberCharacter, List.mem_takeWhile_imp digit]
      exact isQuiet_of_isNumberCharacter number

theorem exponentWord_quiet (text : List Char) : ∀ c ∈ exponentWord text, IsQuiet c := by
  unfold exponentWord
  split
  · rename_i mark rest
    split
    · rename_i letter
      have marked : IsQuiet mark := by
        rcases letter with rfl | rfl <;> decide
      split <;> exact withDigits_quiet (List.forall_mem_cons.mpr ⟨marked, by simp [IsQuiet]⟩) _
    · intro c inside
      cases inside
  · intro c inside
    cases inside

theorem wordTail_quiet (first : Char) (rest : List Char) : ∀ c ∈ wordTail first rest, IsQuiet c := by
  unfold wordTail
  split
  · intro c inside
    rcases List.mem_append.mp inside with number | exponent
    · exact isQuiet_of_isNumberCharacter (List.mem_takeWhile_imp number)
    · exact exponentWord_quiet _ c exponent
  · split
    · intro c inside
      exact isQuiet_of_isNameCharacter (List.mem_takeWhile_imp inside)
    · split
      · split
        · rename_i second rest
          split
          · rename_i joined
            intro c inside
            obtain rfl := List.mem_singleton.mp inside
            constructor <;> rintro rfl <;> unfold joins at joined <;> split at joined <;> cases joined
          · intro c inside
            cases inside
        · intro c inside
          cases inside
      · intro c inside
        cases inside

/-- The message of a fault is quiet, or shows a single character that is no line break. -/
def Fault.Sober (fault : Fault) : Prop :=
  Quiet fault.message ∨ ∃ c, fault = .unexpectedCharacter c ∧ c ≠ '\n'

theorem readWord_quiet (word : readWord first (wordTail first rest) = .ok token) : Quiet token.describe := by
  unfold readWord at word
  split at word
  · split at word
    · cases word
    · split at word
      · cases word
        exact .append (by decide) (quiet_of_figures (Decimal.shortest_figures _))
      · cases word
  · split at word
    · rename_i letter
      cases word
      have name : isNameCharacter first = true := by simp [isNameCharacter, letter]
      have quiet := quiet_ofList.mpr
        (List.forall_mem_cons.mpr ⟨isQuiet_of_isNameCharacter name, wordTail_quiet first rest⟩)
      exact quiet.within (by decide) (by decide)
    · split at word
      · cases word
      · split at word
        · rename_i known
          cases word
          unfold symbolToken? at known
          split at known <;> cases known <;> decide
        · cases word

theorem readWord_sober (solid : isSpace first = false) (failed : readWord first (wordTail first rest) = .error fault) :
    fault.Sober := by
  unfold readWord at failed
  split at failed
  · rename_i number
    split at failed
    · cases failed
      exact .inr ⟨_, rfl, by decide⟩
    · split at failed
      · cases failed
      · cases failed
        have quiet := quiet_ofList.mpr
          (List.forall_mem_cons.mpr ⟨isQuiet_of_isNumberCharacter number, wordTail_quiet first rest⟩)
        exact .inl (quiet.within (by decide) (by decide))
  · split at failed
    · cases failed
    · split at failed
      · rename_i foreign
        cases failed
        have quiet := quiet_ofList.mpr
          (List.forall_mem_cons.mpr ⟨isQuiet_of_isForeign foreign, wordTail_quiet first rest⟩)
        exact .inl (quiet.within (by decide) (by decide))
      · split at failed
        · cases failed
        · cases failed
          refine .inr ⟨first, rfl, ?_⟩
          rintro rfl
          cases solid

/-- All tokens of a text are quiet, or its first fault is sober. -/
theorem tokenizeFrom_quiet (start : Nat) (text : List Char) :
    match tokenizeFrom start text with
    | .ok tokens => Drawn (fun token => Quiet token.describe) tokens
    | .error error => error.fault.Sober := by
  fun_induction tokenizeFrom start text with
  | case1 start =>
    intro next inside
    cases inside
  | case2 start first rest space ih => exact ih
  | case3 =>
    rename_i start first rest solid tail span fault word
    exact readWord_sober (Bool.eq_false_iff.mpr solid) word
  | case4 =>
    rename_i start first rest solid tail span token word ih
    cases later : tokenizeFrom span.stop (rest.drop tail.length) with
    | error error =>
      rw [later] at ih
      exact ih
    | ok tokens =>
      rw [later] at ih
      intro next inside
      rcases List.mem_cons.mp inside with rfl | behind
      · exact readWord_quiet word
      · exact ih next behind

theorem Fault.Misplaces.sober {fault : Fault}
    (misplaces : fault.Misplaces fun token => Quiet token.describe) : fault.Sober := by
  refine .inl ?_
  cases fault with
  | unexpectedCharacter | unsupportedOperator | invalidNumber => cases misplaces.grammatical
  | unexpectedToken token => exact .append (by decide) (misplaces.shown token rfl)
  | trailingInput token => exact (misplaces.shown token rfl).within (by decide) (by decide)
  | unexpectedEnd | unclosedParen | tooDeep => decide

/-- The names in a tree are quiet, and so is what is wrong with a text, but for a single character. -/
theorem parseText_quiet (text : List Char) :
    match parseText text with
    | .ok tree => ∀ name ∈ identifiers tree, Quiet name
    | .error error => error.fault.Sober := by
  have words := tokenizeFrom_quiet 0 text
  unfold parseText tokenize
  cases found : tokenizeFrom 0 text with
  | error error =>
    rw [found] at words
    exact words
  | ok tokens =>
    rw [found] at words
    dsimp only
    cases read : ofTokens (Text.byteLength text) tokens with
    | error error => exact (ofTokens_misplaces words read).sober
    | ok tree =>
      intro name inside
      have quiet : Quiet ("identifier '" ++ name ++ "'") := ofTokens_named words read name inside
      intro c among
      apply quiet c
      simp [among]

end Expression

namespace Evaluation
open Expression (identifiers argumentIdentifiers)

theorem Arity.describe_quiet (arity : Arity) : Quiet arity.describe := by
  unfold Arity.describe
  split
  · exact .append (by decide) (quiet_count arity.minimum)
  · split
    · exact quiet_count _
    · split <;> exact .append (.append (quiet_count arity.minimum) (by decide)) (quiet_count _)

mutual
/-- The messages of what is wrong with a tree are quiet if the names in it are. -/
theorem offences_quiet {tree : Expression} (quiet : ∀ name ∈ identifiers tree, Quiet name)
    (inside : error ∈ offences source depth tree) : Quiet error.message := by
  by_cases deep : maxDepth < depth
  · rw [(evaluateAt_deep deep tree).2, List.mem_singleton] at inside
    rw [inside]
    decide
  cases tree with
  | number value => simp [offences, deep] at inside
  | reference name span =>
    simp only [offences, deep, if_false] at inside
    split at inside
    · cases inside
    · rw [List.mem_singleton.mp inside]
      exact .append (by decide) (quiet name List.mem_cons_self)
  | unary operator operand =>
    simp only [offences, deep, if_false] at inside
    have below : ∀ name ∈ identifiers operand, Quiet name := quiet
    exact offences_quiet below inside
  | binary operator left right =>
    simp only [offences, deep, if_false, List.mem_append] at inside
    rcases inside with first | second
    · exact offences_quiet (fun name here => quiet name (List.mem_append_left _ here)) first
    · exact offences_quiet (fun name here => quiet name (List.mem_append_right _ here)) second
  | call function arguments span =>
    have named := quiet function List.mem_cons_self
    simp only [offences, deep, if_false] at inside
    split at inside
    · rw [List.mem_singleton.mp inside]
      exact .append (by decide) named
    · split at inside
      · exact argumentOffences_quiet (fun name here => quiet name (List.mem_cons_of_mem _ here)) inside
      · rw [List.mem_singleton.mp inside]
        have called : Quiet ("wrong number of arguments for " ++ function ++ ": expected ") :=
          named.within (by decide) (by decide)
        exact .append (.append (.append called (Arity.describe_quiet _)) (by decide)) (quiet_count _)

theorem argumentOffences_quiet {trees : List Expression}
    (quiet : ∀ name ∈ argumentIdentifiers trees, Quiet name)
    (inside : error ∈ argumentOffences source depth trees) : Quiet error.message := by
  cases trees with
  | nil => cases inside
  | cons tree rest =>
    rcases List.mem_append.mp inside with first | others
    · exact offences_quiet (fun name here => quiet name (List.mem_append_left _ here)) first
    · exact argumentOffences_quiet (fun name here => quiet name (List.mem_append_right _ here)) others
end

/-- The message of a failed evaluation is quiet, or shows a single character that is no line break. -/
def EvaluationError.Sober (error : EvaluationError) : Prop :=
  Quiet error.message ∨
    ∃ c, error.message = "syntax error: " ++ ("unexpected character '" ++ c.toString ++ "'") ∧ c ≠ '\n'

theorem EvaluationError.ofSyntax_sober {error : SyntaxError} (sober : error.fault.Sober) :
    (ofSyntax error).Sober := by
  unfold ofSyntax
  split
  · rename_i operator same
    rw [same] at sober
    rcases sober with quiet | ⟨c, other, -⟩
    · exact .inl quiet
    · cases other
  · exact .inl (by decide)
  · rcases sober with quiet | ⟨c, same, single⟩
    · exact .inl (.append (by decide) quiet)
    · exact .inr ⟨c, congrArg (fun fault => "syntax error: " ++ fault.message) same, single⟩

theorem evaluateTree_sober (failed : evaluateTree source text = .error error) : error.Sober := by
  have read := Expression.parseText_quiet text
  unfold evaluateTree at failed
  cases parsed : Expression.parseText text with
  | error fault =>
    rw [parsed] at read failed
    cases failed
    exact EvaluationError.ofSyntax_sober read
  | ok tree =>
    rw [parsed] at read failed
    exact .inl (offences_quiet read ((offences_settle source 0 tree).mem failed))

theorem EvaluationError.invalidResult_sober (value : Float) : (invalidResult value).Sober := by
  refine .inl (.append (by decide) ?_)
  unfold EvaluationError.describeValue
  split
  · decide
  · split <;> decide

theorem evaluate_sober (failed : evaluate source text = .error error) : error.Sober := by
  unfold evaluate evaluateText at failed
  split at failed
  · cases failed
  · split at failed
    · rename_i found
      cases failed
      exact evaluateTree_sober found
    · split at failed
      · cases failed
      · cases failed
        exact EvaluationError.invalidResult_sober _

end Evaluation
end LiterateCalc
