import LiterateCalc.Proofs.Expression.Reading
import LiterateCalc.Proofs.Expression.Written

namespace LiterateCalc.Expression
open Text (Span)

/-- A token without its place. -/
def Located.bare (next : Located) : Located := ⟨next.token, ⟨0, 0⟩⟩

/-- A result without its places, those of the value taken out by `change`. -/
def bareResult (change : α → β) : Except SyntaxError α → Except SyntaxError β
  | .ok value => .ok (change value)
  | .error error => .error ⟨error.fault, ⟨0, 0⟩⟩

/-- The same for a result with the tokens after it. -/
abbrev bareOutcome (change : α → β) : Outcome α → Outcome β :=
  bareResult fun found => (change found.1, found.2.map Located.bare)

section
variable {tokens : List Located} {stop levels : Nat} {reader other : OperandReader}

theorem bareResult_bind {result : Except SyntaxError α} {next : α → Except SyntaxError γ} {f : α → β}
    {g : γ → δ} {again : β → Except SyntaxError δ}
    (known : ∀ value, result = .ok value → bareResult g (next value) = again (f value)) :
    bareResult g (result.bind next) = (bareResult f result).bind again := by
  cases result with
  | error error => rfl
  | ok value => exact known value rfl

theorem bareResult_map {result : Except SyntaxError α} {change : α → γ} {f : α → β} {g : γ → δ}
    {again : β → δ} (known : ∀ value, g (change value) = again (f value)) :
    bareResult g (result.map change) = (bareResult f result).map again := by
  cases result with
  | error error => rfl
  | ok value => exact congrArg Except.ok (known value)

theorem nextPower_bare (tokens : List Located) : nextPower (tokens.map Located.bare) = nextPower tokens := by
  cases tokens <;> rfl

theorem Ends.bare (ends : Ends power tokens) : Ends power (tokens.map Located.bare) := by
  rwa [Ends, nextPower_bare]

theorem opens_bare (tokens : List Located) : opens (tokens.map Located.bare) = opens tokens := by
  cases tokens with
  | nil => rfl
  | cons next rest =>
    obtain ⟨token, span⟩ := next
    cases token <;> rfl

theorem closes_bare (tokens : List Located) : closes (tokens.map Located.bare) = closes tokens := by
  cases tokens with
  | nil => rfl
  | cons next rest =>
    obtain ⟨token, span⟩ := next
    cases token <;> rfl

/-- One reader reads without places what the other one reads with them. -/
def BareReader (reader other : OperandReader) : Prop :=
  ∀ power tokens, bareOutcome withoutSpans (reader.outcome power tokens) =
    other.outcome power (tokens.map Located.bare)

theorem arguments_bare (bare : BareReader reader other) (stop : Nat) (opening : Span) (tokens : List Located) :
    bareOutcome (fun found => (allWithoutSpans found.1, 0)) (arguments stop reader opening tokens) =
      arguments 0 other ⟨0, 0⟩ (tokens.map Located.bare) := by
  induction size : tokens.length using Nat.strongRecOn generalizing tokens with
  | _ size ih =>
    rw [arguments_eq, arguments_eq, ← bare]
    apply bareResult_bind
    intro found read
    obtain ⟨tree, rest⟩ := found
    have shorter := OperandReader.outcome_shorter read
    cases rest with
    | nil => rfl
    | cons next later =>
      obtain ⟨token, span⟩ := next
      cases token with
      | comma =>
        simp only [List.length_cons] at shorter
        have deeper := ih later.length (by omega) later rfl
        simp only [afterArgument, List.map_cons, Located.bare]
        rw [← deeper]
        apply bareResult_map
        intro others
        simp only [allWithoutSpans]
      | _ => rfl

/-- A name, or a call of what it names. -/
theorem named_bare (bare : BareReader reader other) (stop : Nat) (name : String) (span : Span)
    (tokens : List Located) :
    bareOutcome withoutSpans (primary stop reader (⟨.identifier name, span⟩ :: tokens)) =
      primary 0 other (⟨.identifier name, ⟨0, 0⟩⟩ :: tokens.map Located.bare) := by
  cases called : opens tokens with
  | false =>
    rw [primary_reference called]
    exact (primary_reference (by rw [opens_bare, called])).symm
  | true =>
    obtain ⟨opening, inside, rfl⟩ := eq_cons_of_opens called
    cases empty : closes inside with
    | true =>
      obtain ⟨closing, after, rfl⟩ := eq_cons_of_closes empty
      rw [primary_emptyCall]
      refine Eq.trans ?_ primary_emptyCall.symm
      simp only [bareResult, withoutSpans, allWithoutSpans]
    | false =>
      have filled : closes (inside.map Located.bare) = false := by rw [closes_bare, empty]
      refine Eq.trans ?_ (primary_call filled).symm
      rw [primary_call empty, ← arguments_bare bare stop span]
      apply bareResult_map
      intro found
      rfl

theorem group_bare (bare : BareReader reader other) (stop : Nat) (span : Span) (tokens : List Located) :
    bareOutcome withoutSpans (primary stop reader (⟨.leftParen, span⟩ :: tokens)) =
      primary 0 other (⟨.leftParen, ⟨0, 0⟩⟩ :: tokens.map Located.bare) := by
  refine Eq.trans ?_ primary_group.symm
  rw [primary_group, ← bare]
  apply bareResult_bind
  intro found _
  obtain ⟨tree, rest⟩ := found
  cases rest with
  | nil => rfl
  | cons next after =>
    obtain ⟨token, closing⟩ := next
    cases token <;> rfl

theorem primary_bare (bare : BareReader reader other) (stop : Nat) (tokens : List Located) :
    bareOutcome withoutSpans (primary stop reader tokens) = primary 0 other (tokens.map Located.bare) := by
  cases tokens with
  | nil => rfl
  | cons next later =>
    obtain ⟨token, span⟩ := next
    cases token with
    | number value =>
      rw [primary_number]
      exact primary_number.symm
    | identifier name => exact named_bare bare stop name span later
    | minus | plus =>
      refine Eq.trans ?_ (primary_signed rfl).symm
      rw [primary_signed rfl, ← bare]
      apply bareResult_map
      intro found
      rfl
    | leftParen => exact group_bare bare stop span later
    | _ => rfl

theorem operators_bare (bare : BareReader reader other) :
    bareOutcome withoutSpans (operators reader power room left tokens) =
      operators other power room (withoutSpans left) (tokens.map Located.bare) := by
  induction room generalizing left tokens with
  | zero =>
    rcases ends_or_strong power tokens with weak | ⟨_, _, _, _, _, _, rfl, symbol, strong⟩
    · rw [operators_stop weak, operators_stop weak.bare]
      rfl
    · rw [operators_full symbol strong]
      exact (operators_full symbol strong).symm
  | succ room ih =>
    rcases ends_or_strong power tokens with weak | ⟨_, _, _, _, _, _, rfl, symbol, strong⟩
    · rw [operators_stop weak, operators_stop weak.bare]
      rfl
    · refine Eq.trans ?_ (operators_step symbol strong).symm
      rw [operators_step symbol strong, ← bare]
      apply bareResult_bind
      intro found _
      exact ih

theorem readerOf_bare (stop levels : Nat) : BareReader (readerOf stop levels) (readerOf 0 levels) := by
  induction levels with
  | zero =>
    intro power tokens
    cases tokens <;> rfl
  | succ levels ih =>
    intro power tokens
    rw [outcome_succ, outcome_succ, ← primary_bare ih stop]
    apply bareResult_bind
    intro found _
    exact operators_bare ih

/-- Reading depends on the tokens alone, not on their places or that of the end. -/
theorem ofTokens_bare (stop : Nat) (tokens : List Located) :
    bareResult withoutSpans (ofTokens stop tokens) = ofTokens 0 (tokens.map Located.bare) := by
  rw [ofTokens_eq, ofTokens_eq, ← readerOf_bare stop]
  apply bareResult_bind
  intro found _
  obtain ⟨tree, rest⟩ := found
  cases rest <;> rfl

end
end LiterateCalc.Expression
