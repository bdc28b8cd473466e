import LiterateCalc.Proofs.Expression.GrammarSoundness
import LiterateCalc.Proofs.Expression.Nesting

/-! Every phrase of the grammar is read, unless it nests too deep. With enough levels it
is read for certain, so no tokens have two trees. -/
namespace LiterateCalc.Expression
open Text (Span)

section
variable {α β : Type} {start middle last result : Outcome α} {value : α × List Located}

/-- One outcome is the other, or the nesting was too deep on the way to it. -/
def Leads (actual expected : Outcome α) : Prop :=
  actual = expected ∨ ∃ span, actual = .error ⟨.tooDeep, span⟩

theorem Leads.refl (outcome : Outcome α) : Leads outcome outcome := .inl rfl

theorem Leads.trans (first : Leads start middle) (second : Leads middle last) : Leads start last := by
  rcases first with rfl | deep
  · exact second
  · exact .inr deep

theorem Leads.bind (first : Leads result (.ok value)) (next : α × List Located → Outcome β) :
    Leads (result.bind next) (next value) := by
  rcases first with rfl | ⟨span, rfl⟩
  · exact .refl _
  · exact .inr ⟨span, rfl⟩

theorem Leads.map (first : Leads result (.ok value)) (change : α × List Located → β × List Located) :
    Leads (result.map change) (.ok (change value)) := by
  rcases first with rfl | ⟨span, rfl⟩
  · exact .refl _
  · exact .inr ⟨span, rfl⟩

end

section
variable {stop : Nat} {level outer inner : Level}

/-- Reading an operand that starts with the phrase gets to the operators after the phrase,
with the tree of the phrase on their left. -/
def Resumes (stop : Nat) (level : Level) (used : List Located) (tree : Expression) : Prop :=
  ∀ levels power rest, power ≤ level.floor → nextPower rest < level.limit → opens rest = false →
    ∃ room, Leads ((readerOf stop (levels + 1)).outcome power (used ++ rest))
      (operators (readerOf stop levels) power room tree rest)

/-- An operand without operators is read as a whole; only an atom is one whatever follows it. -/
def Starts (stop : Nat) (level : Level) (used : List Located) (tree : Expression) : Prop :=
  ∀ levels rest, nextPower rest < level.limit → opens rest = false →
    Leads (primary stop (readerOf stop levels) (used ++ rest)) (.ok (tree, rest))

theorem Starts.resumes (whole : Starts stop level used tree) : Resumes stop level used tree := by
  intro levels power rest _ follows alone
  refine ⟨levels, ?_⟩
  rw [outcome_succ]
  exact (whole levels rest follows alone).bind _

/-- A phrase is a whole operand where no operator follows that would belong to it. -/
theorem Resumes.operand (known : Resumes stop level used tree) (levels : Nat)
    (tight : power ≤ level.floor) (follows : nextPower rest < level.limit)
    (alone : opens rest = false) (ends : Ends power rest) :
    Leads ((readerOf stop levels).outcome power (used ++ rest)) (.ok (tree, rest)) := by
  cases levels with
  | zero => exact .inr ⟨_, rfl⟩
  | succ levels =>
    obtain ⟨room, reached⟩ := known levels power rest tight follows alone
    rw [operators_stop ends] at reached
    exact reached

theorem Resumes.weaken (known : Resumes stop level used tree) (floor : outer.floor ≤ level.floor)
    (limit : outer.limit ≤ level.limit) : Resumes stop outer used tree := by
  intro levels power rest tight follows alone
  exact known levels power rest (Nat.le_trans tight floor) (Nat.lt_of_lt_of_le follows limit) alone

theorem opens_of_operator (symbol : infixOperator? token = some found) :
    opens (⟨token, span⟩ :: rest) = false := by
  cases token <;> first | rfl | cases symbol

/-- The levels on the sides of an operator with these powers, and the level of the whole phrase. -/
def Level.Joins (outer level deeper : Level) (leftPower rightPower : Nat) : Prop :=
  (outer.floor ≤ level.floor ∧ outer.floor ≤ leftPower ∧ leftPower < level.limit) ∧
    rightPower ≤ deeper.floor ∧ outer.limit ≤ deeper.limit ∧ outer.limit ≤ rightPower

instance : Decidable (Level.Joins outer level deeper leftPower rightPower) :=
  inferInstanceAs (Decidable ((_ ∧ _ ∧ _) ∧ _ ∧ _ ∧ _))

/-- The operand on the right of an operator is read up to where the whole phrase may end. -/
theorem Resumes.binary (span : Span)
    (symbol : infixOperator? token = some (operator, leftPower, rightPower))
    (joins : Level.Joins outer level deeper leftPower rightPower)
    (before : Resumes stop level first left) (after : Resumes stop deeper second right) :
    Resumes stop outer (first ++ ⟨token, span⟩ :: second) (.binary operator left right) := by
  obtain ⟨⟨floor, reach, follows⟩, tight, limit, beyond⟩ := joins
  intro levels power rest low next alone
  have held : nextPower (⟨token, span⟩ :: (second ++ rest)) < level.limit := by
    rw [nextPower_cons symbol]
    exact follows
  obtain ⟨room, reached⟩ := before levels power (⟨token, span⟩ :: (second ++ rest))
    (Nat.le_trans low floor) held (opens_of_operator symbol)
  have strong : power ≤ leftPower := Nat.le_trans low reach
  simp only [List.append_assoc, List.cons_append]
  cases room with
  | zero =>
    rw [operators_full symbol strong] at reached
    exact ⟨0, reached.trans (.inr ⟨span, rfl⟩)⟩
  | succ room =>
    rw [operators_step symbol strong] at reached
    have operand : Leads ((readerOf stop levels).outcome rightPower (second ++ rest)) (.ok (right, rest)) :=
      after.operand levels tight (Nat.lt_of_lt_of_le next limit) alone (.inr (Nat.lt_of_lt_of_le next beyond))
    exact ⟨room, reached.trans (operand.bind _)⟩

/-- A phrase has a first token, and an operand can start with it. -/
theorem Derives.begins (phrase : Derives level tokens tree) :
    ∃ token span rest, tokens = ⟨token, span⟩ :: rest ∧ begins token = true := by
  induction phrase with
  | addition _ _ _ before _ | multiplication _ _ _ before _ | raised _ _ before _ =>
    obtain ⟨token, span, rest, rfl, possible⟩ := before
    exact ⟨token, span, _, rfl, possible⟩
  | ofTerm _ inner | ofFactor _ inner | ofAtom _ inner => exact inner
  | @signed token operator tokens tree span symbol _ _ =>
    refine ⟨token, span, _, rfl, ?_⟩
    cases token <;> first | rfl | cases symbol
  | number | reference | call | group => exact ⟨_, _, _, rfl, rfl⟩

theorem Listed.closes {parts : List (List Located × Expression)}
    (listed : Listed (parts.map Prod.fst) inside) (filled : parts ≠ [])
    (each : ∀ part ∈ parts, Derives .sum part.1 part.2) (rest : List Located) :
    closes (inside ++ rest) = false := by
  have first (tokens : List Located) (tree : Expression) (phrase : Derives .sum tokens tree)
      (rest : List Located) : Expression.closes (tokens ++ rest) = false := by
    obtain ⟨token, span, later, rfl, possible⟩ := phrase.begins
    cases token <;> first | rfl | cases possible
  cases parts with
  | nil => exact absurd rfl filled
  | cons part others =>
    obtain ⟨tokens, tree⟩ := part
    have phrase : Derives .sum tokens tree := each (tokens, tree) (by simp)
    rw [List.map_cons] at listed
    generalize others.map Prod.fst = names at listed
    cases listed with
    | one => exact first _ _ phrase rest
    | more later =>
      rw [List.append_assoc]
      exact first _ _ phrase _

theorem afterArgument_comma :
    afterArgument stop reader opening (tree, ⟨.comma, comma⟩ :: later) =
      (arguments stop reader opening later).map fun others =>
        ((tree :: others.1.1, others.1.2), others.2) := rfl

/-- Arguments are read one after the other, each up to its comma or the closing parenthesis. -/
theorem Listed.complete {parts : List (List Located × Expression)}
    (listed : Listed (parts.map Prod.fst) inside) (filled : parts ≠ [])
    (each : ∀ part ∈ parts, Resumes stop .sum part.1 part.2) :
    Leads (arguments stop (readerOf stop levels) opening (inside ++ ⟨.rightParen, closing⟩ :: rest))
      (.ok ((parts.map Prod.snd, closing.stop), rest)) := by
  induction parts generalizing inside with
  | nil => exact absurd rfl filled
  | cons part others ih =>
    obtain ⟨tokens, tree⟩ := part
    have known : Resumes stop .sum tokens tree := each (tokens, tree) (by simp)
    rw [arguments_eq]
    rw [List.map_cons] at listed
    generalize remaining : others.map Prod.fst = names at listed
    cases listed with
    | one =>
      obtain rfl := List.map_eq_nil_iff.mp remaining
      have ends : Ends 0 (⟨.rightParen, closing⟩ :: rest) := .inl rfl
      have follows : nextPower (⟨.rightParen, closing⟩ :: rest) < Level.sum.limit := Nat.zero_lt_succ _
      exact (known.operand levels (Nat.zero_le _) follows rfl ends).bind _
    | @more next names' tokens' first comma later =>
      have ends : Ends 0 (⟨.comma, comma⟩ :: (tokens' ++ ⟨.rightParen, closing⟩ :: rest)) := .inl rfl
      have follows : nextPower (⟨.comma, comma⟩ :: (tokens' ++ ⟨.rightParen, closing⟩ :: rest)) <
          Level.sum.limit := Nat.zero_lt_succ _
      have operand := known.operand levels (Nat.zero_le _) follows rfl ends
      have deeper := ih (remaining ▸ later) (by rintro rfl; cases remaining)
        (fun part member => each part (List.mem_cons_of_mem _ member))
      simp only [List.append_assoc, List.cons_append]
      refine (operand.bind _).trans ?_
      rw [afterArgument_comma]
      exact deeper.map _

theorem Starts.signed (symbol : sign? token = some operator) (inner : Resumes stop .factor tokens tree) :
    Starts stop .factor (⟨token, span⟩ :: tokens) (.unary operator tree) := by
  intro levels rest follows alone
  rw [List.cons_append, primary_signed symbol]
  have ends : Ends signPower rest := by
    have cases := nextPower_cases rest
    simp only [Level.limit] at follows
    unfold Ends signPower
    omega
  exact (inner.operand levels (by decide) follows alone ends).map _

theorem Starts.call {parts : List (List Located × Expression)} (listed : Listed (parts.map Prod.fst) inside)
    (each : ∀ part ∈ parts, Derives .sum part.1 part.2) (known : ∀ part ∈ parts, Resumes stop .sum part.1 part.2) :
    Starts stop .atom
      (⟨.identifier name, span⟩ :: ⟨.leftParen, opening⟩ :: inside ++ [⟨.rightParen, closing⟩])
      (.call name (parts.map Prod.snd) ⟨span.start, closing.stop⟩) := by
  intro levels rest _ _
  simp only [List.cons_append, List.append_assoc, List.nil_append]
  by_cases filled : parts = []
  · subst filled
    cases listed
    exact .inl primary_emptyCall
  · rw [primary_call (listed.closes filled each _)]
    exact (listed.complete filled known).map _

theorem Starts.group (inner : Resumes stop .sum tokens tree) :
    Starts stop .atom (⟨.leftParen, opening⟩ :: tokens ++ [⟨.rightParen, closing⟩]) tree := by
  intro levels rest _ _
  simp only [List.cons_append, List.append_assoc, List.nil_append]
  rw [primary_group]
  have ends : Ends 0 (⟨.rightParen, closing⟩ :: rest) := .inl rfl
  have follows : nextPower (⟨.rightParen, closing⟩ :: rest) < Level.sum.limit := Nat.zero_lt_succ _
  exact (inner.operand levels (Nat.zero_le _) follows rfl ends).bind _

/-- Atoms and signs are whole operands; the other phrases go on from their last operand. -/
theorem Derives.resumes (phrase : Derives level used tree) : Resumes stop level used tree := by
  induction phrase with
  | @addition token operator first left second right span symbol _ _ before after =>
    cases token with
    | plus | minus =>
      obtain rfl := Option.some.inj symbol
      exact .binary span rfl (by decide) before after
    | _ => cases symbol
  | @multiplication token operator first left second right span symbol _ _ before after =>
    cases token with
    | star | slash | percent =>
      obtain rfl := Option.some.inj symbol
      exact .binary span rfl (by decide) before after
    | _ => cases symbol
  | @raised first base second exponent span _ _ before after => exact .binary span rfl (by decide) before after
  | ofTerm _ inner | ofFactor _ inner | ofAtom _ inner => exact inner.weaken (by decide) (by decide)
  | signed symbol _ inner => exact (Starts.signed symbol inner).resumes
  | number =>
    apply Starts.resumes
    intro levels rest _ _
    exact .inl primary_number
  | reference =>
    apply Starts.resumes
    intro levels rest _ alone
    exact .inl (primary_reference alone)
  | call parts each listed known => exact (Starts.call listed each known).resumes
  | group _ inner => exact (Starts.group inner).resumes

end

/-- What the grammar derives from all the tokens is what is read from them. -/
theorem Derives.read (phrase : Derives .sum tokens tree) (stop levels : Nat) :
    Leads ((readerOf stop levels).outcome 0 tokens) (.ok (tree, [])) := by
  have known : Resumes stop .sum tokens tree := phrase.resumes
  have follows : nextPower [] < Level.sum.limit := Nat.zero_lt_succ _
  have whole := known.operand levels (Nat.zero_le _) follows rfl (.inl rfl)
  rwa [List.append_nil] at whole

/-- With more levels than tokens nothing nests too deep, and a reader gives one answer. -/
theorem Derives.unique (first : Derives .sum tokens tree) (second : Derives .sum tokens other) :
    tree = other := by
  have certain (found : Expression) (phrase : Derives .sum tokens found) :
      (readerOf 0 (tokens.length + 1)).outcome 0 tokens = .ok (found, []) := by
    rcases phrase.read 0 (tokens.length + 1) with done | ⟨span, deep⟩
    · exact done
    · have many := levels_le_length deep rfl
      omega
  have same := (certain tree first).symm.trans (certain other second)
  exact (Prod.mk.inj (Except.ok.inj same)).1

end LiterateCalc.Expression
