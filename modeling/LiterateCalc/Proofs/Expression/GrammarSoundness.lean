import LiterateCalc.Proofs.Expression.Reading

namespace LiterateCalc.Expression
open Text (Span)

/-- An operand that has to hold operators of this power may be a phrase of the level. -/
def Level.floor : Level → Nat
  | .sum => 2
  | .term => 4
  | .factor => 8
  | .atom => 9

/-- An operator of this power or a greater one never follows a phrase of the level. -/
def Level.limit : Level → Nat
  | .sum => 3
  | .term => 5
  | .factor => 8
  | .atom => 9

theorem Derives.toSum (phrase : Derives level tokens tree) : Derives .sum tokens tree := by
  cases level with
  | sum => exact phrase
  | term => exact .ofTerm phrase
  | factor => exact .ofTerm (.ofFactor phrase)
  | atom => exact .ofTerm (.ofFactor (.ofAtom phrase))

theorem Derives.toTerm (phrase : Derives level tokens tree) (tight : 3 ≤ level.floor) :
    Derives .term tokens tree := by
  cases level with
  | sum => simp [Level.floor] at tight
  | term => exact phrase
  | factor => exact .ofFactor phrase
  | atom => exact .ofFactor (.ofAtom phrase)

theorem Derives.toFactor (phrase : Derives level tokens tree) (tight : 5 ≤ level.floor) :
    Derives .factor tokens tree := by
  cases level with
  | sum => simp [Level.floor] at tight
  | term => simp [Level.floor] at tight
  | factor => exact phrase
  | atom => exact .ofAtom phrase

theorem Derives.toAtom (phrase : Derives level tokens tree) (tight : 8 < level.limit) :
    Derives .atom tokens tree := by
  cases level with
  | atom => exact phrase
  | _ => simp [Level.limit] at tight

/-- An operator between two phrases makes a phrase again, if it may follow the first one
and the second one was read with the operator's own power. -/
theorem Derives.binary (span : Span)
    (symbol : infixOperator? token = some (operator, leftPower, rightPower))
    (before : Derives level first left) (follows : leftPower < level.limit)
    (after : Derives deeper second right) (tight : rightPower ≤ deeper.floor) :
    ∃ outer, Derives outer (first ++ ⟨token, span⟩ :: second) (.binary operator left right) ∧
      leftPower ≤ outer.floor ∧ rightPower ≤ outer.limit ∧ rightPower ≤ leftPower + 1 := by
  cases token with
  | plus | minus =>
    obtain ⟨rfl, rfl, rfl⟩ : _ ∧ _ ∧ _ := by simpa [infixOperator?] using symbol
    exact ⟨.sum, .addition rfl before.toSum (after.toTerm tight), by decide, by decide, by decide⟩
  | star | slash | percent =>
    obtain ⟨rfl, rfl, rfl⟩ : _ ∧ _ ∧ _ := by simpa [infixOperator?] using symbol
    have strong : 3 ≤ level.floor := by
      cases level <;> simp [Level.floor, Level.limit] at follows ⊢
    exact ⟨.term, .multiplication rfl (before.toTerm strong) (after.toFactor tight),
      by decide, by decide, by decide⟩
  | caret =>
    obtain ⟨rfl, rfl, rfl⟩ : _ ∧ _ ∧ _ := by simpa [infixOperator?] using symbol
    exact ⟨.factor, .raised (before.toAtom follows) (after.toFactor (by omega)),
      by decide, by decide, by decide⟩
  | _ => cases symbol

/-- The reader takes a phrase off the front, and stops where its operators end. -/
def SoundReader (reader : OperandReader) : Prop :=
  ∀ power tokens tree rest, power ≤ 8 → reader.outcome power tokens = .ok (tree, rest) →
    ∃ level used, tokens = used ++ rest ∧ Derives level used tree ∧ power ≤ level.floor ∧
      Ends power rest

section
variable {reader : OperandReader}

theorem arguments_sound (sound : SoundReader reader)
    (found : ArgumentsRead reader tokens trees ending rest) :
    ∃ parts inside closing, tokens = inside ++ ⟨.rightParen, closing⟩ :: rest ∧
      closing.stop = ending ∧ parts.map Prod.snd = trees ∧
      (∀ part ∈ parts, Derives .sum part.1 part.2) ∧ parts ≠ [] ∧
      Listed (parts.map Prod.fst) inside := by
  induction found with
  | @last tokens tree closing rest inner =>
    obtain ⟨level, used, rfl, phrase, _, _⟩ := sound 0 _ _ _ (Nat.zero_le 8) inner
    refine ⟨[(used, tree)], used, closing, by simp, rfl, rfl, ?_, by simp, .one⟩
    intro part member
    obtain rfl := List.mem_singleton.mp member
    exact phrase.toSum
  | @more tokens tree comma later trees ending rest inner others ih =>
    obtain ⟨level, used, rfl, phrase, _, _⟩ := sound 0 _ _ _ (Nat.zero_le 8) inner
    obtain ⟨parts, inside, closing, rfl, stops, same, each, filled, listed⟩ := ih
    refine ⟨(used, tree) :: parts, used ++ ⟨.comma, comma⟩ :: inside, closing, by simp, stops,
      by simp [same], ?_, by simp, ?_⟩
    · intro part member
      rcases List.mem_cons.mp member with rfl | deeper
      · exact phrase.toSum
      · exact each part deeper
    · cases parts with
      | nil => exact absurd rfl filled
      | cons next remaining => exact .more listed

theorem primary_sound (sound : SoundReader reader)
    (found : PrimaryRead stop reader tokens tree rest) :
    ∃ level used, tokens = used ++ rest ∧ Derives level used tree ∧ 8 ≤ level.floor ∧
      nextPower rest < level.limit := by
  have bounded (rest : List Located) : nextPower rest < Level.atom.limit := by
    have cases := nextPower_cases rest
    simp only [Level.limit]
    omega
  have whole : 8 ≤ Level.atom.floor := by decide
  cases found with
  | number => exact ⟨.atom, [_], rfl, .number, whole, bounded _⟩
  | reference alone => exact ⟨.atom, [_], rfl, .reference, whole, bounded _⟩
  | emptyCall =>
    exact ⟨.atom, [_, _, _], rfl, .call [] (by simp) .none, whole, bounded _⟩
  | @call span inside trees ending _ name opening inner =>
    obtain ⟨parts, used, closing, rfl, rfl, rfl, each, _, listed⟩ :=
      arguments_sound sound (arguments_read inner)
    exact ⟨.atom, ⟨.identifier name, span⟩ :: ⟨.leftParen, opening⟩ :: used ++ [⟨.rightParen, closing⟩],
      by simp, .call parts each listed, whole, bounded _⟩
  | signed symbol inner =>
    obtain ⟨level, used, rfl, phrase, tight, ends⟩ := sound signPower _ _ _ (by decide) inner
    refine ⟨.factor, _ :: used, rfl, .signed symbol (phrase.toFactor ?_), Nat.le_refl 8, ?_⟩
    · exact Nat.le_trans (by decide) tight
    · rcases ends with none | weak
      · rw [none]
        decide
      · exact Nat.lt_of_lt_of_le weak (by decide)
  | @group tokens tree closing rest opening inner =>
    obtain ⟨level, used, rfl, phrase, _, _⟩ := sound 0 _ _ _ (Nat.zero_le 8) inner
    exact ⟨.atom, ⟨.leftParen, opening⟩ :: used ++ [⟨.rightParen, closing⟩], by simp,
      .group phrase.toSum, whole, bounded _⟩

/-- Every fold extends the phrase on the left by an operator and its right operand. -/
theorem operators_sound (sound : SoundReader reader)
    (found : OperatorsRead reader power room left tokens tree rest)
    (phrase : Derives level used left) (tight : power ≤ level.floor)
    (follows : nextPower tokens < level.limit) :
    ∃ outer more, tokens = more ++ rest ∧ Derives outer (used ++ more) tree ∧
      power ≤ outer.floor ∧ Ends power rest := by
  induction found generalizing level used with
  | stop weak => exact ⟨level, [], rfl, by simpa using phrase, tight, weak⟩
  | @step token operator leftPower rightPower tokens right after room left tree rest span
      symbol strong inner others ih =>
    have bounded : rightPower ≤ 8 := by
      cases token <;> simp_all [infixOperator?] <;> omega
    obtain ⟨inside, second, rfl, operand, held, ends⟩ := sound rightPower _ _ _ bounded inner
    rw [nextPower_cons symbol] at follows
    obtain ⟨outer, whole, floor, limit, _⟩ := phrase.binary span symbol follows operand held
    have positive : 0 < outer.limit := by cases outer <;> decide
    have next : nextPower after < outer.limit := by
      rcases ends with none | weak <;> omega
    obtain ⟨final, more, rfl, derived, enough, beyond⟩ := ih whole (by omega) next
    exact ⟨final, ⟨token, span⟩ :: second ++ more, by simp, by simpa using derived, enough, beyond⟩

end

theorem readerOf_sound (stop levels : Nat) : SoundReader (readerOf stop levels) := by
  induction levels with
  | zero =>
    intro power tokens tree rest _ found
    cases found
  | succ levels ih =>
    intro power tokens tree rest bounded found
    rw [outcome_succ, bind_eq_ok] at found
    obtain ⟨⟨first, after⟩, start, folded⟩ := found
    obtain ⟨level, used, rfl, phrase, tight, follows⟩ := primary_sound ih (primary_read start)
    obtain ⟨outer, more, rfl, derived, enough, ends⟩ :=
      operators_sound ih (operators_read folded) phrase (by omega) follows
    exact ⟨outer, used ++ more, by simp, derived, enough, ends⟩

/-- A tree read from all the tokens is one that the grammar derives from them. -/
theorem ofTokens_sound (found : ofTokens stop tokens = .ok tree) : Derives .sum tokens tree := by
  rw [ofTokens_eq, bind_eq_ok] at found
  obtain ⟨⟨value, rest⟩, read, whole⟩ := found
  split at whole
  · rename_i same
    obtain rfl : rest = [] := same
    obtain rfl := Except.ok.inj whole
    obtain ⟨level, used, rfl, phrase, _, _⟩ := readerOf_sound stop maxNesting 0 _ _ _ (Nat.zero_le 8) read
    rw [List.append_nil]
    exact phrase.toSum
  · cases whole

end LiterateCalc.Expression
