import LiterateCalc.Proofs.Evaluation.Depth
import LiterateCalc.Proofs.Expression.Acceptance
import LiterateCalc.Proofs.Expression.Height

/-! The limit on nesting does not limit the height of a tree to the same number. A run of
operators is counted only where it stands, so it may follow an operand that is as high as all
the levels inside allow. Texts of all these heights are built here. -/
namespace LiterateCalc.Evaluation
open Expression

variable {height levels : Nat}

/-- Additions of a constant to what stands before them. -/
def additions : Nat → List Char
  | 0 => []
  | count + 1 => '+' :: ("PI".toList ++ additions count)

def additionTokens : Nat → List Token
  | 0 => []
  | count + 1 => .plus :: .identifier "PI" :: additionTokens count

theorem constant_cut : CutsInto "PI".toList [.identifier "PI"] := .name rfl

theorem apart_additions (count : Nat) : apart (additions count) = true := by
  cases count <;> rfl

theorem additions_cut (count : Nat) : CutsInto (additions count) (additionTokens count) := by
  induction count with
  | zero => exact .nil
  | succ count ih => exact .symbol rfl (constant_cut.append ih (apart_additions count))

/-- A tree of the given height, with nothing wrong but perhaps its depth. -/
def Tower (height : Nat) (tree : Expression) : Prop :=
  tree.height = height ∧ Callable tree ∧ ∀ name ∈ names tree, name = "PI"

/-- Tokens that are read as a tower without the operators after it, wherever they stand. -/
def PrimaryTower (levels height : Nat) (tokens : List Token) : Prop :=
  ∀ stop located rest, located.map Located.token = tokens → opens rest = false →
    ∃ tree, primary stop (readerOf stop levels) (located ++ rest) = .ok (tree, rest) ∧ Tower height tree

/-- Tokens that are read as a tower where no operator follows. -/
def OperandTower (levels height : Nat) (tokens : List Token) : Prop :=
  ∀ stop located rest, located.map Located.token = tokens → opens rest = false →
    nextPower rest = 0 →
    ∃ tree, (readerOf stop levels).outcome 0 (located ++ rest) = .ok (tree, rest) ∧ Tower height tree

theorem constant_tower (levels : Nat) : PrimaryTower levels 0 [.identifier "PI"] := by
  intro stop located rest same alone
  obtain ⟨⟨token, span⟩, none, rfl, rfl, empty⟩ := List.map_eq_cons_iff.mp same
  obtain rfl := List.map_eq_nil_iff.mp empty
  exact ⟨.reference "PI" span, primary_reference alone, rfl, trivial, by simp [names]⟩

theorem Tower.add (tower : Tower height left) :
    Tower (height + 1) (.binary .add left (.reference "PI" span)) := by
  refine ⟨?_, ?_, ?_⟩
  · simp only [Expression.height, tower.1, Nat.max_zero]
  · simp only [Callable]
    exact ⟨tower.2.1, trivial⟩
  · simp only [names, List.mem_append, List.mem_singleton]
    rintro name (inside | rfl)
    · exact tower.2.2 name inside
    · rfl

/-- Every addition makes a tower one higher, and takes one of the operators that a level has. -/
theorem operators_tower (enough : count ≤ room) (deep : count ≤ levels)
    (tower : Tower height left) (same : located.map Located.token = additionTokens count)
    (alone : opens rest = false) (weak : nextPower rest = 0) :
    ∃ tree, operators (readerOf stop levels) 0 room left (located ++ rest) = .ok (tree, rest) ∧
      Tower (height + count) tree := by
  induction count generalizing room height left located with
  | zero =>
    obtain rfl := List.map_eq_nil_iff.mp same
    exact ⟨left, operators_stop (.inl weak), tower⟩
  | succ count ih =>
    obtain ⟨⟨_, plus⟩, more, rfl, rfl, addition⟩ := List.map_eq_cons_iff.mp same
    obtain ⟨⟨_, span⟩, later, rfl, rfl, others⟩ := List.map_eq_cons_iff.mp addition
    obtain ⟨room, rfl⟩ : ∃ less, room = less + 1 := ⟨room - 1, by omega⟩
    obtain ⟨inner, rfl⟩ : ∃ less, levels = less + 1 := ⟨levels - 1, by omega⟩
    have next : opens (later ++ rest) = false ∧ Ends 3 (later ++ rest) := by
      cases count with
      | zero =>
        obtain rfl := List.map_eq_nil_iff.mp others
        exact ⟨alone, .inl weak⟩
      | succ count =>
        obtain ⟨⟨_, place⟩, after, rfl, rfl, _⟩ := List.map_eq_cons_iff.mp others
        exact ⟨rfl, .inr (by simp [nextPower, infixOperator?])⟩
    have right : (readerOf stop (inner + 1)).outcome 3 (⟨.identifier "PI", span⟩ :: (later ++ rest)) =
        .ok (.reference "PI" span, later ++ rest) := by
      rw [outcome_succ, primary_reference next.1]
      exact operators_stop next.2
    have continued : ∃ tree, operators (readerOf stop (inner + 1)) 0 room
        (.binary .add left (.reference "PI" span)) (later ++ rest) = .ok (tree, rest) ∧
          Tower (height + 1 + count) tree := ih (by omega) (by omega) tower.add others
    obtain ⟨tree, found, higher⟩ := continued
    refine ⟨tree, ?_, by rw [Nat.add_comm count, ← Nat.add_assoc]; exact higher⟩
    rw [List.cons_append, List.cons_append, operators_step rfl (Nat.zero_le _), right]
    exact found

theorem PrimaryTower.additions (tower : PrimaryTower levels height tokens) (enough : count ≤ levels) :
    OperandTower (levels + 1) (height + count) (tokens ++ additionTokens count) := by
  intro stop located rest same alone weak
  obtain ⟨front, back, rfl, rfl, added⟩ := List.map_eq_append_iff.mp same
  have next : opens (back ++ rest) = false := by
    cases count with
    | zero =>
      obtain rfl := List.map_eq_nil_iff.mp added
      exact alone
    | succ count =>
      obtain ⟨⟨_, place⟩, after, rfl, rfl, _⟩ := List.map_eq_cons_iff.mp added
      rfl
  obtain ⟨left, first, lower⟩ := tower stop front (back ++ rest) rfl next
  have raised : ∃ tree, operators (readerOf stop levels) 0 levels left (back ++ rest) = .ok (tree, rest) ∧
      Tower (height + count) tree := operators_tower enough enough lower added alone weak
  obtain ⟨tree, folded, higher⟩ := raised
  refine ⟨tree, ?_, higher⟩
  rw [outcome_succ, List.append_assoc, first]
  exact folded

theorem abs_known : ∃ definition, Registry.builtin.get? "abs" = some definition ∧
    definition.arity.accepts 1 = true := ⟨_, rfl, rfl⟩

theorem Tower.call (tower : Tower height tree) : Tower (height + 1) (.call "abs" [tree] span) := by
  refine ⟨?_, ?_, ?_⟩
  · simp only [Expression.height, argumentsHeight, tower.1, Nat.max_zero]
  · simp only [Callable, AllCallable]
    exact ⟨abs_known, tower.2.1, trivial⟩
  · simpa only [names, argumentNames, List.append_nil] using tower.2.2

theorem OperandTower.call (tower : OperandTower levels height tokens) :
    PrimaryTower levels (height + 1) (.identifier "abs" :: .leftParen :: (tokens ++ [.rightParen])) := by
  intro stop located rest same alone
  obtain ⟨⟨_, span⟩, more, rfl, rfl, others⟩ := List.map_eq_cons_iff.mp same
  obtain ⟨⟨_, opening⟩, later, rfl, rfl, bracketed⟩ := List.map_eq_cons_iff.mp others
  obtain ⟨inside, closing, rfl, rfl⟩ := map_eq_closed bracketed
  obtain ⟨tree, found, lower⟩ := tower stop inside (⟨.rightParen, closing⟩ :: rest) rfl rfl rfl
  refine ⟨.call "abs" [tree] ⟨span.start, closing.stop⟩, ?_, lower.call⟩
  simp only [List.cons_append, List.append_assoc, List.nil_append]
  rw [primary_call (filled_of_outcome found), arguments_eq, found]
  rfl

theorem call_cut (cut : CutsInto text tokens) :
    CutsInto ("abs".toList ++ '(' :: (text ++ [')']))
      (.identifier "abs" :: .leftParen :: (tokens ++ [.rightParen])) := by
  have name : CutsInto "abs".toList [.identifier "abs"] := .name rfl
  exact name.append (.symbol rfl (cut.append closing_cut rfl)) rfl

/-- Every level adds all its operators and one more to the heights that can be read. -/
theorem towers (below : height < heightLimit levels) :
    ∃ text tokens, CutsInto text tokens ∧ OperandTower levels height tokens := by
  induction levels generalizing height with
  | zero => cases below
  | succ levels ih =>
    simp only [heightLimit] at below
    rcases Nat.eq_zero_or_pos height with rfl | positive
    · exact ⟨_, _, constant_cut.append (additions_cut 0) rfl,
        (constant_tower levels).additions (Nat.zero_le levels)⟩
    · have room : levels = 0 ∨ 0 < heightLimit levels := by
        cases levels with
        | zero => exact .inl rfl
        | succ fewer => exact .inr (Nat.succ_pos _)
      obtain ⟨inner, count, inside, enough, rfl⟩ : ∃ inner count,
          inner < heightLimit levels ∧ count ≤ levels ∧ height = inner + 1 + count := by
        rcases room with rfl | some
        · simp only [heightLimit] at below
          omega
        · by_cases low : height ≤ heightLimit levels
          · exact ⟨height - 1, 0, by omega, by omega, by omega⟩
          · exact ⟨heightLimit levels - 1, height - heightLimit levels, by omega, by omega, by omega⟩
      obtain ⟨text, tokens, cut, tower⟩ := ih inside
      exact ⟨_, _, (call_cut cut).append (additions_cut count) (apart_additions count),
        tower.call.additions enough⟩

theorem parse_tower (cut : CutsInto text tokens) (tower : OperandTower maxNesting height tokens) :
    ∃ tree, parse (String.ofList text) = .ok tree ∧ Tower height tree := by
  obtain ⟨located, same, words⟩ := cut.tokenize
  obtain ⟨tree, read, high⟩ := tower (Text.byteLength text) located [] same rfl rfl
  refine ⟨tree, ?_, high⟩
  rw [List.append_nil] at read
  rw [parse, String.toList_ofList, parseText, words]
  simp only [ofTokens_eq, read]
  rfl

theorem Tower.evaluateAt_iff (tower : Tower height tree) (source : Source) :
    evaluateAt source 0 tree = .error .tooDeep ↔ maxNesting < height := by
  obtain ⟨rfl, callable, only⟩ := tower
  have valued : ∀ name ∈ names tree, Valued source name := by
    intro name inside
    rw [only name inside, Valued]
    cases source "PI" <;> rfl
  constructor
  · intro refused
    by_cases within : 0 + tree.height ≤ maxDepth
    · exact absurd refused (evaluateAt_within source within)
    · rw [Nat.zero_add] at within
      exact Nat.not_le.mp within
  · intro high
    exact callable.evaluateAt_tooDeep valued (by rw [Nat.zero_add]; exact high)

theorem parse_height (found : parse source = .ok tree) : tree.height < heightLimit maxNesting := by
  obtain ⟨tokens, words, read⟩ := parse_eq_ok found
  rw [ofTokens_eq, bind_eq_ok] at read
  obtain ⟨⟨value, rest⟩, inner, ended⟩ := read
  have bound := readerOf_height _ maxNesting _ _ _ _ inner
  cases rest with
  | nil =>
    obtain rfl := Except.ok.inj ended
    exact bound
  | cons next later => cases ended

/-- Trees of every height below 256 * 257 / 2 are read, and no higher ones. -/
theorem heights_read (height : Nat) :
    (∃ source tree, parse source = .ok tree ∧ tree.height = height) ↔
      2 * height < maxNesting * (maxNesting + 1) := by
  have double := two_mul_heightLimit maxNesting
  constructor
  · rintro ⟨source, tree, found, rfl⟩
    have bound := parse_height found
    omega
  · intro below
    have reachable : height < heightLimit maxNesting := by omega
    obtain ⟨text, tokens, cut, tower⟩ := towers reachable
    obtain ⟨tree, found, high⟩ := parse_tower cut tower
    exact ⟨String.ofList text, tree, found, high.1⟩

/-- The nesting of 256 levels bounds the height of a tree only by the sum of all levels. No source
makes evaluation refuse a tree for its depth exactly if its height is at most 256, unless a call
that cannot be made comes first. -/
theorem nesting_limits (source : String) (tree : Expression) (found : parse source = .ok tree) :
    2 * tree.height < maxNesting * (maxNesting + 1) ∧
    (tree.height ≤ maxNesting → ∀ values, evaluateAt values 0 tree ≠ .error .tooDeep) ∧
    (Callable tree →
      ((∀ values, evaluateAt values 0 tree ≠ .error .tooDeep) ↔ tree.height ≤ maxNesting)) := by
  have double := two_mul_heightLimit maxNesting
  have bound := parse_height found
  have enough : tree.height ≤ maxNesting → ∀ values, evaluateAt values 0 tree ≠ .error .tooDeep := by
    intro within values
    exact evaluateAt_within values (by rw [Nat.zero_add]; exact within)
  refine ⟨by omega, enough, ?_⟩
  intro callable
  refine ⟨?_, enough⟩
  intro accepted
  by_cases within : tree.height ≤ maxNesting
  · exact within
  · have valued : ∀ name ∈ names tree, Valued (fun _ => some 0) name := fun _ _ => rfl
    have high : maxDepth < 0 + tree.height := by
      rw [Nat.zero_add]
      exact Nat.not_le.mp within
    exact absurd (callable.evaluateAt_tooDeep valued high) (accepted _)

/-- A tree without height, and a sum that is as high as both limits allow. -/
theorem nesting_limits_sum :
    (∃ tree, parse "a" = .ok tree ∧ ∀ values, evaluateAt values 0 tree ≠ .error .tooDeep) ∧
    ∃ tree, parse (String.ofList ("abs(PI)".toList ++ additions 255)) = .ok tree ∧ tree.height = 256 ∧
      ∀ values, evaluateAt values 0 tree ≠ .error .tooDeep := by
  constructor
  · have words : tokenize "a".toList = .ok [⟨.identifier "a", ⟨0, 1⟩⟩] := by
      simp [tokenize, tokenizeFrom, isSpace, wordTail, readWord, isNumberCharacter, isLetter,
        Decimal.isDigit, Text.byteLength, Char.utf8Size, Except.map]
    have found : parse "a" = .ok (.reference "a" ⟨0, 1⟩) := by
      unfold parse parseText
      rw [words]
      rfl
    exact ⟨_, found, (nesting_limits "a" _ found).2.1 (Nat.zero_le maxNesting)⟩
  · have cut := (call_cut constant_cut).append (additions_cut 255) (apart_additions 255)
    have first : OperandTower 255 0 [.identifier "PI"] := (constant_tower 254).additions (Nat.zero_le _)
    obtain ⟨tree, found, high, callable, _⟩ := parse_tower cut (first.call.additions (Nat.le_refl 255))
    have within : tree.height ≤ maxNesting := Nat.le_of_eq high
    exact ⟨tree, found, high, ((nesting_limits _ tree found).2.2 callable).mpr within⟩

/-- Two calls below the longest run of operators that the outermost level has. -/
theorem abs_sum_refused :
    ∃ tree, parse (String.ofList ("abs(abs(PI))".toList ++ additions 255)) = .ok tree ∧
      tree.height = 257 ∧ ∀ values, evaluateAt values 0 tree = .error .tooDeep := by
  have cut := (call_cut (call_cut constant_cut)).append (additions_cut 255) (apart_additions 255)
  have inner : OperandTower 254 0 [.identifier "PI"] := (constant_tower 253).additions (Nat.zero_le _)
  have once := inner.call.additions (Nat.zero_le 254)
  have tower := once.call.additions (Nat.le_refl 255)
  obtain ⟨tree, found, high⟩ := parse_tower cut tower
  refine ⟨tree, found, high.1, ?_⟩
  intro values
  exact (high.evaluateAt_iff values).mpr (by decide)

end LiterateCalc.Evaluation
