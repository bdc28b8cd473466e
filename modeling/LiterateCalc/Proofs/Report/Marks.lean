import LiterateCalc.Proofs.Document.Variables
import LiterateCalc.Proofs.Evaluation.Messages
import LiterateCalc.Report.Lines

/-! The line of a variable: what leads to its value, the value, and a mark for an input or a failure. The
mark at the end of a line can be told apart from all that stands in front of it. -/
namespace LiterateCalc.Report
open Calculation (State)
open Decimal (signed)

theorem compactText_figures (places : Nat) (value : Float) : compactText places value ⊆ figures := by
  have scaled (unit : Float) {mark : Char} (known : mark ∈ figures) :
      signed (decide (value < 0.0)) (Decimal.fixed 1 (value.abs / unit) ++ [mark]) ⊆ figures := by
    apply Decimal.signed_figures
    exact List.append_subset.mpr ⟨Decimal.fixed_figures _ _, List.cons_subset.mpr ⟨known, List.nil_subset _⟩⟩
  unfold compactText
  dsimp only
  split
  · exact scaled _ (by decide)
  · split
    · exact scaled _ (by decide)
    · split
      · exact scaled _ (by decide)
      · exact Decimal.fixed_figures _ _

theorem withExponentSign_figures (shown : text ⊆ figures) : withExponentSign text ⊆ figures := by
  fun_induction withExponentSign text with
  | case1 => exact shown
  | case2 rest minus => exact shown
  | case3 rest plain =>
    obtain ⟨mark, rest⟩ := List.cons_subset.mp shown
    exact List.cons_subset.mpr ⟨mark, List.cons_subset.mpr ⟨by decide, rest⟩⟩
  | case4 c rest other ih =>
    obtain ⟨first, rest⟩ := List.cons_subset.mp shown
    exact List.cons_subset.mpr ⟨first, ih rest⟩

/-- Each style shows a number with figures only. -/
theorem Style.format_figures (style : Style) (decimals : Option Nat) (value : Float) :
    style.format decimals value ⊆ figures := by
  cases style with
  | plain => exact Decimal.fixed_figures _ _
  | currency => exact List.cons_subset.mpr ⟨by decide, Decimal.fixed_figures _ _⟩
  | percentage => exact List.append_subset.mpr ⟨Decimal.fixed_figures _ _, by decide⟩
  | compact => exact compactText_figures _ _
  | scientific => exact withExponentSign_figures (Decimal.scientific_figures _ _)

theorem ascii_of_isNameCharacter {c : Char} (named : Expression.isNameCharacter c = true) : c.toNat < 128 := by
  simp only [Expression.isNameCharacter, Expression.isLetter, Decimal.isDigit, Bool.or_eq_true, Bool.and_eq_true,
    decide_eq_true_eq, beq_iff_eq] at named
  rcases named with ((small | capital) | rfl) | digit
  · have bound : c.toNat ≤ 122 := small.2
    omega
  · have bound : c.toNat ≤ 90 := capital.2
    omega
  · decide
  · have bound : c.toNat ≤ 57 := digit.2
    omega

/-- Both cases of a name's character are quiet. -/
theorem cases_quiet {c : Char} (named : Expression.isNameCharacter c = true) :
    (∀ d ∈ Text.upper c, IsQuiet d) ∧ ∀ d ∈ Text.lower c, IsQuiet d := by
  have all : ∀ code < 128, Expression.isNameCharacter (Char.ofNat code) = true →
      IsQuiet (Char.ofNat code).toUpper ∧ IsQuiet (Char.ofNat code).toLower := by decide
  have ascii := ascii_of_isNameCharacter named
  have both := all c.toNat ascii
  rw [Char.ofNat_toNat] at both
  obtain ⟨large, small⟩ := both named
  constructor
  · intro d inside
    rw [Text.upper, if_pos ascii, List.mem_singleton] at inside
    rwa [inside]
  · intro d inside
    rw [Text.lower, if_pos ascii, List.mem_singleton] at inside
    rwa [inside]

theorem mem_joinWith {mark : List Char} {parts : List (List Char)} (inside : c ∈ Text.joinWith mark parts) :
    c ∈ mark ∨ ∃ part ∈ parts, c ∈ part := by
  fun_induction Text.joinWith mark parts with
  | case1 => cases inside
  | case2 part => exact .inr ⟨part, List.mem_cons_self, inside⟩
  | case3 part parts more ih =>
    rcases List.mem_append.mp inside with front | back
    · rcases List.mem_append.mp front with here | between
      · exact .inr ⟨part, List.mem_cons_self, here⟩
      · exact .inl between
    · rcases ih back with between | ⟨other, later, there⟩
      · exact .inl between
      · exact .inr ⟨other, List.mem_cons_of_mem _ later, there⟩

/-- The label of a name has the characters of the name in upper and lower case, and spaces. -/
theorem titleCase_quiet {name : String} (named : ∀ c ∈ name.toList, Expression.isNameCharacter c = true) :
    Quiet (titleCase name) := by
  rw [titleCase, quiet_ofList, titleCaseText]
  intro c inside
  rcases mem_joinWith inside with space | ⟨part, capitalized, within⟩
  · rw [List.mem_singleton.mp space]
    decide
  · obtain ⟨word, kept, rfl⟩ := List.mem_map.mp capitalized
    have known : ∀ d ∈ word, Expression.isNameCharacter d = true := by
      intro d among
      have inside := List.mem_flatten_of_mem kept among
      rw [flatten_words] at inside
      exact named d (List.mem_filter.mp inside).1
    cases word with
    | nil => cases within
    | cons first rest =>
      rcases List.mem_append.mp within with start | later
      · exact (cases_quiet (known first List.mem_cons_self)).1 c start
      · obtain ⟨d, among, lower⟩ := List.mem_flatMap.mp later
        exact (cases_quiet (known d (List.mem_cons_of_mem _ among))).2 c lower

/-- What leads to the value in the line of a variable. -/
def lead (options : Options) (entry : Variable) : String :=
  let label := titleCase entry.name
  if options.showFormulas && !entry.isInput then s!"  {label} = {entry.expression} =>" else s!"  {label}:"

/-- What follows the value in the line of a variable. -/
def mark (state : State) (entry : Variable) : String :=
  if entry.isInput then " (input)"
  else match state.errors.get? entry.name with
    | some message => s!"  [error: {message}]"
    | none => ""

theorem mark_of_failed {state : State} {entry : Variable} (calculated : entry.isInput = false)
    (failed : state.errors.get? entry.name = some message) : mark state entry = s!"  [error: {message}]" := by
  rw [mark, calculated, if_neg Bool.false_ne_true, failed]

theorem variableLine_eq (options : Options) (state : State) (entry : Variable) :
    (variableLine options state entry).toList = (lead options entry).toList ++
      ' ' :: options.style.format options.decimals (shownValue state entry) ++ (mark state entry).toList := by
  unfold variableLine lead mark
  dsimp only
  cases entry.isInput with
  | true => simp [toString]
  | false => cases state.errors.get? entry.name <;> cases options.showFormulas <;> simp [toString]

/-- The lead to a value holds no line break, since neither a name nor an expression does. -/
theorem lead_single (assignable : Assignable entry.name entry.expression) (options : Options) :
    '\n' ∉ (lead options entry).toList := by
  have label : '\n' ∉ (titleCase entry.name).toList := fun broken => (titleCase_quiet assignable.name _ broken).1 rfl
  unfold lead
  dsimp only
  split <;> simp [toString, label, assignable.single]

/-- A line ends in the mark of an input. -/
def EndsAsInput (line : String) : Prop := " (input)".toList <:+ line.toList

/-- A line ends in the mark of a failure, and the message is all that follows the start of the last mark. -/
structure EndsInError (line message : String) : Prop where
  ends : ("[error: " ++ message ++ "]").toList <:+ line.toList
  last : ¬ "[error: ".toList <:+: message.toList

/-- A text that ends in another one that starts with the start of a mark holds that start, or is the other one. -/
theorem eq_of_start_suffix {start text other : List Char} (single : start.head? ∉ start.tail.map some)
    (suffix : start ++ text <:+ start ++ other) (last : ¬ start <:+: other) : text = other := by
  obtain ⟨front, same⟩ := suffix
  rcases List.append_eq_append_iff.mp same with ⟨middle, cut, rest⟩ | ⟨middle, cut, rest⟩
  · cases front with
    | nil => exact List.append_cancel_left same
    | cons c front =>
      cases middle with
      | nil =>
        rw [List.nil_append] at rest
        exact absurd ⟨[], text, by simp [rest]⟩ last
      | cons d middle =>
        rw [cut] at rest single
        have inside : d ∈ ((c :: front) ++ d :: middle).tail := by simp
        have first : ((c :: front) ++ d :: middle).head? = some d := by simpa using congrArg List.head? rest
        rw [first] at single
        exact absurd (List.mem_map_of_mem inside) single
  · exact absurd ⟨middle, text, by simp [rest]⟩ last

/-- A line has one message at its end. -/
theorem EndsInError.unique (first : EndsInError line message) (second : EndsInError line other) : message = other := by
  have single : "[error: ".toList.head? ∉ "[error: ".toList.tail.map some := by decide
  have shorter {text more : String} (suffix : ("[error: " ++ text ++ "]").toList <:+ ("[error: " ++ more ++ "]").toList)
      (last : ¬ "[error: ".toList <:+: more.toList) : text = more := by
    simp only [String.toList_append] at suffix
    obtain ⟨front, same⟩ := suffix
    rw [← List.append_assoc, ← List.append_assoc] at same
    exact String.toList_inj.mp (eq_of_start_suffix single ⟨front, by simpa using List.append_cancel_right same⟩ last)
  rcases List.suffix_or_suffix_of_suffix first.ends second.ends with inside | inside
  · exact shorter inside second.last
  · exact (shorter inside first.last).symm

/-- No mark starts in a text of which only the last two characters are not quiet. -/
theorem not_start_of_quiet {front : List Char} (quiet : ∀ c ∈ front, IsQuiet c) (c d : Char) :
    ¬ "[error: ".toList <:+: front ++ [c, d] := by
  rintro ⟨before, after, same⟩
  have length := congrArg List.length same
  simp only [List.length_append, List.length_cons, List.length_nil] at length
  have bracket := congrArg (·[before.length]?) same
  have short : before.length < front.length := by
    have eight : "[error: ".toList.length = 8 := by decide
    omega
  rw [List.append_assoc, List.getElem?_append_right (Nat.le_refl _), List.getElem?_append_left short, Nat.sub_self] at bracket
  exact (quiet '[' (List.mem_of_getElem? bracket.symm)).2 rfl

/-- The message of a failed evaluation fits on a line, and no mark starts in it. -/
theorem message_clear {error : Evaluation.EvaluationError} (sober : error.Sober) :
    '\n' ∉ error.message.toList ∧ ¬ "[error: ".toList <:+: error.message.toList := by
  rcases sober with quiet | ⟨c, same, single⟩
  · refine ⟨fun broken => (quiet _ broken).1 rfl, fun marked => ?_⟩
    exact (quiet '[' (marked.subset (by decide))).2 rfl
  · have front : Quiet ("syntax error: " ++ "unexpected character '") := .append (by decide) (by decide)
    have whole : error.message.toList = ("syntax error: " ++ "unexpected character '").toList ++ [c, '\''] := by
      rw [same]
      simp
    rw [whole]
    refine ⟨?_, not_start_of_quiet front c '\''⟩
    intro broken
    rcases List.mem_append.mp broken with early | late
    · exact (front _ early).1 rfl
    · have other : '\n' ≠ c := Ne.symm single
      simp [other] at late

section
variable {options : Options} {state : State} {entry : Variable}

/-- The last character of a variable's line tells whether the line has a mark, and which one. -/
theorem last_of_variableLine (ends : text ++ [c] <:+ (variableLine options state entry).toList) :
    if entry.isInput then c = ')'
    else match state.errors.get? entry.name with
      | some _ => c = ']'
      | none => c ∈ ' ' :: figures := by
  obtain ⟨front, same⟩ := ends
  have last := congrArg List.getLast? same
  rw [← List.append_assoc, List.getLast?_concat, variableLine_eq] at last
  cases input : entry.isInput with
  | true =>
    rw [mark, input, if_pos rfl, List.getLast?_append] at last
    simpa using last
  | false =>
    cases failed : state.errors.get? entry.name with
    | some message =>
      have whole : (mark state entry).toList = ("  [error: " ++ message).toList ++ [']'] := by
        simp [mark_of_failed input failed, toString]
      rw [whole, ← List.append_assoc, List.getLast?_concat] at last
      simpa using last
    | none =>
      have whole : (mark state entry).toList = [] := by simp [mark, input, failed]
      rw [whole, List.append_nil, List.getLast?_append_of_ne_nil _ (List.cons_ne_nil _ _)] at last
      exact List.cons_subset_cons _ (Style.format_figures _ _ _) (List.mem_of_getLast? last.symm)

theorem endsAsInput_iff : EndsAsInput (variableLine options state entry) ↔ entry.isInput = true := by
  constructor
  · intro ends
    have closing : " (input".toList ++ [')'] <:+ (variableLine options state entry).toList := ends
    have last := last_of_variableLine closing
    cases input : entry.isInput with
    | true => rfl
    | false =>
      rw [input, if_neg (by decide)] at last
      split at last
      · exact absurd last (by decide)
      · exact absurd last (by decide)
  · intro input
    have marked : mark state entry = " (input)" := by rw [mark, if_pos input]
    rw [EndsAsInput, variableLine_eq, marked]
    exact List.suffix_append _ _

/-- A variable's line ends in a message exactly if the state has that message for the variable, as far as
inputs have none and no mark starts in a message. -/
theorem endsInError_iff (apart : entry.isInput = true → state.errors.get? entry.name = none)
    (clear : ∀ text, state.errors.get? entry.name = some text → ¬ "[error: ".toList <:+: text.toList) :
    EndsInError (variableLine options state entry) message ↔ state.errors.get? entry.name = some message := by
  have marked {text : String} (found : state.errors.get? entry.name = some text) :
      EndsInError (variableLine options state entry) text := by
    have calculated : entry.isInput = false := by
      apply Bool.eq_false_iff.mpr
      intro input
      rw [apart input] at found
      cases found
    have ends : (mark state entry).toList = "  ".toList ++ ("[error: " ++ text ++ "]").toList := by
      simp [mark_of_failed calculated found, toString]
    refine ⟨?_, clear text found⟩
    rw [variableLine_eq, ends, ← List.append_assoc]
    exact List.suffix_append _ _
  refine ⟨fun ends => ?_, marked⟩
  have closing : ("[error: " ++ message).toList ++ [']'] <:+ (variableLine options state entry).toList := by
    simpa using ends.ends
  have last := last_of_variableLine closing
  cases failed : state.errors.get? entry.name with
  | some text => rw [ends.unique (marked failed)]
  | none =>
    rw [failed] at last
    split at last
    · exact absurd last (by decide)
    · exact absurd last (by decide)

/-- The line of a variable is a single line if its message is. -/
theorem variableLine_single (assignable : Assignable entry.name entry.expression)
    (single : ∀ text, state.errors.get? entry.name = some text → '\n' ∉ text.toList) :
    '\n' ∉ (variableLine options state entry).toList := by
  have value : '\n' ∉ ' ' :: options.style.format options.decimals (shownValue state entry) := by
    intro broken
    exact absurd (List.cons_subset_cons _ (Style.format_figures _ _ _) broken) (by decide)
  have behind : '\n' ∉ (mark state entry).toList := by
    unfold mark
    split
    · decide
    · split
      · rename_i text found
        simp [toString, single text found]
      · decide
  rw [variableLine_eq]
  simp only [List.mem_append, not_or]
  exact ⟨⟨lead_single assignable options, value⟩, behind⟩

end

end LiterateCalc.Report
