import LiterateCalc.Proofs.Calculation.Reachable
import LiterateCalc.Proofs.Decimal.Counts
import LiterateCalc.Proofs.Document.Variables
import LiterateCalc.Proofs.Evaluation.References

/-! Blank expressions and plain numbers, which make inputs: the number that such a text starts with is the
value that it evaluates to, exactly if its digits are those from `0` to `9` and the number is finite. -/
namespace LiterateCalc
open Expression (isSpace isNumberCharacter)
open Text (isBlank isDecimalDigit trim trimStart)

/-- Only spaces and characters of plain numbers, as the words of expressions know them. -/
def Legible (text : List Char) : Prop :=
  ∀ c ∈ text, isSpace c = true ∨ isNumberCharacter c = true ∨ c = '-'

-- Named, since the search prefers an instance that goes through all characters.
instance : Decidable (Legible text) := List.decidableBAll _ text

/-- Digits, or a point with digits behind it and perhaps before it. -/
inductive PlainNumber : List Char → Prop
  | whole {digits : List Char} (filled : digits ≠ []) (each : ∀ c ∈ digits, Decimal.isDigit c = true) :
    PlainNumber digits
  | fraction {digits decimals : List Char} (each : ∀ c ∈ digits, Decimal.isDigit c = true) (filled : decimals ≠ [])
      (also : ∀ c ∈ decimals, Decimal.isDigit c = true) : PlainNumber (digits ++ '.' :: decimals)

theorem outside_of_isDecimalDigit {c : Char} (decimal : isDecimalDigit c = true) (foreign : Decimal.isDigit c = false) :
    127 < c.toNat := by
  obtain ⟨first, inside, range⟩ := List.any_eq_true.mp decimal
  simp only [Bool.and_eq_true, decide_eq_true_eq] at range
  rcases List.mem_cons.mp inside with rfl | later
  · have low : '0' ≤ c := range.1
    have high : c ≤ '9' := Nat.le_of_lt_succ range.2
    simp [Decimal.isDigit, low, high] at foreign
  · have far : ∀ first ∈ Text.digitZeros.tail, 127 < first := by decide
    exact Nat.lt_of_lt_of_le (far first later) range.1

theorem outside_of_foreign {c : Char} (simple : isBlank c = true ∨ isDecimalDigit c = true)
    (foreign : ¬ (isSpace c = true ∨ isNumberCharacter c = true ∨ c = '-')) : c.toNat ≤ 32 ∨ 127 < c.toNat := by
  rcases simple with blank | decimal
  · exact Expression.outside_of_blank blank
  · have digit : Decimal.isDigit c = false := by
      cases digit : Decimal.isDigit c with
      | false => rfl
      | true => exact absurd (.inr (.inl (by simp [isNumberCharacter, digit]))) foreign
    exact .inr (outside_of_isDecimalDigit decimal digit)

theorem isDigit_of_legible {c : Char} (decimal : isDecimalDigit c = true)
    (legible : isSpace c = true ∨ isNumberCharacter c = true ∨ c = '-') : Decimal.isDigit c = true := by
  cases foreign : Decimal.isDigit c with
  | true => rfl
  | false =>
    have outside := outside_of_isDecimalDigit decimal foreign
    rcases legible with space | number | rfl
    · simp only [isSpace, Bool.or_eq_true, beq_iff_eq] at space
      rcases space with ((rfl | rfl) | rfl) | rfl <;> exact absurd outside (by decide)
    · rw [Expression.isNumberCharacter_of_outside (.inr outside)] at number
      cases number
    · exact absurd outside (by decide)

theorem Legible.part {text part : List Char} (legible : Legible text) (within : part ⊆ text) : Legible part :=
  fun c inside => legible c (within inside)

theorem isSpace_of_blank {c : Char} (blank : isBlank c = true)
    (legible : isSpace c = true ∨ isNumberCharacter c = true ∨ c = '-') : isSpace c = true := by
  have outside := Expression.outside_of_blank blank
  rcases legible with space | number | rfl
  · exact space
  · rw [Expression.isNumberCharacter_of_outside outside] at number
    cases number
  · exact absurd outside (by decide)

/-- A legible text that is a plain number of any script is one of the digits from `0` to `9`. -/
theorem PlainNumber.of_legible {text : List Char} (plain : Line.isPlainNumber text = true) (legible : Legible text) :
    PlainNumber text := by
  have digits : ∀ {c}, c ∈ text → isDecimalDigit c = true → Decimal.isDigit c = true := fun inside decimal =>
    isDigit_of_legible decimal (legible _ inside)
  have cut := List.takeWhile_append_dropWhile (p := isDecimalDigit) (l := text)
  have front : ∀ c ∈ text.takeWhile isDecimalDigit, Decimal.isDigit c = true := fun c inside =>
    digits ((List.takeWhile_sublist _).subset inside) (List.mem_takeWhile_imp inside)
  unfold Line.isPlainNumber at plain
  split at plain
  · rename_i none
    rw [none, List.append_nil] at cut
    rw [cut] at front
    exact .whole (by simpa using plain) front
  · rename_i rest point
    simp only [Bool.and_eq_true, Bool.not_eq_true', List.isEmpty_eq_false_iff, List.all_eq_true] at plain
    rw [point] at cut
    have back : ∀ c ∈ rest, Decimal.isDigit c = true := fun c inside =>
      digits (cut ▸ List.mem_append_right _ (List.mem_cons_of_mem _ inside)) (plain.2 c inside)
    rw [← cut]
    exact .fraction front plain.1 back
  · cases plain

section
variable {text rest : List Char}

theorem PlainNumber.ne_nil (plain : PlainNumber text) : text ≠ [] := by
  cases plain with
  | whole filled each => exact filled
  | fraction each filled also => simp

theorem PlainNumber.isNumberCharacter (plain : PlainNumber text) : ∀ c ∈ text, isNumberCharacter c = true := by
  cases plain with
  | whole filled each =>
    intro c inside
    simp [Expression.isNumberCharacter, each c inside]
  | fraction each filled also =>
    intro c inside
    rcases List.mem_append.mp inside with front | back
    · simp [Expression.isNumberCharacter, each c front]
    · rcases List.mem_cons.mp back with rfl | late
      · rfl
      · simp [Expression.isNumberCharacter, also c late]

/-- Blanks end every part of a number. -/
theorem stops_of_blank (blank : ∀ c ∈ rest, isBlank c = true) :
    rest.takeWhile Decimal.isDigit = [] ∧ Decimal.fractionRun true rest = ([], rest) ∧
      Decimal.exponentRun rest = (0, rest) ∧ Expression.apart rest = true := by
  cases rest with
  | nil => exact ⟨rfl, rfl, rfl, rfl⟩
  | cons c rest =>
    have outside := Expression.outside_of_blank (blank c List.mem_cons_self)
    have number := Expression.isNumberCharacter_of_outside outside
    have letter := Expression.isLetter_of_outside outside
    simp only [Expression.isNumberCharacter, Bool.or_eq_false_iff, beq_eq_false_iff_ne] at number
    have mark : ¬ (c = 'e' ∨ c = 'E') := by
      rintro (rfl | rfl) <;> cases letter
    refine ⟨?_, ?_, ?_, ?_⟩
    · simp [number.1]
    · simp [Decimal.fractionRun, number.2]
    · simp [Decimal.exponentRun, mark]
    · simp [Expression.apart, Expression.isNameCharacter, letter, number]

/-- A plain number is one numeral, with or without blanks after it. -/
theorem PlainNumber.scanNumeral (plain : PlainNumber text) :
    ∃ numeral, ∀ rest, (∀ c ∈ rest, isBlank c = true) →
      Decimal.scanNumeral (text ++ rest) = some (numeral, rest) := by
  cases plain with
  | whole filled each =>
    refine ⟨⟨Decimal.digitsValue text, 0⟩, fun rest blank => ?_⟩
    obtain ⟨digit, point, power, -⟩ := stops_of_blank blank
    have some : text.isEmpty = false := List.isEmpty_eq_false_iff.mpr filled
    simp [Decimal.scanNumeral, Decimal.digitRun_append each digit, some, point, power]
  | @fraction digits decimals each filled also =>
    refine ⟨⟨Decimal.digitsValue (digits ++ decimals), -decimals.length⟩, fun rest blank => ?_⟩
    obtain ⟨digit, -, power, -⟩ := stops_of_blank blank
    have some : decimals.isEmpty = false := List.isEmpty_eq_false_iff.mpr filled
    have front : Decimal.digitRun (digits ++ ('.' :: (decimals ++ rest))) = (digits, '.' :: (decimals ++ rest)) :=
      Decimal.digitRun_append each rfl
    simp [Decimal.scanNumeral, front, Decimal.fractionRun, Decimal.digitRun_append also digit, some, power]

end

section
open Expression (CutsInto Located ofTokens)
open Evaluation (Source evaluateAt evaluateText)

/-- A text is the whole of a number in front of blanks, and the tokens of an expression with its value. -/
structure Denotes (text : List Char) (value : Float) : Prop where
  scanned : ∀ rest, (∀ c ∈ rest, isBlank c = true) → Decimal.scanSigned (text ++ rest) = some value
  evaluated : ∃ tokens, CutsInto text tokens ∧ ∀ stop located, located.map Located.token = tokens →
    ∃ tree, ofTokens stop located = .ok tree ∧ ∀ source : Source, evaluateAt source 0 tree = .ok value

variable {text : List Char} {value : Float}

theorem PlainNumber.denotes (plain : PlainNumber text) :
    ∃ value, Denotes text value ∧ Denotes ('-' :: text) (-value) := by
  obtain ⟨numeral, scanned⟩ := plain.scanNumeral
  have alone := scanned [] (by simp)
  rw [List.append_nil] at alone
  have known : Decimal.readNumeral text = some numeral.toFloat := by
    rw [Decimal.readNumeral, alone]
  have cut : CutsInto text [.number numeral.toFloat] := .number plain.isNumberCharacter known
  refine ⟨numeral.toFloat, ⟨?_, ?_⟩, ⟨?_, ?_⟩⟩
  · intro rest blank
    have unsigned : Decimal.signRun (text ++ rest) = (false, text ++ rest) := by
      obtain ⟨first, others, rfl⟩ := List.exists_cons_of_ne_nil plain.ne_nil
      have number := plain.isNumberCharacter first List.mem_cons_self
      unfold Decimal.signRun
      split
      · rename_i minus
        obtain ⟨rfl, -⟩ := List.cons.inj minus
        cases number
      · rename_i plus
        obtain ⟨rfl, -⟩ := List.cons.inj plus
        cases number
      · rfl
    simp only [Decimal.scanSigned, unsigned, scanned rest blank]
    rfl
  · refine ⟨_, cut, fun stop located same => ⟨.number numeral.toFloat, ?_, fun source => rfl⟩⟩
    obtain ⟨⟨token, span⟩, none, rfl, rfl, empty⟩ := List.map_eq_cons_iff.mp same
    obtain rfl := List.map_eq_nil_iff.mp empty
    rfl
  · intro rest blank
    simp only [Decimal.scanSigned, Decimal.signRun, List.cons_append, scanned rest blank]
    rfl
  · refine ⟨_, .symbol rfl cut, fun stop located same => ⟨.unary .minus (.number numeral.toFloat), ?_, fun source => rfl⟩⟩
    obtain ⟨⟨sign, place⟩, others, rfl, rfl, later⟩ := List.map_eq_cons_iff.mp same
    obtain ⟨⟨token, span⟩, none, rfl, rfl, empty⟩ := List.map_eq_cons_iff.mp later
    obtain rfl := List.map_eq_nil_iff.mp empty
    rfl

/-- A simple value that is legible denotes a number, unless it is blank. -/
theorem exists_denotes (simple : Line.isSimpleValue text = true) (filled : trim text ≠ []) (legible : Legible text) :
    ∃ value, Denotes (trim text) value := by
  have inner := legible.part (Text.trim_subset text)
  unfold Line.isSimpleValue at simple
  split at simple
  · rename_i none
    exact absurd none filled
  · rename_i rest minus
    rw [minus] at inner ⊢
    have plain := PlainNumber.of_legible simple (inner.part (List.subset_cons_self _ _))
    obtain ⟨value, -, denotes⟩ := plain.denotes
    exact ⟨-value, denotes⟩
  · obtain ⟨value, denotes, -⟩ := (PlainNumber.of_legible simple inner).denotes
    exact ⟨value, denotes⟩

/-- The number that a text starts with is the value of its expression, if that one is finite. -/
theorem Denotes.agrees (denotes : Denotes (trim text) value) (legible : Legible text) (filled : trim text ≠ []) :
    Calculation.leadingNumber? text = some value ∧ ∀ source, evaluateText source text =
      if value.isFinite then .ok value else .error (.invalidResult value) := by
  obtain ⟨front, back, whole, start, blankFront, blankBack⟩ := Text.trim_cut text
  have spaces : ∀ part, (∀ c ∈ part, isBlank c = true) → part ⊆ text → ∀ c ∈ part, isSpace c = true :=
    fun part blank within c inside => isSpace_of_blank (blank c inside) (legible c (within inside))
  have inFront : front ⊆ text := by
    rw [whole]
    exact List.subset_append_left _ _
  have inBack : back ⊆ text := by
    rw [whole]
    exact fun c inside => List.mem_append_right _ (List.mem_append_right _ inside)
  obtain ⟨tokens, cut, read⟩ := denotes.evaluated
  constructor
  · rw [Calculation.leadingNumber?, start]
    exact denotes.scanned back blankBack
  · intro source
    obtain ⟨located, same, words⟩ := cut front.length back (stops_of_blank blankBack).2.2.2
    have last := Expression.tokenizeFrom_spaces (spaces back blankBack inBack)
      (front.length + Text.byteLength (trim text)) []
    rw [List.append_nil, Expression.tokenizeFrom_nil] at last
    have all : Expression.tokenize text = .ok located := by
      rw [Expression.tokenize, whole, Expression.tokenizeFrom_spaces (spaces front blankFront inFront), Nat.zero_add,
        words, last]
      simp [Except.map]
    obtain ⟨tree, found, evaluated⟩ := read (Text.byteLength text) located same
    have some : (trim text).isEmpty = false := List.isEmpty_eq_false_iff.mpr filled
    simp [evaluateText, Evaluation.evaluateTree, Expression.parseText, all, found, evaluated, some]

/-- A character of a simple value, in any script. -/
def IsSimple (c : Char) : Prop := isBlank c = true ∨ isDecimalDigit c = true ∨ c = '.' ∨ c = '-'

theorem exponentWord_of_simple (simple : ∀ c ∈ text, IsSimple c) : Expression.exponentWord text = [] := by
  cases text with
  | nil => rfl
  | cons c rest =>
    have known := simple c List.mem_cons_self
    have mark : ¬ (c = 'e' ∨ c = 'E') := by
      rintro (rfl | rfl) <;> exact absurd known (by unfold IsSimple; decide)
    simp only [Expression.exponentWord, if_neg mark]

/-- The word that begins a simple value has no other characters than numbers and a sign have. -/
theorem legible_word {first : Char} {rest : List Char} (simple : ∀ c ∈ first :: rest, IsSimple c)
    (solid : isSpace first = false) (word : Expression.readWord first tail = .ok token) :
    Legible (first :: Expression.wordTail first rest) := by
  by_cases known : isSpace first = true ∨ isNumberCharacter first = true ∨ first = '-'
  · refine List.forall_mem_cons.mpr ⟨known, ?_⟩
    rw [solid] at known
    rcases known with space | number | rfl
    · cases space
    · have none := exponentWord_of_simple fun c inside =>
        simple c (List.mem_cons_of_mem _ ((List.dropWhile_sublist isNumberCharacter).subset inside))
      intro c inside
      simp only [Expression.wordTail, if_pos number, none, List.append_nil] at inside
      exact .inr (.inl (List.mem_takeWhile_imp inside))
    · rw [(Expression.symbolToken?_alone rfl rest).2.1]
      simp
  · have outside : first.toNat ≤ 32 ∨ 127 < first.toNat := by
      rcases simple first List.mem_cons_self with blank | decimal | rfl | rfl
      · exact outside_of_foreign (.inl blank) known
      · exact outside_of_foreign (.inr decimal) known
      · exact absurd (.inr (.inl rfl)) known
      · exact absurd (.inr (.inr rfl)) known
    rw [Expression.readWord_outside outside] at word
    cases word

/-- The text is legible word by word. -/
theorem legible_of_tokenizeFrom (simple : ∀ c ∈ text, IsSimple c)
    (found : Expression.tokenizeFrom start text = .ok located) : Legible text := by
  fun_induction Expression.tokenizeFrom start text generalizing located with
  | case1 start => exact fun c inside => by cases inside
  | case2 start first rest space ih =>
    obtain ⟨-, later⟩ := List.forall_mem_cons.mp simple
    exact List.forall_mem_cons.mpr ⟨.inl space, ih later found⟩
  | case3 => cases found
  | case4 =>
    rename_i start first rest solid tail span token word ih
    obtain ⟨others, continued, -⟩ := Expression.map_eq_ok.mp found
    have here := legible_word simple (Bool.eq_false_iff.mpr solid) word
    have cut : tail ++ rest.drop tail.length = rest :=
      (List.prefix_iff_eq_append.mp (Expression.wordTail_prefix first rest))
    have later := ih (fun c inside => simple c (List.mem_cons_of_mem _ (List.mem_of_mem_drop inside))) continued
    intro c inside
    rw [← cut, ← List.cons_append] at inside
    rcases List.mem_append.mp inside with word | after
    · exact here c word
    · exact later c after

/-- A plain number has digits and a point. -/
theorem isSimple_of_plain (plain : Line.isPlainNumber text = true) : ∀ c ∈ text, IsSimple c := by
  intro c inside
  rw [← List.takeWhile_append_dropWhile (p := isDecimalDigit) (l := text)] at inside
  rcases List.mem_append.mp inside with front | back
  · exact .inr (.inl (List.mem_takeWhile_imp front))
  · unfold Line.isPlainNumber at plain
    split at plain
    · rename_i none
      rw [none] at back
      cases back
    · rename_i rest point
      rw [point] at back
      simp only [Bool.and_eq_true, List.all_eq_true] at plain
      rcases List.mem_cons.mp back with rfl | late
      · exact .inr (.inr (.inl rfl))
      · exact .inr (.inl (plain.2 c late))
    · cases plain

theorem isSimple_of_simpleValue (simple : Line.isSimpleValue text = true) : ∀ c ∈ text, IsSimple c := by
  have core : ∀ c ∈ trim text, IsSimple c := by
    unfold Line.isSimpleValue at simple
    split at simple
    · rename_i none
      intro c inside
      rw [none] at inside
      cases inside
    · rename_i rest minus
      rw [minus]
      exact List.forall_mem_cons.mpr ⟨.inr (.inr (.inr rfl)), isSimple_of_plain simple⟩
    · exact isSimple_of_plain simple
  obtain ⟨front, back, whole, -, blankFront, blankBack⟩ := Text.trim_cut text
  intro c inside
  rw [whole] at inside
  rcases List.mem_append.mp inside with first | rest
  · exact .inl (blankFront c first)
  · rcases List.mem_append.mp rest with middle | last
    · exact core c middle
    · exact .inl (blankBack c last)

theorem leadingNumber?_blank (empty : trim text = []) : Calculation.leadingNumber? text = none := by
  have start : trimStart text = [] := List.dropWhile_eq_nil_iff.mpr (Text.blank_of_trim empty)
  rw [Calculation.leadingNumber?, start]
  rfl

/-- A simple value evaluates to the number that it starts with exactly if it is blank, or legible with a
finite number. -/
theorem simple_evaluates_iff (simple : Line.isSimpleValue text = true) (source : Source) :
    (∃ value, evaluateText source text = .ok value ∧ (Calculation.leadingNumber? text).getD 0.0 = value) ↔
      trim text = [] ∨ Legible text ∧ ((Calculation.leadingNumber? text).getD 0.0).isFinite = true := by
  by_cases empty : trim text = []
  · have blank : (trim text).isEmpty = true := List.isEmpty_iff.mpr empty
    refine iff_of_true ⟨0.0, ?_, ?_⟩ (.inl empty)
    · rw [evaluateText, if_pos blank]
    · rw [leadingNumber?_blank empty]
      rfl
  constructor
  · rintro ⟨value, success, same⟩
    have legible : Legible text := by
      cases words : Expression.tokenize text with
      | ok located => exact legible_of_tokenizeFrom (isSimple_of_simpleValue simple) words
      | error error => simp [evaluateText, Evaluation.evaluateTree, Expression.parseText, words, empty] at success
    have whole : Evaluation.evaluate source (String.ofList text) = .ok value := by
      rwa [Evaluation.evaluate, String.toList_ofList]
    have finite := Evaluation.evaluate_finite whole
    rw [same]
    exact .inr ⟨legible, finite⟩
  · rintro (none | ⟨legible, finite⟩)
    · exact absurd none empty
    · obtain ⟨value, denotes⟩ := exists_denotes simple empty legible
      obtain ⟨leading, evaluated⟩ := denotes.agrees legible empty
      rw [leading, Option.getD_some] at finite ⊢
      exact ⟨value, by rw [evaluated, if_pos finite], rfl⟩

end

section
variable {document : Document} {entry : Variable}

theorem Calculation.State.get?_initial_inputs (consistent : document.Consistent) (inside : entry ∈ document.definitions)
    (input : entry.isInput = true) (given : Evaluation.Values) :
    (State.initial document given).inputs.get? entry.name = some (State.initialValue given entry) := by
  have listed : entry.name ∈ document.inputs := by
    rw [consistent.inputs]
    exact List.mem_map_of_mem (List.mem_filter.mpr ⟨inside, input⟩)
  obtain ⟨value, found⟩ := Option.isSome_iff_exists.mp
    (NameMap.mem_keys.mp ((State.mem_initial_inputs consistent given _).mpr listed))
  rw [found]
  rw [State.initial_inputs, NameMap.get?_ofList, Option.map_eq_some_iff] at found
  obtain ⟨⟨name, value⟩, first, rfl⟩ := found
  have same := List.find?_some first
  obtain ⟨other, member, pair⟩ := List.mem_map.mp (List.mem_reverse.mp (List.mem_of_find?_eq_some first))
  obtain ⟨rfl, rfl⟩ := Prod.mk.inj pair
  obtain ⟨name, -, known⟩ := List.mem_filterMap.mp member
  obtain rfl := List.inj_on_of_nodup_map consistent.aligned.definitions_distinct (List.mem_of_find?_eq_some known) inside
    (beq_iff_eq.mp same)
  rfl

end

namespace Calculation
open Evaluation (Source evaluate)

/-- A simple value evaluates to the number that it starts with exactly if it is blank, or legible with a finite
number; and with automatic inputs only, each input starts with the value of its expression exactly then. -/
theorem simple_agrees_iff (source : Source) :
    (∀ text : String, Line.isSimpleValue text.toList = true →
      ((∃ value, evaluate source text = .ok value ∧ (leadingNumber? text.toList).getD 0.0 = value) ↔
        trim text.toList = [] ∨ Legible text.toList ∧ ((leadingNumber? text.toList).getD 0.0).isFinite = true)) ∧
    ∀ (format : Format) (options : ReadingOptions) (text : String) (document : Document),
      Document.readAs format options text = .ok document → options.autoDetectInputs = true →
      options.explicitInputs = [] → ∀ entry ∈ document.definitions, entry.isInput = true →
        ((∃ value, evaluate source entry.expression = .ok value ∧
            (State.initial document ∅).inputs.get? entry.name = some value) ↔
          entry.expression = "" ∨ Legible entry.expression.toList ∧
            ((leadingNumber? entry.expression.toList).getD 0.0).isFinite = true) := by
  refine ⟨fun text simple => simple_evaluates_iff simple source, ?_⟩
  intro format options text document success automatic unlisted entry inside input
  obtain ⟨line, -, records⟩ := Document.records_of_readAs success inside
  have simple : Line.isSimpleValue entry.expression.toList = true := by
    rw [records.expression]
    rcases records.input.mp input with explicit | detected
    · rw [unlisted] at explicit
      cases explicit
    · exact detected.2
  have start := State.get?_initial_inputs (Document.Produced.read success).consistent inside input ∅
  have first : State.initialValue ∅ entry = (leadingNumber? entry.expression.toList).getD 0.0 := rfl
  have empty : trim entry.expression.toList = [] ↔ entry.expression = "" := by
    rw [((Document.Produced.read success).assignable inside).trimmed, String.toList_eq_nil_iff]
  rw [start, first, ← empty, ← simple_evaluates_iff simple source]
  simp only [Option.some.injEq]
  rfl

/-- An input that starts with the value of its expression. -/
theorem simple_agrees_negative :
    ∃ document entry, Document.readAs .markdown {} "x = -12" = .ok document ∧ entry ∈ document.definitions ∧
      entry.isInput = true ∧ ∀ source : Source, ∃ value, evaluate source entry.expression = .ok value ∧
        (State.initial document ∅).inputs.get? entry.name = some value := by
  let x : Variable := ⟨"x", "-12", true, "", 0, 1, ⟨0, 7⟩⟩
  have success : Document.readAs .markdown {} "x = -12" =
      .ok ⟨.markdown, "default", [⟨"", 0, 0, false, [x], [.definition x]⟩], [x], ["x"]⟩ := by rfl
  refine ⟨_, x, success, List.mem_cons_self, rfl, fun source => ?_⟩
  have legible : Legible "-12".toList := by decide
  have finite : ((leadingNumber? "-12".toList).getD 0.0).isFinite = true := by rfl
  exact ((simple_agrees_iff source).2 _ _ _ _ success rfl rfl x List.mem_cons_self rfl).mpr (.inr ⟨legible, finite⟩)

/-- A digit of another script makes an input that starts at zero, and is no expression. -/
theorem simple_disagrees :
    ∃ document entry, Document.readAs .markdown {} "x = ٣" = .ok document ∧ entry ∈ document.definitions ∧
      entry.isInput = true ∧ (State.initial document ∅).inputs.get? entry.name = some 0.0 ∧
      ∀ (source : Source) value, evaluate source entry.expression ≠ .ok value := by
  let x : Variable := ⟨"x", "٣", true, "", 0, 1, ⟨0, 6⟩⟩
  have success : Document.readAs .markdown {} "x = ٣" =
      .ok ⟨.markdown, "default", [⟨"", 0, 0, false, [x], [.definition x]⟩], [x], ["x"]⟩ := by rfl
  refine ⟨_, x, success, List.mem_cons_self, rfl, ?_, fun source value found => ?_⟩
  · have number : leadingNumber? "٣".toList = none := by rfl
    rw [State.get?_initial_inputs (Document.Produced.read success).consistent List.mem_cons_self rfl ∅]
    change some ((none <|> leadingNumber? "٣".toList).getD 0.0) = some 0.0
    rw [number]
    rfl
  · have words : Expression.tokenize "٣".toList = .error ⟨.unexpectedCharacter '٣', ⟨0, 2⟩⟩ :=
      Expression.tokenizeFrom_error rfl rfl
    have failed : Expression.parseText "٣".toList = .error ⟨.unexpectedCharacter '٣', ⟨0, 2⟩⟩ := by
      rw [Expression.parseText, words]
    change Evaluation.evaluateText source "٣".toList = .ok value at found
    rw [Evaluation.evaluateText, if_neg (by decide), Evaluation.evaluateTree, failed] at found
    cases found

end Calculation

end LiterateCalc
