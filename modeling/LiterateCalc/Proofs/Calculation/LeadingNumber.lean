import LiterateCalc.Calculation.State
import LiterateCalc.Proofs.Decimal.Longest
import LiterateCalc.Proofs.Expression.Spans

namespace LiterateCalc
open Text (isBlank trimStart byteLength)

section
variable {text front back : List Char} {value : Float}

theorem Decimal.Written.visible (written : Decimal.Written text value) : ∀ c ∈ text, isBlank c = false := by
  intro c inside
  have seen := (written.marks c inside).visible
  refine Bool.eq_false_iff.mpr fun blank => ?_
  have outside := Expression.outside_of_blank blank
  omega

/-- Blanks do not go on with the number before them. -/
theorem Decimal.Written.longest (written : Decimal.Written front value) (blank : ∀ c ∈ back, isBlank c = true) :
    Decimal.Longest (front ++ back) front value := by
  refine ⟨List.prefix_append front back, written, fun other number starts also => ?_⟩
  rcases List.prefix_or_prefix_of_prefix starts (List.prefix_append front back) with within | ⟨more, rfl⟩
  · exact within.length_le
  · cases more with
    | nil => exact Nat.le_of_eq (by rw [List.append_nil])
    | cons c more =>
      have seen := also.visible c (List.mem_append_right front List.mem_cons_self)
      have inside := (List.prefix_append_right_inj front).mp starts
      rw [blank c (inside.subset List.mem_cons_self)] at seen
      cases seen

/-- Blanks in front of a number are trimmed, and nothing else. -/
theorem Decimal.Written.trimStart_eq (written : Decimal.Written front value)
    (blank : ∀ c ∈ before, isBlank c = true) : trimStart (before ++ (front ++ back)) = front ++ back := by
  obtain ⟨c, rest, rfl⟩ := List.exists_cons_of_ne_nil written.ne_nil
  rw [trimStart, List.dropWhile_append_of_pos blank, List.cons_append,
    List.dropWhile_cons_of_neg (by simp [written.visible c List.mem_cons_self])]

end

namespace Expression

theorem isBlank_of_isSpace {c : Char} (space : isSpace c = true) : isBlank c = true := by
  simp only [isSpace, Bool.or_eq_true, beq_iff_eq] at space
  rcases space with ((rfl | rfl) | rfl) | rfl <;> rfl

theorem IsWord.unsigned (here : IsWord word (.number value)) :
    ∃ numeral, Decimal.Unsigned word numeral ∧ value = numeral.toFloat := by
  cases here with
  | @intro first tail _ solid read whole =>
    rcases readWord_kind read with ⟨number, -⟩ | ⟨-, same⟩ | symbol
    · rw [readWord, if_pos number] at read
      split at read
      · cases read
      · split at read
        · rename_i found known
          obtain rfl := Token.number.inj (Except.ok.inj read)
          exact Decimal.readNumeral_sound known
        · cases read
    · cases same
    · unfold symbolToken? at symbol
      split at symbol <;> cases symbol

/-- The tokens of a number, right after a minus sign or without one. -/
inductive OneNumber : List Located → Prop
  | plain : OneNumber [⟨.number value, span⟩]
  | negative (joined : sign.stop = span.start) : OneNumber [⟨.minus, sign⟩, ⟨.number value, span⟩]

/-- A text is a number between blanks, and the value of the number is that of the expression. -/
structure Shows (text : List Char) (tokens : List Located) (value : Float) : Prop where
  framed : ∃ before front back, text = before ++ (front ++ back) ∧ (∀ c ∈ before, isBlank c = true) ∧
    (∀ c ∈ back, isBlank c = true) ∧ Decimal.Written front value
  evaluated : ∀ stop, ∃ tree, ofTokens stop tokens = .ok tree ∧
    ∀ source, Evaluation.evaluateAt source 0 tree = .ok value

theorem Laid.number (laid : Laid start text [⟨.number value, span⟩]) :
    ∃ before word after numeral, text = before ++ (word ++ after) ∧ (∀ c ∈ before, isBlank c = true) ∧
      (∀ c ∈ after, isBlank c = true) ∧ span.start = start + byteLength before ∧
      Decimal.Unsigned word numeral ∧ value = numeral.toFloat := by
  have parted : Laid start text ([] ++ [⟨.number value, span⟩]) := laid
  obtain ⟨before, word, after, whole, here, place, earlier, later⟩ := parted.split
  obtain ⟨numeral, unsigned, same⟩ := here.unsigned
  exact ⟨before, word, after, numeral, whole, fun c inside => isBlank_of_isSpace (earlier.blank_of_nil c inside),
    fun c inside => isBlank_of_isSpace (later.blank_of_nil c inside), congrArg Text.Span.start place, unsigned, same⟩

theorem OneNumber.shows (one : OneNumber tokens) (laid : Laid 0 text tokens) : ∃ value, Shows text tokens value := by
  cases one with
  | @plain value span =>
    obtain ⟨before, word, after, numeral, whole, blank, also, -, unsigned, rfl⟩ := laid.number
    exact ⟨_, ⟨before, word, after, whole, blank, also, .intro .none unsigned⟩,
      fun stop => ⟨.number numeral.toFloat, rfl, fun source => rfl⟩⟩
  | @negative sign span value joined =>
    obtain ⟨before, rest, rfl, blank, stops, later⟩ := laid.first (c := '-') rfl
    obtain ⟨gap, word, after, numeral, rfl, -, also, starts, unsigned, rfl⟩ := later.number
    -- The number starts where the sign stops, so that nothing stands between them.
    have none : gap = [] := by
      by_contra some
      have size := byteLength_pos some
      omega
    refine ⟨-numeral.toFloat, ⟨before, '-' :: word, after, ?_, ?_, also, ?_⟩,
      fun stop => ⟨.unary .minus (.number numeral.toFloat), rfl, fun source => rfl⟩⟩
    · rw [none, List.nil_append, List.cons_append]
    · exact fun c inside => isBlank_of_isSpace (blank c inside)
    · exact .intro .minus unsigned

end Expression

namespace Calculation
open Decimal (Written Longest readNumber)
open Expression (OneNumber tokenize parseText)
open Evaluation (Source evaluateAt)

/-- A text without its leading blanks starts with a number exactly if one is found, and then the longest such
number is. Where the tokens are one number, perhaps right after a minus sign, it is their expression's value. -/
theorem leadingNumber?_longest (text : List Char) :
    (leadingNumber? text = none ↔ ∀ front value, front <+: trimStart text → ¬ Written front value) ∧
    (∀ value, leadingNumber? text = some value ↔ ∃ front, Longest (trimStart text) front value) ∧
    (∀ front value, Written front value → readNumber front = some value) ∧
    ∀ tokens, tokenize text = .ok tokens → OneNumber tokens →
      ∃ tree value, parseText text = .ok tree ∧ leadingNumber? text = some value ∧
        ∀ source : Source, evaluateAt source 0 tree = .ok value := by
  refine ⟨Decimal.scanSigned_eq_none, fun value => ⟨Decimal.longest_of_scanSigned, ?_⟩,
    fun front value written => written.readNumber_eq, ?_⟩
  · rintro ⟨front, longest⟩
    exact longest.scanSigned_eq
  · intro tokens words one
    obtain ⟨value, ⟨before, front, back, whole, blank, also, written⟩, evaluated⟩ :=
      one.shows (Expression.laid_of_tokenizeFrom words)
    obtain ⟨tree, read, evaluates⟩ := evaluated (byteLength text)
    refine ⟨tree, value, ?_, ?_, evaluates⟩
    · rw [parseText, words]
      exact read
    · rw [leadingNumber?, whole, written.trimStart_eq blank]
      exact (written.longest also).scanSigned_eq

/-- Of a sign with a point, of a number whose exponent has no digits, and of a number between blanks. -/
theorem leadingNumber?_longest_runs :
    (∀ front value, front <+: trimStart "-.e1".toList → ¬ Written front value) ∧
    (∃ front, Longest (trimStart " 2.e+x".toList) front 2.0) ∧
    ∃ tree value, parseText " -1.5e3\t".toList = .ok tree ∧ leadingNumber? " -1.5e3\t".toList = some value ∧
      ∀ source : Source, evaluateAt source 0 tree = .ok value := by
  refine ⟨(leadingNumber?_longest _).1.mp rfl, ((leadingNumber?_longest _).2.1 _).mp rfl, ?_⟩
  have words : tokenize " -1.5e3\t".toList = .ok [⟨.minus, ⟨1, 2⟩⟩, ⟨.number 1.5e3, ⟨2, 7⟩⟩] := by
    simp [tokenize, Expression.tokenizeFrom, Expression.isSpace, Expression.wordTail, Expression.readWord,
      Expression.isNumberCharacter, Expression.isLetter, Expression.isForeign, Decimal.isDigit,
      Expression.symbolToken?, byteLength, Char.utf8Size, Except.map, Expression.exponentWord, Expression.withDigits]
    rfl
  exact (leadingNumber?_longest _).2.2.2 _ words (.negative rfl)

end Calculation
end LiterateCalc
