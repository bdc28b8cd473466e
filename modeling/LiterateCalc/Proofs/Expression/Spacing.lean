import LiterateCalc.Proofs.Expression.Bare
import LiterateCalc.Proofs.Expression.Placement

namespace LiterateCalc.Expression
open Text (Span byteLength)

/-- Words with blanks between any two neighbours. -/
inductive Spaced : List (List Char) → List Char → Prop where
  | none : Spaced [] []
  | one : Spaced [word] word
  | more (gap : List Char) (blank : ∀ c ∈ gap, isSpace c = true) (filled : gap ≠ [])
      (later : Spaced (next :: words) text) : Spaced (word :: next :: words) (word ++ (gap ++ text))

/-- The tokens stand in the text one after the other, and all that they leave out is blank. -/
structure Covered (text : List Char) (tokens : List Located) : Prop where
  within : ∀ next ∈ tokens, next.span.start < next.span.stop ∧ next.span.stop ≤ byteLength text
  ordered : tokens.Pairwise fun first second => first.span.stop ≤ second.span.start
  blank : ∀ before c after, text = before ++ c :: after → isSpace c = true ∨
    ∃ next ∈ tokens, next.span.start ≤ byteLength before ∧ byteLength before + c.utf8Size ≤ next.span.stop

section
variable {text word gap front back : List Char} {tokens : List Located}

theorem Laid.covered (laid : Laid 0 text tokens) : Covered text tokens := by
  refine ⟨?_, laid.ordered, ?_⟩
  · intro next member
    have inside := laid.within member
    omega
  · rintro before c after rfl
    simpa using laid.blank

theorem IsWord.laid (here : IsWord word token) (pause : paused text = true)
    (later : Laid (start + byteLength word) text tokens) :
    Laid start (word ++ text) (⟨token, ⟨start, start + byteLength word⟩⟩ :: tokens) := by
  cases here with
  | intro solid read whole => exact .word solid read (whole text pause) later

theorem Laid.spaces (blank : ∀ c ∈ gap, isSpace c = true) (later : Laid (start + gap.length) text tokens) :
    Laid start (gap ++ text) tokens := by
  induction gap generalizing start with
  | nil => exact later
  | cons c gap ih =>
    obtain ⟨here, others⟩ := List.forall_mem_cons.mp blank
    refine .space here (ih others ?_)
    rwa [List.length_cons, Nat.add_comm gap.length, ← Nat.add_assoc] at later

/-- Words are read as their tokens, whatever blanks are between them. -/
theorem Spaced.laid (spaced : Spaced words text) (each : List.Forall₂ IsWord words kinds) (start : Nat) :
    ∃ located, located.map Located.token = kinds ∧ Laid start text located := by
  induction spaced generalizing kinds start with
  | none =>
    cases each
    exact ⟨[], rfl, .nil⟩
  | @one word =>
    cases each with
    | cons here none =>
      cases none
      exact ⟨_, rfl, by simpa using here.laid rfl .nil⟩
  | @more next words text word gap blank filled later ih =>
    cases each with
    | cons here others =>
      obtain ⟨located, rfl, laid⟩ := ih others (start + byteLength word + gap.length)
      exact ⟨_ :: located, rfl, here.laid (paused_append blank filled text) (.spaces blank laid)⟩

theorem bareResult_append (front : List Located) (result : Except SyntaxError (List Located)) :
    bareResult (List.map Located.bare) (result.map (front ++ ·)) =
      (bareResult (List.map Located.bare) result).map (front.map Located.bare ++ ·) :=
  bareResult_map fun _ => List.map_append

theorem bareResult_cons (next : Located) (result : Except SyntaxError (List Located)) :
    bareResult (List.map Located.bare) (result.map (next :: ·)) =
      (bareResult (List.map Located.bare) result).map (next.bare :: ·) :=
  bareResult_map fun _ => List.map_cons

/-- The words of a text do not depend on where it starts. -/
theorem tokenizeFrom_bare (start other : Nat) (text : List Char) :
    bareResult (List.map Located.bare) (tokenizeFrom start text) =
      bareResult (List.map Located.bare) (tokenizeFrom other text) := by
  induction text using words_induction generalizing start other with
  | nil => rw [tokenizeFrom_nil, tokenizeFrom_nil]
  | space first rest blank ih =>
    rw [tokenizeFrom_space blank, tokenizeFrom_space blank]
    exact ih _ _
  | word first tail rest solid whole ih =>
    cases read : readWord first tail with
    | error fault =>
      rw [tokenizeFrom_whole_error solid whole read, tokenizeFrom_whole_error solid whole read]
      rfl
    | ok token =>
      rw [tokenizeFrom_whole solid whole read, tokenizeFrom_whole solid whole read, bareResult_cons,
        bareResult_cons, ih]
      rfl

theorem parseText_bare (text : List Char) :
    bareResult withoutSpans (parseText text) =
      (bareResult (List.map Located.bare) (tokenize text)).bind (ofTokens 0) := by
  unfold parseText
  cases tokenize text with
  | error error => rfl
  | ok tokens => exact ofTokens_bare _ tokens

/-- Blanks between two words change no more than the places behind them. -/
theorem Cut.parse_bare (cut : Cut front back) (blank : ∀ c ∈ gap, isSpace c = true) :
    bareResult withoutSpans (parseText (front ++ (gap ++ back))) =
      bareResult withoutSpans (parseText (front ++ back)) := by
  by_cases filled : gap = []
  · rw [filled, List.nil_append]
  · have apart : Cut front (gap ++ back) := cut.pause (paused_append blank filled back)
    have spread : bareResult (List.map Located.bare) (tokenize (front ++ (gap ++ back))) =
        bareResult (List.map Located.bare) (tokenize (front ++ back)) := by
      unfold tokenize
      rw [apart.tokenizeFrom_eq, cut.tokenizeFrom_eq]
      cases tokenizeFrom 0 front with
      | error error => rfl
      | ok tokens =>
        simp only [Except.bind]
        rw [tokenizeFrom_spaces blank, bareResult_append, bareResult_append,
          tokenizeFrom_bare _ (0 + byteLength front)]
    rw [parseText_bare, parseText_bare, spread]

/-- The tokens of a text cover it without its blanks, and the words under them are cut into the same tokens
with any other blanks between them. Where no word of a text is cut, further blanks leave the tree or the
fault that is read from it as it is, but for the places. -/
theorem tokenize_spacing (source : String) :
    (∀ tokens, tokenize source.toList = .ok tokens →
      Covered source.toList tokens ∧ wordSpans 0 source.toList = tokens.map Located.span ∧
      ∃ words, tokens.map (fun next => next.span.slice source.toList) = words.map some ∧
        ∀ other, Spaced words other → ∃ again, tokenize other = .ok again ∧
          again.map Located.token = tokens.map Located.token) ∧
    ∀ front gap back : String, source = front ++ back →
      (∀ span ∈ wordSpans 0 source.toList,
        byteLength front.toList ≤ span.start ∨ span.stop ≤ byteLength front.toList) →
      (∀ c ∈ gap.toList, isSpace c = true) →
      bareResult withoutSpans (parse (front ++ gap ++ back)) = bareResult withoutSpans (parse source) := by
  constructor
  · intro tokens found
    have laid : Laid 0 source.toList tokens := laid_of_tokenizeFrom found
    obtain ⟨words, slices, each⟩ := laid.slices
    refine ⟨laid.covered, laid.wordSpans_eq, words, slices, ?_⟩
    intro other spaced
    obtain ⟨again, same, spread⟩ := spaced.laid each 0
    exact ⟨again, spread.tokenizeFrom_eq, same⟩
  · rintro front gap back rfl outside blank
    rw [String.toList_append] at outside
    have cut : Cut front.toList back.toList := .of_outside 0 (by simpa using outside)
    unfold parse
    simp only [String.toList_append, List.append_assoc]
    exact cut.parse_bare blank

/-- Of a number, an exponent without digits and a sign, each with blanks behind it. -/
theorem tokenize_spacing_exponent :
    ∃ tokens again, tokenize "2e+x".toList = .ok tokens ∧ tokenize "2 e\t+\r\nx".toList = .ok again ∧
      again.map Located.token = tokens.map Located.token ∧
      bareResult withoutSpans (parse ("2e" ++ " \t" ++ "+x")) = bareResult withoutSpans (parse "2e+x") := by
  obtain ⟨value, known⟩ := Option.isSome_iff_exists.mp (show (Decimal.readNumeral ['2']).isSome = true by decide)
  have found : tokenize "2e+x".toList =
      .ok [⟨.number value, ⟨0, 1⟩⟩, ⟨.identifier "e", ⟨1, 2⟩⟩, ⟨.plus, ⟨2, 3⟩⟩, ⟨.identifier "x", ⟨3, 4⟩⟩] := by
    simp [tokenize, tokenizeFrom, isSpace, wordTail, exponentWord, withDigits, readWord, isNumberCharacter, isLetter,
      isNameCharacter, isForeign, Decimal.isDigit, symbolToken?, byteLength, Char.utf8Size, Except.map, known]
  obtain ⟨_, places, words, slices, spread⟩ := (tokenize_spacing "2e+x").1 _ found
  have parts : words = [['2'], ['e'], ['+'], ['x']] := by
    apply (List.map_inj_right (f := some) fun _ _ => Option.some.inj).mp
    rw [← slices]
    simp [Text.Span.slice, Text.dropBytes, Text.takeBytes, Char.utf8Size]
  have blanks : Spaced words "2 e\t+\r\nx".toList := by
    rw [parts]
    exact .more [' '] (by simp [isSpace]) (List.cons_ne_nil _ _) <|
      .more ['\t'] (by simp [isSpace]) (List.cons_ne_nil _ _) <|
      .more ['\r', '\n'] (by simp [isSpace]) (List.cons_ne_nil _ _) .one
  obtain ⟨again, read, same⟩ := spread _ blanks
  refine ⟨_, again, found, read, same, (tokenize_spacing "2e+x").2 "2e" " \t" "+x" rfl ?_ ?_⟩
  · rw [places]
    change ∀ span ∈ [(⟨0, 1⟩ : Span), ⟨1, 2⟩, ⟨2, 3⟩, ⟨3, 4⟩], 2 ≤ span.start ∨ span.stop ≤ 2
    decide
  · simp [isSpace]

end
end LiterateCalc.Expression
