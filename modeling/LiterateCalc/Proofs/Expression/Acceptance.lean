import LiterateCalc.Proofs.Expression.GrammarCompleteness
import LiterateCalc.Proofs.Expression.Words

namespace LiterateCalc.Expression
open Text (byteLength)

/-- The faults of words that are no tokens. -/
def Fault.isLexical : Fault → Bool
  | .unexpectedCharacter _ | .unsupportedOperator _ | .invalidNumber _ => true
  | _ => false

/-- The faults of tokens that are no expression. -/
def Fault.isGrammatical : Fault → Bool
  | .unexpectedToken _ | .unexpectedEnd | .unclosedParen | .trailingInput _ => true
  | _ => false

theorem readWord_fault (failed : readWord first tail = .error fault) : fault.isLexical = true := by
  unfold readWord at failed
  repeat' split at failed
  all_goals cases failed
  all_goals rfl

theorem tokenizeFrom_fault {text : List Char} (failed : tokenizeFrom start text = .error error) :
    error.fault.isLexical = true := by
  induction size : text.length using Nat.strongRecOn generalizing start text with
  | _ size ih =>
    cases text with
    | nil =>
      rw [tokenizeFrom_nil] at failed
      cases failed
    | cons first rest =>
      simp only [List.length_cons] at size
      cases space : isSpace first with
      | true =>
        rw [tokenizeFrom_space space] at failed
        exact ih rest.length (by omega) failed rfl
      | false =>
        cases word : readWord first (wordTail first rest) with
        | error fault =>
          rw [tokenizeFrom_error space word] at failed
          obtain rfl := Except.error.inj failed
          exact readWord_fault word
        | ok token =>
          rw [tokenizeFrom_word space word, map_eq_error] at failed
          exact ih (rest.drop _).length (by simp only [List.length_drop]; omega) failed rfl

theorem Derives.ofTokens (phrase : Derives .sum tokens tree) (stop : Nat) :
    ofTokens stop tokens = .ok tree ∨ ∃ span, ofTokens stop tokens = .error ⟨.tooDeep, span⟩ := by
  rw [ofTokens_eq]
  rcases phrase.read stop maxNesting with done | ⟨span, deep⟩
  · exact .inl (by rw [done]; rfl)
  · exact .inr ⟨span, by rw [deep]; rfl⟩

theorem ofTokens_tooDeep (failed : ofTokens stop tokens = .error error)
    (deep : error.fault = .tooDeep) : maxNesting ≤ tokens.length := by
  rw [ofTokens_eq, bind_eq_error] at failed
  rcases failed with reading | ⟨⟨tree, rest⟩, _, trailing⟩
  · exact levels_le_length reading deep
  · split at trailing
    · cases trailing
    · obtain rfl := Except.error.inj trailing
      cases deep

theorem parse_eq_ok (found : parse source = .ok tree) :
    ∃ tokens, tokenize source.toList = .ok tokens ∧
      ofTokens (byteLength source.toList) tokens = .ok tree := by
  unfold parse parseText at found
  cases words : tokenize source.toList with
  | error error => simp [words] at found
  | ok tokens => exact ⟨tokens, rfl, by simpa [words] using found⟩

/-- A name by itself is a reference. -/
theorem parse_name (name : String) (valid : isName name.toList = true) :
    parse name = .ok (.reference name ⟨0, byteLength name.toList⟩) := by
  cases characters : name.toList with
  | nil =>
    rw [characters] at valid
    cases valid
  | cons first tail =>
    rw [characters, isName, Bool.and_eq_true] at valid
    obtain ⟨solid, whole, read⟩ := wordTail_name valid.1 valid.2 (rfl : apart [] = true)
    have same : String.ofList (first :: tail) = name := by rw [← characters, String.ofList_toList]
    rw [same] at read
    rw [List.append_nil] at whole
    have tokens : tokenize (first :: tail) = .ok [⟨.identifier name, ⟨0, byteLength (first :: tail)⟩⟩] := by
      rw [tokenize, tokenizeFrom_word solid (whole.symm ▸ read), whole, List.drop_length, tokenizeFrom_nil,
        Nat.zero_add]
      rfl
    rw [parse, characters, parseText, tokens]
    rfl

/-- A blank text has no tokens to read. -/
theorem parse_blank (blank : ∀ c ∈ source.toList, Text.isBlank c = true) (tree : Expression) :
    parse source ≠ .ok tree := by
  intro found
  obtain ⟨tokens, words, read⟩ := parse_eq_ok found
  obtain rfl := tokenizeFrom_blank blank words
  cases read

/-- A text with a fault that is not lexical has tokens. -/
theorem parse_eq_error (failed : parse source = .error error) (later : error.fault.isLexical = false) :
    ∃ tokens, tokenize source.toList = .ok tokens ∧
      ofTokens (byteLength source.toList) tokens = .error error := by
  unfold parse parseText at failed
  cases words : tokenize source.toList with
  | error fault =>
    have same : fault = error := by simpa [words] using failed
    rw [← same, tokenizeFrom_fault words] at later
    cases later
  | ok tokens => exact ⟨tokens, rfl, by simpa [words] using failed⟩

/-- A text is read as the tree that the grammar derives from its tokens. Every other text
has a fault: tokens with a grammatical fault have no derivation, and only more than 255
tokens nest too deep. No tokens have two derivations. -/
theorem parse_exact (source : String) :
    (∀ tree, parse source = .ok tree →
      ∃ tokens, tokenize source.toList = .ok tokens ∧ Derives .sum tokens tree) ∧
    (∀ error, parse source = .error error → error.fault.isGrammatical = true →
      ∃ tokens, tokenize source.toList = .ok tokens ∧ ∀ tree, ¬ Derives .sum tokens tree) ∧
    (∀ error, parse source = .error error → error.fault = .tooDeep →
      ∃ tokens, tokenize source.toList = .ok tokens ∧ 255 < tokens.length) ∧
    (∀ tokens tree, tokenize source.toList = .ok tokens → Derives .sum tokens tree →
      parse source = .ok tree ∨ ∃ span, parse source = .error ⟨.tooDeep, span⟩) ∧
    ∀ tokens tree other, Derives .sum tokens tree → Derives .sum tokens other → tree = other := by
  refine ⟨?_, ?_, ?_, ?_, fun _ _ _ first second => first.unique second⟩
  · intro tree found
    obtain ⟨tokens, words, read⟩ := parse_eq_ok found
    exact ⟨tokens, words, ofTokens_sound read⟩
  · intro error failed grammatical
    have later : error.fault.isLexical = false := by
      cases same : error.fault <;> simp_all [Fault.isGrammatical, Fault.isLexical]
    obtain ⟨tokens, words, unread⟩ := parse_eq_error failed later
    refine ⟨tokens, words, ?_⟩
    intro tree phrase
    rcases phrase.ofTokens (byteLength source.toList) with done | ⟨span, deep⟩
    · rw [done] at unread
      cases unread
    · rw [deep] at unread
      obtain rfl := Except.error.inj unread
      cases grammatical
  · intro error failed deep
    have later : error.fault.isLexical = false := by rw [deep]; rfl
    obtain ⟨tokens, words, unread⟩ := parse_eq_error failed later
    exact ⟨tokens, words, ofTokens_tooDeep unread deep⟩
  · intro tokens tree words phrase
    unfold parse parseText
    rw [words]
    exact phrase.ofTokens _

/-- Signs and powers on both sides of a product, and a text that nothing derives. -/
theorem parse_exact_signed_powers :
    (∃ tokens, tokenize "a ^ -b ^ c * -d".toList = .ok tokens ∧ Derives .sum tokens
      (.binary .multiply
        (.binary .power (.reference "a" ⟨0, 1⟩)
          (.unary .minus (.binary .power (.reference "b" ⟨5, 6⟩) (.reference "c" ⟨9, 10⟩))))
        (.unary .minus (.reference "d" ⟨14, 15⟩)))) ∧
    ∃ tokens, tokenize "a + * b".toList = .ok tokens ∧ ∀ tree, ¬ Derives .sum tokens tree := by
  constructor
  · have words : tokenize "a ^ -b ^ c * -d".toList =
        .ok [⟨.identifier "a", ⟨0, 1⟩⟩, ⟨.caret, ⟨2, 3⟩⟩, ⟨.minus, ⟨4, 5⟩⟩, ⟨.identifier "b", ⟨5, 6⟩⟩,
          ⟨.caret, ⟨7, 8⟩⟩, ⟨.identifier "c", ⟨9, 10⟩⟩, ⟨.star, ⟨11, 12⟩⟩, ⟨.minus, ⟨13, 14⟩⟩,
          ⟨.identifier "d", ⟨14, 15⟩⟩] := by
      simp [tokenize, tokenizeFrom, isSpace, wordTail, readWord, isNumberCharacter, isLetter,
        isNameCharacter, isForeign, Decimal.isDigit, symbolToken?, byteLength, Char.utf8Size, Except.map]
    have found : parse "a ^ -b ^ c * -d" = .ok (.binary .multiply
        (.binary .power (.reference "a" ⟨0, 1⟩)
          (.unary .minus (.binary .power (.reference "b" ⟨5, 6⟩) (.reference "c" ⟨9, 10⟩))))
        (.unary .minus (.reference "d" ⟨14, 15⟩))) := by
      unfold parse parseText
      rw [words]
      rfl
    exact (parse_exact "a ^ -b ^ c * -d").1 _ found
  · have words : tokenize "a + * b".toList =
        .ok [⟨.identifier "a", ⟨0, 1⟩⟩, ⟨.plus, ⟨2, 3⟩⟩, ⟨.star, ⟨4, 5⟩⟩, ⟨.identifier "b", ⟨6, 7⟩⟩] := by
      simp [tokenize, tokenizeFrom, isSpace, wordTail, readWord, isNumberCharacter, isLetter,
        isNameCharacter, isForeign, Decimal.isDigit, symbolToken?, byteLength, Char.utf8Size, Except.map]
    have failed : parse "a + * b" = .error ⟨.unexpectedToken .star, ⟨4, 5⟩⟩ := by
      unfold parse parseText
      rw [words]
      rfl
    exact (parse_exact "a + * b").2.1 _ failed rfl

end LiterateCalc.Expression
