import LiterateCalc.Expression.Lexer
import LiterateCalc.Text.Blank

/-! Cutting a text into words, one word at a time, and the texts that are cut into given
tokens wherever they stand. -/
namespace LiterateCalc.Expression
open Text (Span byteLength)

section
variable {first : Char} {rest : List Char}

theorem tokenizeFrom_nil : tokenizeFrom start [] = .ok [] := by
  rw [tokenizeFrom]

theorem tokenizeFrom_space (space : isSpace first = true) :
    tokenizeFrom start (first :: rest) = tokenizeFrom (start + 1) rest := by
  rw [tokenizeFrom, if_pos space]

theorem tokenizeFrom_spaces {front : List Char} (spaces : ∀ c ∈ front, isSpace c = true) (start : Nat)
    (rest : List Char) : tokenizeFrom start (front ++ rest) = tokenizeFrom (start + front.length) rest := by
  induction front generalizing start with
  | nil => rfl
  | cons c front ih =>
    obtain ⟨here, later⟩ := List.forall_mem_cons.mp spaces
    rw [List.cons_append, tokenizeFrom_space here, ih later, List.length_cons, Nat.add_assoc, Nat.add_comm 1]

theorem tokenizeFrom_error (solid : isSpace first = false)
    (word : readWord first (wordTail first rest) = .error fault) :
    tokenizeFrom start (first :: rest) =
      .error ⟨fault, ⟨start, start + byteLength (first :: wordTail first rest)⟩⟩ := by
  rw [tokenizeFrom, if_neg (by simp [solid])]
  simp only [word]

theorem tokenizeFrom_word (solid : isSpace first = false)
    (word : readWord first (wordTail first rest) = .ok token) :
    tokenizeFrom start (first :: rest) =
      (tokenizeFrom (start + byteLength (first :: wordTail first rest))
        (rest.drop (wordTail first rest).length)).map
        (⟨token, ⟨start, start + byteLength (first :: wordTail first rest)⟩⟩ :: ·) := by
  rw [tokenizeFrom, if_neg (by simp [solid])]
  simp only [word]

/-- A letter or an underscore, then letters, digits and underscores. -/
def isName : List Char → Bool
  | first :: rest => isLetter first && rest.all isNameCharacter
  | [] => false

/-- Whether a text does not go on with the word of a name or a number before it. -/
def apart : List Char → Bool
  | [] => true
  | c :: _ => !isNameCharacter c && c != '.'

theorem apart_append {text rest : List Char} (inner : apart text = true) (outer : apart rest = true) :
    apart (text ++ rest) = true := by
  cases text with
  | nil => exact outer
  | cons c text => exact inner

theorem isNumberCharacter_of_isLetter {c : Char} (letter : isLetter c = true) :
    isNumberCharacter c = false := by
  simp only [isLetter, isNumberCharacter, Decimal.isDigit, Bool.or_eq_true, Bool.and_eq_true,
    decide_eq_true_eq, beq_iff_eq, Char.le_def, UInt32.le_iff_toNat_le, Bool.or_eq_false_iff,
    Bool.and_eq_false_iff, decide_eq_false_iff_not, beq_eq_false_iff_ne] at letter ⊢
  rcases letter with (⟨low, high⟩ | ⟨low, high⟩) | rfl
  · change 97 ≤ c.val.toNat at low
    refine ⟨.inr ?_, ?_⟩
    · change ¬ c.val.toNat ≤ 57
      omega
    · rintro rfl
      exact absurd low (by decide)
  · change 65 ≤ c.val.toNat at low
    refine ⟨.inr ?_, ?_⟩
    · change ¬ c.val.toNat ≤ 57
      omega
    · rintro rfl
      exact absurd low (by decide)
  · decide

theorem isSpace_of_isNumberCharacter {c : Char} (digit : isNumberCharacter c = true) :
    isSpace c = false := by
  cases space : isSpace c with
  | false => rfl
  | true =>
    simp only [isSpace, Bool.or_eq_true, beq_iff_eq] at space
    rcases space with ((rfl | rfl) | rfl) | rfl <;> cases digit

theorem isSpace_of_isLetter {c : Char} (letter : isLetter c = true) : isSpace c = false := by
  cases space : isSpace c with
  | false => rfl
  | true =>
    simp only [isSpace, Bool.or_eq_true, beq_iff_eq] at space
    rcases space with ((rfl | rfl) | rfl) | rfl <;> cases letter

section
variable {c : Char} (outside : c.toNat ≤ 32 ∨ 127 < c.toNat)
include outside

theorem ne_of_outside {d : Char} (low : 32 < d.toNat) (high : d.toNat ≤ 127) : c ≠ d := by
  rintro rfl
  omega

theorem not_between_of_outside {first last : Char} (low : 32 < first.toNat) (high : last.toNat ≤ 127) :
    ¬ (first ≤ c ∧ c ≤ last) := by
  rintro ⟨above, below⟩
  have above : first.toNat ≤ c.toNat := above
  have below : c.toNat ≤ last.toNat := below
  omega

theorem isNumberCharacter_of_outside : isNumberCharacter c = false := by
  have digit : ¬ ('0' ≤ c ∧ c ≤ '9') := not_between_of_outside outside (by decide) (by decide)
  have point := ne_of_outside outside (d := '.') (by decide) (by decide)
  simpa [isNumberCharacter, Decimal.isDigit, point] using digit

theorem isLetter_of_outside : isLetter c = false := by
  have lower : ¬ ('a' ≤ c ∧ c ≤ 'z') := not_between_of_outside outside (by decide) (by decide)
  have upper : ¬ ('A' ≤ c ∧ c ≤ 'Z') := not_between_of_outside outside (by decide) (by decide)
  have line := ne_of_outside outside (d := '_') (by decide) (by decide)
  simpa [isLetter, line] using And.intro lower upper

/-- Only visible characters of seven bits are parts of words. -/
theorem readWord_outside (tail : List Char) : readWord c tail = .error (.unexpectedCharacter c) := by
  have different := fun d : Char => ne_of_outside outside (d := d)
  have foreign : isForeign c = false := by simp [isForeign, different]
  have symbol : symbolToken? c = none := by
    unfold symbolToken?
    split
    all_goals first | rfl | simp at outside
  simp [readWord, isNumberCharacter_of_outside outside, isLetter_of_outside outside, foreign, symbol]

end

/-- White space is no part of any word. -/
theorem outside_of_blank {c : Char} (blank : Text.isBlank c = true) : c.toNat ≤ 32 ∨ 127 < c.toNat := by
  simp only [Text.isBlank, Bool.or_eq_true, Bool.and_eq_true, decide_eq_true_eq, beq_iff_eq] at blank
  omega

theorem tokenizeFrom_blank (blank : ∀ c ∈ text, Text.isBlank c = true)
    (found : tokenizeFrom start text = .ok tokens) : tokens = [] := by
  induction text generalizing start with
  | nil =>
    rw [tokenizeFrom_nil] at found
    exact (Except.ok.inj found).symm
  | cons c text ih =>
    cases space : isSpace c with
    | true =>
      rw [tokenizeFrom_space space] at found
      exact ih (fun d inside => blank d (List.mem_cons_of_mem c inside)) found
    | false =>
      rw [tokenizeFrom_error space (readWord_outside (outside_of_blank (blank c List.mem_cons_self)) _)] at found
      cases found

/-- A character that is a token by itself starts no longer word. -/
theorem symbolToken?_alone {c : Char} (symbol : symbolToken? c = some token) (rest : List Char) :
    isSpace c = false ∧ wordTail c rest = [] ∧ readWord c [] = .ok token ∧ byteLength [c] = 1 := by
  unfold symbolToken? at symbol
  split at symbol
  all_goals cases symbol
  all_goals exact ⟨rfl, rfl, rfl, rfl⟩

/-- A run of characters of a class ends where a character outside the class follows. -/
theorem run_append {p : Char → Bool} (inside : ∀ c ∈ text, p c = true)
    (outside : rest.takeWhile p = []) :
    (text ++ rest).takeWhile p = text ∧ (text ++ rest).dropWhile p = rest := by
  have whole := List.takeWhile_append_dropWhile (p := p) (l := rest)
  rw [outside, List.nil_append] at whole
  rw [List.takeWhile_append_of_pos inside, List.dropWhile_append_of_pos inside, outside, whole,
    List.append_nil]
  exact ⟨rfl, rfl⟩

theorem apart_stops {text : List Char} (parted : apart text = true) :
    text.takeWhile isNameCharacter = [] ∧ text.takeWhile isNumberCharacter = [] ∧
      exponentWord text = [] := by
  cases text with
  | nil => exact ⟨rfl, rfl, rfl⟩
  | cons c text =>
    simp only [apart, isNameCharacter, Bool.and_eq_true, Bool.not_eq_true', Bool.or_eq_false_iff,
      bne_iff_ne] at parted
    obtain ⟨⟨letter, digit⟩, point⟩ := parted
    have mark : ¬ (c = 'e' ∨ c = 'E') := by
      rintro (rfl | rfl) <;> cases letter
    refine ⟨?_, ?_, ?_⟩
    · simp [isNameCharacter, letter, digit]
    · simp [isNumberCharacter, digit, point]
    · simp [exponentWord, mark]

theorem wordTail_name (letter : isLetter first = true) (inside : tail.all isNameCharacter = true)
    (parted : apart rest = true) :
    isSpace first = false ∧ wordTail first (tail ++ rest) = tail ∧
      readWord first tail = .ok (.identifier (String.ofList (first :: tail))) := by
  have number := isNumberCharacter_of_isLetter letter
  have run := run_append (List.all_eq_true.mp inside) (apart_stops parted).1
  refine ⟨isSpace_of_isLetter letter, ?_, ?_⟩
  · simp [wordTail, number, letter, run.1]
  · simp [readWord, number, letter]

theorem wordTail_number {first : Char} {tail rest : List Char} (start : isNumberCharacter first = true)
    (inside : ∀ c ∈ tail, isNumberCharacter c = true)
    (known : Decimal.readNumeral (first :: tail) = some value) (parted : apart rest = true) :
    isSpace first = false ∧ wordTail first (tail ++ rest) = tail ∧
      readWord first tail = .ok (.number value) := by
  have run := run_append inside (apart_stops parted).2.1
  refine ⟨isSpace_of_isNumberCharacter start, ?_, ?_⟩
  · simp [wordTail, start, run.1, run.2, (apart_stops parted).2.2]
  · have point : ¬ (first = '.' ∧ tail = []) := by
      rintro ⟨rfl, rfl⟩
      cases known
    simp [readWord, start, point, known]

/-- The text is cut into the tokens wherever it stands, if what follows does not go on with
its last word. -/
def CutsInto (text : List Char) (tokens : List Token) : Prop :=
  ∀ start rest, apart rest = true → ∃ located, located.map Located.token = tokens ∧
    tokenizeFrom start (text ++ rest) =
      (tokenizeFrom (start + byteLength text) rest).map (located ++ ·)

theorem map_map {result : Except ε α} {change : α → β} {again : β → γ} :
    (result.map change).map again = result.map (again ∘ change) := by
  cases result <;> rfl

theorem CutsInto.nil : CutsInto [] [] := by
  intro start rest _
  refine ⟨[], rfl, ?_⟩
  rw [List.nil_append, Text.byteLength_nil, Nat.add_zero]
  cases tokenizeFrom start rest <;> rfl

theorem CutsInto.append (first : CutsInto text tokens) (second : CutsInto more others)
    (parted : apart more = true) : CutsInto (text ++ more) (tokens ++ others) := by
  intro start rest outer
  obtain ⟨front, rfl, cut⟩ := first start (more ++ rest) (apart_append parted outer)
  obtain ⟨back, rfl, cutMore⟩ := second (start + byteLength text) rest outer
  refine ⟨front ++ back, by simp, ?_⟩
  rw [List.append_assoc, cut, cutMore, Text.byteLength_append, Nat.add_assoc, map_map]
  congr 1
  funext later
  simp

theorem CutsInto.symbol (symbol : symbolToken? c = some token) (later : CutsInto text tokens) :
    CutsInto (c :: text) (token :: tokens) := by
  intro start rest outer
  obtain ⟨solid, tail, word, size⟩ := symbolToken?_alone symbol (text ++ rest)
  obtain ⟨located, rfl, cut⟩ := later (start + byteLength [c]) rest outer
  refine ⟨⟨token, ⟨start, start + byteLength [c]⟩⟩ :: located, rfl, ?_⟩
  rw [List.cons_append, tokenizeFrom_word solid (tail ▸ word), tail, List.length_nil, List.drop_zero,
    cut, map_map, Text.byteLength_cons, Text.byteLength_cons, Text.byteLength_nil]
  simp only [Nat.add_assoc, Nat.zero_add]
  congr 1

theorem CutsInto.space (later : CutsInto text tokens) : CutsInto (' ' :: text) tokens := by
  intro start rest outer
  obtain ⟨located, rfl, cut⟩ := later (start + 1) rest outer
  refine ⟨located, rfl, ?_⟩
  rw [List.cons_append, tokenizeFrom_space rfl, cut, Text.byteLength_cons, Nat.add_assoc]
  rfl

/-- A single word of more than one character is cut off where the text after it is apart. -/
theorem CutsInto.word (word : ∀ rest, apart rest = true → isSpace first = false ∧
      wordTail first (tail ++ rest) = tail ∧ readWord first tail = .ok token) :
    CutsInto (first :: tail) [token] := by
  intro start rest outer
  obtain ⟨solid, same, read⟩ := word rest outer
  refine ⟨[⟨token, ⟨start, start + byteLength (first :: tail)⟩⟩], rfl, ?_⟩
  rw [List.cons_append, tokenizeFrom_word solid (same.symm ▸ read), same, List.drop_left]
  rfl

theorem CutsInto.name {name : String} (valid : isName name.toList = true) :
    CutsInto name.toList [.identifier name] := by
  cases characters : name.toList with
  | nil =>
    rw [characters] at valid
    cases valid
  | cons first tail =>
    rw [characters, isName, Bool.and_eq_true] at valid
    have same : String.ofList (first :: tail) = name := by rw [← characters, String.ofList_toList]
    rw [← same]
    exact .word fun rest outer => wordTail_name valid.1 valid.2 outer

theorem CutsInto.number {text : List Char} (inside : ∀ c ∈ text, isNumberCharacter c = true)
    (known : Decimal.readNumeral text = some value) : CutsInto text [.number value] := by
  cases text with
  | nil => cases known
  | cons first tail =>
    exact .word fun rest outer => wordTail_number (inside first (by simp))
      (fun c member => inside c (by simp [member])) known outer

theorem closing_cut : CutsInto [')'] [.rightParen] := .symbol rfl .nil

theorem CutsInto.tokenize (cut : CutsInto text tokens) :
    ∃ located, located.map Located.token = tokens ∧ tokenize text = .ok located := by
  obtain ⟨located, same, found⟩ := cut 0 [] rfl
  rw [List.append_nil, tokenizeFrom_nil] at found
  refine ⟨located, same, ?_⟩
  rw [Expression.tokenize, found]
  simp [Except.map]

theorem map_eq_closed {located : List Located} (same : located.map Located.token = tokens ++ [.rightParen]) :
    ∃ inside closing, located = inside ++ [⟨.rightParen, closing⟩] ∧ inside.map Located.token = tokens := by
  obtain ⟨inside, back, rfl, inner, closed⟩ := List.map_eq_append_iff.mp same
  obtain ⟨⟨_, closing⟩, none, rfl, rfl, empty⟩ := List.map_eq_cons_iff.mp closed
  obtain rfl := List.map_eq_nil_iff.mp empty
  exact ⟨inside, closing, rfl, inner⟩

end
end LiterateCalc.Expression
