import LiterateCalc.Proofs.Expression.Cuts
import LiterateCalc.Proofs.Expression.Reading
import Mathlib.Data.List.Forall2

namespace LiterateCalc.Expression
open Text (Span byteLength)

/-- A word with its token, cut off where the text after it pauses. -/
inductive IsWord : List Char → Token → Prop where
  | intro (solid : isSpace first = false) (read : readWord first tail = .ok token)
      (whole : ∀ rest, paused rest = true → wordTail first (tail ++ rest) = tail) :
      IsWord (first :: tail) token

/-- A text that is cut into the tokens, the first of its bytes standing at `start`. -/
inductive Laid : Nat → List Char → List Located → Prop where
  | nil : Laid start [] []
  | space (blank : isSpace first = true) (later : Laid (start + 1) text tokens) :
      Laid start (first :: text) tokens
  | word (solid : isSpace first = false) (read : readWord first tail = .ok token)
      (whole : wordTail first (tail ++ text) = tail)
      (later : Laid (start + byteLength (first :: tail)) text tokens) :
      Laid start (first :: (tail ++ text)) (⟨token, ⟨start, start + byteLength (first :: tail)⟩⟩ :: tokens)

section
variable {text word : List Char} {tokens front back : List Located} {next : Located}

theorem IsWord.filled (here : IsWord word token) : word ≠ [] := by
  cases here
  exact List.cons_ne_nil _ _

theorem IsWord.of_whole (solid : isSpace first = false) (read : readWord first tail = .ok token)
    (whole : wordTail first (tail ++ text) = tail) : IsWord (first :: tail) token := by
  refine .intro solid read ?_
  intro rest pause
  have within : (wordTail first (tail ++ text)).length ≤ tail.length := Nat.le_of_eq (congrArg List.length whole)
  rw [wordTail_swap within pause, whole]

/-- What a word starts with tells which kind of token it is. -/
theorem readWord_kind (read : readWord first tail = .ok token) :
    (isNumberCharacter first = true ∧ ∃ value, token = .number value) ∨
      (isLetter first = true ∧ token = .identifier (String.ofList (first :: tail))) ∨
      symbolToken? first = some token := by
  unfold readWord at read
  repeat' split at read
  all_goals cases read
  · rename_i number _ _ value _
    exact .inl ⟨number, value, rfl⟩
  · rename_i letter
    exact .inr (.inl ⟨letter, rfl⟩)
  · rename_i symbol
    exact .inr (.inr symbol)

theorem symbolToken?_inj (first : symbolToken? c = some token) (second : symbolToken? d = some token) : c = d := by
  unfold symbolToken? at first second
  split at first <;> cases first <;> split at second <;> cases second <;> rfl

theorem IsWord.eq_name {name : String} (here : IsWord word (.identifier name)) : word = name.toList := by
  cases here with
  | intro solid read whole =>
    rcases readWord_kind read with ⟨_, value, same⟩ | ⟨_, same⟩ | symbol
    · cases same
    · rw [Token.identifier.inj same, String.toList_ofList]
    · unfold symbolToken? at symbol
      split at symbol <;> cases symbol

/-- A token with a symbol of its own is read from that symbol alone. -/
theorem IsWord.eq_symbol (here : IsWord word token) (symbol : symbolToken? c = some token) : word = [c] := by
  cases here with
  | @intro first tail _ solid read whole =>
    rcases readWord_kind read with ⟨_, value, rfl⟩ | ⟨_, rfl⟩ | same
    · unfold symbolToken? at symbol
      split at symbol <;> cases symbol
    · unfold symbolToken? at symbol
      split at symbol <;> cases symbol
    · have alone : tail = [] := (whole [] rfl).symm.trans (symbolToken?_alone same _).2.1
      rw [alone, symbolToken?_inj same symbol]

theorem laid_of_tokenizeFrom (found : tokenizeFrom start text = .ok tokens) : Laid start text tokens := by
  induction text using words_induction generalizing start tokens with
  | nil =>
    rw [tokenizeFrom_nil] at found
    obtain rfl := Except.ok.inj found
    exact .nil
  | space first rest blank ih =>
    rw [tokenizeFrom_space blank] at found
    exact .space blank (ih found)
  | word first tail rest solid whole ih =>
    cases read : readWord first tail with
    | error fault =>
      rw [tokenizeFrom_whole_error solid whole read] at found
      cases found
    | ok token =>
      rw [tokenizeFrom_whole solid whole read, map_eq_ok] at found
      obtain ⟨others, later, rfl⟩ := found
      exact .word solid read whole (ih later)

theorem Laid.tokenizeFrom_eq (laid : Laid start text tokens) : tokenizeFrom start text = .ok tokens := by
  induction laid with
  | nil => exact tokenizeFrom_nil
  | space blank _ ih => rw [tokenizeFrom_space blank, ih]
  | word solid read whole _ ih =>
    rw [tokenizeFrom_whole solid whole read, ih]
    rfl

/-- In a text of tokens every word is one of them. -/
theorem Laid.wordSpans_eq (laid : Laid start text tokens) : wordSpans start text = tokens.map Located.span := by
  induction laid with
  | nil => rw [wordSpans, List.map_nil]
  | space blank _ ih => rw [wordSpans_space blank, ih]
  | word solid _ whole _ ih => rw [wordSpans_word solid whole, ih, List.map_cons]

/-- A token stands between the texts of the tokens before it and of those after it. -/
theorem Laid.split (laid : Laid start text (front ++ next :: back)) :
    ∃ before word after, text = before ++ (word ++ after) ∧ IsWord word next.token ∧
      next.span = ⟨start + byteLength before, start + byteLength before + byteLength word⟩ ∧
      Laid start before front ∧ Laid next.span.stop after back := by
  generalize same : front ++ next :: back = tokens at laid
  induction laid generalizing front with
  | nil => exact absurd same (List.append_ne_nil_of_right_ne_nil _ (List.cons_ne_nil _ _))
  | @space first start text tokens blank _ ih =>
    obtain ⟨before, word, after, rfl, here, place, earlier, later⟩ := ih same
    refine ⟨first :: before, word, after, rfl, here, ?_, .space blank earlier, later⟩
    rw [place, Text.byteLength_cons, utf8Size_of_isSpace blank, Nat.add_assoc]
  | @word first tail token text start tokens solid read whole later ih =>
    cases front with
    | nil =>
      obtain ⟨rfl, rfl⟩ := List.cons.inj same
      exact ⟨[], first :: tail, text, rfl, .of_whole solid read whole, rfl, .nil, later⟩
    | cons previous front =>
      -- The last word before the token still ends there when the token is taken away.
      obtain ⟨rfl, others⟩ := List.cons.inj same
      obtain ⟨before, word, after, rfl, here, place, earlier, behind⟩ := ih others
      have alone := Cut.wordTail_alone whole
      refine ⟨first :: (tail ++ before), word, after, by simp, here, ?_, .word solid read alone earlier, behind⟩
      rw [place, ← List.cons_append, Text.byteLength_append, Nat.add_assoc start]

/-- A token covers at least one byte, within the text. -/
theorem Laid.within (laid : Laid start text tokens) (member : next ∈ tokens) :
    start ≤ next.span.start ∧ next.span.start < next.span.stop ∧ next.span.stop ≤ start + byteLength text := by
  obtain ⟨front, back, rfl⟩ := List.append_of_mem member
  obtain ⟨before, word, after, rfl, here, place, _, _⟩ := laid.split
  have positive := byteLength_pos here.filled
  simp only [place, Text.byteLength_append]
  omega

/-- Every token ends before the next one starts. -/
theorem Laid.ordered (laid : Laid start text tokens) :
    tokens.Pairwise fun first second => first.span.stop ≤ second.span.start := by
  induction laid with
  | nil => exact .nil
  | space _ _ ih => exact ih
  | word _ _ _ later ih => exact List.pairwise_cons.mpr ⟨fun _ member => (later.within member).1, ih⟩

/-- A character of a text stands behind a word at its front or inside the word. -/
theorem behind_or_inside (same : before ++ c :: after = word ++ text) :
    (∃ more, before = word ++ more ∧ text = more ++ c :: after) ∨ ∃ inside, word = before ++ c :: inside := by
  rcases List.append_eq_append_iff.mp same with ⟨inside, covered, rest⟩ | ⟨more, parted, rest⟩
  · cases inside with
    | nil => exact .inl ⟨[], by simpa using covered.symm, rest.symm⟩
    | cons d inside =>
      obtain ⟨rfl, _⟩ := List.cons.inj rest
      exact .inr ⟨inside, covered⟩
  · exact .inl ⟨more, parted, rest⟩

/-- What no token covers is blank. -/
theorem Laid.blank (laid : Laid start (before ++ c :: after) tokens) :
    isSpace c = true ∨ ∃ next ∈ tokens, next.span.start ≤ start + byteLength before ∧
      start + byteLength before + c.utf8Size ≤ next.span.stop := by
  generalize same : before ++ c :: after = text at laid
  induction laid generalizing before with
  | nil => exact absurd same (List.append_ne_nil_of_right_ne_nil _ (List.cons_ne_nil _ _))
  | @space first start text tokens blank _ ih =>
    cases before with
    | nil =>
      obtain ⟨rfl, _⟩ := List.cons.inj same
      exact .inl blank
    | cons d before =>
      obtain ⟨rfl, others⟩ := List.cons.inj same
      rw [Text.byteLength_cons, utf8Size_of_isSpace blank, ← Nat.add_assoc]
      exact ih others
  | @word first tail token text start tokens solid read whole later ih =>
    rw [← List.cons_append] at same
    rcases behind_or_inside same with ⟨more, rfl, rfl⟩ | ⟨inside, covered⟩
    · rw [Text.byteLength_append, ← Nat.add_assoc]
      exact (ih rfl).imp_right fun ⟨next, member, place⟩ => ⟨next, List.mem_cons_of_mem _ member, place⟩
    · refine .inr ⟨_, List.mem_cons_self, Nat.le_add_right _ _, ?_⟩
      simp only [covered, Text.byteLength_append, Text.byteLength_cons]
      omega

/-- The part of a text that a token covers is the word that the token is read from. -/
theorem Laid.slice (laid : Laid 0 text tokens) (member : next ∈ tokens) :
    ∃ word, next.span.slice text = some word ∧ IsWord word next.token := by
  obtain ⟨front, back, rfl⟩ := List.append_of_mem member
  obtain ⟨before, word, after, rfl, here, place, _, _⟩ := laid.split
  refine ⟨word, ?_, here⟩
  rw [place, Nat.zero_add, Text.Span.slice_append]

theorem Laid.slices (laid : Laid 0 text tokens) :
    ∃ words, tokens.map (fun next => next.span.slice text) = words.map some ∧
      List.Forall₂ IsWord words (tokens.map Located.token) := by
  have each := fun next (member : next ∈ tokens) => laid.slice member
  clear laid
  induction tokens with
  | nil => exact ⟨[], rfl, .nil⟩
  | cons next tokens ih =>
    obtain ⟨⟨word, covered, here⟩, others⟩ := List.forall_mem_cons.mp each
    obtain ⟨words, slices, later⟩ := ih others
    exact ⟨word :: words, by rw [List.map_cons, covered, slices, List.map_cons], .cons here later⟩

end
end LiterateCalc.Expression
