import LiterateCalc.Proofs.Expression.Words

/-! Cutting a text between two of its words. A word looks at what follows it to find its end, but a blank
or the end of the text never makes it shorter or longer: the two parts are cut into the same words. -/
namespace LiterateCalc.Expression
open Text (Span byteLength)

section
variable {first : Char} {front back rest : List Char} {p : Char → Bool}

/-- Whether a text does not go on with any word before it: it is empty or starts with a blank. -/
def paused : List Char → Bool
  | [] => true
  | c :: _ => isSpace c

theorem paused_append {gap : List Char} (blank : ∀ c ∈ gap, isSpace c = true) (filled : gap ≠ [])
    (rest : List Char) : paused (gap ++ rest) = true := by
  cases gap with
  | nil => exact absurd rfl filled
  | cons c gap => exact blank c List.mem_cons_self

/-- What no blank is, is not found at the front of a text that pauses. -/
theorem takeWhile_paused (solid : ∀ c, p c = true → isSpace c = false) (pause : paused rest = true) :
    rest.takeWhile p = [] := by
  cases rest with
  | nil => rfl
  | cons c rest =>
    have outside : ¬ p c = true := by
      intro inside
      rw [paused, solid c inside] at pause
      cases pause
    rw [List.takeWhile_cons, if_neg outside]

theorem isSpace_of_isDigit (c : Char) (digit : Decimal.isDigit c = true) : isSpace c = false :=
  isSpace_of_isNumberCharacter (by rw [isNumberCharacter, digit, Bool.true_or])

theorem isSpace_of_isNameCharacter (c : Char) (inside : isNameCharacter c = true) : isSpace c = false := by
  rcases Bool.or_eq_true_iff.mp inside with letter | digit
  · exact isSpace_of_isLetter letter
  · exact isSpace_of_isDigit c digit

theorem second_of_joins (joined : joins first second = true) : second = '=' ∨ second = '&' ∨ second = '|' := by
  unfold joins at joined
  split at joined <;> simp_all

theorem isSpace_of_joins (joined : joins first second = true) : isSpace second = false := by
  rcases second_of_joins joined with rfl | rfl | rfl <;> rfl

/-- A run of characters that ends within the front of a text is a run of the front. -/
theorem run_front (within : ((front ++ back).takeWhile p).length ≤ front.length) :
    (front ++ back).takeWhile p = front.takeWhile p ∧
      (front ++ back).dropWhile p = front.dropWhile p ++ back := by
  have parted := List.takeWhile_append_dropWhile (p := p) (l := front ++ back)
  have inner := List.takeWhile_append_dropWhile (p := p) (l := front)
  have same : (front ++ back).takeWhile p = front.takeWhile p := by
    rw [List.takeWhile_append] at within ⊢
    split
    · rename_i whole
      rw [if_pos whole, List.length_append] at within
      have full : front.takeWhile p = front := (List.takeWhile_prefix p).eq_of_length whole
      rw [List.length_eq_zero_iff.mp (show (back.takeWhile p).length = 0 by omega), List.append_nil, full]
    · rfl
  refine ⟨same, ?_⟩
  rw [same] at parted
  exact List.append_cancel_left (parted.trans (by rw [← List.append_assoc, inner]))

theorem run_within (outside : rest.takeWhile p = []) :
    ((front ++ rest).takeWhile p).length ≤ front.length := by
  rw [List.takeWhile_append]
  split
  · exact Nat.le_of_eq (by rw [outside, List.append_nil])
  · exact (List.takeWhile_prefix p).length_le

/-- A run of characters that ends within the front of a text is the same before every other end. -/
theorem takeWhile_swap (within : ((front ++ back).takeWhile p).length ≤ front.length)
    (outside : rest.takeWhile p = []) : (front ++ rest).takeWhile p = (front ++ back).takeWhile p :=
  (run_front (run_within outside)).1.trans (run_front within).1.symm

theorem withDigits_short {start : List Char} (short : (withDigits start rest).length ≤ start.length) :
    withDigits start rest = [] := by
  unfold withDigits at short ⊢
  split
  · rfl
  · rename_i filled
    rw [if_neg filled, List.length_append] at short
    exact absurd (List.isEmpty_iff.mpr (List.length_eq_zero_iff.mp (by omega))) filled

theorem withDigits_swap {start : List Char}
    (within : (withDigits start (front ++ back)).length ≤ start.length + front.length)
    (pause : paused rest = true) : withDigits start (front ++ rest) = withDigits start (front ++ back) := by
  have bounded : ((front ++ back).takeWhile Decimal.isDigit).length ≤ front.length := by
    unfold withDigits at within
    split at within
    · rename_i empty
      rw [List.isEmpty_iff.mp empty]
      exact Nat.zero_le _
    · rw [List.length_append] at within
      omega
  unfold withDigits
  rw [takeWhile_swap bounded (takeWhile_paused isSpace_of_isDigit pause)]

theorem exponentWord_paused (pause : paused rest = true) : exponentWord rest = [] := by
  cases rest with
  | nil => rfl
  | cons c rest =>
    have mark : ¬ (c = 'e' ∨ c = 'E') := by
      rintro (rfl | rfl) <;> cases pause
    simp [exponentWord, mark]

/-- An exponent has a digit behind its mark and its sign. -/
theorem exponentWord_short (short : (exponentWord text).length ≤ 1) : exponentWord text = [] := by
  unfold exponentWord at short ⊢
  split
  · split
    · rename_i exponent
      simp only [if_pos exponent] at short
      split at short
      · exact withDigits_short (Nat.le_succ_of_le short)
      · exact withDigits_short (Nat.le_succ_of_le short)
      · exact withDigits_short short
    · rfl
  · rfl

theorem exponentWord_unsigned (exponent : mark = 'e' ∨ mark = 'E') (plus : c ≠ '+') (minus : c ≠ '-') :
    exponentWord (mark :: c :: rest) = withDigits [mark] (c :: rest) := by
  simp [exponentWord, exponent, plus, minus]

/-- A mark before a pause is no exponent. -/
theorem exponentWord_alone (mark : Char) (pause : paused rest = true) : exponentWord (mark :: rest) = [] := by
  by_cases exponent : mark = 'e' ∨ mark = 'E'
  · cases rest with
    | nil => simp [exponentWord, withDigits]
    | cons c rest =>
      have plus : c ≠ '+' := by rintro rfl; cases pause
      have minus : c ≠ '-' := by rintro rfl; cases pause
      have none : (c :: rest).takeWhile Decimal.isDigit = [] := takeWhile_paused isSpace_of_isDigit pause
      rw [exponentWord_unsigned exponent plus minus, withDigits, none]
      rfl
  · simp [exponentWord, exponent]

/-- An exponent is given back where no digits follow its mark, also at a pause. -/
theorem exponentWord_swap (within : (exponentWord (front ++ back)).length ≤ front.length)
    (pause : paused rest = true) : exponentWord (front ++ rest) = exponentWord (front ++ back) := by
  match front with
  | [] =>
    rw [List.nil_append] at within ⊢
    rw [exponentWord_paused pause]
    exact (List.length_eq_zero_iff.mp (Nat.le_zero.mp within)).symm
  | [mark] => rw [exponentWord_short within, List.singleton_append, exponentWord_alone mark pause]
  | mark :: sign :: front =>
    -- Mark and sign are both in the front, and so are all digits behind them.
    by_cases exponent : mark = 'e' ∨ mark = 'E'
    · simp only [List.cons_append] at within ⊢
      by_cases plus : sign = '+'
      · subst plus
        simp only [exponentWord, if_pos exponent] at within ⊢
        exact withDigits_swap (by simp at within ⊢; omega) pause
      by_cases minus : sign = '-'
      · subst minus
        simp only [exponentWord, if_pos exponent] at within ⊢
        exact withDigits_swap (by simp at within ⊢; omega) pause
      · rw [exponentWord_unsigned exponent plus minus, ← List.cons_append] at within
        rw [exponentWord_unsigned exponent plus minus, exponentWord_unsigned exponent plus minus,
          ← List.cons_append, ← List.cons_append]
        exact withDigits_swap (by simp at within ⊢; omega) pause
    · simp [exponentWord, exponent]

theorem numberTail_swap (number : isNumberCharacter first = true)
    (within : (wordTail first (front ++ back)).length ≤ front.length) (pause : paused rest = true) :
    wordTail first (front ++ rest) = wordTail first (front ++ back) := by
  have outside : rest.takeWhile isNumberCharacter = [] :=
    takeWhile_paused (fun _ => isSpace_of_isNumberCharacter) pause
  have parted := congrArg List.length (List.takeWhile_append_dropWhile (p := isNumberCharacter) (l := front))
  simp only [wordTail, number, if_true, List.length_append] at within parted ⊢
  have inside : ((front ++ back).takeWhile isNumberCharacter).length ≤ front.length := by omega
  have same := run_front (run_within outside : ((front ++ rest).takeWhile isNumberCharacter).length ≤ front.length)
  obtain ⟨run, left⟩ := run_front inside
  rw [run, left] at within
  have shorter : (exponentWord (front.dropWhile isNumberCharacter ++ back)).length ≤
      (front.dropWhile isNumberCharacter).length := by omega
  rw [run, left, same.1, same.2, exponentWord_swap shorter pause]

theorem foreignTail_swap (number : isNumberCharacter first = false) (letter : isLetter first = false)
    (within : (wordTail first (front ++ back)).length ≤ front.length) (pause : paused rest = true) :
    wordTail first (front ++ rest) = wordTail first (front ++ back) := by
  cases front with
  | cons second front => simp only [wordTail, number, letter, Bool.false_eq_true, if_false, List.cons_append]
  | nil =>
    have none : wordTail first back = [] := List.length_eq_zero_iff.mp (Nat.le_zero.mp within)
    rw [List.nil_append, List.nil_append, none]
    cases rest with
    | nil => simp [wordTail, number, letter]
    | cons c rest =>
      have parted : joins first c = false := by
        cases joined : joins first c with
        | false => rfl
        | true =>
          rw [paused, isSpace_of_joins joined] at pause
          cases pause
      simp [wordTail, number, letter, parted]

/-- A word that ends within the front of a text is the same word before a pause. -/
theorem wordTail_swap (within : (wordTail first (front ++ back)).length ≤ front.length)
    (pause : paused rest = true) : wordTail first (front ++ rest) = wordTail first (front ++ back) := by
  cases number : isNumberCharacter first with
  | true => exact numberTail_swap number within pause
  | false =>
    cases letter : isLetter first with
    | true =>
      have outside : rest.takeWhile isNameCharacter = [] := takeWhile_paused isSpace_of_isNameCharacter pause
      simp only [wordTail, number, letter, if_true, Bool.false_eq_true, if_false] at within ⊢
      exact takeWhile_swap within outside
    | false => exact foreignTail_swap number letter within pause

end

/-- The first part of a text ends where one of its words ends, or at a blank between two of them. -/
inductive Cut : List Char → List Char → Prop where
  | here : Cut [] back
  | space (blank : isSpace first = true) (later : Cut front back) : Cut (first :: front) back
  | word (solid : isSpace first = false) (whole : wordTail first (tail ++ (front ++ back)) = tail)
      (later : Cut front back) : Cut (first :: (tail ++ front)) back

/-- What holds of a text behind a blank or behind a word, and of the empty text, holds of every text. -/
theorem words_induction {motive : List Char → Prop} (nil : motive [])
    (space : ∀ first rest, isSpace first = true → motive rest → motive (first :: rest))
    (word : ∀ first tail rest, isSpace first = false → wordTail first (tail ++ rest) = tail → motive rest →
      motive (first :: (tail ++ rest))) (text : List Char) : motive text := by
  induction size : text.length using Nat.strongRecOn generalizing text with
  | _ size ih =>
    cases text with
    | nil => exact nil
    | cons first rest =>
      simp only [List.length_cons] at size
      cases blank : isSpace first with
      | true => exact space first rest blank (ih rest.length (by omega) rest rfl)
      | false =>
        obtain ⟨tail, whole⟩ : ∃ tail, wordTail first rest = tail := ⟨_, rfl⟩
        obtain ⟨after, rfl⟩ := whole ▸ wordTail_prefix first rest
        exact word first tail after blank whole (ih after.length (by simp at size; omega) after rfl)

theorem utf8Size_of_isSpace {c : Char} (blank : isSpace c = true) : c.utf8Size = 1 := by
  simp only [isSpace, Bool.or_eq_true, beq_iff_eq] at blank
  rcases blank with ((rfl | rfl) | rfl) | rfl <;> rfl

section
variable {front back rest : List Char}

theorem tokenizeFrom_whole (solid : isSpace first = false) (whole : wordTail first (tail ++ rest) = tail)
    (read : readWord first tail = .ok token) :
    tokenizeFrom start (first :: (tail ++ rest)) =
      (tokenizeFrom (start + byteLength (first :: tail)) rest).map
        (⟨token, ⟨start, start + byteLength (first :: tail)⟩⟩ :: ·) := by
  rw [tokenizeFrom_word solid (by rw [whole]; exact read), whole, List.drop_left]

theorem tokenizeFrom_whole_error (solid : isSpace first = false) (whole : wordTail first (tail ++ rest) = tail)
    (read : readWord first tail = .error fault) :
    tokenizeFrom start (first :: (tail ++ rest)) =
      .error ⟨fault, ⟨start, start + byteLength (first :: tail)⟩⟩ := by
  rw [tokenizeFrom_error solid (by rw [whole]; exact read), whole]

/-- The last word before a pause is the same word, whatever the text went on with. -/
theorem Cut.wordTail_eq {tail : List Char} (whole : wordTail first (tail ++ (front ++ back)) = tail)
    (pause : paused rest = true) : wordTail first (tail ++ (front ++ rest)) = tail := by
  have within : (wordTail first ((tail ++ front) ++ back)).length ≤ (tail ++ front).length := by
    rw [List.append_assoc, whole, List.length_append]
    exact Nat.le_add_right _ _
  rw [← List.append_assoc, wordTail_swap within pause, List.append_assoc, whole]

theorem Cut.wordTail_alone {tail : List Char} (whole : wordTail first (tail ++ (front ++ back)) = tail) :
    wordTail first (tail ++ front) = tail := by
  have alone := wordTail_eq whole (show paused [] = true from rfl)
  rwa [List.append_nil] at alone

/-- A text may pause where it can be cut. -/
theorem Cut.pause (cut : Cut front back) (pause : paused rest = true) : Cut front rest := by
  induction cut with
  | here => exact .here
  | space blank _ ih => exact .space blank ih
  | word solid whole _ ih => exact .word solid (wordTail_eq whole pause) ih

/-- The two parts of a text are cut into words one after the other. -/
theorem Cut.tokenizeFrom_eq (cut : Cut front back) (start : Nat) :
    tokenizeFrom start (front ++ back) = (tokenizeFrom start front).bind fun tokens =>
      (tokenizeFrom (start + byteLength front) back).map (tokens ++ ·) := by
  induction cut generalizing start with
  | @here back =>
    rw [tokenizeFrom_nil, List.nil_append, Text.byteLength_nil, Nat.add_zero]
    cases tokenizeFrom start back <;> rfl
  | @space first front back blank _ ih =>
    rw [List.cons_append, tokenizeFrom_space blank, tokenizeFrom_space blank, ih, Text.byteLength_cons,
      utf8Size_of_isSpace blank, Nat.add_assoc]
  | @word first tail front back solid whole later ih =>
    have alone := wordTail_alone whole
    rw [List.cons_append, List.append_assoc]
    cases word : readWord first tail with
    | error fault =>
      rw [tokenizeFrom_whole_error solid whole word, tokenizeFrom_whole_error solid alone word]
      rfl
    | ok token =>
      rw [tokenizeFrom_whole solid whole word, tokenizeFrom_whole solid alone word, ih, ← List.cons_append,
        Text.byteLength_append, Nat.add_assoc]
      cases tokenizeFrom (start + byteLength (first :: tail)) front with
      | error error => rfl
      | ok tokens =>
        simp only [Except.map, Except.bind]
        cases tokenizeFrom (start + (byteLength (first :: tail) + byteLength front)) back <;> rfl

/-- Where the words of a text stand, those that are no tokens included. -/
def wordSpans (start : Nat) : List Char → List Span
  | [] => []
  | first :: rest =>
    if isSpace first then wordSpans (start + 1) rest
    else
      let tail := wordTail first rest
      let span : Span := ⟨start, start + byteLength (first :: tail)⟩
      span :: wordSpans span.stop (rest.drop tail.length)
termination_by text => text.length
decreasing_by all_goals simp only [List.length_cons, List.length_drop]; omega

theorem wordSpans_space (blank : isSpace first = true) :
    wordSpans start (first :: rest) = wordSpans (start + 1) rest := by
  rw [wordSpans, if_pos blank]

theorem wordSpans_word (solid : isSpace first = false) (whole : wordTail first (tail ++ rest) = tail) :
    wordSpans start (first :: (tail ++ rest)) =
      ⟨start, start + byteLength (first :: tail)⟩ :: wordSpans (start + byteLength (first :: tail)) rest := by
  rw [wordSpans, if_neg (by simp [solid])]
  simp only [whole, List.drop_left]

theorem byteLength_pos (filled : rest ≠ []) : 0 < byteLength rest := by
  cases rest with
  | nil => exact absurd rfl filled
  | cons c rest => exact Nat.add_pos_left c.utf8Size_pos _

theorem prefix_of_byteLength {left right : List Char} (same : left ++ right = front ++ back)
    (shorter : byteLength left ≤ byteLength front) : left <+: front := by
  rcases List.append_eq_append_iff.mp same with ⟨more, rfl, _⟩ | ⟨more, rfl, _⟩
  · exact List.prefix_append left more
  · by_cases filled : more = []
    · exact ⟨[], by simp [filled]⟩
    · have positive := byteLength_pos filled
      rw [Text.byteLength_append] at shorter
      omega

/-- A text can be cut wherever none of its words is cut. -/
theorem Cut.of_outside (start : Nat) (outside : ∀ span ∈ wordSpans start (front ++ back),
      start + byteLength front ≤ span.start ∨ span.stop ≤ start + byteLength front) : Cut front back := by
  generalize same : front ++ back = text at outside
  induction text using words_induction generalizing start front with
  | nil =>
    obtain ⟨rfl, rfl⟩ := List.append_eq_nil_iff.mp same
    exact .here
  | space first rest blank ih =>
    cases front with
    | nil => exact .here
    | cons c front =>
      obtain ⟨rfl, others⟩ := List.cons.inj same
      rw [wordSpans_space blank, Text.byteLength_cons, utf8Size_of_isSpace blank, ← Nat.add_assoc] at outside
      exact .space blank (ih _ others outside)
  | word first tail rest solid whole ih =>
    cases front with
    | nil => exact .here
    | cons c front =>
      obtain ⟨rfl, others⟩ := List.cons.inj same
      rw [wordSpans_word solid whole] at outside
      obtain ⟨here, later⟩ := List.forall_mem_cons.mp outside
      -- The word starts before the cut and is not cut, so that it ends before the cut, too.
      have shorter : byteLength tail ≤ byteLength front := by
        have positive : 0 < byteLength (c :: front) := byteLength_pos (List.cons_ne_nil _ _)
        simp only [Text.byteLength_cons] at here positive
        omega
      obtain ⟨front, rfl⟩ := prefix_of_byteLength others.symm shorter
      rw [← List.cons_append, Text.byteLength_append, ← Nat.add_assoc] at later
      obtain rfl := List.append_cancel_left ((List.append_assoc ..).symm.trans others)
      exact .word solid whole (ih _ rfl later)

end
end LiterateCalc.Expression
