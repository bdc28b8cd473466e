import Mathlib.Data.List.TakeWhile
import LiterateCalc.Text.Blank
import LiterateCalc.Text.Lines

namespace LiterateCalc.Text
variable {text left right blanks : List Char}

theorem trimEnd_append_blanks (blank : ∀ c ∈ blanks, isBlank c = true) :
    trimEnd (text ++ blanks) = trimEnd text := by
  have behind : ∀ c ∈ blanks.reverse, isBlank c = true := fun c inside => blank c (List.mem_reverse.mp inside)
  rw [trimEnd, List.reverse_append, List.dropWhile_append_of_pos behind]
  rfl

/-- A text that neither begins nor ends with a blank, and is not empty. -/
structure Tight (text : List Char) : Prop where
  first : ∃ c rest, text = c :: rest ∧ isBlank c = false
  last : ∃ front c, text = front ++ [c] ∧ isBlank c = false

theorem Tight.ne_nil (tight : Tight text) : text ≠ [] := by
  obtain ⟨c, rest, rfl, -⟩ := tight.first
  exact List.cons_ne_nil c rest

theorem Tight.trimStart_eq (tight : Tight text) (after : List Char) :
    trimStart (text ++ after) = text ++ after := by
  obtain ⟨c, rest, rfl, kept⟩ := tight.first
  simp [trimStart, kept]

theorem Tight.trim_eq (tight : Tight text) : trim text = text := by
  have start := tight.trimStart_eq []
  rw [List.append_nil] at start
  obtain ⟨front, c, same, kept⟩ := tight.last
  rw [trim, start, same]
  exact trimEnd_concat kept front

theorem Tight.trimEnd_append (tight : Tight text) (before : List Char) :
    trimEnd (before ++ text) = before ++ text := by
  obtain ⟨front, c, rfl, kept⟩ := tight.last
  rw [← List.append_assoc, trimEnd_concat kept]

/-- Blanks behind the text are all that is trimmed. -/
theorem Tight.trim_append (tight : Tight text) (blank : ∀ c ∈ blanks, isBlank c = true) :
    trim (text ++ blanks) = text := by
  have bare := tight.trim_eq
  have start := tight.trimStart_eq []
  rw [List.append_nil] at start
  rw [trim, start] at bare
  rw [trim, tight.trimStart_eq, trimEnd_append_blanks blank, bare]

theorem Tight.trim_concat (tight : Tight text) (blank : isBlank c = true) : trim (text ++ [c]) = text :=
  tight.trim_append (List.forall_mem_singleton.mpr blank)

theorem Tight.append (first : Tight left) (middle : List Char) (second : Tight right) :
    Tight (left ++ middle ++ right) := by
  obtain ⟨c, rest, begins, firstKept⟩ := first.first
  obtain ⟨front, d, ends, lastKept⟩ := second.last
  refine ⟨⟨c, rest ++ middle ++ right, ?_, firstKept⟩, ⟨left ++ middle ++ front, d, ?_, lastKept⟩⟩
  · simp [begins]
  · simp [ends]

theorem isBlank_of_dropWhile (cut : text.dropWhile isBlank = c :: rest) : isBlank c = false := by
  have kept := List.head?_dropWhile_not isBlank text
  rw [cut] at kept
  exact kept

/-- Trimming takes only blanks from the end. -/
theorem trimEnd_append (text : List Char) :
    ∃ blanks, text = trimEnd text ++ blanks ∧ ∀ c ∈ blanks, isBlank c = true := by
  refine ⟨(text.reverse.takeWhile isBlank).reverse, ?_, ?_⟩
  · rw [trimEnd, ← List.reverse_append, List.takeWhile_append_dropWhile, List.reverse_reverse]
  · intro c inside
    exact List.mem_takeWhile_imp (List.mem_reverse.mp inside)

/-- What trimming leaves has nothing to trim. -/
theorem tight_trim (filled : trim text ≠ []) : Tight (trim text) := by
  constructor
  · obtain ⟨c, rest, same⟩ := List.exists_cons_of_ne_nil filled
    obtain ⟨blanks, whole, -⟩ := trimEnd_append (trimStart text)
    rw [show trimEnd (trimStart text) = _ from same, trimStart] at whole
    exact ⟨c, rest, same, isBlank_of_dropWhile whole⟩
  · cases cut : (trimStart text).reverse.dropWhile isBlank with
    | nil =>
      rw [trim, trimEnd, cut] at filled
      exact absurd rfl filled
    | cons c front =>
      refine ⟨front.reverse, c, ?_, isBlank_of_dropWhile cut⟩
      rw [trim, trimEnd, cut, List.reverse_cons]

theorem trim_trim (text : List Char) : trim (trim text) = trim text := by
  by_cases empty : trim text = []
  · rw [empty]
    rfl
  · exact (tight_trim empty).trim_eq

/-- A text is its trimmed part between blanks. -/
theorem trim_cut (text : List Char) : ∃ front back, text = front ++ (trim text ++ back) ∧
    trimStart text = trim text ++ back ∧ (∀ c ∈ front, isBlank c = true) ∧ ∀ c ∈ back, isBlank c = true := by
  obtain ⟨back, start, behind⟩ := trimEnd_append (trimStart text)
  refine ⟨text.takeWhile isBlank, back, ?_, start, ?_, behind⟩
  · rw [trim, ← start]
    exact List.takeWhile_append_dropWhile.symm
  · intro c inside
    exact List.mem_takeWhile_imp inside

theorem trim_subset (text : List Char) : trim text ⊆ text := by
  obtain ⟨front, back, whole, -⟩ := trim_cut text
  intro c inside
  rw [whole]
  exact List.mem_append_right front (List.mem_append_left back inside)

/-- A text of which trimming leaves nothing is blank. -/
theorem blank_of_trim (empty : trim text = []) : ∀ c ∈ text, isBlank c = true := by
  obtain ⟨front, back, whole, -, before, behind⟩ := trim_cut text
  rw [empty, List.nil_append] at whole
  rw [whole]
  exact List.forall_mem_append.mpr ⟨before, behind⟩

theorem joinWith_concat (mark : List Char) (parts : List (List Char)) (filled : parts ≠ []) (last : List Char) :
    joinWith mark (parts ++ [last]) = joinWith mark parts ++ mark ++ last := by
  induction parts with
  | nil => exact absurd rfl filled
  | cons part parts ih =>
    cases parts with
    | nil => simp [joinWith]
    | cons next parts =>
      have rest := ih (List.cons_ne_nil next parts)
      simp only [List.cons_append] at rest
      simp [joinWith, rest]

theorem splitAt_append (mark : Char) (left right : List Char) :
    splitAt mark (left ++ mark :: right) = splitAt mark left ++ splitAt mark right := by
  simp only [splitAt_eq_splitOn, List.splitOn_append_cons_self]

theorem splitAt_of_not_mem {mark : Char} (absent : mark ∉ text) : splitAt mark text = [text] := by
  rw [splitAt_eq_splitOn, List.splitOn_eq_singleton absent]

def filledLines (text : List Char) : List (List Char) := (lines text).filter fun line => !line.all isBlank

theorem filledLines_append (left right : List Char) :
    filledLines (left ++ '\n' :: right) = filledLines left ++ filledLines right := by
  rw [filledLines, lines, splitAt_append, List.filter_append]
  rfl

theorem Tight.filledLines_eq (tight : Tight text) (single : '\n' ∉ text) : filledLines text = [text] := by
  obtain ⟨c, rest, rfl, kept⟩ := tight.first
  simp [filledLines, lines, splitAt_of_not_mem single, kept]

end LiterateCalc.Text
