namespace LiterateCalc.Text

/-- A value and the text after it, shorter than the text before it. -/
structure Scanned (α : Type) (text : List Char) where
  value : α
  rest : List Char
  shorter : rest.length < text.length

namespace Scanned
variable {α β : Type} {text longer : List Char}

/-- What was read off the end of a text was read off the text. -/
def widen (found : Scanned α text) (fits : text.length ≤ longer.length) : Scanned α longer :=
  ⟨found.value, found.rest, Nat.lt_of_lt_of_le found.shorter fits⟩

/-- What was read after a character was read off the text with that character. -/
def after {c : Char} (found : Scanned α text) : Scanned α (c :: text) :=
  ⟨found.value, found.rest, Nat.lt_succ_of_lt found.shorter⟩

/-- A value that takes a single character. -/
def single (value : α) (c : Char) (rest : List Char) : Scanned α (c :: rest) :=
  ⟨value, rest, Nat.lt_succ_self rest.length⟩

def map (f : α → β) (found : Scanned α text) : Scanned β text := ⟨f found.value, found.rest, found.shorter⟩

end Scanned

theorem dropWhile_length_le (p : Char → Bool) (text : List Char) :
    (text.dropWhile p).length ≤ text.length := by
  have whole := congrArg List.length (List.takeWhile_append_dropWhile (p := p) (l := text))
  simp only [List.length_append] at whole
  omega

end LiterateCalc.Text
