import LiterateCalc.Fixture.Expectations
import LiterateCalc.Proofs.Text.Occurrences

/-! Cutting the front matter off a fixture. The lines of dashes around it are found again, with nothing lost
on either side of them, for every front matter that does not itself hold such a line. -/
namespace LiterateCalc.Fixture

/-- What ends a line: a line feed, perhaps behind a carriage return. -/
inductive LineBreak
  | lineFeed
  | carriageReturn
deriving DecidableEq, Inhabited

namespace LineBreak

/-- What stands before the line feed. -/
def lead : LineBreak → List Char
  | .lineFeed => []
  | .carriageReturn => ['\r']

def text (lineBreak : LineBreak) : List Char := lineBreak.lead ++ ['\n']

end LineBreak

def dashes : List Char := ['-', '-', '-']

/-- The file of a fixture: byte order marks, the lines of a front matter between lines of dashes, a document. -/
def framed (marks : Nat) (lineBreak : LineBreak) (front source : List Char) : List Char :=
  List.replicate marks '\ufeff' ++
    (dashes ++ (lineBreak.text ++ (front ++ (dashes ++ (lineBreak.text ++ source)))))

variable {lineBreak : LineBreak} {inside source text : List Char}

theorem skipLineBreak_text (lineBreak : LineBreak) (rest : List Char) :
    skipLineBreak (lineBreak.text ++ rest) = rest := by
  cases lineBreak <;> rfl

theorem dropWhile_marks (marks : Nat) (rest : List Char) :
    (List.replicate marks '\ufeff' ++ (dashes ++ rest)).dropWhile (· == '\ufeff') = '-' :: '-' :: '-' :: rest := by
  rw [List.dropWhile_append_of_pos]
  · rfl
  · intro c inside
    rw [List.eq_of_mem_replicate inside]
    rfl

/-- The line break in front of the dashes does not belong to the front matter. -/
theorem splitFirst_closing (unbroken : ¬ ('\n' :: dashes) <:+: inside) (lineBreak : LineBreak) (rest : List Char) :
    Text.splitFirst ['\n', '-', '-', '-'] (inside ++ lineBreak.text ++ (dashes ++ rest)) =
      some (inside ++ lineBreak.lead, rest) := by
  have absent : ¬ ('\n' :: dashes) <:+: inside ++ lineBreak.lead := by
    intro found
    cases lineBreak with
    | lineFeed => exact unbroken (by simpa [LineBreak.lead] using found)
    | carriageReturn => exact unbroken (Text.infix_of_infix_concat (by decide) found)
  have cut := Text.splitFirst_append (by decide) absent rest
  rw [← cut]
  simp [LineBreak.text, dashes]

theorem dropWhile_lead (bare : inside.getLast? ≠ some '\r') (lineBreak : LineBreak) :
    ((inside ++ lineBreak.lead).reverse.dropWhile (· == '\r')).reverse = inside := by
  have kept : inside.reverse.dropWhile (· == '\r') = inside.reverse := by
    cases same : inside.reverse with
    | nil => rfl
    | cons last front =>
      rw [List.getLast?_eq_head?_reverse, same] at bare
      simp only [List.head?_cons, ne_eq, Option.some.injEq] at bare
      simp [bare]
  cases lineBreak with
  | lineFeed => rw [LineBreak.lead, List.append_nil, kept, List.reverse_reverse]
  | carriageReturn =>
    rw [LineBreak.lead, List.reverse_append, List.reverse_singleton, List.singleton_append,
      List.dropWhile_cons_of_pos rfl, kept, List.reverse_reverse]

/-- A front matter that neither begins with dashes nor holds them at the start of a line is not closed early. -/
theorem splitFrontMatter_inside (marks : Nat) (lineBreak : LineBreak) (source : List Char)
    (plain : ¬ dashes <+: inside) (unbroken : ¬ ('\n' :: dashes) <:+: inside) (bare : inside.getLast? ≠ some '\r') :
    splitFrontMatter (framed marks lineBreak (inside ++ lineBreak.text) source) = .ok (inside, source) := by
  have unclosed (rest : List Char) : ¬ dashes <+: inside ++ lineBreak.text ++ rest := by
    intro starts
    rw [List.append_assoc] at starts
    cases lineBreak with
    | lineFeed => exact plain ((Text.prefix_append_cons (by decide : '\n' ∉ dashes)).mp starts)
    | carriageReturn => exact plain ((Text.prefix_append_cons (by decide : '\r' ∉ dashes)).mp starts)
  rw [splitFrontMatter, framed, dropWhile_marks]
  simp only [skipLineBreak_text]
  split
  · rename_i rest same
    exact absurd ⟨rest, same.symm⟩ (unclosed _)
  · rw [splitFirst_closing unbroken]
    dsimp only
    rw [dropWhile_lead bare, skipLineBreak_text]

theorem splitFrontMatter_empty (marks : Nat) (lineBreak : LineBreak) (source : List Char) :
    splitFrontMatter (framed marks lineBreak [] source) = .ok ([], source) := by
  rw [splitFrontMatter, framed, dropWhile_marks]
  simp only [skipLineBreak_text]
  exact congrArg (fun rest => Except.ok ([], rest)) (skipLineBreak_text lineBreak source)

/-- A front matter without settings leaves all of them as they are by default. -/
theorem Expectations.read_nil : Expectations.read [] = some {} := by
  have filler : TomlValue.skipFiller [] = some ⟨[], Nat.le_refl 0⟩ := by rw [TomlValue.skipFiller]
  have entries : TomlValue.read [] = some [] := by
    change TomlValue.readLines [] [] [] = some []
    rw [TomlValue.readLines, filler]
  rw [Expectations.read, entries]
  rfl

/-- The settings are read from the front matter alone, and what follows it is the document. -/
theorem readFixture_of_split {content : List Char} {source : String}
    (cut : splitFrontMatter content = .ok (inside, source.toList)) :
    readFixture (String.ofList content) = match Expectations.read inside with
      | some expectations => .ok (expectations, source)
      | none => .error .malformed := by
  rw [readFixture, String.toList_ofList, cut]
  cases settings : Expectations.read inside with
  | none => simp only [settings]
  | some expectations => simp only [settings, String.ofList_toList]

/-- A front matter comes out of its file as it was written, and so does the document below it, which may have
lines of dashes of its own. Without any front matter the settings are those by default. -/
theorem readFixture_framed (marks : Nat) (lineBreak : LineBreak) (source : String) :
    (∀ inside, ¬ dashes <+: inside → ¬ ('\n' :: dashes) <:+: inside → inside.getLast? ≠ some '\r' →
      splitFrontMatter (framed marks lineBreak (inside ++ lineBreak.text) source.toList) =
        .ok (inside, source.toList) ∧
      readFixture (String.ofList (framed marks lineBreak (inside ++ lineBreak.text) source.toList)) =
        match Expectations.read inside with
        | some expectations => .ok (expectations, source)
        | none => .error .malformed) ∧
    splitFrontMatter (framed marks lineBreak [] source.toList) = .ok ([], source.toList) ∧
    readFixture (String.ofList (framed marks lineBreak [] source.toList)) = .ok ({}, source) := by
  have empty := splitFrontMatter_empty marks lineBreak source.toList
  refine ⟨?_, empty, ?_⟩
  · intro inside plain unbroken bare
    have cut := splitFrontMatter_inside marks lineBreak source.toList plain unbroken bare
    exact ⟨cut, readFixture_of_split cut⟩
  · rw [readFixture_of_split empty, Expectations.read_nil]

/-- Dashes inside a line do not close a front matter, and those of the document stay in it. -/
theorem readFixture_framed_dashes :
    let inside := "# ---\r\n\r\n#--".toList
    let file := framed 2 .carriageReturn (inside ++ LineBreak.carriageReturn.text) "\n---\n".toList
    ¬ dashes <+: inside ∧ ¬ ('\n' :: dashes) <:+: inside ∧ inside.getLast? ≠ some '\r' ∧
      splitFrontMatter file = .ok (inside, "\n---\n".toList) ∧
      readFixture (String.ofList file) = .ok ({}, "\n---\n") := by
  intro inside file
  have plain : ¬ dashes <+: inside := by decide
  have unbroken : ¬ ('\n' :: dashes) <:+: inside := by decide
  have bare : inside.getLast? ≠ some '\r' := by decide
  have entries : TomlValue.read "# ---\r\n\r\n#--".toList = some [] := by cbv
  have settings : Expectations.read inside = some {} := by
    rw [Expectations.read, entries]
    rfl
  obtain ⟨cut, read⟩ := (readFixture_framed 2 .carriageReturn "\n---\n").1 inside plain unbroken bare
  rw [settings] at read
  exact ⟨plain, unbroken, bare, cut, read⟩

end LiterateCalc.Fixture
