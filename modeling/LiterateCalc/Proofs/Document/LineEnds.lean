import LiterateCalc.Proofs.Document.Relocation
import LiterateCalc.Proofs.Text.Occurrences
import LiterateCalc.Proofs.Text.Trimming

/-! Lines that end in a carriage return. Reading takes its lines without the blanks around them, and a carriage
return is one, so all that changes is which bytes the lines take. -/
namespace LiterateCalc
open Text (Span startsWith trim)

namespace Text

/-- The text with a carriage return before every line feed. -/
def withReturns (text : List Char) : List Char := text.flatMap fun c => if c = '\n' then ['\r', '\n'] else [c]

/-- The lines with a carriage return at the end of each but the last one. -/
def returned : List (List Char) → List (List Char)
  | [] => []
  | [last] => [last]
  | line :: next :: rest => (line ++ ['\r']) :: returned (next :: rest)

theorem returned_cons (line : List Char) {rest : List (List Char)} (filled : rest ≠ []) :
    returned (line :: rest) = (line ++ ['\r']) :: returned rest := by
  obtain ⟨next, later, rfl⟩ := List.exists_cons_of_ne_nil filled
  rfl

theorem lines_withReturns (text : List Char) : lines (withReturns text) = returned (lines text) := by
  induction text with
  | nil => rfl
  | cons c text ih =>
    have filled : lines text ≠ [] := splitAt_ne_nil '\n' text
    by_cases ends : c = '\n'
    · subst ends
      have cut : lines (withReturns ('\n' :: text)) = ['\r'] :: lines (withReturns text) := rfl
      rw [cut, ih]
      exact (returned_cons [] filled).symm
    · have same : withReturns (c :: text) = c :: withReturns text := by simp [withReturns, ends]
      rw [lines] at ih
      rw [same, lines, lines, splitAt, splitAt, if_neg ends, if_neg ends, ih, lines]
      cases cut : splitAt '\n' text with
      | nil => exact absurd cut filled
      | cons line rest => cases rest <;> rfl

theorem any_returned {p : List Char → Bool} (same : ∀ line, p (line ++ ['\r']) = p line)
    (lines : List (List Char)) : (returned lines).any p = lines.any p := by
  induction lines with
  | nil => rfl
  | cons line rest ih =>
    cases rest with
    | nil => rfl
    | cons next rest => rw [returned, List.any_cons, List.any_cons, ih, same]

theorem tail_returned (lines : List (List Char)) : (returned lines).tail = returned lines.tail := by
  cases lines with
  | nil => rfl
  | cons line rest => cases rest <;> rfl

theorem trim_concat {c : Char} (blank : isBlank c = true) (text : List Char) : trim (text ++ [c]) = trim text := by
  rw [trim, trim, trimStart, List.dropWhile_append]
  by_cases empty : (text.dropWhile isBlank).isEmpty = true
  · rw [if_pos empty, trimStart, List.isEmpty_iff.mp empty, List.dropWhile_cons_of_pos blank]
    rfl
  · rw [if_neg empty]
    exact trimEnd_concat_blank blank _

theorem map_trim_returned (lines : List (List Char)) : (returned lines).map trim = lines.map trim := by
  induction lines with
  | nil => rfl
  | cons line rest ih =>
    cases rest with
    | nil => rfl
    | cons next rest => rw [returned, List.map_cons, List.map_cons, ih, trim_concat rfl]

end Text

/-- No header mark holds a carriage return, so the marks are found in the same lines. -/
theorem Format.showsHeaders_withReturns (format : Format) (content : List Char) :
    format.showsHeaders (Text.withReturns content) = format.showsHeaders content := by
  have plain (mark : List Char) (absent : '\r' ∉ mark) (lines : List (List Char)) :
      (Text.returned lines).any (startsWith mark) = lines.any (startsWith mark) :=
    Text.any_returned (fun _ => Text.startsWith_append_cons absent) lines
  cases format <;>
    simp only [showsHeaders, Text.lines_withReturns, Text.tail_returned] <;>
    rw [plain _ (by decide), plain _ (by decide)]

/-- Spans are lost, the numbers of lines are not. -/
def Relocation.lineNumbers : Relocation := ⟨id, fun _ => ⟨0, 0⟩⟩

namespace Draft
variable {format : Format} {options : ReadingOptions}

/-- Lines are taken in by what is left of them without the blanks around them. -/
theorem addLines_trimmed {draft other : Draft} {lines others : List (List Char)} {number start begin : Nat}
    (alike : draft.relocate .lineNumbers = other.relocate .lineNumbers)
    (trimmed : lines.map trim = others.map trim) :
    (draft.addLines format options number start lines).relocate .lineNumbers =
      (other.addLines format options number begin others).relocate .lineNumbers := by
  induction lines generalizing draft other others number start begin with
  | nil =>
    obtain rfl := List.map_eq_nil_iff.mp trimmed.symm
    exact alike
  | cons raw rest ih =>
    obtain ⟨raw', rest', rfl, same, later⟩ := List.map_eq_cons_iff.mp trimmed.symm
    rw [addLines, addLines]
    refine ih ?_ later.symm
    rw [relocate_addLine, relocate_addLine, alike, same]
    rfl

end Draft

/-- Sources with the same trimmed lines are read alike. -/
theorem Document.readAs_trimmed (format : Format) (options : ReadingOptions) {source other : String}
    (trimmed : (Text.lines source.toList).map trim = (Text.lines other.toList).map trim) :
    relocateResult .lineNumbers (Document.readAs format options source) =
      relocateResult .lineNumbers (Document.readAs format options other) := by
  rw [readAs, readAs, Draft.relocate_finish, Draft.relocate_finish, Draft.addLines_trimmed rfl trimmed]

/-- A source with a carriage return before every line feed is read like the source without them: in the same
format, with the same sections, items, variables and markup, or with the same errors on the same lines. Only
the spans may differ, in errors and in what they note. -/
theorem Document.read_withReturns (options : ReadingOptions) (file : Option String) (source : String) :
    let other := String.ofList (Text.withReturns source.toList)
    Format.detect other file = Format.detect source file ∧
      relocateResult .lineNumbers (Document.read options file other) =
        relocateResult .lineNumbers (Document.read options file source) ∧
      ∀ render : String → String,
        relocateResult .lineNumbers ((Document.read options file other).map (·.renderProse render)) =
          relocateResult .lineNumbers ((Document.read options file source).map (·.renderProse render)) := by
  intro other
  have text : other.toList = Text.withReturns source.toList := String.toList_ofList
  have format : Format.detect other file = Format.detect source file := by
    rw [Format.detect, Format.detect, text, Format.ofContent, Format.ofContent, Format.showsHeaders_withReturns,
      Format.showsHeaders_withReturns]
  have trimmed : (Text.lines other.toList).map trim = (Text.lines source.toList).map trim := by
    rw [text, Text.lines_withReturns, Text.map_trim_returned]
  have alike : relocateResult .lineNumbers (Document.read options file other) =
      relocateResult .lineNumbers (Document.read options file source) := by
    rw [read, read, format]
    exact readAs_trimmed _ options trimmed
  refine ⟨format, alike, ?_⟩
  intro render
  rw [relocateResult_map, relocateResult_map, alike]

end LiterateCalc
