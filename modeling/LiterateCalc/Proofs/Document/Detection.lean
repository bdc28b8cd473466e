import LiterateCalc.Document.Format

/-! How the lines of a text decide on its format, where its file name does not. A header of the first
level counts on every line, one of the second level on every line but the first. -/
namespace LiterateCalc.Format
open Text (startsWith)
variable {format : Format} {line first : List Char} {lines others rest : List (List Char)}

/-- Whether a line begins with a number of markers and a space. -/
def heads (format : Format) (level : Nat) (line : List Char) : Bool :=
  startsWith (List.replicate level format.marker ++ [' ']) line

/-- Whether a line begins like a header of one of the first two levels. -/
def isTop (format : Format) (line : List Char) : Bool := format.heads 1 line || format.heads 2 line

/-- The format that such lines speak for, wherever they stand; markdown comes first, also without any. -/
def ofLines (lines : List (List Char)) : Format :=
  if lines.any markdown.isTop then .markdown
  else if lines.any outline.isTop then .outline
  else .markdown

/-- The lines that count: a first line of the second level does not. -/
def counted : List (List Char) → List (List Char)
  | [] => []
  | first :: rest => if markdown.heads 2 first || outline.heads 2 first then rest else first :: rest

/-- The first line alone would change the format. -/
def FirstMatters : List (List Char) → Prop
  | [] => False
  | first :: rest =>
    markdown.heads 2 first = true ∧ rest.any outline.isTop = true ∧ rest.any markdown.isTop = false ∨
      outline.heads 2 first = true ∧ rest.any outline.isTop = false ∧ rest.any markdown.isTop = false

instance : DecidablePred FirstMatters
  | [] => inferInstanceAs (Decidable False)
  | _ :: _ => inferInstanceAs (Decidable (_ ∧ _ ∧ _ ∨ _ ∧ _ ∧ _))

/-- What follows a single marker is a space, and not another marker. -/
theorem heads_one_of_two (format other : Format) (second : other.heads 2 line = true) :
    format.heads 1 line = false := by
  obtain ⟨rest, rfl⟩ := List.isPrefixOf_iff_prefix.mp second
  cases format <;> cases other <;> rfl

theorem markdown_two_of_outline_two (second : outline.heads 2 line = true) :
    markdown.heads 2 line = false := by
  obtain ⟨rest, rfl⟩ := List.isPrefixOf_iff_prefix.mp second
  rfl

theorem any_isTop (format : Format) (lines : List (List Char)) :
    lines.any format.isTop = (lines.any (format.heads 1) || lines.any (format.heads 2)) := by
  induction lines with
  | nil => rfl
  | cons line rest ih =>
    simp only [List.any_cons, ih, isTop]
    ac_rfl

theorem showsHeaders_eq (format : Format) (content : List Char) :
    showsHeaders format content = (counted (Text.lines content)).any format.isTop := by
  change ((Text.lines content).any (format.heads 1) || (Text.lines content).tail.any (format.heads 2)) = _
  cases Text.lines content with
  | nil => rfl
  | cons first rest =>
    rw [List.any_cons, List.tail_cons, counted, Bool.or_assoc, ← any_isTop]
    cases markdownSecond : markdown.heads 2 first with
    | true => simp [heads_one_of_two format markdown markdownSecond]
    | false =>
      cases outlineSecond : outline.heads 2 first with
      | true => simp [heads_one_of_two format outline outlineSecond]
      | false => cases format <;> simp [isTop, markdownSecond, outlineSecond]

theorem ofContent_eq (content : List Char) : ofContent content = ofLines (counted (Text.lines content)) := by
  rw [ofContent, showsHeaders_eq, showsHeaders_eq, ofLines]

theorem any_congr_mem {p : List Char → Bool} (same : ∀ line, line ∈ lines ↔ line ∈ others) :
    lines.any p = others.any p := by
  rw [Bool.eq_iff_iff, List.any_eq_true, List.any_eq_true]
  simp only [same]

/-- Only which lines there are counts. -/
theorem ofLines_congr (same : ∀ line, line ∈ lines ↔ line ∈ others) : ofLines lines = ofLines others := by
  rw [ofLines, ofLines, any_congr_mem same, any_congr_mem same]

theorem ofLines_blank_cons (lines : List (List Char)) : ofLines ([] :: lines) = ofLines lines := by
  simp only [ofLines, List.any_cons]
  rfl

theorem ofLines_counted_iff (lines : List (List Char)) :
    ofLines (counted lines) = ofLines lines ↔ ¬ FirstMatters lines := by
  cases lines with
  | nil => simp [counted, FirstMatters]
  | cons first rest =>
    rw [FirstMatters]
    cases outlineSecond : outline.heads 2 first with
    | true =>
      have plain := markdown_two_of_outline_two outlineSecond
      have silent : markdown.isTop first = false := by
        rw [isTop, heads_one_of_two markdown outline outlineSecond, plain]
        rfl
      have top : outline.isTop first = true := by rw [isTop, outlineSecond, Bool.or_true]
      have skipped : counted (first :: rest) = rest := by simp [counted, outlineSecond]
      rw [skipped, ofLines, ofLines, List.any_cons, List.any_cons, silent, top, plain]
      cases rest.any markdown.isTop <;> cases rest.any outline.isTop <;> simp
    | false =>
      cases markdownSecond : markdown.heads 2 first with
      | true =>
        have top : markdown.isTop first = true := by rw [isTop, markdownSecond, Bool.or_true]
        have skipped : counted (first :: rest) = rest := by simp [counted, markdownSecond]
        rw [skipped, ofLines, ofLines, List.any_cons, top]
        cases rest.any markdown.isTop <;> cases rest.any outline.isTop <;> simp
      | false => simp [counted, markdownSecond, outlineSecond]

/-- Without a known extension the counted lines decide, whatever their order. A blank line in front makes
all lines count, and so changes the format exactly where the first line alone would. -/
theorem detect_by_lines (content : String) (file : Option String)
    (unknown : (file.bind fun name => (Text.extension? name.toList).bind ofExtension?) = none) :
    let lines := Text.lines content.toList
    detect content file = ofLines (counted lines) ∧
    (∀ other : String, (∀ line, line ∈ counted (Text.lines other.toList) ↔ line ∈ counted lines) →
      detect other file = detect content file) ∧
    detect ("\n" ++ content) file = ofLines lines ∧
    (detect content file = detect ("\n" ++ content) file ↔ ¬ FirstMatters lines) := by
  intro lines
  have decided (text : String) : detect text file = ofLines (counted (Text.lines text.toList)) := by
    rw [detect, unknown]
    exact ofContent_eq text.toList
  have pushed : detect ("\n" ++ content) file = ofLines lines := by
    rw [decided, String.toList_append]
    exact ofLines_blank_cons lines
  refine ⟨decided content, ?_, pushed, ?_⟩
  · intro other same
    rw [decided, decided]
    exact ofLines_congr same
  · rw [decided, pushed]
    exact ofLines_counted_iff lines

/-- The header of the second line decides, whether or not the one above it counts. -/
theorem detect_by_lines_two_headers :
    ((some "taxes.txt").bind fun name => (Text.extension? name.toList).bind ofExtension?) = none ∧
      detect "** Taxes\n* Rates\nx = 1" (some "taxes.txt") = .outline ∧
      detect "** Taxes\n* Rates\nx = 1" (some "taxes.txt") =
        detect ("\n" ++ "** Taxes\n* Rates\nx = 1") (some "taxes.txt") := by
  have unknown : ((some "taxes.txt").bind fun name => (Text.extension? name.toList).bind ofExtension?) = none := by
    decide
  obtain ⟨counts, -, -, pushed⟩ := detect_by_lines "** Taxes\n* Rates\nx = 1" (some "taxes.txt") unknown
  exact ⟨unknown, counts.trans (by decide), pushed.mpr (by decide)⟩

/-- An outline whose only header is its first line, of second level, is taken for markdown. -/
theorem detect_overlooks_first :
    detect "** Taxes\nx = 1" none = .markdown ∧ ofLines (Text.lines "** Taxes\nx = 1".toList) = .outline ∧
      detect "** Taxes\nx = 1" none ≠ detect ("\n" ++ "** Taxes\nx = 1") none := by
  decide

end LiterateCalc.Format
