import Mathlib.Data.List.Forall2
import Mathlib.Data.List.Nodup
import LiterateCalc.Proofs.Document.Survey

/-! Which lines of a source assign, and what becomes of them: each makes a variable, unless a line
above already assigns its name. Then there is no document, but an error for each such line. -/
namespace LiterateCalc
open Text (Span)
open Line (Assignment Kind)

/-- Whether a text is not blank, no header, in markdown no fence, and does not begin with a number sign. -/
def Line.isPlain (format : Format) (text : List Char) : Bool :=
  !text.isEmpty && !Line.isHeader format text && !(format == .markdown && (Line.fence? text).isSome) &&
    text.head? != some '#'

def Line.Kind.assignment? : Kind → Option Assignment
  | .assignment content => some content
  | _ => none

theorem Line.kind_assignment (format : Format) (text : List Char) :
    (Line.kind format text).assignment? =
      if Line.isPlain format text then Line.assignment? text else none := by
  unfold Line.kind Line.isPlain Line.isHeader
  cases text.isEmpty with
  | true => rfl
  | false =>
    cases Line.headerLevel? format text with
    | some level => rfl
    | none =>
      cases fence : (if format = .markdown then Line.fence? text else none) with
      | some opening =>
        obtain ⟨markdown, found⟩ := Option.ite_none_right_eq_some.mp fence
        simp [markdown, found, Kind.assignment?]
      | none =>
        have free : (format == .markdown && (Line.fence? text).isSome) = false := by
          cases format with
          | markdown => simpa using fence
          | outline => rfl
        rw [free]
        by_cases directive : text.head? = some '#'
        · simp [directive, Kind.assignment?]
        · cases Line.assignment? text <;> simp [directive, Kind.assignment?]

structure AssignmentLine extends SourceLine, Assignment

/-- The assignment in a line outside of blocks of code. -/
def SourceLine.assigning? (format : Format) (line : SourceLine) : Option AssignmentLine :=
  if line.fence = none ∧ Line.isPlain format line.text then
    (Line.assignment? line.text).map (⟨line, ·⟩)
  else none

theorem SourceLine.assigning?_eq (format : Format) (line : SourceLine) :
    line.assigning? format = ((line.kind? format).bind Kind.assignment?).map (⟨line, ·⟩) := by
  unfold assigning? kind?
  cases line.fence with
  | some opening => simp
  | none =>
    dsimp only [Option.bind_some]
    rw [Line.kind_assignment]
    by_cases plain : Line.isPlain format line.text <;> simp [plain]

theorem SourceLine.assigning?_eq_some {format : Format} {line : SourceLine} {found : AssignmentLine} :
    line.assigning? format = some found ↔
      found.toSourceLine = line ∧ line.kind? format = some (.assignment found.toAssignment) := by
  obtain ⟨place, assignment⟩ := found
  rw [assigning?_eq, Option.map_eq_some_iff]
  constructor
  · rintro ⟨same, known, equal⟩
    obtain ⟨rfl, rfl⟩ := AssignmentLine.mk.inj equal
    obtain ⟨kind, found, content⟩ := Option.bind_eq_some_iff.mp known
    cases kind <;> cases content
    exact ⟨rfl, found⟩
  · rintro ⟨rfl, known⟩
    rw [known]
    exact ⟨assignment, rfl, rfl⟩

theorem mem_of_assigning {format : Format} {lines : List SourceLine} {found : AssignmentLine}
    (inside : found ∈ lines.filterMap (·.assigning? format)) : found.toSourceLine ∈ lines := by
  obtain ⟨line, member, assigning⟩ := List.mem_filterMap.mp inside
  obtain ⟨rfl, -⟩ := SourceLine.assigning?_eq_some.mp assigning
  exact member

/-- The lines of a source that assign, from the top. -/
def assignmentLines (format : Format) (source : String) : List AssignmentLine :=
  (sourceLines format source).filterMap (·.assigning? format)

/-- Whether a line further up assigns the name of a line. -/
def AssignmentLine.isRepeated (lines : List AssignmentLine) (line : AssignmentLine) : Bool :=
  lines.any fun other => other.name == line.name && decide (other.number < line.number)

/-- The variable that a line makes. -/
structure Records (source : String) (options : ReadingOptions) (line : AssignmentLine)
    (entry : Variable) : Prop where
  name : entry.name = line.name
  expression : entry.expression = line.expression
  number : entry.line = line.number
  /-- The span of the variable holds the line with the blanks around it. -/
  covered : entry.span.slice source.toList = some line.raw
  heading : entry.sectionName = line.heading.getD ""
  input : entry.isInput = true ↔ line.name ∈ options.explicitInputs ∨
    options.autoDetectInputs = true ∧ Line.isSimpleValue line.expression.toList = true

/-- The error that a line is, and the first line that assigns its name. -/
structure Reports (source : String) (lines : List AssignmentLine) (line : AssignmentLine)
    (error : Redefinition) : Prop where
  name : error.name = line.name
  number : error.line = line.number
  covered : error.span.slice source.toList = some line.raw
  first : ∃ first, lines.find? (·.name == line.name) = some first ∧ error.firstLine = first.number ∧
    error.firstSpan.slice source.toList = some first.raw

section
variable {source : String} {lines : List AssignmentLine} {line other : AssignmentLine}

theorem Reports.later {error : Redefinition} (reports : Reports source lines line error)
    (next : AssignmentLine) : Reports source (lines ++ [next]) line error := by
  obtain ⟨first, found, number, covered⟩ := reports.first
  refine ⟨reports.name, reports.number, reports.covered, first, ?_, number, covered⟩
  rw [List.find?_append, found]
  rfl

theorem isRepeated_old (above : ∀ other ∈ lines, other.number < line.number) (inside : other ∈ lines) :
    other.isRepeated (lines ++ [line]) = other.isRepeated lines := by
  have later : decide (line.number < other.number) = false :=
    decide_eq_false (Nat.lt_asymm (above other inside))
  simp [AssignmentLine.isRepeated, List.any_append, later]

theorem isRepeated_new (above : ∀ other ∈ lines, other.number < line.number) :
    line.isRepeated (lines ++ [line]) = (lines.find? (·.name == line.name)).isSome := by
  rw [Bool.eq_iff_iff]
  simp only [AssignmentLine.isRepeated, List.any_append, List.any_cons, List.any_nil, Nat.lt_irrefl,
    decide_false, Bool.and_false, Bool.or_false, List.find?_isSome, List.any_eq_true, Bool.and_eq_true,
    decide_eq_true_eq]
  constructor
  · rintro ⟨other, inside, same, -⟩
    exact ⟨other, inside, same⟩
  · rintro ⟨other, inside, same⟩
    exact ⟨other, inside, same, above other inside⟩

/-- Whether the lines above are repeated does not depend on those below. -/
theorem filter_concat (above : ∀ other ∈ lines, other.number < line.number) (wanted : Bool) :
    (lines ++ [line]).filter (fun other => other.isRepeated (lines ++ [line]) == wanted) =
      lines.filter (fun other => other.isRepeated lines == wanted) ++
        if (lines.find? (·.name == line.name)).isSome = wanted then [line] else [] := by
  rw [List.filter_append, List.filter_singleton, isRepeated_new above]
  congr 1
  · apply List.filter_congr
    intro other inside
    rw [isRepeated_old above inside]
  · cases (lines.find? (·.name == line.name)).isSome <;> cases wanted <;> rfl

/-- No line is repeated exactly if all names are different. -/
theorem names_distinct_iff (sorted : lines.Pairwise fun first second => first.number < second.number) :
    (lines.map (·.name)).Nodup ↔ ∀ line ∈ lines, line.isRepeated lines = false := by
  constructor
  · intro distinct line inside
    apply List.any_eq_false.mpr
    intro other also same
    simp only [Bool.and_eq_true, beq_iff_eq, decide_eq_true_eq] at same
    obtain rfl := List.inj_on_of_nodup_map distinct also inside same.1
    exact Nat.lt_irrefl _ same.2
  · intro fresh
    apply List.pairwise_map.mpr
    apply sorted.imp_of_mem
    intro first second inside also less same
    have repeated : second.isRepeated lines = true := by
      apply List.any_eq_true.mpr
      exact ⟨first, inside, by simp [same, less]⟩
    rw [fresh second also] at repeated
    cases repeated

end

namespace Draft
variable {format : Format} {options : ReadingOptions} {draft : Draft} {source : String}
  {lines : List AssignmentLine} {line : AssignmentLine}

/-- The variables and the errors of a draft are those of the assignments so far. -/
structure Recorded (source : String) (options : ReadingOptions) (lines : List AssignmentLine)
    (draft : Draft) : Prop where
  entries : List.Forall₂ (Records source options) (lines.filter (·.isRepeated lines == false))
    draft.definitions
  errors : List.Forall₂ (Reports source lines) (lines.filter (·.isRepeated lines == true)) draft.errors
  /-- A name leads to the first line that assigns it. -/
  first : ∀ name, draft.defined.get? name =
    (lines.find? (·.name == name)).map fun line => (line.number, line.span)

theorem Recorded.empty (source : String) (options : ReadingOptions) :
    Recorded source options [] empty := ⟨.nil, .nil, fun _ => rfl⟩

theorem Recorded.of_same {other : Draft} (recorded : draft.Recorded source options lines)
    (definitions : other.definitions = draft.definitions) (defined : other.defined = draft.defined)
    (errors : other.errors = draft.errors) : other.Recorded source options lines := by
  refine ⟨?_, ?_, ?_⟩
  · rw [definitions]; exact recorded.entries
  · rw [errors]; exact recorded.errors
  · rw [defined]; exact recorded.first

theorem newVariable_records (covered : line.span.slice source.toList = some line.raw)
    (heading : part.name = line.heading.getD "") :
    Records source options line (newVariable options part line.toAssignment line.number line.span) := by
  refine ⟨rfl, rfl, rfl, covered, heading, ?_⟩
  simp [newVariable, ReadingOptions.isInput]

theorem define_taken (taken : draft.defined.get? line.name = some (firstLine, firstSpan)) :
    draft.define options line.toAssignment line.number line.span =
      { draft with
        errors := draft.errors ++ [⟨line.name, line.number, line.span, firstLine, firstSpan⟩] } := by
  rw [define, taken]

theorem define_new (new : draft.defined.get? line.name = none)
    (current : draft.current = some position) (found : draft.sections[position]? = some part) :
    draft.define options line.toAssignment line.number line.span =
      draft.addEntry position (newVariable options part line.toAssignment line.number line.span) := by
  simp only [define, new, current, Option.bind_some, found, Option.getD_some]

theorem Recorded.reports_later (recorded : draft.Recorded source options lines) (line : AssignmentLine) :
    List.Forall₂ (Reports source (lines ++ [line])) (lines.filter (·.isRepeated lines == true)) draft.errors :=
  recorded.errors.imp fun _ _ report => report.later line

/-- A line whose name is taken is an error. -/
theorem Recorded.define_repeated {earlier : AssignmentLine} (recorded : draft.Recorded source options lines)
    (above : ∀ other ∈ lines, other.number < line.number)
    (covered : ∀ other ∈ lines ++ [line], other.span.slice source.toList = some other.raw)
    (found : lines.find? (·.name == line.name) = some earlier) :
    (draft.define options line.toAssignment line.number line.span).Recorded source options
      (lines ++ [line]) := by
  have entries := filter_concat above false
  have errors := filter_concat above true
  have same := recorded.first line.name
  rw [found, Option.map_some] at same
  rw [found, Option.isSome_some, if_neg (by decide), List.append_nil] at entries
  rw [found, Option.isSome_some, if_pos rfl] at errors
  rw [define_taken same]
  refine ⟨entries ▸ recorded.entries, ?_, ?_⟩
  · rw [errors]
    refine List.rel_append (recorded.reports_later line)
      (.cons ⟨rfl, rfl, covered line (by simp), earlier, ?_, rfl, ?_⟩ .nil)
    · rw [List.find?_append, found]
      rfl
    · exact covered earlier (List.mem_append_left _ (List.mem_of_find?_eq_some found))
  · intro name
    rw [recorded.first, List.find?_append]
    cases known : lines.find? (·.name == name) with
    | some _ => rfl
    | none =>
      have different : (line.name == name) = false := by
        apply beq_false_of_ne
        rintro rfl
        rw [found] at known
        cases known
      simp [different]

/-- A line with a new name adds a variable to the current section. -/
theorem Recorded.define_fresh (recorded : draft.Recorded source options lines)
    (above : ∀ other ∈ lines, other.number < line.number)
    (covered : line.span.slice source.toList = some line.raw) (home : draft.home? = some (line.heading.getD ""))
    (found : lines.find? (·.name == line.name) = none) :
    (draft.define options line.toAssignment line.number line.span).Recorded source options
      (lines ++ [line]) := by
  have entries := filter_concat above false
  have errors := filter_concat above true
  have same := recorded.first line.name
  rw [found, Option.map_none] at same
  rw [found, Option.isSome_none, if_pos rfl] at entries
  rw [found, Option.isSome_none, if_neg (by decide), List.append_nil] at errors
  obtain ⟨position, part, current, inside, named⟩ := home?_eq_some home
  rw [define_new same current inside]
  refine ⟨?_, errors ▸ recorded.reports_later line, ?_⟩
  · rw [entries]
    exact List.rel_append recorded.entries (.cons (newVariable_records covered named) .nil)
  · intro name
    simp only [addEntry, NameMap.get?_insert, List.find?_append, Option.map_or, ← recorded.first]
    by_cases known : line.name = name
    · subst known
      simp [newVariable, same]
    · simp [newVariable, known]

theorem Recorded.define (recorded : draft.Recorded source options lines)
    (above : ∀ other ∈ lines, other.number < line.number)
    (covered : ∀ other ∈ lines ++ [line], other.span.slice source.toList = some other.raw)
    (home : draft.home? = some (line.heading.getD "")) :
    (draft.define options line.toAssignment line.number line.span).Recorded source options
      (lines ++ [line]) := by
  cases found : lines.find? (·.name == line.name) with
  | some first => exact recorded.define_repeated above covered found
  | none => exact recorded.define_fresh above (covered line (by simp)) home found

/-- Only an assignment changes the variables or adds an error. -/
theorem addLine_frame {line : SourceLine} (here : draft.At line.toPlace)
    (plain : line.assigning? format = none) :
    let next := draft.addLine format options line.text line.number line.span
    next.definitions = draft.definitions ∧ next.defined = draft.defined ∧ next.errors = draft.errors := by
  dsimp only
  rw [addLine_eq here.fence]
  cases known : line.kind? format with
  | none => exact ⟨rfl, rfl, rfl⟩
  | some kind =>
    cases kind with
    | blank =>
      dsimp only
      rw [breakParagraph_eq]
      exact ⟨rfl, rfl, rfl⟩
    | header level =>
      dsimp only
      rw [openSection_eq, flush_eq]
      exact ⟨rfl, rfl, rfl⟩
    | fence opening => exact ⟨rfl, rfl, rfl⟩
    | directive => exact ⟨rfl, rfl, rfl⟩
    | assignment assignment =>
      have assigns := SourceLine.assigning?_eq_some.mpr ⟨(rfl : (AssignmentLine.mk line _).1 = line), known⟩
      rw [plain] at assigns
      cases assigns
    | prose => exact ⟨rfl, rfl, rfl⟩

theorem ensureSection_frame (draft : Draft) :
    draft.ensureSection.definitions = draft.definitions ∧ draft.ensureSection.defined = draft.defined ∧
      draft.ensureSection.errors = draft.errors := by
  rw [ensureSection_eq]
  exact ⟨rfl, rfl, rfl⟩

/-- Each line keeps the record. -/
theorem Recorded.addLine {above below : List SourceLine} {line : SourceLine}
    (recorded : draft.Recorded source options (above.filterMap (·.assigning? format)))
    (all : sourceLines format source = above ++ line :: below) (here : draft.At line.toPlace) :
    (draft.addLine format options line.text line.number line.span).Recorded source options
      ((above ++ [line]).filterMap (·.assigning? format)) := by
  rw [List.filterMap_append]
  cases assigning : line.assigning? format with
  | none =>
    obtain ⟨definitions, defined, errors⟩ := addLine_frame here assigning
    simpa [assigning] using recorded.of_same definitions defined errors
  | some found =>
    obtain ⟨rfl, known⟩ := SourceLine.assigning?_eq_some.mp assigning
    have sorted := survey_increasing format .top (Text.lines source.toList)
    rw [show survey format .top (Text.lines source.toList) = _ from all, List.pairwise_append] at sorted
    have earlier : ∀ other ∈ above.filterMap (·.assigning? format), other.number < found.number := by
      intro other member
      exact sorted.2.2 _ (mem_of_assigning member) _ List.mem_cons_self
    have covered : ∀ other ∈ above.filterMap (·.assigning? format) ++ [found],
        other.span.slice source.toList = some other.raw := by
      intro other member
      apply sourceLines_covered
      rw [all]
      rcases List.mem_append.mp member with old | new
      · exact List.mem_append_left _ (mem_of_assigning old)
      · rw [List.mem_singleton.mp new]
        exact List.mem_append_right _ List.mem_cons_self
    have home : draft.ensureSection.flush.home? = some (found.heading.getD "") := by
      rw [home?_flush, home?_ensureSection here.valid, here.heading]
    obtain ⟨definitions, defined, errors⟩ := ensureSection_frame draft
    have kept : draft.ensureSection.flush.Recorded source options (above.filterMap (·.assigning? format)) := by
      rw [flush_eq]
      exact recorded.of_same definitions defined errors
    rw [addLine_eq here.fence, known]
    simpa [assigning] using kept.define earlier covered home

theorem recorded_addLines (format : Format) (options : ReadingOptions) (source : String) :
    (empty.addLines format options 1 0 (Text.lines source.toList)).Recorded source options
      (assignmentLines format source) := by
  have whole : sourceLines format source = [] ++ survey format .top (Text.lines source.toList) := rfl
  refine addLines_induction (motive := fun above draft =>
    draft.Recorded source options (above.filterMap (·.assigning? format))) whole .top ?_ ?_
  · exact .empty source options
  · intro above line below draft all here recorded
    exact recorded.addLine all here

/-- Without errors no line is repeated, and each makes a variable. -/
theorem Recorded.accepted (recorded : draft.Recorded source options lines)
    (sorted : lines.Pairwise fun first second => first.number < second.number) (none : draft.errors = []) :
    (lines.map (·.name)).Nodup ∧ List.Forall₂ (Records source options) lines draft.definitions := by
  have errors := recorded.errors
  rw [none, List.forall₂_nil_right_iff, List.filter_eq_nil_iff] at errors
  have fresh : ∀ line ∈ lines, line.isRepeated lines = false := by
    intro line inside
    simpa using errors line inside
  refine ⟨(names_distinct_iff sorted).mpr fresh, ?_⟩
  have entries := recorded.entries
  rwa [List.filter_eq_self.mpr fun line inside => by rw [fresh line inside]; rfl] at entries

/-- An error is a line that is repeated, so that two lines assign one name. -/
theorem Recorded.rejected (recorded : draft.Recorded source options lines)
    (sorted : lines.Pairwise fun first second => first.number < second.number) (some : draft.errors ≠ []) :
    ¬ (lines.map (·.name)).Nodup ∧
      List.Forall₂ (Reports source lines) (lines.filter (·.isRepeated lines)) draft.errors := by
  have errors := recorded.errors
  simp only [beq_true] at errors
  refine ⟨?_, errors⟩
  intro distinct
  have none : lines.filter (·.isRepeated lines) = [] := by
    apply List.filter_eq_nil_iff.mpr
    intro line inside
    rw [(names_distinct_iff sorted).mp distinct line inside]
    exact Bool.false_ne_true
  rw [none, List.forall₂_nil_left_iff] at errors
  exact some errors

end Draft

theorem assignmentLines_increasing (format : Format) (source : String) :
    (assignmentLines format source).Pairwise fun first second => first.number < second.number := by
  apply (survey_increasing format .top (Text.lines source.toList)).filterMap
  intro first second less found same other also
  obtain ⟨rfl, -⟩ := SourceLine.assigning?_eq_some.mp same
  obtain ⟨rfl, -⟩ := SourceLine.assigning?_eq_some.mp also
  exact less

/-- A source can be read exactly if no two lines assign one name. Then its variables are those of
the assignments, one for each from the top; otherwise the errors are the repeated assignments. -/
theorem Document.readAs_assignments (format : Format) (options : ReadingOptions) (source : String) :
    let lines := assignmentLines format source
    match Document.readAs format options source with
    | .ok document =>
      (lines.map (·.name)).Nodup ∧ List.Forall₂ (Records source options) lines document.definitions
    | .error errors =>
      ¬ (lines.map (·.name)).Nodup ∧
        List.Forall₂ (Reports source lines) (lines.filter (·.isRepeated lines)) errors := by
  intro lines
  have recorded := Draft.recorded_addLines format options source
  have sorted := assignmentLines_increasing format source
  unfold Document.readAs Draft.finish
  dsimp only
  rw [Draft.errors_flush, Draft.flush_definitions]
  split
  · rename_i document success
    split at success
    · rename_i none
      cases success
      exact recorded.accepted sorted (List.isEmpty_iff.mp none)
    · cases success
  · rename_i errors failure
    split at failure
    · cases failure
    · rename_i some
      cases failure
      exact recorded.rejected sorted fun none => some (List.isEmpty_iff.mpr none)

/-- The second assignment is the error, also in another section. -/
example : Document.readAs .markdown {} "x = 1\n# Rates\nx = 2" =
    .error [⟨"x", 3, ⟨14, 19⟩, 1, ⟨0, 5⟩⟩] := by rfl

end LiterateCalc
