import LiterateCalc.Proofs.Document.Consistency

/-! The lines of a source in their places: the number and the first byte of a line, the block of
code around it and the last header above it. A document is compared with these lines, and every
property of a draft that each line keeps holds of the draft after all of them. -/
namespace LiterateCalc
open Text (Span byteLength trim)
open Line (Assignment Fence Kind)

/-- A position between two lines, with what the lines above leave behind. -/
structure Place where
  /-- The number of the next line, from one. -/
  number : Nat
  /-- The byte that the next line starts at. -/
  start : Nat
  /-- The fence of the block of code around the next line. -/
  fence : Option Fence
  /-- The name in the last header above. -/
  heading : Option String

def Place.top : Place := { number := 1, start := 0, fence := none, heading := none }

/-- The fence of the block of code that begins with a line of a kind. -/
def Line.Kind.opening? : Kind → Option Fence
  | .fence opening => some opening
  | _ => none

structure SourceLine extends Place where
  /-- The line with the blanks around it. -/
  raw : List Char

namespace SourceLine

def text (line : SourceLine) : List Char := trim line.raw

def span (line : SourceLine) : Span := ⟨line.start, line.start + byteLength line.raw⟩

/-- What the line is, unless it stands in a block of code. -/
def kind? (format : Format) (line : SourceLine) : Option Kind :=
  match line.fence with
  | some _ => none
  | none => some (Line.kind format line.text)

/-- The fence of the block of code that is open below the line. -/
def fenceBelow (format : Format) (line : SourceLine) : Option Fence :=
  match line.fence with
  | some opening => if opening.closedBy line.text then none else some opening
  | none => (Line.kind format line.text).opening?

theorem fenceBelow_of_kind {format : Format} {line : SourceLine} {kind : Kind}
    (known : line.kind? format = some kind) :
    line.fence = none ∧ line.fenceBelow format = kind.opening? := by
  unfold kind? at known
  unfold fenceBelow
  cases fence : line.fence with
  | some opening =>
    rw [fence] at known
    cases known
  | none =>
    rw [fence] at known
    obtain rfl := Option.some.inj known
    exact ⟨rfl, rfl⟩

/-- The name of the section that the line opens, if it is a header. -/
def opens? (format : Format) (line : SourceLine) : Option String :=
  match line.kind? format with
  | some (.header _) => some (Line.sectionName format line.text)
  | _ => none

def below (format : Format) (line : SourceLine) : Place :=
  { number := line.number + 1
    start := line.start + byteLength line.raw + 1
    fence := line.fenceBelow format
    heading := (line.opens? format).or line.heading }

end SourceLine

/-- Lines that follow each other from a given place on. -/
def survey (format : Format) : Place → List (List Char) → List SourceLine
  | _, [] => []
  | place, raw :: rest =>
    let line : SourceLine := { place with raw }
    line :: survey format (line.below format) rest

/-- The lines of a whole source. -/
def sourceLines (format : Format) (source : String) : List SourceLine :=
  survey format .top (Text.lines source.toList)

section
variable {format : Format} {place : Place} {lines : List (List Char)} {line : SourceLine}

theorem survey_raw (format : Format) (place : Place) (lines : List (List Char)) :
    (survey format place lines).map (·.raw) = lines := by
  induction lines generalizing place with
  | nil => rfl
  | cons raw rest ih => rw [survey, List.map_cons, ih]

theorem survey_numbers (format : Format) (place : Place) (lines : List (List Char)) :
    (survey format place lines).map (·.number) = List.range' place.number lines.length := by
  induction lines generalizing place with
  | nil => rfl
  | cons raw rest ih =>
    rw [survey, List.map_cons, ih, List.length_cons, List.range'_succ]
    rfl

theorem survey_increasing (format : Format) (place : Place) (lines : List (List Char)) :
    (survey format place lines).Pairwise fun first second => first.number < second.number := by
  have sorted : List.Pairwise (· < ·) (List.range' place.number lines.length) := List.pairwise_lt_range'
  rw [← survey_numbers format, List.pairwise_map] at sorted
  exact sorted

/-- The span of each line covers it in the text that the lines make up, whatever stands before them. -/
theorem survey_covered (front : List Char) (start : byteLength front = place.start)
    (inside : line ∈ survey format place lines) :
    line.span.slice (front ++ Text.joinWith ['\n'] lines) = some line.raw := by
  induction lines generalizing place front with
  | nil => cases inside
  | cons raw rest ih =>
    rcases List.mem_cons.mp inside with rfl | later
    · rw [SourceLine.span, ← start]
      cases rest with
      | nil => simpa [Text.joinWith] using Span.slice_append front raw []
      | cons next rest => simpa [Text.joinWith] using Span.slice_append front raw _
    · cases rest with
      | nil => cases later
      | cons next rest =>
        have here := ih (front ++ raw ++ ['\n'])
          (by simp [Text.byteLength_append, start, SourceLine.below]; rfl) later
        simpa [Text.joinWith] using here

theorem sourceLines_covered {source : String} (inside : line ∈ sourceLines format source) :
    line.span.slice source.toList = some line.raw := by
  have here := survey_covered [] rfl inside
  rwa [List.nil_append, Text.lines, Text.joinWith_splitAt] at here

/-- The heading of a line is the name in the last header above it. -/
theorem survey_heading {above : List SourceLine}
    (cut : survey format place lines = above ++ line :: rest) :
    line.heading = (above.filterMap (·.opens? format)).getLast?.or place.heading := by
  induction above generalizing place lines with
  | nil =>
    cases lines with
    | nil => cases cut
    | cons raw lines =>
      rw [survey, List.nil_append, List.cons.injEq] at cut
      rw [← cut.1]
      rfl
  | cons first above ih =>
    cases lines with
    | nil => cases cut
    | cons raw lines =>
      rw [survey, List.cons_append, List.cons.injEq] at cut
      obtain ⟨rfl, cut⟩ := cut
      rw [ih cut, SourceLine.below]
      dsimp only
      rw [List.filterMap_cons]
      cases SourceLine.opens? format { toPlace := place, raw } with
      | none => rfl
      | some name => simp [List.getLast?_cons, Option.or_of_isSome]

end

namespace Draft
variable {format : Format} {options : ReadingOptions} {draft : Draft} {line : SourceLine} {place : Place}

/-- What a line does, by its kind. In a block of code it can only end the block. -/
theorem addLine_eq (same : draft.fence = line.fence) :
    draft.addLine format options line.text line.number line.span =
      match line.kind? format with
      | none => { draft with fence := line.fenceBelow format }
      | some .blank => draft.breakParagraph
      | some (.header level) =>
        draft.flush.openSection (Line.sectionName format line.text) level (Line.isHidden line.text)
      | some (.fence opening) => { draft with fence := some opening }
      | some .directive => draft
      | some (.assignment assignment) =>
        draft.ensureSection.flush.define options assignment line.number line.span
      | some .prose => { draft with prose := draft.prose ++ [line.text] } := by
  obtain ⟨sections, positions, current, definitions, inputs, defined, prose, fence, errors⟩ := draft
  obtain rfl : fence = line.fence := same
  unfold addLine SourceLine.kind? SourceLine.fenceBelow
  cases line.fence with
  | none =>
    dsimp only [addOpenLine]
    cases Line.kind format line.text <;> rfl
  | some opening =>
    dsimp only
    split <;> rfl

theorem openSection_eq (draft : Draft) (name : String) (level : Nat) (hidden : Bool) :
    draft.openSection name level hidden =
      { draft with
        sections := (draft.openSection name level hidden).sections
        positions := (draft.openSection name level hidden).positions
        current := (draft.openSection name level hidden).current } := by
  unfold openSection
  split <;> rfl

theorem ensureSection_eq (draft : Draft) :
    draft.ensureSection =
      { draft with
        sections := draft.ensureSection.sections
        positions := draft.ensureSection.positions
        current := draft.ensureSection.current } := by
  unfold ensureSection
  split <;> rfl

theorem breakParagraph_eq (draft : Draft) :
    draft.breakParagraph = { draft with prose := draft.breakParagraph.prose } := by
  unfold breakParagraph
  split <;> rfl

theorem define_eq (draft : Draft) (options : ReadingOptions) (assignment : Assignment) (number : Nat)
    (span : Span) :
    draft.define options assignment number span =
      { draft with
        sections := (draft.define options assignment number span).sections
        definitions := (draft.define options assignment number span).definitions
        inputs := (draft.define options assignment number span).inputs
        defined := (draft.define options assignment number span).defined
        errors := (draft.define options assignment number span).errors } := by
  rcases define_cases draft options assignment number span with
    ⟨errors, same⟩ | ⟨position, part, current, found, new, same⟩ <;>
  rw [same] <;> rfl

theorem errors_flush (draft : Draft) : draft.flush.errors = draft.errors := by rw [flush_eq]

theorem errors_define (draft : Draft) (options : ReadingOptions) (assignment : Assignment) (number : Nat)
    (span : Span) : (draft.define options assignment number span).errors = draft.errors ++
      match draft.defined.get? assignment.name with
      | some (firstLine, firstSpan) => [⟨assignment.name, number, span, firstLine, firstSpan⟩]
      | none => [] := by
  unfold define
  cases draft.defined.get? assignment.name with
  | some first => rfl
  | none =>
    dsimp only
    rw [List.append_nil]
    split <;> rfl

/-- The name of the current section. -/
def home? (draft : Draft) : Option String := (draft.current.bind (draft.sections[·]?)).map (·.name)

theorem getElem?_names (sections : List Section) (position : Nat) :
    (sections.map (·.name))[position]? = (sections[position]?).map (·.name) := List.getElem?_map

theorem home?_congr {other : Draft} (current : other.current = draft.current)
    (names : other.sections.map (·.name) = draft.sections.map (·.name)) : other.home? = draft.home? := by
  unfold home?
  rw [current]
  cases draft.current with
  | none => rfl
  | some position =>
    rw [Option.bind_some, Option.bind_some, ← getElem?_names, ← getElem?_names, names]

theorem home?_eq_some {name : String} (home : draft.home? = some name) :
    ∃ position part, draft.current = some position ∧ draft.sections[position]? = some part ∧
      part.name = name := by
  unfold home? at home
  cases current : draft.current with
  | none =>
    rw [current] at home
    cases home
  | some position =>
    rw [current, Option.bind_some, Option.map_eq_some_iff] at home
    obtain ⟨part, found, same⟩ := home
    exact ⟨position, part, rfl, found, same⟩

theorem home?_flush (draft : Draft) : draft.flush.home? = draft.home? :=
  home?_congr (flush_current draft) (flush_names draft)

theorem home?_appendSection (draft : Draft) (name : String) (level : Nat) (hidden : Bool) :
    (draft.appendSection name level hidden).home? = some name := by
  simp [home?, appendSection, Section.empty]

theorem home?_openSection (valid : draft.Valid) (name : String) (level : Nat) (hidden : Bool) :
    (draft.openSection name level hidden).home? = some name := by
  unfold openSection
  cases found : draft.positions.get? name with
  | none => exact home?_appendSection _ _ _ _
  | some position =>
    obtain ⟨part, here, same⟩ := valid.section_at found
    simp [home?, here, same]

theorem home?_ensureSection (valid : draft.Valid) :
    draft.ensureSection.home? = some (draft.home?.getD "") := by
  unfold ensureSection
  cases current : draft.current with
  | none =>
    dsimp only
    rw [home?_appendSection, home?, current]
    rfl
  | some position =>
    simp [home?, current, List.getElem?_eq_getElem (valid.current_inside position current)]

theorem home?_define (draft : Draft) (options : ReadingOptions) (assignment : Assignment) (number : Nat)
    (span : Span) : (draft.define options assignment number span).home? = draft.home? := by
  rcases define_cases draft options assignment number span with
    ⟨errors, same⟩ | ⟨position, part, current, found, new, same⟩
  · rw [same]
    rfl
  · rw [same]
    exact home?_congr rfl (names_addEntry _ _ _)

theorem home?_breakParagraph (draft : Draft) : draft.breakParagraph.home? = draft.home? := by
  rw [breakParagraph_eq]
  rfl

/-- A valid draft that has come to a place: the fence there is its own, and its current section
has the name in the last header above. -/
structure At (draft : Draft) (place : Place) : Prop where
  valid : draft.Valid
  fence : draft.fence = place.fence
  heading : draft.home?.getD "" = place.heading.getD ""

theorem At.top : empty.At .top := ⟨.empty, rfl, rfl⟩

theorem At.fence_addLine (here : draft.At line.toPlace) :
    (draft.addLine format options line.text line.number line.span).fence = (line.below format).fence := by
  rw [addLine_eq here.fence]
  cases known : line.kind? format with
  | none => rfl
  | some kind =>
    obtain ⟨outside, below⟩ := SourceLine.fenceBelow_of_kind known
    have same : draft.fence = none := here.fence.trans outside
    dsimp only [SourceLine.below]
    rw [below]
    cases kind with
    | blank =>
      rw [breakParagraph_eq]
      exact same
    | header level =>
      dsimp only
      rw [openSection_eq, flush_eq]
      exact same
    | fence opening => rfl
    | directive => exact same
    | assignment assignment =>
      dsimp only
      rw [define_eq, flush_eq, ensureSection_eq]
      exact same
    | prose => exact same

theorem At.home?_addLine (here : draft.At line.toPlace) :
    (draft.addLine format options line.text line.number line.span).home?.getD "" =
      (line.below format).heading.getD "" := by
  have heading := here.heading
  rw [addLine_eq here.fence]
  dsimp only [SourceLine.below, SourceLine.opens?]
  cases known : line.kind? format with
  | none => exact heading
  | some kind =>
    cases kind with
    | blank => exact (congrArg (·.getD "") (home?_breakParagraph draft)).trans heading
    | header level => exact congrArg (·.getD "") (home?_openSection here.valid.flush _ _ _)
    | fence opening => exact heading
    | directive => exact heading
    | assignment assignment =>
      dsimp only
      rw [home?_define, home?_flush, home?_ensureSection here.valid]
      exact heading
    | prose => exact heading

theorem At.addLine (here : draft.At line.toPlace) :
    (draft.addLine format options line.text line.number line.span).At (line.below format) :=
  ⟨here.valid.addLine _ _ _, here.fence_addLine, here.home?_addLine⟩

/-- What each line keeps holds after all of them. The lines above the next one are at hand. -/
theorem addLines_induction {motive : List SourceLine → Draft → Prop} {all above : List SourceLine}
    {lines : List (List Char)} (cut : all = above ++ survey format place lines)
    (here : draft.At place) (start : motive above draft)
    (step : ∀ above line below draft, all = above ++ line :: below → draft.At line.toPlace →
      motive above draft →
        motive (above ++ [line]) (draft.addLine format options line.text line.number line.span)) :
    motive all (draft.addLines format options place.number place.start lines) := by
  induction lines generalizing place above draft with
  | nil =>
    rw [cut, survey, List.append_nil]
    exact start
  | cons raw rest ih =>
    let line : SourceLine := { place with raw }
    have next : motive (above ++ [line]) (draft.addLine format options line.text line.number line.span) :=
      step above line _ draft cut here start
    exact ih (by rw [cut, survey, List.append_assoc]; rfl) (show draft.At line.toPlace from here).addLine next

end Draft
end LiterateCalc
