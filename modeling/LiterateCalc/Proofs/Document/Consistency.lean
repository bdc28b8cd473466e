import LiterateCalc.Proofs.Document.Alignment

/-! Every line keeps the copies of the variables in step, whatever headers, fences, prose and
assignments came before it. So a document that is read agrees with itself. -/
namespace LiterateCalc
open Text (Span trim)
open Line (Assignment)

namespace Line

theorem headerLevel?_pos (found : headerLevel? format text = some level) : 0 < level := by
  unfold headerLevel? at found
  dsimp only at found
  split at found
  · split at found
    · rename_i accepted
      simp only [Bool.and_eq_true, decide_eq_true_eq] at accepted
      obtain rfl := Option.some.inj found
      exact accepted.1.2
    · cases found
  · cases found

theorem kind_header (header : kind format text = .header level) : 0 < level := by
  unfold kind at header
  repeat' split at header
  all_goals cases header
  rename_i found
  exact headerLevel?_pos found

end Line

namespace Draft

/-- The sections and the definitions agree, and everything else that is kept of them agrees with
them. The current section exists; without one there are no sections yet. -/
structure Valid (draft : Draft) : Prop where
  aligned : Aligned draft.sections draft.definitions
  /-- A name leads to the section with that name. -/
  indexed : ∀ name, draft.positions.get? name = (draft.sections.map (·.name)).idxOf? name
  /-- The inputs stand in the order of the definitions. -/
  listed : draft.inputs = (draft.definitions.filter (·.isInput)).map (·.name)
  /-- A name leads to the place of its definition. -/
  noted : ∀ name, draft.defined.get? name =
    (draft.definitions.find? (·.name == name)).map fun first => (first.line, first.span)
  current_inside : ∀ position, draft.current = some position → position < draft.sections.length
  current_first : draft.current = none → draft.sections = []

variable {draft : Draft} {format : Format} {options : ReadingOptions}

theorem Valid.empty : Valid empty where
  aligned := .empty
  indexed _ := rfl
  listed := rfl
  noted _ := rfl
  current_inside _ found := by cases found
  current_first _ := rfl

theorem Valid.positions_eq_none (valid : draft.Valid) :
    draft.positions.get? name = none ↔ name ∉ draft.sections.map (·.name) := by
  rw [valid.indexed, List.idxOf?_eq_none_iff]

theorem Valid.section_at (valid : draft.Valid) (found : draft.positions.get? name = some position) :
    ∃ part, draft.sections[position]? = some part ∧ part.name = name := by
  rw [valid.indexed] at found
  obtain ⟨inside, same, -⟩ := List.findIdx?_eq_some_iff_getElem.mp found
  rw [List.length_map] at inside
  rw [List.getElem_map, beq_iff_eq] at same
  exact ⟨_, List.getElem?_eq_getElem inside, same⟩

theorem Valid.defined_eq_none (valid : draft.Valid) :
    draft.defined.get? name = none ↔ name ∉ draft.definitions.map (·.name) := by
  rw [valid.noted, Option.map_eq_none_iff, List.find?_eq_none]
  simp

theorem flush_current (draft : Draft) : draft.flush.current = draft.current := by
  unfold flush
  cases draft.current with
  | none => rfl
  | some position =>
    dsimp only
    split <;> rfl

theorem flush_definitions (draft : Draft) : draft.flush.definitions = draft.definitions := by
  unfold flush
  cases draft.current with
  | none => rfl
  | some position =>
    dsimp only
    split <;> rfl

theorem flush_eq (draft : Draft) :
    draft.flush = { draft with sections := draft.flush.sections, prose := [] } := by
  unfold flush
  split
  · rfl
  · dsimp only
    split <;> rfl

/-- Prose goes to the items of the current section, and to nothing else. -/
theorem flush_sections (draft : Draft) : draft.flush.sections = draft.sections ∨
    ∃ position prose, draft.current = some position ∧
      draft.flush.sections = draft.sections.modify position (addItem (.prose prose)) := by
  unfold flush
  cases draft.current with
  | none => exact .inl rfl
  | some position =>
    dsimp only
    split
    · exact .inl rfl
    · exact .inr ⟨position, _, rfl, rfl⟩

theorem flush_names (draft : Draft) :
    draft.flush.sections.map (·.name) = draft.sections.map (·.name) := by
  rcases flush_sections draft with same | ⟨position, prose, _, same⟩
  · rw [same]
  · rw [same, map_modify_of_kept (addItem (.prose prose)) fun _ => rfl]

theorem Valid.flush (valid : draft.Valid) : draft.flush.Valid := by
  have length : draft.flush.sections.length = draft.sections.length := by
    simpa using congrArg List.length (flush_names draft)
  constructor
  · rw [flush_definitions]
    rcases flush_sections draft with same | ⟨position, prose, _, same⟩
    · rw [same]
      exact valid.aligned
    · rw [same]
      exact valid.aligned.of_outline (map_modify_of_kept _ (Aligned.outline_addProse prose) _ _)
  · rw [flush_eq, flush_names]
    exact valid.indexed
  · rw [flush_eq]
    exact valid.listed
  · rw [flush_eq]
    exact valid.noted
  · intro position found
    rw [flush_current] at found
    rw [length]
    exact valid.current_inside position found
  · intro missing
    rw [flush_current] at missing
    rw [← List.length_eq_zero_iff, length, valid.current_first missing, List.length_nil]

theorem Valid.appendSection (valid : draft.Valid) (fresh : name ∉ draft.sections.map (·.name))
    (level_zero : level = 0 → draft.sections = [] ∧ name = "") (hidden : Bool) :
    (draft.appendSection name level hidden).Valid where
  aligned := valid.aligned.addSection fresh level_zero hidden
  indexed other := by
    have absent := List.idxOf?_eq_none_iff.mpr fresh
    rw [Draft.appendSection, NameMap.get?_insert, List.map_append, List.idxOf?, List.findIdx?_append]
    by_cases same : name = other
    · subst same
      rw [List.idxOf?] at absent
      simp [absent, Section.empty]
    · rw [if_neg same, valid.indexed, List.idxOf?]
      simp [Section.empty, same]
  listed := valid.listed
  noted := valid.noted
  current_inside position found := by
    obtain rfl := Option.some.inj found
    simp [Draft.appendSection]
  current_first missing := by cases missing

theorem Valid.openSection (valid : draft.Valid) (marked : 0 < level) (name : String) (hidden : Bool) :
    (draft.openSection name level hidden).Valid := by
  unfold Draft.openSection
  cases found : draft.positions.get? name with
  | some position =>
    obtain ⟨part, here, -⟩ := valid.section_at found
    obtain ⟨inside, -⟩ := List.getElem?_eq_some_iff.mp here
    refine ⟨valid.aligned, valid.indexed, valid.listed, valid.noted, ?_, ?_⟩
    · intro other current
      obtain rfl := Option.some.inj current
      exact inside
    · intro missing
      cases missing
  | none =>
    apply valid.appendSection (valid.positions_eq_none.mp found)
    intro zero
    omega

theorem Valid.ensureSection (valid : draft.Valid) : draft.ensureSection.Valid := by
  unfold Draft.ensureSection
  cases current : draft.current with
  | some position => exact valid
  | none =>
    have none := valid.current_first current
    apply valid.appendSection _ (fun _ => ⟨none, rfl⟩) false
    rw [none]
    exact List.not_mem_nil

theorem names_addEntry (draft : Draft) (position : Nat) (entry : Variable) :
    (draft.addEntry position entry).sections.map (·.name) = draft.sections.map (·.name) :=
  map_modify_of_kept (addVariable entry) (fun _ => rfl) _ _

/-- Each of the copies takes in a new variable, and so they stay in step. -/
theorem Valid.addEntry (valid : draft.Valid) (current : draft.current = some position)
    (found : draft.sections[position]? = some part) (new : draft.defined.get? entry.name = none)
    (home : entry.sectionName = part.name) (last : entry.order = part.definitions.length) :
    (draft.addEntry position entry).Valid where
  aligned := valid.aligned.addVariable found (valid.defined_eq_none.mp new) home last
  indexed := by
    rw [names_addEntry]
    exact valid.indexed
  listed := by
    simp only [Draft.addEntry, List.filter_append, List.map_append, ← valid.listed]
    cases input : entry.isInput <;> simp [input]
  noted name := by
    simp only [Draft.addEntry, NameMap.get?_insert, List.find?_append, Option.map_or, ← valid.noted]
    by_cases same : entry.name = name
    · subst same
      simp [new]
    · simp [same]
  current_inside other here := by
    have inside := valid.current_inside other here
    rwa [← List.length_modify (Draft.addVariable entry)] at inside
  current_first missing := by
    change draft.current = none at missing
    rw [current] at missing
    cases missing

/-- The two ways an assignment can end: its name is taken, or it adds a variable to the current section. -/
theorem define_cases (draft : Draft) (options : ReadingOptions) (assignment : Assignment) (line : Nat)
    (span : Span) :
    (∃ errors, draft.define options assignment line span = { draft with errors }) ∨
      ∃ position part, draft.current = some position ∧ draft.sections[position]? = some part ∧
        draft.defined.get? assignment.name = none ∧
        draft.define options assignment line span =
          draft.addEntry position (newVariable options part assignment line span) := by
  unfold define
  cases taken : draft.defined.get? assignment.name with
  | some first => exact .inl ⟨_, rfl⟩
  | none =>
    cases here : draft.current.bind (draft.sections[·]?) with
    | none => exact .inl ⟨draft.errors, rfl⟩
    | some part =>
      obtain ⟨position, current, found⟩ := Option.bind_eq_some_iff.mp here
      refine .inr ⟨position, part, current, found, rfl, ?_⟩
      rw [current]
      rfl

theorem Valid.define (valid : draft.Valid) (options : ReadingOptions) (assignment : Assignment)
    (line : Nat) (span : Span) : (draft.define options assignment line span).Valid := by
  rcases define_cases draft options assignment line span with
    ⟨errors, same⟩ | ⟨position, part, current, found, new, same⟩
  · rw [same]
    exact { valid with }
  · rw [same]
    exact valid.addEntry current found new rfl rfl

theorem Valid.breakParagraph (valid : draft.Valid) : draft.breakParagraph.Valid := by
  unfold Draft.breakParagraph
  split
  · exact { valid with }
  · exact valid

theorem Valid.addOpenLine (valid : draft.Valid) (text : List Char) (line : Nat) (span : Span) :
    (draft.addOpenLine format options text line span).Valid := by
  unfold Draft.addOpenLine
  cases kind : Line.kind format text with
  | blank => exact valid.breakParagraph
  | header level => exact valid.flush.openSection (Line.kind_header kind) _ _
  | fence opening => exact { valid with }
  | directive => exact valid
  | assignment assignment => exact valid.ensureSection.flush.define options assignment line span
  | prose => exact { valid with }

theorem Valid.addLine (valid : draft.Valid) (text : List Char) (line : Nat) (span : Span) :
    (draft.addLine format options text line span).Valid := by
  unfold Draft.addLine
  split
  · split
    · exact { valid with }
    · exact valid
  · exact valid.addOpenLine text line span

theorem Valid.addLines (valid : draft.Valid) (line start : Nat) (lines : List (List Char)) :
    (draft.addLines format options line start lines).Valid := by
  induction lines generalizing draft line start with
  | nil => exact valid
  | cons raw rest ih => exact ih (valid.addLine _ _ _) _ _

/-- Whether a line is a header that opens a section again. -/
def reopens (format : Format) (draft : Draft) (text : List Char) : Bool :=
  match draft.fence, Line.kind format text with
  | none, .header _ => draft.sections.any (·.name == Line.sectionName format text)
  | _, _ => false

/-- Whether one of the lines is a header that opens a section again. -/
def reopensAmong (format : Format) (options : ReadingOptions) :
    (draft : Draft) → (line start : Nat) → List (List Char) → Bool
  | _, _, _, [] => false
  | draft, line, start, raw :: rest =>
    let stop := start + Text.byteLength raw
    draft.reopens format (trim raw) ||
      reopensAmong format options (draft.addLine format options (trim raw) line ⟨start, stop⟩)
        (line + 1) (stop + 1) rest

/-- Only the last section grows, so that the definitions are those of the sections one after another. -/
structure InSequence (draft : Draft) : Prop where
  current_last : ∀ position, draft.current = some position → position + 1 = draft.sections.length
  flattened : draft.definitions = draft.sections.flatMap (·.definitions)

theorem modify_last {sections : List Section} (last : position + 1 = sections.length)
    (found : sections[position]? = some part) (change : Section → Section) :
    sections = sections.take position ++ [part] ∧
      sections.modify position change = sections.take position ++ [change part] := by
  obtain ⟨inside, same⟩ := List.getElem?_eq_some_iff.mp found
  have nothing : sections.drop (position + 1) = [] := List.drop_eq_nil_of_le (Nat.le_of_eq last.symm)
  constructor
  · have split := List.take_append_drop position sections
    rw [List.drop_eq_getElem_cons inside, nothing, same] at split
    exact split.symm
  · rw [List.modify_eq_take_cons_drop inside, nothing, same]

theorem InSequence.empty : InSequence empty where
  current_last _ found := by cases found
  flattened := rfl

theorem InSequence.flush (sequence : draft.InSequence) : draft.flush.InSequence := by
  rcases flush_sections draft with same | ⟨position, prose, _, same⟩
  · constructor
    · rw [flush_current, same]
      exact sequence.current_last
    · rw [flush_definitions, same]
      exact sequence.flattened
  · constructor
    · rw [flush_current, same, List.length_modify]
      exact sequence.current_last
    · rw [flush_definitions, same, sequence.flattened, List.flatMap_def, List.flatMap_def,
        map_modify_of_kept (addItem (.prose prose)) fun _ => rfl]

theorem InSequence.appendSection (sequence : draft.InSequence) (name : String) (level : Nat)
    (hidden : Bool) : (draft.appendSection name level hidden).InSequence := by
  constructor
  · intro position found
    obtain rfl := Option.some.inj found
    simp [Draft.appendSection]
  · simp [Draft.appendSection, Section.empty, sequence.flattened]

theorem InSequence.addEntry (sequence : draft.InSequence) (current : draft.current = some position)
    (found : draft.sections[position]? = some part) (entry : Variable) :
    (draft.addEntry position entry).InSequence := by
  have last := sequence.current_last position current
  obtain ⟨before, after⟩ := modify_last last found (addVariable entry)
  constructor
  · intro other here
    dsimp only [Draft.addEntry]
    rw [List.length_modify]
    exact sequence.current_last other here
  · have flattened := sequence.flattened
    rw [before] at flattened
    dsimp only [Draft.addEntry]
    rw [after, flattened]
    simp [addVariable]

theorem InSequence.define (sequence : draft.InSequence) (options : ReadingOptions)
    (assignment : Assignment) (line : Nat) (span : Span) :
    (draft.define options assignment line span).InSequence := by
  rcases define_cases draft options assignment line span with
    ⟨errors, same⟩ | ⟨position, part, current, found, _, same⟩
  · rw [same]
    exact { sequence with }
  · rw [same]
    exact sequence.addEntry current found _

theorem InSequence.addOpenLine (sequence : draft.InSequence) (valid : draft.Valid) (outside : draft.fence = none)
    (fresh : draft.reopens format text = false) (line : Nat) (span : Span) :
    (draft.addOpenLine format options text line span).InSequence := by
  unfold reopens at fresh
  unfold Draft.addOpenLine
  cases kind : Line.kind format text with
  | blank =>
    dsimp only [Draft.breakParagraph]
    split <;> exact { sequence with }
  | header level =>
    rw [outside, kind] at fresh
    dsimp only [openSection]
    cases found : draft.flush.positions.get? (Line.sectionName format text) with
    | none => exact sequence.flush.appendSection _ _ _
    | some position =>
      have taken : Line.sectionName format text ∈ draft.sections.map (·.name) := by
        obtain ⟨part, here, named⟩ := valid.flush.section_at found
        rw [← flush_names, ← named]
        exact List.mem_map_of_mem (List.mem_of_getElem? here)
      obtain ⟨part, member, same⟩ := List.mem_map.mp taken
      have absent := List.any_eq_false.mp fresh part member
      exact absurd (beq_iff_eq.mpr same) absent
  | fence opening => exact { sequence with }
  | directive => exact sequence
  | assignment assignment =>
    have ensured : draft.ensureSection.InSequence := by
      unfold ensureSection
      split
      · exact sequence
      · exact sequence.appendSection _ _ _
    exact ensured.flush.define options assignment line span
  | prose => exact { sequence with }

theorem InSequence.addLine (sequence : draft.InSequence) (valid : draft.Valid) (fresh : draft.reopens format text = false)
    (line : Nat) (span : Span) : (draft.addLine format options text line span).InSequence := by
  unfold Draft.addLine
  cases fence : draft.fence with
  | some opening =>
    dsimp only
    split
    · exact { sequence with }
    · exact sequence
  | none => exact sequence.addOpenLine valid fence fresh line span

theorem InSequence.addLines (sequence : draft.InSequence) (valid : draft.Valid) (line start : Nat)
    (lines : List (List Char)) (fresh : draft.reopensAmong format options line start lines = false) :
    (draft.addLines format options line start lines).InSequence := by
  induction lines generalizing draft line start with
  | nil => exact sequence
  | cons raw rest ih =>
    simp only [reopensAmong, Bool.or_eq_false_iff] at fresh
    exact ih (sequence.addLine valid fresh.1 _ _) (valid.addLine _ _ _) _ _ fresh.2

end Draft

/-- All the copies of the variables in a document agree. -/
structure Document.Consistent (document : Document) : Prop where
  aligned : Aligned document.sections document.definitions
  inputs : document.inputs = (document.definitions.filter (·.isInput)).map (·.name)

theorem Draft.finish_eq_ok (success : Draft.finish format options draft = .ok document) :
    document.sections = draft.flush.sections ∧ document.definitions = draft.flush.definitions ∧
      document.inputs = draft.flush.inputs := by
  unfold Draft.finish at success
  dsimp only at success
  split at success
  · cases success
    exact ⟨rfl, rfl, rfl⟩
  · cases success

theorem Document.Consistent.renderProse (consistent : Document.Consistent document)
    (render : String → String) : (document.renderProse render).Consistent := by
  refine ⟨consistent.aligned.of_outline ?_, consistent.inputs⟩
  simp only [Document.renderProse, List.map_map]
  apply List.map_congr_left
  intro part inside
  simp only [Function.comp, Section.outline, List.filterMap_map]
  congr 5
  funext item
  cases item <;> rfl

theorem Draft.Valid.consistent_of_finish {draft : Draft} (valid : draft.Valid)
    (success : draft.finish format options = .ok document) : document.Consistent := by
  obtain ⟨sections, definitions, inputs⟩ := Draft.finish_eq_ok success
  constructor
  · rw [sections, definitions]
    exact valid.flush.aligned
  · rw [inputs, definitions]
    exact valid.flush.listed

/-- The copies of the variables in a document that is read agree, also with markup for its prose.
If no header opens a section again, the variables of the sections one after another are all
variables in the order of their assignments. -/
theorem Document.readAs_consistent {format : Format} {options : ReadingOptions} {source : String}
    {document : Document} (success : Document.readAs format options source = .ok document) :
    document.Consistent ∧ (∀ render, (document.renderProse render).Consistent) ∧
      (Draft.empty.reopensAmong format options 1 0 (Text.lines source.toList) = false →
        document.definitions = document.sections.flatMap (·.definitions)) := by
  have valid : (Draft.empty.addLines format options 1 0 (Text.lines source.toList)).Valid :=
    Draft.Valid.empty.addLines _ _ _
  have consistent := valid.consistent_of_finish success
  refine ⟨consistent, consistent.renderProse, ?_⟩
  intro fresh
  obtain ⟨sections, definitions, -⟩ := Draft.finish_eq_ok success
  rw [sections, definitions]
  exact (Draft.InSequence.empty.addLines .empty 1 0 _ fresh).flush.flattened

/-- A variable before the first header and one after it. -/
theorem Document.readAs_two_sections :
    ∃ document, Document.readAs .markdown {} "x = 1\n# Rates\ny = x * 2" = .ok document ∧
      document.sections.map (·.name) = ["", "Rates"] ∧ document.Consistent ∧
      document.definitions = document.sections.flatMap (·.definitions) := by
  let x : Variable := ⟨"x", "1", true, "", 0, 1, ⟨0, 5⟩⟩
  let y : Variable := ⟨"y", "x * 2", false, "Rates", 0, 3, ⟨14, 23⟩⟩
  have success : Document.readAs .markdown {} "x = 1\n# Rates\ny = x * 2" =
      .ok ⟨.markdown, "default", [⟨"", 0, 0, false, [x], [.definition x]⟩,
        ⟨"Rates", 1, 1, false, [y], [.definition y]⟩], [x, y], ["x"]⟩ := by rfl
  obtain ⟨consistent, -, order⟩ := Document.readAs_consistent success
  exact ⟨_, success, rfl, consistent, order (by decide +kernel)⟩

/-- A document as it is read, with or without markup for its prose. -/
inductive Document.Produced : Document → Prop
  | read {format : Format} {options : ReadingOptions} {source : String} {document : Document}
      (success : Document.readAs format options source = .ok document) : Produced document
  | markup {document : Document} (produced : Produced document) (render : String → String) :
      Produced (document.renderProse render)

theorem Document.Produced.consistent {document : Document} (produced : document.Produced) :
    document.Consistent := by
  induction produced with
  | read success => exact (Draft.Valid.empty.addLines _ _ _).consistent_of_finish success
  | markup produced render ih => exact ih.renderProse render

end LiterateCalc
