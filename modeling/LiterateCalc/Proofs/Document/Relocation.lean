import LiterateCalc.Proofs.Document.Alignment

/-! Documents whose lines and spans are put elsewhere. Reading takes in a line in the same way wherever it
stands: what it makes of the line there is what it makes of it here, put elsewhere. -/
namespace LiterateCalc
open Text (Span trim)
open Line (Assignment)

/-- Where the number and the span of a line are put. -/
structure Relocation where
  line : Nat → Nat
  span : Span → Span

def Relocation.place (move : Relocation) (place : Nat × Span) : Nat × Span :=
  (move.line place.1, move.span place.2)

/-- All places become the same one. -/
def Relocation.forget : Relocation := ⟨fun _ => 0, fun _ => ⟨0, 0⟩⟩

def Variable.relocate (move : Relocation) (entry : Variable) : Variable :=
  { entry with line := move.line entry.line, span := move.span entry.span }

def Item.relocate (move : Relocation) : Item → Item
  | .definition content => .definition (content.relocate move)
  | .prose content => .prose content

def Section.relocate (move : Relocation) (part : Section) : Section :=
  { part with
    definitions := part.definitions.map (·.relocate move)
    items := part.items.map (·.relocate move) }

/-- The places in the note are put elsewhere too. -/
def Redefinition.relocate (move : Relocation) (error : Redefinition) : Redefinition :=
  { error with
    line := move.line error.line
    span := move.span error.span
    firstLine := move.line error.firstLine
    firstSpan := move.span error.firstSpan }

def Document.relocate (move : Relocation) (document : Document) : Document :=
  { document with
    sections := document.sections.map (·.relocate move)
    definitions := document.definitions.map (·.relocate move) }

/-- A document or its errors with all places put elsewhere. -/
def relocateResult (move : Relocation) :
    Except (List Redefinition) Document → Except (List Redefinition) Document
  | .ok document => .ok (document.relocate move)
  | .error errors => .error (errors.map (·.relocate move))

/-- Markup depends on the text of prose alone. -/
theorem Document.renderProse_relocate (move : Relocation) (render : String → String) (document : Document) :
    (document.renderProse render).relocate move = (document.relocate move).renderProse render := by
  simp only [renderProse, relocate, List.map_map]
  congr 1
  apply List.map_congr_left
  intro part _
  simp only [Function.comp_apply, Section.relocate, List.map_map]
  congr 1
  apply List.map_congr_left
  intro item _
  cases item <;> rfl

theorem relocateResult_map (move : Relocation) (render : String → String)
    (result : Except (List Redefinition) Document) :
    relocateResult move (result.map (·.renderProse render)) =
      (relocateResult move result).map (·.renderProse render) := by
  cases result with
  | ok document => exact congrArg Except.ok (Document.renderProse_relocate move render document)
  | error errors => rfl

namespace Draft

def relocate (move : Relocation) (draft : Draft) : Draft :=
  { draft with
    sections := draft.sections.map (·.relocate move)
    definitions := draft.definitions.map (·.relocate move)
    defined := draft.defined.map move.place
    errors := draft.errors.map (·.relocate move) }

variable (move : Relocation) (draft : Draft) {format : Format} {options : ReadingOptions}

theorem relocate_flush : draft.flush.relocate move = (draft.relocate move).flush := by
  have added (block : Prose) (position : Nat) :
      (draft.sections.modify position (addItem (.prose block))).map (·.relocate move) =
        (draft.sections.map (·.relocate move)).modify position (addItem (.prose block)) := by
    apply map_modify
    intro part
    simp [Section.relocate, addItem, Item.relocate]
  have same : (draft.relocate move).current = draft.current := rfl
  rw [flush, flush, same]
  cases draft.current with
  | none => rfl
  | some position =>
    dsimp only [relocate]
    by_cases empty : (trim (Text.joinWith ['\n'] draft.prose)).isEmpty = true
    · simp [empty]
    · simp [empty, added]

theorem relocate_appendSection (name : String) (level : Nat) (hidden : Bool) :
    (draft.appendSection name level hidden).relocate move =
      (draft.relocate move).appendSection name level hidden := by
  simp [appendSection, relocate, Section.empty, Section.relocate]

theorem relocate_openSection (name : String) (level : Nat) (hidden : Bool) :
    (draft.openSection name level hidden).relocate move =
      (draft.relocate move).openSection name level hidden := by
  have same : (draft.relocate move).positions = draft.positions := rfl
  rw [openSection, openSection, same]
  cases draft.positions.get? name with
  | some position => rfl
  | none => exact relocate_appendSection move draft name level hidden

theorem relocate_ensureSection : draft.ensureSection.relocate move = (draft.relocate move).ensureSection := by
  have same : (draft.relocate move).current = draft.current := rfl
  rw [ensureSection, ensureSection, same]
  cases draft.current with
  | some position => rfl
  | none => exact relocate_appendSection move draft "" 0 false

theorem relocate_breakParagraph :
    draft.breakParagraph.relocate move = (draft.relocate move).breakParagraph := by
  have same : (draft.relocate move).prose = draft.prose := rfl
  rw [breakParagraph, breakParagraph, same]
  split <;> rfl

theorem relocate_addEntry (position : Nat) (entry : Variable) :
    (draft.addEntry position entry).relocate move =
      (draft.relocate move).addEntry position (entry.relocate move) := by
  have added : (draft.sections.modify position (addVariable entry)).map (·.relocate move) =
      (draft.sections.map (·.relocate move)).modify position (addVariable (entry.relocate move)) := by
    apply map_modify
    intro part
    simp [Section.relocate, addVariable, Item.relocate]
  simp only [addEntry, relocate, added, NameMap.map_insert, List.map_append]
  rfl

theorem relocate_define (assignment : Assignment) (line : Nat) (span : Span) :
    (draft.define options assignment line span).relocate move =
      (draft.relocate move).define options assignment (move.line line) (move.span span) := by
  have known : (draft.relocate move).defined.get? assignment.name =
      (draft.defined.get? assignment.name).map move.place := NameMap.get?_map _ _ _
  have current : (draft.relocate move).current = draft.current := rfl
  have there : draft.current.bind ((draft.relocate move).sections[·]?) =
      (draft.current.bind (draft.sections[·]?)).map (·.relocate move) := by
    simp only [relocate, List.getElem?_map, Option.map_bind]
    rfl
  rw [define, define, known, current, there]
  cases draft.defined.get? assignment.name with
  | some first => simp [relocate, Redefinition.relocate, Relocation.place]
  | none =>
    cases draft.current.bind (draft.sections[·]?) with
    | none => rfl
    | some part =>
      dsimp only [Option.map]
      rw [relocate_addEntry]
      simp [newVariable, Variable.relocate, Section.relocate]

/-- A line is taken in at its new place as at its old one. -/
theorem relocate_addLine (text : List Char) (line : Nat) (span : Span) :
    (draft.addLine format options text line span).relocate move =
      (draft.relocate move).addLine format options text (move.line line) (move.span span) := by
  have same : (draft.relocate move).fence = draft.fence := rfl
  rw [addLine, addLine, same]
  cases draft.fence with
  | some opening =>
    dsimp only
    split <;> rfl
  | none =>
    dsimp only [addOpenLine]
    cases Line.kind format text with
    | blank => exact relocate_breakParagraph move draft
    | header level =>
      dsimp only
      rw [relocate_openSection, relocate_flush]
    | fence opening => rfl
    | directive => rfl
    | assignment assignment =>
      dsimp only
      rw [relocate_define, relocate_flush, relocate_ensureSection]
    | prose => rfl

theorem relocate_finish :
    relocateResult move (draft.finish format options) = (draft.relocate move).finish format options := by
  simp only [finish, ← relocate_flush]
  generalize draft.flush = last
  cases errors : last.errors with
  | nil => simp [relocate, relocateResult, errors, Document.relocate]
  | cons error rest => simp [relocate, relocateResult, errors]

end Draft
end LiterateCalc
