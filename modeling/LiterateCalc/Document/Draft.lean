import LiterateCalc.Document.Basic
import LiterateCalc.Document.Line
import LiterateCalc.NameMap

/-! Reading a document line by line. Headers open sections, or open them again; prose
collects until an assignment or a header ends it; a name may be assigned once only. -/
namespace LiterateCalc
open Text (Span byteLength trim)
open Line (Assignment Fence)

/-- What decides how assignments are taken. -/
structure ReadingOptions where
  /-- Whether blank expressions and plain numbers make inputs. -/
  autoDetectInputs : Bool := true
  /-- Names that are inputs whatever their expression. -/
  explicitInputs : List String := []
  language : String := "default"
deriving DecidableEq, Inhabited

def ReadingOptions.isInput (options : ReadingOptions) (assignment : Assignment) : Bool :=
  options.explicitInputs.contains assignment.name ||
    options.autoDetectInputs && Line.isSimpleValue assignment.expression.toList

/-- A second assignment to a name, with the place of the first one. -/
structure Redefinition where
  name : String
  line : Nat
  span : Span
  firstLine : Nat
  firstSpan : Span
deriving DecidableEq, Inhabited

namespace Redefinition

def message (error : Redefinition) : String := s!"variable '{error.name}' is defined more than once"

/-- What the marked place is. -/
def label : String := "redefinition"

def note (error : Redefinition) : String :=
  s!"first defined on line {error.firstLine} (bytes {error.firstSpan.start}..{error.firstSpan.stop})"

end Redefinition

/-- A document in the making. -/
structure Draft where
  sections : List Section
  /-- The positions of the sections by their names. -/
  positions : NameMap Nat
  /-- The position of the section that the next line belongs to, once there is one. -/
  current : Option Nat
  definitions : List Variable
  /-- The names of the inputs among the definitions. -/
  inputs : List String
  /-- The line and the span of the first assignment to each name. -/
  defined : NameMap (Nat × Span)
  /-- Lines of prose that belong to no block yet; an empty one is a paragraph break. -/
  prose : List (List Char)
  /-- The fence of the block of code around the next line. -/
  fence : Option Fence
  errors : List Redefinition
deriving DecidableEq, Inhabited

namespace Draft

def empty : Draft where
  sections := []
  positions := ∅
  current := none
  definitions := []
  inputs := []
  defined := ∅
  prose := []
  fence := none
  errors := []

def addItem (item : Item) (part : Section) : Section := { part with items := part.items ++ [item] }

def addVariable (entry : Variable) (part : Section) : Section :=
  { part with definitions := part.definitions ++ [entry], items := part.items ++ [.definition entry] }

/-- Moves the waiting prose into the current section as one block. Without a section it is dropped. -/
def flush (draft : Draft) : Draft :=
  let text := trim (Text.joinWith ['\n'] draft.prose)
  let flushed := { draft with prose := [] }
  match draft.current with
  | none => flushed
  | some index =>
    if text.isEmpty then flushed
    else { flushed with
      sections := draft.sections.modify index (addItem (.prose ⟨String.ofList text, ""⟩)) }

/-- Makes a new last section the current one. -/
def appendSection (draft : Draft) (name : String) (level : Nat) (hidden : Bool) : Draft :=
  { draft with
    sections := draft.sections ++ [.empty name draft.sections.length level hidden]
    positions := draft.positions.insert name draft.sections.length
    current := some draft.sections.length }

/-- Makes the section with a header's name the current one; the first such header adds it. -/
def openSection (draft : Draft) (name : String) (level : Nat) (hidden : Bool) : Draft :=
  match draft.positions.get? name with
  | some position => { draft with current := some position }
  | none => draft.appendSection name level hidden

/-- Before the first header, the first assignment opens a section without a name. -/
def ensureSection (draft : Draft) : Draft :=
  match draft.current with
  | some _ => draft
  | none => draft.appendSection "" 0 false

/-- The variable that an assignment makes at the end of a section. -/
def newVariable (options : ReadingOptions) (part : Section) (assignment : Assignment) (line : Nat)
    (span : Span) : Variable where
  name := assignment.name
  expression := assignment.expression
  isInput := options.isInput assignment
  sectionName := part.name
  order := part.definitions.length
  line := line
  span := span

/-- Adds a variable to the section at a position and to what is kept of all variables. -/
def addEntry (draft : Draft) (position : Nat) (entry : Variable) : Draft :=
  { draft with
    sections := draft.sections.modify position (addVariable entry)
    definitions := draft.definitions ++ [entry]
    inputs := if entry.isInput then draft.inputs ++ [entry.name] else draft.inputs
    defined := draft.defined.insert entry.name (entry.line, entry.span) }

/-- Adds a variable to the current section, or reports that its name is taken. -/
def define (options : ReadingOptions) (draft : Draft) (assignment : Assignment) (line : Nat)
    (span : Span) : Draft :=
  match draft.defined.get? assignment.name with
  | some (firstLine, firstSpan) =>
    { draft with errors := draft.errors ++ [⟨assignment.name, line, span, firstLine, firstSpan⟩] }
  | none =>
    match draft.current.bind (draft.sections[·]?) with
    | none => draft
    | some part =>
      draft.addEntry (draft.current.getD 0) (newVariable options part assignment line span)

/-- Marks a paragraph break, one at a time and not before the first line. -/
def breakParagraph (draft : Draft) : Draft :=
  match draft.prose.getLast? with
  | some (_ :: _) => { draft with prose := draft.prose ++ [[]] }
  | _ => draft

/-- Takes in a trimmed line outside a block of code. -/
def addOpenLine (format : Format) (options : ReadingOptions) (draft : Draft) (text : List Char)
    (line : Nat) (span : Span) : Draft :=
  match Line.kind format text with
  | .blank => draft.breakParagraph
  | .header level => draft.flush.openSection (Line.sectionName format text) level (Line.isHidden text)
  | .fence opening => { draft with fence := some opening }
  | .directive => draft
  | .assignment assignment => draft.ensureSection.flush.define options assignment line span
  | .prose => { draft with prose := draft.prose ++ [text] }

/-- Takes in a trimmed line. In a block of code only the closing fence counts. -/
def addLine (format : Format) (options : ReadingOptions) (draft : Draft) (text : List Char)
    (line : Nat) (span : Span) : Draft :=
  match draft.fence with
  | some opening => if opening.closedBy text then { draft with fence := none } else draft
  | none => draft.addOpenLine format options text line span

/-- Takes in lines that start at a given number and byte. -/
def addLines (format : Format) (options : ReadingOptions) :
    (draft : Draft) → (line start : Nat) → List (List Char) → Draft
  | draft, _, _, [] => draft
  | draft, line, start, raw :: rest =>
    let stop := start + byteLength raw
    addLines format options (draft.addLine format options (trim raw) line ⟨start, stop⟩) (line + 1)
      (stop + 1) rest

/-- The document, unless there were errors. -/
def finish (format : Format) (options : ReadingOptions) (draft : Draft) :
    Except (List Redefinition) Document :=
  let last := draft.flush
  if last.errors.isEmpty then
    .ok {
      format
      language := options.language
      sections := last.sections
      definitions := last.definitions
      inputs := last.inputs }
  else .error last.errors

end Draft

/-- Reads a document in a given format. Its prose has no markup yet. -/
def Document.readAs (format : Format) (options : ReadingOptions) (source : String) :
    Except (List Redefinition) Document :=
  (Draft.empty.addLines format options 1 0 (Text.lines source.toList)).finish format options

/-- Reads a document in the format that its file name or its content shows. -/
def Document.read (options : ReadingOptions) (file : Option String) (source : String) :
    Except (List Redefinition) Document :=
  Document.readAs (Format.detect source file) options source

end LiterateCalc
