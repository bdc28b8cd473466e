import LiterateCalc.Document.Format
import LiterateCalc.Text.Span

namespace LiterateCalc
open Text (Span)

/-- A name with the expression that it is assigned. -/
structure Variable where
  name : String
  expression : String
  /-- A value for the reader to change, and not a calculation. -/
  isInput : Bool
  /-- The name of the section that holds the variable. -/
  sectionName : String
  /-- The position among the variables of the section, from zero. -/
  order : Nat
  /-- The line of the assignment, from one. -/
  line : Nat
  span : Span
deriving DecidableEq, Inhabited

/-- Lines of prose between assignments or headers, with their markup. -/
structure Prose where
  text : String
  html : String
deriving DecidableEq, Inhabited

inductive Item
  | definition (content : Variable)
  | prose (content : Prose)
deriving DecidableEq, Inhabited

namespace Item

def definition? : Item → Option Variable
  | .definition content => some content
  | .prose _ => none

def prose? : Item → Option Prose
  | .definition _ => none
  | .prose content => some content

end Item

/-- What stands under one header. -/
structure Section where
  name : String
  /-- The position among the sections, from zero. -/
  order : Nat
  /-- The number of header markers; zero for what comes before the first header. -/
  level : Nat
  /-- A hidden section is calculated but not shown. -/
  hidden : Bool
  definitions : List Variable
  items : List Item
deriving DecidableEq, Inhabited

def Section.empty (name : String) (order level : Nat) (hidden : Bool) : Section :=
  { name, order, level, hidden, definitions := [], items := [] }

def Section.prose (part : Section) : List Prose := part.items.filterMap Item.prose?

structure Document where
  format : Format
  /-- A tag for the language of the expressions. -/
  language : String
  sections : List Section
  /-- All variables in the order of their assignments. -/
  definitions : List Variable
  /-- The names of the inputs in the order of their assignments. -/
  inputs : List String
deriving DecidableEq, Inhabited

namespace Document

def isEmpty (document : Document) : Bool := document.sections.isEmpty && document.definitions.isEmpty

def findVariable? (document : Document) (name : String) : Option Variable :=
  document.definitions.find? (·.name == name)

def findSection? (document : Document) (name : String) : Option Section :=
  document.sections.find? (·.name == name)

/-- The sections to show. -/
def visibleSections (document : Document) : List Section := document.sections.filter fun part => !part.hidden

/-- The variables to calculate. -/
def calculated (document : Document) : List Variable := document.definitions.filter fun entry => !entry.isInput

def Prose.withMarkup (render : String → String) (prose : Prose) : Prose :=
  { prose with html := render prose.text }

/-- Gives every block of prose the markup that `render` makes of its text. -/
def renderProse (render : String → String) (document : Document) : Document :=
  let renderItem : Item → Item
    | .definition content => .definition content
    | .prose content => .prose (Prose.withMarkup render content)
  { document with
    sections := document.sections.map fun part => { part with items := part.items.map renderItem } }

end Document
end LiterateCalc
