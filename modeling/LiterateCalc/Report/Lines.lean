import LiterateCalc.Calculation.Calculator
import LiterateCalc.Report.Label
import LiterateCalc.Report.Style

namespace LiterateCalc.Report
open Calculation (Calculator State)

structure Options where
  style : Style := .plain
  decimals : Option Nat := none
  showHidden : Bool := false
  showFormulas : Bool := false
  /-- Shows the markup of prose and not its text. -/
  html : Bool := false
deriving DecidableEq, Inhabited

def Options.shows (options : Options) (part : Section) : Bool := !part.hidden || options.showHidden

/-- The number shown for a variable; zero if there is none. -/
def shownValue (state : State) (entry : Variable) : Float :=
  ((if entry.isInput then state.inputs else state.calculated).get? entry.name).getD 0.0

/-- The line of a variable. -/
def variableLine (options : Options) (state : State) (entry : Variable) : String :=
  let label := titleCase entry.name
  let value := String.ofList (options.style.format options.decimals (shownValue state entry))
  if entry.isInput then s!"  {label}: {value} (input)"
  else
    let result := if options.showFormulas then s!"  {label} = {entry.expression} => {value}"
      else s!"  {label}: {value}"
    match state.errors.get? entry.name with
    | some message => s!"{result}  [error: {message}]"
    | none => result

/-- The line of a header; what comes before the first header has none. -/
def headerLine? (format : Format) (part : Section) : Option String :=
  if part.level = 0 then none
  else
    let markers := String.ofList (List.replicate part.level format.marker)
    some (markers ++ " " ++ part.name ++ if part.hidden then " :hidden:" else "")

def proseText (options : Options) (prose : Prose) : String :=
  if options.html then String.ofList (Text.trimEnd prose.html.toList) else prose.text

def itemLine (options : Options) (state : State) : Item → String
  | .definition content => variableLine options state content
  | .prose content => proseText options content

/-- The lines of a section; prose may hold line breaks of its own. -/
def sectionLines (options : Options) (format : Format) (state : State) (part : Section) : List String :=
  (headerLine? format part).toList ++ part.items.map (itemLine options state)

/-- The lines of a report, with an empty one between sections. -/
def lines (options : Options) (calculator : Calculator) : List String :=
  let shown := calculator.document.sections.filter options.shows
  let blocks := shown.map (sectionLines options calculator.document.format calculator.state)
  match blocks with
  | [] => []
  | first :: rest => first ++ rest.flatMap ("" :: ·)

/-- Lines with a line break behind each. -/
def unlines (lines : List String) : String := String.join (lines.map (· ++ "\n"))

/-- The report on a calculator's document and its current state. -/
def report (options : Options) (calculator : Calculator) : String := unlines (lines options calculator)

/-- A section's place in a list of sections: its depth, its name, its size. -/
def sectionSummary (part : Section) : String :=
  let indent := String.ofList (List.replicate (2 * (part.level - 1)) ' ')
  let name := if part.name.isEmpty then "(untitled)" else part.name
  let plural := if part.definitions.length = 1 then "" else "s"
  let hidden := if part.hidden then ", hidden" else ""
  s!"{indent}{name} ({part.definitions.length} variable{plural}{hidden})"

def sectionList (document : Document) : String := unlines (document.sections.map sectionSummary)

end LiterateCalc.Report
