import LiterateCalc.Document.Draft
import LiterateCalc.Text.Columns

namespace LiterateCalc
open Text (Span)

namespace Redefinition

/-- A line without what ends it. -/
def shownLine (line : List Char) : List Char :=
  (line.reverse.dropWhile fun c => c == '\n' || c == '\r' || c == '\x00').reverse

/-- A line with blanks for its tabs. -/
def expandTabs (line : List Char) : List Char :=
  (Text.withColumns 0 line).flatMap fun (c, width) => if c = '\t' then List.replicate width ' ' else [c]

/-- A mark under every column of a line, and one behind it if its end was cut off. -/
def underline (line : List Char) : List Char :=
  let shown := shownLine line
  let width := (Text.withColumns 0 shown).foldr (fun (_, columns) total => columns + total) 0
  List.replicate (width + if shown.length < line.length then 1 else 0) '^'

/-- A report of the error: what is wrong, where, the line, and where the name was defined first. -/
def diagnostic (file source : String) (error : Redefinition) : String :=
  let line := (error.span.slice source.toList).getD []
  let number := toString error.line
  let margin := String.ofList (List.replicate number.length ' ')
  s!"error: {error.message}\n{margin} ┌─ {file}:{number}:1\n{margin} │\n" ++
    s!"{number} │ " ++ String.ofList (expandTabs (shownLine line)) ++ "\n" ++
    s!"{margin} │ " ++ String.ofList (underline line) ++ s!" {label}\n{margin} │\n" ++
    s!"{margin} = {error.note}\n\n"

end Redefinition
end LiterateCalc
