import LiterateCalc.Document.Basic
import LiterateCalc.Text.Quoted

namespace LiterateCalc
open Text (quotedString)

/-- A value in the notation of records. -/
inductive Dump
  | plain (text : String)
  | list (elements : List Dump)
  | record (name : String) (fields : List (String × Dump))
  /-- A case of a choice, with its content. -/
  | choice (name : String) (content : Dump)
deriving Inhabited

namespace Dump

def indented (depth : Nat) (text : String) : String := String.ofList (List.replicate (4 * depth) ' ') ++ text

mutual
/-- The text of a value inside `depth` others. -/
def print (depth : Nat) : Dump → String
  | .plain text => text
  | .list [] => "[]"
  | .list (first :: rest) => "[\n" ++ printElements (depth + 1) (first :: rest) ++ indented depth "]"
  | .record name fields => name ++ " \x7b\n" ++ printFields (depth + 1) fields ++ indented depth "\x7d"
  | .choice name content =>
    name ++ "(\n" ++ indented (depth + 1) (print (depth + 1) content) ++ ",\n" ++ indented depth ")"

def printElements (depth : Nat) : List Dump → String
  | [] => ""
  | first :: rest => indented depth (print depth first) ++ ",\n" ++ printElements depth rest

def printFields (depth : Nat) : List (String × Dump) → String
  | [] => ""
  | (name, value) :: rest => indented depth (name ++ ": " ++ print depth value) ++ ",\n" ++ printFields depth rest
end

def ofString (text : String) : Dump := .plain (quotedString text)

def ofBool (value : Bool) : Dump := .plain (toString value)

def ofNat (value : Nat) : Dump := .plain (toString value)

def ofFormat : Format → Dump
  | .markdown => .plain "Markdown"
  | .outline => .plain "Outline"

def ofVariable (entry : Variable) : Dump :=
  .record "Variable"
    [("name", ofString entry.name), ("expression", ofString entry.expression),
     ("is_input", ofBool entry.isInput), ("section", ofString entry.sectionName),
     ("order", ofNat entry.order), ("line", ofNat entry.line),
     ("span", .plain s!"{entry.span.start}..{entry.span.stop}")]

def ofItem : Item → Dump
  | .definition content => .choice "Variable" (ofVariable content)
  | .prose content =>
    .choice "Content"
      (.record "ContentBlock" [("text", ofString content.text), ("html", ofString content.html)])

def ofSection (part : Section) : Dump :=
  .record "Section"
    [("name", ofString part.name), ("order", ofNat part.order), ("level", ofNat part.level),
     ("hidden", ofBool part.hidden), ("variables", .list (part.definitions.map ofVariable)),
     ("items", .list (part.items.map ofItem))]

def ofDocument (document : Document) : Dump :=
  .record "Document"
    [("format", ofFormat document.format), ("language", ofString document.language),
     ("sections", .list (document.sections.map ofSection)),
     ("variables", .list (document.definitions.map ofVariable)),
     ("input_variables", .list (document.inputs.map ofString))]

end Dump

def Document.dumped (document : Document) : String := (Dump.ofDocument document).print 0

end LiterateCalc
