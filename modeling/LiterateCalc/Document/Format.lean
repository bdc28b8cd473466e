import LiterateCalc.Text.Path

namespace LiterateCalc

/-- Markdown has headers of number signs, an outline has headers of stars. -/
inductive Format
  | markdown
  | outline
deriving DecidableEq, Inhabited

namespace Format
open Text (startsWith)

def name : Format → String
  | .markdown => "markdown"
  | .outline => "org"

/-- The character that a header line repeats. -/
def marker : Format → Char
  | .markdown => '#'
  | .outline => '*'

/-- How many markers a header may have. -/
def allowsLevel : Format → Nat → Bool
  | .markdown, level => level ≤ 6
  | .outline, _ => true

def ofExtension? (extension : List Char) : Option Format :=
  if extension = ['m', 'd'] ∨ extension = ['m', 'a', 'r', 'k', 'd', 'o', 'w', 'n'] then some .markdown
  else if extension = ['o', 'r', 'g'] then some .outline
  else none

/-- Whether some line looks like a header of the first level, or some line but the first one like
a header of the second level. -/
def showsHeaders (format : Format) (content : List Char) : Bool :=
  let lines := Text.lines content
  lines.any (startsWith [format.marker, ' ']) ||
    lines.tail.any (startsWith [format.marker, format.marker, ' '])

/-- The format that the headers in a text speak for; markdown comes first, also without any. -/
def ofContent (content : List Char) : Format :=
  if showsHeaders .markdown content then .markdown
  else if showsHeaders .outline content then .outline
  else .markdown

/-- The format of a document. A known extension of its file name decides before its content. -/
def detect (content : String) (file : Option String) : Format :=
  match file.bind fun name => (Text.extension? name.toList).bind ofExtension? with
  | some format => format
  | none => ofContent content.toList

end Format
end LiterateCalc
