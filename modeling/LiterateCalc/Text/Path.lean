import LiterateCalc.Text.Lines

namespace LiterateCalc.Text

/-- The parts of a path that name something: neither empty nor a single dot. -/
def pathParts (path : List Char) : List (List Char) :=
  (splitAt '/' path).filter fun part => part ≠ [] ∧ part ≠ ['.']

/-- The last part of a path, if it names a file and not the folder above. -/
def fileName? (path : List Char) : Option (List Char) :=
  match (pathParts path).getLast? with
  | some name => if name = ['.', '.'] then none else some name
  | none => none

/-- What follows the last dot of a file name. A dot in front of a name starts no extension. -/
def extension? (path : List Char) : Option (List Char) :=
  match fileName? path with
  | none => none
  | some name =>
    let parts := splitAt '.' name
    if parts.length < 2 ∨ parts.dropLast = [[]] then none else parts.getLast?

end LiterateCalc.Text
