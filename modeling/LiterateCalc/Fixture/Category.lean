import LiterateCalc.Files.Basic
import LiterateCalc.NameMap

namespace LiterateCalc.Fixture

/-- The paths of fixtures by their folder, from the folder where the search began. -/
abbrev Categories := NameMap (List String)

def isFixtureName (name : String) : Bool := name.endsWith ".test.md" || name.endsWith ".test.org"

/-- Names in order, each before the ones that are longer or greater. -/
def insertSorted (name : String) : List String → List String
  | [] => [name]
  | first :: rest => if first < name then first :: insertSorted name rest else name :: first :: rest

def sortNames (names : List String) : List String := names.foldr insertSorted []

/-- The name of a folder; a backslash counts as a slash. -/
def categoryName (folder : List String) : String := ("/".intercalate folder).map fun c => if c = '\\' then '/' else c

/-- Sorts the fixtures among the files below a folder into categories. -/
def categorize (root : String) (below : List (List String)) : Categories :=
  let fixtures := below.filter fun names => names.getLast?.any isFixtureName
  let entries := fixtures.map fun names => (categoryName names.dropLast, extendPath root names)
  let grouped : Categories := entries.foldl
    (fun categories entry => categories.insert entry.1 (entry.2 :: (categories.get? entry.1).getD [])) ∅
  grouped.map sortNames

/-- How a category is shown. -/
def categoryLabel (name : String) : String := if name.isEmpty then "(root)" else name

/-- A requested name without the slashes around it. -/
def requestedName (name : String) : String :=
  let front := name.toList.dropWhile (· == '/')
  String.ofList (front.reverse.dropWhile (· == '/')).reverse

/-- Whether a category is the requested one or lies in it. -/
def isIn (requested category : String) : Bool := category == requested || category.startsWith (requested ++ "/")

/-- The requested categories; all if none is. -/
def select (requested : List String) (categories : Categories) : Categories :=
  if requested.isEmpty then categories
  else .ofList (categories.toList.filter fun entry => requested.any fun name => isIn (requestedName name) entry.1)

/-- The requests that no category meets. -/
def unknownRequests (requested : List String) (categories : Categories) : List String :=
  (requested.map requestedName).filter fun name => !categories.keys.any (isIn name)

def unknownWarning (categories : Categories) (requested : String) : String :=
  let available := ", ".intercalate (categories.keys.map categoryLabel)
  s!"warning: category '{requested}' not found (available: {available})"

/-- The lines that list categories. -/
def listing (categories : Categories) : List String :=
  "available categories:" :: categories.toList.map fun entry =>
    s!"  {categoryLabel entry.1} ({entry.2.length} tests)"

end LiterateCalc.Fixture
