import LiterateCalc.Fixture.Category
import LiterateCalc.Fixture.Check

namespace LiterateCalc.Fixture

/-- A text between the codes that turn a display attribute on and all of them off. -/
def withAttribute (code : String) (colored : Bool) (text : String) : String :=
  if colored then "\x1b[" ++ code ++ "m" ++ text ++ "\x1b[0m" else text

def green : Bool → String → String := withAttribute "32"

def red : Bool → String → String := withAttribute "31"

def bold : Bool → String → String := withAttribute "1"

/-- The results of the fixtures of one category; a single fixture has none. -/
structure Group where
  category : Option String
  results : List Result

def Result.line (colored : Bool) (result : Result) : String :=
  let verdict := match result.failure with
    | none => green colored "PASS"
    | some _ => red colored "FAIL"
  s!"  {verdict}  {result.label}"

def Group.lines (colored : Bool) (group : Group) : List String :=
  let header := match group.category with
    | some name => ["", bold colored (categoryLabel name)]
    | none => []
  header ++ group.results.map (Result.line colored)

/-- The lines of a text, each without a carriage return at its end; none after the last line break. -/
def textLines (text : String) : List String :=
  let parts := Text.splitAt '\n' text.toList
  let ended := parts.dropLast.map fun line => if line.getLast? = some '\r' then line.dropLast else line
  (ended ++ (parts.getLast?.toList.filter fun line => !line.isEmpty)).map String.ofList

def failureLines (path : String) (failure : Failure) : List String :=
  ["", s!"  --- {path} ---"] ++ (textLines failure.describe).map ("  " ++ ·)

def Result.failureLines? (result : Result) : Option (List String) := result.failure.map (failureLines result.path)

/-- The last line of a report. -/
def totalLine (colored : Bool) (passed failed : Nat) : String :=
  let verdict := if failed = 0 then green colored "ok" else red colored "FAILED"
  let counts := s!"test result: {verdict}. {passed} passed, {failed} failed"
  if failed = 0 then counts else counts ++ s!" (of {passed + failed})"

/-- The lines of a report. -/
def summary (colored : Bool) (groups : List Group) : List String :=
  let results := groups.flatMap (·.results)
  let failures := results.filterMap Result.failureLines?
  groups.flatMap (Group.lines colored) ++
    (if failures.isEmpty then [] else ["", "failures:"] ++ failures.flatten) ++
    ["", totalLine colored (results.length - failures.length) failures.length]

def allPassed (groups : List Group) : Bool := groups.all fun group => group.results.all (·.failure.isNone)

end LiterateCalc.Fixture
