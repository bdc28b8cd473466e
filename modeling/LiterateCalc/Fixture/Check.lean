import LiterateCalc.Calculation.Calculator
import LiterateCalc.Decimal.Shortest
import LiterateCalc.Files.Basic
import LiterateCalc.Fixture.Expectations
import LiterateCalc.Text.Quoted

namespace LiterateCalc.Fixture
open Calculation (Calculator State)
open Text (quotedList)

/-- Why a fixture fails. -/
inductive Failure
  | unreadable (error : FileError)
  | frontMatter (error : FrontMatterError)
  | parsed
  | unparsed (errors : List Redefinition)
  | sections (expected actual : List String)
  | inputs (expected actual : List String)
  | noValue (name : String)
  | value (name : String) (expected actual : Float)
  | message (name expected actual : String)
  | noError (name : String)
  | errors (found : List (String × String))

namespace Failure

/-- Two values that should be the same, one below the other. -/
def compared (expected actual : String) : String := s!"\n  expected: {expected}\n  actual:   {actual}"

def floatText (value : Float) : String := String.ofList (Decimal.shortest value)

def describe : Failure → String
  | .unreadable error => s!"cannot read file: {error.message}"
  | .frontMatter error => s!"frontmatter error: {error.message}"
  | .parsed => "expected parse error, but parsing succeeded"
  | .unparsed found => "unexpected parse error: " ++ "; ".intercalate (found.map Redefinition.message)
  | .sections expected actual => "section mismatch" ++ compared (quotedList expected) (quotedList actual)
  | .inputs expected actual => "input mismatch" ++ compared (quotedList expected) (quotedList actual)
  | .noValue name => s!"no value for '{name}'"
  | .value name expected actual =>
    s!"value mismatch for '{name}'" ++ compared (floatText expected) (floatText actual)
  | .message name expected actual =>
    s!"error for '{name}': expected message containing \"{expected}\", got: {actual}"
  | .noError name => s!"expected an error for '{name}', got none"
  | .errors found =>
    s!"expected no errors, got {found.length}:\n" ++
      "\n".intercalate (found.map fun entry => s!"  - {entry.1}: {entry.2}")

end Failure

namespace Expectations

/-- A failure unless a condition holds. -/
def require (holds : Bool) (failure : Failure) : Except Failure Unit := if holds then .ok () else .error failure

def checkSections (expectations : Expectations) (document : Document) : Except Failure Unit :=
  let actual := document.sections.map (·.name)
  match expectations.sections with
  | some expected => require (actual == expected) (.sections expected actual)
  | none => .ok ()

def checkInputs (expectations : Expectations) (document : Document) : Except Failure Unit :=
  match expectations.inputNames with
  | some expected => require (document.inputs == expected) (.inputs expected document.inputs)
  | none => .ok ()

/-- A document's calculator after all changes. -/
def calculated (expectations : Expectations) (document : Document) : Calculator :=
  (Calculator.start document expectations.inputs).1.run
    (expectations.changes.toList.map fun entry => .setInput entry.1 entry.2)

def checkValue (expectations : Expectations) (calculator : Calculator) (name : String) (expected : Float) :
    Except Failure Unit :=
  match calculator.value? name with
  | none => .error (.noValue name)
  | some actual => require (!decide (expectations.tolerance < (actual - expected).abs)) (.value name expected actual)

def checkMessage (errors : NameMap String) (name expected : String) : Except Failure Unit :=
  match errors.get? name with
  | none => .error (.noError name)
  | some actual => require (Text.containsText expected.toList actual.toList) (.message name expected actual)

/-- Checks values, then messages, in the order of their names. -/
def checkState (expectations : Expectations) (calculator : Calculator) : Except Failure Unit := do
  expectations.values.toList.forM fun entry => expectations.checkValue calculator entry.1 entry.2
  let errors := calculator.state.errors
  expectations.errors.toList.forM fun entry => checkMessage errors entry.1 entry.2
  require (!expectations.noErrors || errors.isEmpty) (.errors errors.toList)

/-- Checks a document's source, which stands in a file of some name. -/
def check (expectations : Expectations) (file : Option String) (source : String) : Except Failure Unit :=
  match expectations.parseError, Document.read expectations.reading (expectations.filename <|> file) source with
  | true, .ok _ => .error .parsed
  | true, .error _ => .ok ()
  | false, .error errors => .error (.unparsed errors)
  | false, .ok document => do
    expectations.checkSections document
    expectations.checkInputs document
    expectations.checkState (expectations.calculated document)

end Expectations

/-- How a fixture went. -/
structure Result where
  path : String
  description : Option String
  failure : Option Failure

/-- The name of the file at the end of a path. -/
def fileName (path : String) : Option String := (Text.fileName? path.toList).map String.ofList

/-- Checks the content of a fixture's file. -/
def run (path : String) (content : Except FileError String) : Result :=
  match content with
  | .error error => ⟨path, none, some (.unreadable error)⟩
  | .ok text =>
    match readFixture text with
    | .error error => ⟨path, none, some (.frontMatter error)⟩
    | .ok (expectations, source) =>
      match expectations.check (fileName path) source with
      | .ok () => ⟨path, expectations.description, none⟩
      | .error failure => ⟨path, expectations.description, some failure⟩

/-- What a result is listed as. -/
def Result.label (result : Result) : String := (result.description <|> fileName result.path).getD "?"

end LiterateCalc.Fixture
