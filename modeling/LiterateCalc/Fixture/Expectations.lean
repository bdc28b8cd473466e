import LiterateCalc.Evaluation.Environment
import LiterateCalc.Document.Draft
import LiterateCalc.Toml.Record

namespace LiterateCalc.Fixture
open Evaluation (Values)
open TomlValue

/-- What the front matter of a fixture says. -/
structure Expectations where
  description : Option String := none
  /-- The name whose extension gives the format; else that of the fixture's own file. -/
  filename : Option String := none
  autoDetectInputs : Bool := true
  explicitInputs : List String := []
  /-- Initial values. -/
  inputs : Values := ∅
  /-- Inputs that are changed later, in the order of their names. -/
  changes : Values := ∅
  values : Values := ∅
  /-- Parts of the messages of variables that cannot be calculated. -/
  errors : NameMap String := ∅
  noErrors : Bool := false
  parseError : Bool := false
  sections : Option (List String) := none
  inputNames : Option (List String) := none
  /-- How far a value may be from the expected one. -/
  tolerance : Float := 1e-9

instance : Inhabited Expectations := ⟨{}⟩

namespace Expectations

def fieldNames : List String :=
  ["description", "filename", "auto_detect_inputs", "explicit_inputs", "inputs", "set", "expect_values",
   "expect_errors", "expect_no_errors", "expect_parse_error", "expect_sections", "expect_inputs", "tolerance"]

def asMap? {α : Type} (read : TomlValue → Option α) (value : TomlValue) : Option (NameMap α) :=
  (asEntries? read value).map NameMap.ofList

def ofFields : List (Option TomlValue) → Option Expectations
  | [description, filename, autoDetectInputs, explicitInputs, inputs, changes, values, errors, noErrors,
      parseError, sections, inputNames, tolerance] => do
    let defaults : Expectations := {}
    return {
      description := ← ifGiven asText? description
      filename := ← ifGiven asText? filename
      autoDetectInputs := ← orDefault defaults.autoDetectInputs asBool? autoDetectInputs
      explicitInputs := ← orDefault defaults.explicitInputs (asList? asText?) explicitInputs
      inputs := ← orDefault defaults.inputs (asMap? asFloat?) inputs
      changes := ← orDefault defaults.changes (asMap? asFloat?) changes
      values := ← orDefault defaults.values (asMap? asFloat?) values
      errors := ← orDefault defaults.errors (asMap? asText?) errors
      noErrors := ← orDefault defaults.noErrors asBool? noErrors
      parseError := ← orDefault defaults.parseError asBool? parseError
      sections := ← ifGiven (asList? asText?) sections
      inputNames := ← ifGiven (asList? asText?) inputNames
      tolerance := ← orDefault defaults.tolerance asFloat? tolerance }
  | _ => none

/-- Reads a front matter. Every field may be missing, and there are no others. -/
def read (text : List Char) : Option Expectations := do
  ofFields (← fieldsOfEntries fieldNames (← TomlValue.read text))

def reading (expectations : Expectations) : ReadingOptions :=
  { autoDetectInputs := expectations.autoDetectInputs, explicitInputs := expectations.explicitInputs }

end Expectations

/-- Why a fixture has no expectations. -/
inductive FrontMatterError
  | notOpened
  | notClosed
  | malformed
deriving DecidableEq, Inhabited

def FrontMatterError.message : FrontMatterError → String
  | .notOpened => "missing opening --- frontmatter delimiter"
  | .notClosed => "missing closing --- frontmatter delimiter"
  | .malformed => "TOML parse error: not a table of known settings"

/-- Passes over one line break. -/
def skipLineBreak : List Char → List Char
  | '\n' :: rest => rest
  | '\r' :: '\n' :: rest => rest
  | other => other

/-- Cuts the front matter between lines of dashes off a fixture's document. -/
def splitFrontMatter (content : List Char) : Except FrontMatterError (List Char × List Char) :=
  match content.dropWhile (· == '\ufeff') with
  | '-' :: '-' :: '-' :: after =>
    match skipLineBreak after with
    | '-' :: '-' :: '-' :: rest => .ok ([], skipLineBreak rest)
    | unclosed =>
      match Text.splitFirst ['\n', '-', '-', '-'] unclosed with
      | some (inside, rest) =>
        .ok ((inside.reverse.dropWhile (· == '\r')).reverse, skipLineBreak rest)
      | none => .error .notClosed
  | _ => .error .notOpened

/-- The expectations of a fixture and its document. -/
def readFixture (content : String) : Except FrontMatterError (Expectations × String) :=
  match splitFrontMatter content.toList with
  | .error error => .error error
  | .ok (inside, source) =>
    match Expectations.read inside with
    | some expectations => .ok (expectations, String.ofList source)
    | none => .error .malformed

end LiterateCalc.Fixture
