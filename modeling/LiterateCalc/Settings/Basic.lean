import LiterateCalc.Document.Draft
import LiterateCalc.Report.Style
import LiterateCalc.Toml.Record

namespace LiterateCalc
open Report (Style)

/-- How values are shown where the command line does not say so. -/
structure DisplaySettings where
  style : Style := .plain
  decimals : Option Nat := none
  showHidden : Bool := false
  showFormulas : Bool := false
deriving DecidableEq, Inhabited

structure Settings where
  reading : ReadingOptions := {}
  display : DisplaySettings := {}
deriving DecidableEq, Inhabited

namespace Settings
open TomlValue

/-- The name of the file that is looked for beside a document. -/
def fileName : String := "calcdoc.toml"

def readingOfFields : List (Option TomlValue) → Option ReadingOptions
  | [autoDetectInputs, explicitInputs, language] => do
    let defaults : ReadingOptions := {}
    return {
      autoDetectInputs := ← orDefault defaults.autoDetectInputs asBool? autoDetectInputs
      explicitInputs := ← orDefault defaults.explicitInputs (asList? asText?) explicitInputs
      language := ← orDefault defaults.language asText? language }
  | _ => none

def readingOfToml (value : TomlValue) : Option ReadingOptions :=
  (fields? ["auto_detect_inputs", "explicit_inputs", "language"] value).bind readingOfFields

def styleOfToml (value : TomlValue) : Option Style := value.asName?.bind Style.ofName?

def displayOfFields : List (Option TomlValue) → Option DisplaySettings
  | [style, decimals, showHidden, showFormulas] => do
    let defaults : DisplaySettings := {}
    return {
      style := ← orDefault defaults.style styleOfToml style
      decimals := ← ifGiven asCount? decimals
      showHidden := ← orDefault defaults.showHidden asBool? showHidden
      showFormulas := ← orDefault defaults.showFormulas asBool? showFormulas }
  | _ => none

def displayOfToml (value : TomlValue) : Option DisplaySettings :=
  (fields? ["formatter", "decimals", "show_hidden", "show_formulas"] value).bind displayOfFields

def ofEntries (entries : Entries) : Option Settings := do
  match ← fieldsOfEntries ["parser", "display"] entries with
  | [reading, display] =>
    return {
      reading := ← orDefault {} readingOfToml reading
      display := ← orDefault {} displayOfToml display }
  | _ => none

/-- Reads a file of settings. Every setting may be missing, and there are no others. -/
def read (text : String) : Option Settings := (TomlValue.read text.toList).bind ofEntries

end Settings
end LiterateCalc
