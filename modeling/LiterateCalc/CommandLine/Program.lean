import LiterateCalc.CommandLine.Request
import LiterateCalc.Document.Diagnostic
import LiterateCalc.Document.Dump
import LiterateCalc.Document.Exchange
import LiterateCalc.Files.Basic
import LiterateCalc.Fixture.Summary
import LiterateCalc.Markup.Html
import LiterateCalc.Report.Lines
import LiterateCalc.Settings.Basic

namespace LiterateCalc.CommandLine
open Calculation (Calculator)
open Report (unlines)

/-- What a run of the program leaves behind. -/
structure Outcome where
  exitCode : Nat
  output : String
  errors : String
deriving DecidableEq, Inhabited

namespace Outcome

def success (output : String) : Outcome := ⟨0, output, ""⟩

def failure (errors : String) : Outcome := ⟨1, "", errors⟩

/-- A failure with a single message. -/
def failed (message : String) : Outcome := failure s!"error: {message}\n"

end Outcome

variable {m : Type → Type} [Monad m]

/-- Reads a file of settings. -/
def loadSettings (files : Files m) (path : String) : m (Except String Settings) := do
  match ← files.read path with
  | .error error => return .error s!"cannot read '{path}': {error.message}"
  | .ok text =>
    match Settings.read text with
    | some settings => return .ok settings
    | none => return .error s!"{path}: TOML parse error: not a table of known settings"

/-- The settings for a document: those that are asked for, else those beside it, else the defaults. -/
def settingsFor (files : Files m) (request : RunRequest) : m (Except String Settings) := do
  match request.config with
  | some path => loadSettings files path
  | none =>
    let beside := folderOf request.file ++ Settings.fileName
    if ← files.isFile beside then loadSettings files beside else return .ok {}

/-- Whether a file holds an exported document. -/
def isExport (file : String) : Bool := Text.extension? file.toList == some ['j', 's', 'o', 'n']

def readingFor (request : RunRequest) (settings : Settings) : ReadingOptions :=
  { settings.reading with
    autoDetectInputs := request.detectInputs && settings.reading.autoDetectInputs
    explicitInputs := settings.reading.explicitInputs ++ request.inputs }

/-- Reads a document that is not exported. -/
def readSource (request : RunRequest) (settings : Settings) (source : String) : Except Outcome Document :=
  let options := readingFor request settings
  let found := match request.format with
    | some format => Document.readAs format options source
    | none => Document.read options (some request.file) source
  match found with
  | .ok document => .ok (document.renderProse Markup.render)
  | .error errors => .error (.failure (String.join (errors.map (Redefinition.diagnostic request.file source))))

def readDocument (request : RunRequest) (settings : Settings) (source : String) : Except Outcome Document :=
  if isExport request.file then
    match Document.imported source with
    | some document => .ok document
    | none => .error (.failed s!"'{request.file}' is not a document export: malformed")
  else readSource request settings source

def reportOptions (request : RunRequest) (settings : Settings) : Report.Options :=
  { style := request.style.getD settings.display.style
    decimals := request.decimals <|> settings.display.decimals
    showHidden := request.showHidden || settings.display.showHidden
    showFormulas := request.showFormulas || settings.display.showFormulas
    html := request.html }

/-- A document after its first pass and the changes that are asked for. -/
def calculated (request : RunRequest) (document : Document) : Calculator :=
  (Calculator.start document ∅).1.run (request.settings.map fun entry => .setInput entry.1 entry.2)

def present (request : RunRequest) (settings : Settings) (document : Document) : Outcome :=
  match request.view with
  | .verdict => ⟨0, "", s!"ok: {request.file} parsed successfully\n"⟩
  | .dump => .success (document.dumped ++ "\n")
  | .json => .success (document.exported ++ "\n")
  | .sections => .success (Report.sectionList document)
  | .report => .success (Report.report (reportOptions request settings) (calculated request document))

def runDocument (files : Files m) (request : RunRequest) : m Outcome := do
  match ← files.read request.file with
  | .error error => return .failed s!"cannot read '{request.file}': {error.message}"
  | .ok source =>
    match ← settingsFor files request with
    | .error message => return .failed message
    | .ok settings =>
      match readDocument request settings source with
      | .error outcome => return outcome
      | .ok document => return present request settings document

open Fixture

def checkFixture (files : Files m) (path : String) : m Result := return Fixture.run path (← files.read path)

def checkGroup (files : Files m) (category : Option String) (paths : List String) : m Group :=
  return ⟨category, ← paths.mapM (checkFixture files)⟩

/-- The outcome of fixtures, after some warnings. -/
def outcomeOf (colored : Bool) (warnings : List String) (groups : List Group) : Outcome :=
  ⟨if allPassed groups then 0 else 1, "", unlines (warnings ++ summary colored groups)⟩

def noFixtures (path : String) : String := s!"no test files found in {path}"

/-- Checks the fixtures of categories. -/
def checkCategories (files : Files m) (colored : Bool) (requested : List String) (categories : Categories) :
    m Outcome := do
  let selected := select requested categories
  let warnings := (unknownRequests requested categories).map (unknownWarning categories)
  if selected.isEmpty then return .failure (unlines (warnings ++ ["no matching categories found"]))
  else
    let groups ← selected.toList.mapM fun entry => checkGroup files (some entry.1) entry.2
    return outcomeOf colored warnings groups

def runFixtures (files : Files m) (colored : Bool) (request : TestRequest) : m Outcome := do
  if ← files.isFile request.path then
    if request.listCategories then return ⟨0, "", "(single file, no categories)\n"⟩
    else return outcomeOf colored [] [← checkGroup files none [request.path]]
  else
    let categories := categorize request.path (← files.below request.path)
    match categories.isEmpty, request.listCategories with
    | true, true => return ⟨0, "", unlines [noFixtures request.path]⟩
    | true, false => return .failure (unlines [noFixtures request.path])
    | false, true => return ⟨0, "", unlines (listing categories)⟩
    | false, false => checkCategories files colored request.categories categories

def name : String := "calcdoc"

def version : String := "0.1.0"

def usage : String :=
  unlines [s!"usage: {name} [run] FILE [switches]", s!"       {name} test PATH [switches]"]

/-- Answers a command line. -/
def program (files : Files m) (arguments : List String) : m Outcome :=
  match Request.read arguments with
  | .error refusal => return ⟨2, "", s!"error: {refusal.message}\n\n" ++ usage⟩
  | .ok .version => return .success s!"{name} {version}\n"
  | .ok .help => return .success usage
  | .ok (.run request) => runDocument files request
  | .ok (.test colored request) => runFixtures files colored request

end LiterateCalc.CommandLine
