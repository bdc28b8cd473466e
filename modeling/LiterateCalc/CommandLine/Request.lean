import LiterateCalc.CommandLine.Argument
import LiterateCalc.CommandLine.Setting
import LiterateCalc.Document.Format
import LiterateCalc.Report.Style

namespace LiterateCalc.CommandLine
open scoped Decimal
open Report (Style)

/-- What to show of a document. -/
inductive View
  /-- Only whether it can be read. -/
  | verdict
  | dump
  | json
  | sections
  | report
deriving DecidableEq, Inhabited

/-- A document to calculate. -/
structure RunRequest where
  file : String
  settings : List (String × Float)
  inputs : List String
  detectInputs : Bool
  format : Option Format
  style : Option Style
  decimals : Option Nat
  showHidden : Bool
  showFormulas : Bool
  html : Bool
  config : Option String
  view : View

/-- Fixtures to check. -/
structure TestRequest where
  path : String
  categories : List String
  listCategories : Bool
deriving DecidableEq, Inhabited

inductive Request
  | run (request : RunRequest)
  | test (colored : Bool) (request : TestRequest)
  | version
  | help

namespace Request

/-- A count of at most sixty-four bits. -/
def readCount (text : String) : Option Nat :=
  let digits := if text.startsWith "+" then text.toList.tail else text.toList
  let count := Decimal.digitsValue digits
  if !digits.isEmpty && digits.all Decimal.isDigit && decide (count < 2 ^ (64 : Nat)) then some count else none

def readFormat (text : String) : Option Format :=
  if text = "markdown" then some .markdown else if text = "org" then some .outline else none

def readPath (text : String) : Option String := if text.isEmpty then none else some text

def everywhere : List Switch :=
  [{ long := "no-color" }, { long := "verbose", short := some 'v', repeats := true },
   { long := "help", short := some 'h', repeats := true }]

def atTop : Usage :=
  ⟨everywhere ++ [{ long := "version", short := some 'V', repeats := true }], 0⟩

/-- A switch that is given at most once, with a value that `read` understands. -/
def once {α : Type} (long : String) (read : String → Option α) : Switch :=
  { long, takesValue := true, accepts := fun text => (read text).isSome }

def ofRun : Usage :=
  ⟨everywhere ++
    [{ long := "set", takesValue := true, repeats := true, accepts := fun text => (readSetting text).isOk },
     { long := "input", takesValue := true, repeats := true },
     { long := "no-auto-inputs" },
     once "format" readFormat,
     once "formatter" Style.ofName?,
     once "decimals" readCount,
     { long := "show-hidden" },
     { long := "show-formulas" },
     { long := "check" },
     { long := "ast" },
     { long := "json" },
     { long := "html" },
     { long := "list-sections" },
     once "config" readPath], 1⟩

def ofTest : Usage :=
  ⟨everywhere ++
    [{ long := "category", short := some 'c', takesValue := true, repeats := true },
     { long := "list-categories" }], 1⟩

/-- The value of a switch that is given at most once. -/
def readValue {α : Type} (read : String → Option α) (switch : String) (arguments : List Argument) : Option α :=
  (valuesOf switch arguments).head?.bind read

/-- The single operand of a command. -/
def readOperand (what : String) (arguments : List Argument) : Except Refusal String :=
  match operands arguments with
  | [] => .error (.missingOperand what)
  | operand :: _ => .ok operand

/-- The view that is asked for; the first of several counts. -/
def viewOf (arguments : List Argument) : View :=
  if isGiven "check" arguments then .verdict
  else if isGiven "ast" arguments then .dump
  else if isGiven "json" arguments then .json
  else if isGiven "list-sections" arguments then .sections
  else .report

/-- Reads the arguments of `run`, whose values are all accepted. -/
def readRun (arguments : List Argument) : Except Refusal RunRequest :=
  (readOperand "FILE" arguments).map fun file =>
    { file
      settings := (valuesOf "set" arguments).filterMap fun text => (readSetting text).toOption
      inputs := valuesOf "input" arguments
      detectInputs := !isGiven "no-auto-inputs" arguments
      format := readValue readFormat "format" arguments
      style := readValue Style.ofName? "formatter" arguments
      decimals := readValue readCount "decimals" arguments
      showHidden := isGiven "show-hidden" arguments
      showFormulas := isGiven "show-formulas" arguments
      html := isGiven "html" arguments
      config := readValue readPath "config" arguments
      view := viewOf arguments }

def readTest (arguments : List Argument) : Except Refusal TestRequest :=
  (readOperand "PATH" arguments).map fun path =>
    { path
      categories := valuesOf "category" arguments
      listCategories := isGiven "list-categories" arguments }

def commands : List String := ["run", "test", "help"]

/-- A command line whose first operand names no command is one for `run`. -/
def withCommand : List String → List String
  | [] => []
  | argument :: rest =>
    if argument.startsWith "-" then argument :: withCommand rest
    else if commands.contains argument then argument :: rest
    else "run" :: argument :: rest

/-- The arguments up to the command, and those from it on. -/
def splitCommand : List String → List String × List String
  | [] => ([], [])
  | argument :: rest =>
    if isSwitch argument then (splitCommand rest).map (argument :: ·) id else ([], argument :: rest)

/-- Reads arguments in their order. Asking for help or for the version ends them, unless something
is wrong with those before. -/
def readUsage (usage : Usage) (ending : String → Request)
    (whole : List Argument → Except Refusal Request) (arguments : List String) : Except Refusal Request :=
  let given := readArguments usage.switches arguments
  let (before, stop) := splitAtSwitch ["help", "version"] given.found
  match usage.problem? before, stop, given.refusal with
  | some refusal, _, _ => .error refusal
  | none, some name, _ => .ok (ending name)
  | none, none, some refusal => .error refusal
  | none, none, none => whole before

/-- Reads what stands behind `help`: nothing, or a command. -/
def readHelp : List String → Except Refusal Request
  | [] => .ok .help
  | [command] => if commands.contains command then .ok .help else .error (.unexpectedOperand command)
  | _ :: argument :: _ => .error (.unexpectedOperand argument)

/-- Reads a command with its arguments. -/
def readCommand (command : String) (colored : Bool) (arguments : List String) : Except Refusal Request :=
  if command = "run" then
    readUsage ofRun (fun _ => .help) (fun given => (readRun given).map .run) arguments
  else if command = "test" then
    readUsage ofTest (fun _ => .help)
      (fun given => (readTest given).map (.test (colored && !isGiven "no-color" given))) arguments
  else if command = "help" then readHelp arguments
  else .error (.unexpectedOperand command)

/-- Reads a command line. -/
def read (arguments : List String) : Except Refusal Request :=
  let (front, rest) := splitCommand (withCommand arguments)
  readUsage atTop (fun name => if name = "version" then .version else .help)
    (fun given =>
      match rest with
      | [] => .error .missingCommand
      | command :: rest =>
        if front.contains "--" then .error (.unexpectedOperand command)
        else readCommand command (!isGiven "no-color" given) rest)
    front

end Request
end LiterateCalc.CommandLine
