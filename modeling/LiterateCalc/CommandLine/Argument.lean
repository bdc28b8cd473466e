import LiterateCalc.Text.Lines

namespace LiterateCalc.CommandLine

/-- A switch: `--long`, and `-s` if it has a short form. -/
structure Switch where
  long : String
  short : Option Char := none
  takesValue : Bool := false
  /-- Whether it may be given more than once. -/
  repeats : Bool := false
  /-- Whether a text is one of its values. -/
  accepts : String → Bool := fun _ => true
deriving Inhabited

/-- Why arguments are refused. -/
inductive Refusal
  | unknownSwitch (argument : String)
  | missingValue (switch : String)
  | needlessValue (switch : String)
  | repeatedSwitch (switch : String)
  | badValue (switch value : String)
  | unexpectedOperand (argument : String)
  | missingOperand (what : String)
  | missingCommand
deriving DecidableEq, Inhabited

def Refusal.message : Refusal → String
  | .unknownSwitch argument => s!"unknown argument '{argument}'"
  | .missingValue switch => s!"'--{switch}' needs a value"
  | .needlessValue switch => s!"'--{switch}' takes no value"
  | .repeatedSwitch switch => s!"'--{switch}' is given more than once"
  | .badValue switch value => s!"'{value}' is no value for '--{switch}'"
  | .unexpectedOperand argument => s!"unexpected argument '{argument}'"
  | .missingOperand what => s!"missing argument: {what}"
  | .missingCommand => "missing command"

/-- A switch that was given, with its value if it takes one, or an operand. -/
inductive Argument
  | switch (long value : String)
  | operand (text : String)
deriving DecidableEq, Inhabited

/-- Whether an argument is not an operand. A single dash is one. -/
def isSwitch (argument : String) : Bool := argument.startsWith "-" && argument != "-"

/-- The value behind a switch, which is no switch itself. -/
def followingValue (switch : Switch) (rest : List String) : Except Refusal String :=
  match rest with
  | value :: _ => if isSwitch value then .error (.missingValue switch.long) else .ok value
  | [] => .error (.missingValue switch.long)

/-- Reads a long switch without its dashes; the second component says whether the next argument belongs
to it. -/
def readLong (switches : List Switch) (text : List Char) (rest : List String) :
    Except Refusal (Argument × Bool) :=
  let name := String.ofList (text.takeWhile (· != '='))
  let attached := (Text.splitFirst ['='] text).map fun found => String.ofList found.2
  match switches.find? (·.long == name), attached with
  | none, _ => .error (.unknownSwitch ("--" ++ name))
  | some switch, some value =>
    if switch.takesValue then .ok (.switch name value, false) else .error (.needlessValue name)
  | some switch, none =>
    if switch.takesValue then (followingValue switch rest).map fun value => (.switch name value, true)
    else .ok (.switch name "", false)

/-- Reads short switches behind one dash. What follows one that takes a value is its value. -/
def readShort (switches : List Switch) (rest : List String) : List Char → List Argument × Except Refusal Bool
  | [] => ([], .ok false)
  | c :: more =>
    match switches.find? (·.short == some c) with
    | none => ([], .error (.unknownSwitch ("-" ++ c.toString)))
    | some switch =>
      if switch.takesValue then
        match more with
        | [] =>
          match followingValue switch rest with
          | .ok value => ([.switch switch.long value], .ok true)
          | .error refusal => ([], .error refusal)
        | '=' :: value => ([.switch switch.long (String.ofList value)], .ok false)
        | value => ([.switch switch.long (String.ofList value)], .ok false)
      else
        let (found, outcome) := readShort switches rest more
        (.switch switch.long "" :: found, outcome)

/-- Reads one argument: what it says, and whether the next one belongs to it. -/
def readArgument (switches : List Switch) (argument : String) (rest : List String) :
    List Argument × Except Refusal Bool :=
  match argument.toList with
  | '-' :: '-' :: text =>
    match readLong switches text rest with
    | .ok (found, used) => ([found], .ok used)
    | .error refusal => ([], .error refusal)
  | '-' :: c :: more => readShort switches rest (c :: more)
  | _ => ([.operand argument], .ok false)

/-- What was read of arguments, up to the first one that is refused. -/
structure Arguments where
  found : List Argument
  refusal : Option Refusal
deriving DecidableEq, Inhabited

/-- Reads arguments; behind two dashes there are only operands. -/
def readArguments (switches : List Switch) (arguments : List String) : Arguments :=
  match arguments with
  | [] => ⟨[], none⟩
  | "--" :: rest => ⟨rest.map .operand, none⟩
  | argument :: rest =>
    match readArgument switches argument rest with
    | (found, .error refusal) => ⟨found, some refusal⟩
    | (found, .ok used) =>
      let more := readArguments switches (rest.drop (if used then 1 else 0))
      ⟨found ++ more.found, more.refusal⟩
termination_by arguments.length

/-- The operands among arguments. -/
def operands (arguments : List Argument) : List String :=
  arguments.filterMap fun
    | .operand text => some text
    | .switch _ _ => none

/-- The values of a switch, one for each time that it is given. -/
def valuesOf (switch : String) (arguments : List Argument) : List String :=
  arguments.filterMap fun
    | .operand _ => none
    | .switch long value => if long == switch then some value else none

/-- Whether a switch is given. -/
def isGiven (switch : String) (arguments : List Argument) : Bool := !(valuesOf switch arguments).isEmpty

/-- The arguments before the first switch with one of some names, and the name of that switch. -/
def splitAtSwitch (names : List String) : List Argument → List Argument × Option String
  | [] => ([], none)
  | .switch long value :: rest =>
    if names.contains long then ([], some long)
    else (splitAtSwitch names rest).map (.switch long value :: ·) id
  | .operand text :: rest => (splitAtSwitch names rest).map (.operand text :: ·) id

/-- The arguments that a command understands: its switches, and how many operands it has. -/
structure Usage where
  switches : List Switch
  operandCount : Nat

namespace Usage

def repeated? (usage : Usage) (arguments : List Argument) : Option Refusal :=
  (usage.switches.find? fun switch => !switch.repeats && decide (1 < (valuesOf switch.long arguments).length)).map
    fun switch => .repeatedSwitch switch.long

def badValue? (usage : Usage) (arguments : List Argument) : Option Refusal :=
  usage.switches.findSome? fun switch =>
    ((valuesOf switch.long arguments).find? fun value => !switch.accepts value).map
      fun value => .badValue switch.long value

def needlessOperand? (usage : Usage) (arguments : List Argument) : Option Refusal :=
  ((operands arguments).drop usage.operandCount).head?.map .unexpectedOperand

/-- What is wrong with arguments, if anything is. -/
def problem? (usage : Usage) (arguments : List Argument) : Option Refusal :=
  usage.repeated? arguments <|> usage.badValue? arguments <|> usage.needlessOperand? arguments

end Usage
end LiterateCalc.CommandLine
