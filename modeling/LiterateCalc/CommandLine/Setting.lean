import LiterateCalc.Decimal.Numeral
import LiterateCalc.Text.Blank
import LiterateCalc.Text.Lines

namespace LiterateCalc.CommandLine

/-- Why an argument gives no input a value. -/
inductive SettingError
  | noEquals (argument : String)
  | noName (argument : String)
  | notNumber (value : String)
deriving DecidableEq, Inhabited

def SettingError.message : SettingError → String
  | .noEquals argument => "expected NAME=VALUE, got '" ++ argument ++ "'"
  | .noName argument => "missing variable name in '" ++ argument ++ "'"
  | .notNumber value => "'" ++ value ++ "' is not a number"

/-- The name before the first equals sign and the number after it, with blanks allowed around both. -/
def readSetting (argument : String) : Except SettingError (String × Float) :=
  match Text.splitFirst ['='] argument.toList with
  | none => .error (.noEquals argument)
  | some (before, after) =>
    let name := Text.trim before
    let value := Text.trim after
    if name.isEmpty then .error (.noName argument)
    else match Decimal.readNumber value with
      | none => .error (.notNumber (String.ofList value))
      | some number => .ok (String.ofList name, number)

end LiterateCalc.CommandLine
