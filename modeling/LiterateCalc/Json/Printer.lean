import LiterateCalc.Json.Basic
import LiterateCalc.Json.Literal

namespace LiterateCalc.JsonValue

/-- A line break and the indent of a level. -/
def newLine (level : Nat) : List Char := '\n' :: List.replicate (2 * level) ' '

mutual
def print (level : Nat) : JsonValue → List Char
  | .null => ['n', 'u', 'l', 'l']
  | .bool true => ['t', 'r', 'u', 'e']
  | .bool false => ['f', 'a', 'l', 's', 'e']
  | .number literal => literal
  | .text literal => '"' :: literal ++ ['"']
  | .array [] => ['[', ']']
  | .array (first :: rest) =>
    '[' :: newLine (level + 1) ++ print (level + 1) first ++ printElements (level + 1) rest ++
      newLine level ++ [']']
  | .object [] => ['\x7b', '\x7d']
  | .object ((key, value) :: rest) =>
    '\x7b' :: newLine (level + 1) ++ '"' :: key ++ ['"', ':', ' '] ++ print (level + 1) value ++
      printMembers (level + 1) rest ++ newLine level ++ ['\x7d']

/-- The elements after the first one. -/
def printElements (level : Nat) : List JsonValue → List Char
  | [] => []
  | value :: rest => ',' :: newLine level ++ print level value ++ printElements level rest

/-- The members after the first one. -/
def printMembers (level : Nat) : List (List Char × JsonValue) → List Char
  | [] => []
  | (key, value) :: rest =>
    ',' :: newLine level ++ '"' :: key ++ ['"', ':', ' '] ++ print level value ++ printMembers level rest
end

/-- A value for a text. -/
def ofString (text : String) : JsonValue := .text (escape text.toList)

/-- A value for a count. -/
def ofNat (number : Nat) : JsonValue := .number (Nat.toDigits 10 number)

end LiterateCalc.JsonValue
