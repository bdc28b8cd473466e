/-! JSON texts as trees. Numbers and strings are kept as they are written. -/
namespace LiterateCalc

/-- A JSON value. The literal of a string stands without its quotes, and with its escapes. -/
inductive JsonValue
  | null
  | bool (value : Bool)
  | number (literal : List Char)
  | text (literal : List Char)
  | array (elements : List JsonValue)
  | object (members : List (List Char × JsonValue))
deriving Inhabited

namespace JsonValue

mutual
/-- How many arrays and objects lie within each other. -/
def depth : JsonValue → Nat
  | .array elements => elementsDepth elements + 1
  | .object members => membersDepth members + 1
  | _ => 0

def elementsDepth : List JsonValue → Nat
  | [] => 0
  | value :: rest => max value.depth (elementsDepth rest)

def membersDepth : List (List Char × JsonValue) → Nat
  | [] => 0
  | (_, value) :: rest => max value.depth (membersDepth rest)
end

end JsonValue
end LiterateCalc
