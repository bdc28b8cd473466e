import LiterateCalc.Document.Basic
import LiterateCalc.Json.Printer
import LiterateCalc.Json.Reader

/-! Documents as JSON: exporting one, and importing an export. The places of variables in the
source are not exported. -/
namespace LiterateCalc
open scoped Decimal
open Text (Span)

/-- A member with a name that needs no escapes. -/
def JsonValue.field (name : String) (value : JsonValue) : List Char × JsonValue := (name.toList, value)

open JsonValue (field)

namespace Variable

def jsonMembers (entry : Variable) : List (List Char × JsonValue) :=
  [field "name" (.ofString entry.name),
   field "expression" (.ofString entry.expression),
   field "isInput" (.bool entry.isInput),
   field "section" (.ofString entry.sectionName),
   field "order" (.ofNat entry.order),
   field "line" (.ofNat entry.line)]

def toJson (entry : Variable) : JsonValue := .object entry.jsonMembers

end Variable

/-- An item says first what it is. -/
def Item.toJson : Item → JsonValue
  | .definition content => .object (field "type" (.ofString "variable") :: content.jsonMembers)
  | .prose content =>
    .object
      [field "type" (.ofString "content"),
       field "text" (.ofString content.text),
       field "html" (.ofString content.html)]

def Section.toJson (part : Section) : JsonValue :=
  .object
    [field "name" (.ofString part.name),
     field "order" (.ofNat part.order),
     field "level" (.ofNat part.level),
     field "hidden" (.bool part.hidden),
     field "variables" (.array (part.definitions.map Variable.toJson)),
     field "items" (.array (part.items.map Item.toJson))]

def Document.toJson (document : Document) : JsonValue :=
  .object
    [field "format" (.ofString document.format.name),
     field "language" (.ofString document.language),
     field "sections" (.array (document.sections.map Section.toJson)),
     field "variables" (.array (document.definitions.map Variable.toJson)),
     field "inputVariables" (.array (document.inputs.map JsonValue.ofString))]

/-- The text of an export. -/
def Document.exported (document : Document) : String := String.ofList (document.toJson.print 0)

namespace JsonValue

def asString? : JsonValue → Option String
  | .text literal => (unescape literal).map String.ofList
  | _ => none

def asBool? : JsonValue → Option Bool
  | .bool value => some value
  | _ => none

/-- A count of at most sixty-four bits, written as digits only. -/
def asCount? : JsonValue → Option Nat
  | .number literal =>
    let value := Decimal.digitsValue literal
    if literal.all Decimal.isDigit && decide (value < 2 ^ (64 : Nat)) then some value else none
  | _ => none

def asList? {α : Type} (read : JsonValue → Option α) : JsonValue → Option (List α)
  | .array elements => elements.mapM read
  | _ => none

/-- The members of an object with the names that their literals stand for. -/
def namedMembers (members : List (List Char × JsonValue)) : Option (List (String × JsonValue)) :=
  members.mapM fun entry => (unescape entry.1).map fun name => (String.ofList name, entry.2)

/-- The values of the named fields, each given at most once. Members with other names are passed over. -/
def fieldsOfMembers (names : List String) (members : List (String × JsonValue)) :
    Option (List (Option JsonValue)) :=
  names.mapM fun name =>
    match members.filter fun entry => entry.1 == name with
    | [] => some none
    | [entry] => some (some entry.2)
    | _ => none

/-- Fields given by position; the last ones may be missing. -/
def fieldsOfElements (names : List String) (elements : List JsonValue) :
    Option (List (Option JsonValue)) :=
  if elements.length ≤ names.length then
    some (elements.map some ++ List.replicate (names.length - elements.length) none)
  else none

/-- The fields of a record, which is written as an object or as an array. -/
def fields? (names : List String) : JsonValue → Option (List (Option JsonValue))
  | .object members => (namedMembers members).bind (fieldsOfMembers names)
  | .array elements => fieldsOfElements names elements
  | _ => none

/-- A field that may be missing. -/
def orDefault {α : Type} (default : α) (read : JsonValue → Option α) : Option JsonValue → Option α
  | none => some default
  | some value => read value

mutual
/-- Whether all the literals in a value can be read, numbers as finite ones. -/
def isReadable : JsonValue → Bool
  | .number literal =>
    let unsigned := literal.dropWhile (· == '-')
    (Decimal.readNumeral unsigned).any Float.isFinite
  | .text literal => (unescape literal).isSome
  | .array elements => elementsReadable elements
  | .object members => membersReadable members
  | _ => true

def elementsReadable : List JsonValue → Bool
  | [] => true
  | value :: rest => value.isReadable && elementsReadable rest

def membersReadable : List (List Char × JsonValue) → Bool
  | [] => true
  | (key, value) :: rest => (unescape key).isSome && value.isReadable && membersReadable rest
end

/-- How many arrays and objects an item may hold within each other. -/
def maxItemDepth : Nat := 123

end JsonValue

open JsonValue

/-- A place in the source; it has no other members than its ends. -/
def spanOfJson (value : JsonValue) : Option Span := do
  if let .object members := value then
    let named ← namedMembers members
    guard (named.all fun entry => entry.1 == "start" || entry.1 == "end")
  match ← fields? ["start", "end"] value with
  | [some start, some stop] => return ⟨← start.asCount?, ← stop.asCount?⟩
  | _ => none

def Format.ofName? (name : String) : Option Format :=
  if name = "markdown" then some .markdown
  else if name = "org" ∨ name = "outline" then some .outline
  else none

/-- A format by its name, or an object with nothing but that name. -/
def Format.ofJson : JsonValue → Option Format
  | .text literal => (unescape literal).bind fun name => ofName? (String.ofList name)
  | .object [(literal, .null)] => (unescape literal).bind fun name => ofName? (String.ofList name)
  | _ => none

def Variable.fieldNames : List String :=
  ["name", "expression", "isInput", "section", "order", "line", "span"]

def Variable.ofFields : List (Option JsonValue) → Option Variable
  | [some name, some expression, some isInput, some sectionName, some order, line, span] => do
    return {
      name := ← name.asString?
      expression := ← expression.asString?
      isInput := ← isInput.asBool?
      sectionName := ← sectionName.asString?
      order := ← order.asCount?
      line := ← orDefault 0 asCount? line
      span := ← orDefault ⟨0, 0⟩ spanOfJson span }
  | _ => none

def Variable.ofJson (value : JsonValue) : Option Variable :=
  (fields? fieldNames value).bind ofFields

def Prose.fieldNames : List String := ["text", "html"]

def Prose.ofFields : List (Option JsonValue) → Option Prose
  | [some text, html] => do return ⟨← text.asString?, ← orDefault "" asString? html⟩
  | _ => none

/-- An item of a given kind from the rest of its fields. -/
def Item.ofKind (kind : String) (fields : List String → Option (List (Option JsonValue))) : Option Item :=
  if kind = "variable" then ((fields Variable.fieldNames).bind Variable.ofFields).map .definition
  else if kind = "content" then ((fields Prose.fieldNames).bind Prose.ofFields).map .prose
  else none

def Item.ofJson (value : JsonValue) : Option Item :=
  if value.isReadable && decide (value.depth ≤ maxItemDepth) then
    match value with
    | .object members => do
      let named ← namedMembers members
      match ← fieldsOfMembers ["type"] named with
      | [some kind] =>
        ofKind (← kind.asString?) fun names =>
          fieldsOfMembers names (named.filter fun entry => entry.1 != "type")
      | _ => none
    | .array (kind :: elements) => do
      ofKind (← kind.asString?) fun names => fieldsOfElements names elements
    | _ => none
  else none

def Section.fieldNames : List String := ["name", "order", "level", "hidden", "variables", "items"]

def Section.ofJson (value : JsonValue) : Option Section := do
  match ← fields? fieldNames value with
  | [some name, some order, some level, some hidden, some definitions, some items] =>
    return {
      name := ← name.asString?
      order := ← order.asCount?
      level := ← level.asCount?
      hidden := ← hidden.asBool?
      definitions := ← asList? Variable.ofJson definitions
      items := ← asList? Item.ofJson items }
  | _ => none

def Document.fieldNames : List String := ["format", "language", "sections", "variables", "inputVariables"]

def Document.ofJson (value : JsonValue) : Option Document := do
  match ← fields? fieldNames value with
  | [some format, some language, some sections, some definitions, some inputs] =>
    return {
      format := ← Format.ofJson format
      language := ← language.asString?
      sections := ← asList? Section.ofJson sections
      definitions := ← asList? Variable.ofJson definitions
      inputs := ← asList? asString? inputs }
  | _ => none

/-- Reads an export. -/
def Document.imported (text : String) : Option Document :=
  (JsonValue.read text.toList).bind Document.ofJson

end LiterateCalc
