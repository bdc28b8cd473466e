import LiterateCalc.Toml.Reader

namespace LiterateCalc.TomlValue

def asText? : TomlValue → Option String
  | .text content => some content
  | _ => none

def asBool? : TomlValue → Option Bool
  | .bool value => some value
  | _ => none

/-- A whole number that is not negative. -/
def asCount? : TomlValue → Option Nat
  | .integer value => if 0 ≤ value then some value.toNat else none
  | _ => none

/-- A float, or the float nearest to a whole number. -/
def asFloat? : TomlValue → Option Float
  | .float value => some value
  | .integer value => some (Float.ofInt value)
  | _ => none

def asList? {α : Type} (read : TomlValue → Option α) : TomlValue → Option (List α)
  | .array elements => elements.mapM read
  | _ => none

/-- The entries of a table, each taken for the same. -/
def asEntries? {α : Type} (read : TomlValue → Option α) : TomlValue → Option (List (String × α))
  | .table _ entries => entries.mapM fun entry => (read entry.2).map (entry.1, ·)
  | _ => none

def isEmptyGroup : TomlValue → Bool
  | .array [] => true
  | .table _ [] => true
  | _ => false

/-- A name, written as a text or as a table that holds nothing but that key, with nothing in it. -/
def asName? : TomlValue → Option String
  | .text content => some content
  | .table _ [(key, value)] => if value.isEmptyGroup then some key else none
  | _ => none

/-- The fields of a record by name; it has no others. -/
def fieldsOfEntries (names : List String) (entries : Entries) : Option (List (Option TomlValue)) :=
  if entries.all fun entry => names.contains entry.1 then some (names.map fun name => find? name entries)
  else none

/-- The fields of a record: a table, or an array that gives them by position. -/
def fields? (names : List String) : TomlValue → Option (List (Option TomlValue))
  | .table _ entries => fieldsOfEntries names entries
  | .array elements => some (names.zipIdx.map fun entry => elements[entry.2]?)
  | _ => none

/-- A field that may be missing. -/
def orDefault {α : Type} (default : α) (read : TomlValue → Option α) : Option TomlValue → Option α
  | none => some default
  | some value => read value

/-- A field without a default. -/
def ifGiven {α : Type} (read : TomlValue → Option α) : Option TomlValue → Option (Option α)
  | none => some none
  | some value => (read value).map some

end LiterateCalc.TomlValue
