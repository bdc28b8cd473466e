namespace LiterateCalc

/-- How a table came to be, which decides whether it may still grow. -/
inductive TableOrigin
  /-- Its own header. -/
  | header
  /-- The header of a table inside it. -/
  | outerHeader
  /-- A key with dots. -/
  | dottedKey
  /-- Braces; such a table never grows. -/
  | braces
deriving DecidableEq, Inhabited

inductive TomlValue
  | text (content : String)
  | integer (value : Int)
  | float (value : Float)
  | bool (value : Bool)
  | array (elements : List TomlValue)
  | table (origin : TableOrigin) (entries : List (String × TomlValue))
deriving Inhabited

namespace TomlValue

/-- The entries of a table, in the order of their keys' first use. -/
abbrev Entries := List (String × TomlValue)

def find? (key : String) (entries : Entries) : Option TomlValue :=
  (entries.find? fun entry => entry.1 == key).map Prod.snd

def replace (key : String) (value : TomlValue) (entries : Entries) : Entries :=
  entries.map fun entry => if entry.1 == key then (key, value) else entry

/-- Adds an entry under a path of keys. `inside` tells that the path has led into a table already:
only a table that dotted keys have made can be reached by one. -/
def define (key : String) (value : TomlValue) :
    (inside : Option TableOrigin) → (path : List String) → Entries → Option Entries
  | inside, [], entries =>
    if inside.all (· == .dottedKey) && (find? key entries).isNone then some (entries ++ [(key, value)])
    else none
  | _, first :: path, entries =>
    match find? first entries with
    | none => do
      let inner ← define key value (some .dottedKey) path []
      return entries ++ [(first, .table .dottedKey inner)]
    | some (.table origin inner) =>
      if origin = .dottedKey ∨ origin = .outerHeader then do
        let grown ← define key value (some origin) path inner
        return replace first (.table origin grown) entries
      else none
    | some _ => none

/-- Opens the table that a header names. It may exist only as the outside of other tables. -/
def openTable : (path : List String) → Entries → Option Entries
  | [], _ => none
  | [key], entries =>
    match find? key entries with
    | none => some (entries ++ [(key, .table .header [])])
    | some (.table .outerHeader inner) => some (replace key (.table .header inner) entries)
    | some _ => none
  | first :: path, entries =>
    match find? first entries with
    | none => do
      let inner ← openTable path []
      return entries ++ [(first, .table .outerHeader inner)]
    | some (.table origin inner) =>
      if origin = .braces then none
      else do
        let grown ← openTable path inner
        return replace first (.table origin grown) entries
    | some _ => none

/-- Changes the entries of the open table at a path. -/
def updateAt (change : Entries → Option Entries) : (path : List String) → Entries → Option Entries
  | [], entries => change entries
  | first :: path, entries =>
    match find? first entries with
    | some (.table origin inner) => do
      let grown ← updateAt change path inner
      return replace first (.table origin grown) entries
    | _ => none

end TomlValue
end LiterateCalc
