import LiterateCalc.Text.Path

namespace LiterateCalc

/-- Why the content of a path cannot be read. -/
inductive FileError
  | missing
  | notFolder
  | isFolder
  | other (reason : String)
deriving DecidableEq, Inhabited

def FileError.message : FileError → String
  | .missing => "No such file or directory (os error 2)"
  | .notFolder => "Not a directory (os error 20)"
  | .isFolder => "Is a directory (os error 21)"
  | .other reason => reason

/-- Access to files, whose answers come with effects of `m`. -/
structure Files (m : Type → Type) where
  read : (path : String) → m (Except FileError String)
  isFile : (path : String) → m Bool
  /-- The files below a folder, each by the names on the way to it; none if there is no such folder. -/
  below : (folder : String) → m (List (List String))

/-- The folder part of a path, with its slash; the current folder if there is none. -/
def folderOf (path : String) : String :=
  let parts := Text.splitAt '/' path.toList
  if parts.length < 2 then "./" else String.ofList (Text.joinWith ['/'] (parts.dropLast ++ [[]]))

/-- A path extended by further names. -/
def extendPath (path : String) (names : List String) : String :=
  let rest := "/".intercalate names
  if path.isEmpty then rest else if path.endsWith "/" then path ++ rest else path ++ "/" ++ rest

end LiterateCalc
