import LiterateCalc.Files.Basic

namespace LiterateCalc

/-- Contents by the parts of their paths. A folder is there if a file is below it. -/
abbrev FileTree := List (List String × String)

namespace FileTree

/-- What a path leads to. -/
inductive Place
  | file (content : String)
  | folder
deriving DecidableEq, Inhabited

def ofList (files : List (String × String)) : FileTree :=
  files.map fun entry => ((Text.pathParts entry.1.toList).map String.ofList, entry.2)

/-- What stands at the end of exact names. -/
def find? (tree : FileTree) (names : List String) : Option Place :=
  match List.find? (fun entry => entry.1 == names) tree with
  | some entry => some (.file entry.2)
  | none => if names.isEmpty || List.any tree fun entry => names.isPrefixOf entry.1 then some .folder else none

/-- Follows the parts of a path from a folder. -/
def follow (tree : FileTree) (folder : List String) : List String → Except FileError (List String × Place)
  | [] => .ok (folder, .folder)
  | ".." :: rest => follow tree folder.dropLast rest
  | name :: rest =>
    match tree.find? (folder ++ [name]) with
    | none => .error .missing
    | some (.file content) =>
      if rest.isEmpty then .ok (folder ++ [name], .file content) else .error .notFolder
    | some .folder => follow tree (folder ++ [name]) rest

/-- What a path leads to. A file has no slash behind it. -/
def lookup (tree : FileTree) (path : String) : Except FileError (List String × Place) :=
  if path.isEmpty then .error .missing
  else
    match tree.follow [] ((Text.pathParts path.toList).map String.ofList) with
    | .ok (names, .file content) => if path.endsWith "/" || path.endsWith "/." then .error .notFolder else .ok (names, .file content)
    | found => found

def read (tree : FileTree) (path : String) : Except FileError String :=
  match tree.lookup path with
  | .ok (_, .file content) => .ok content
  | .ok (_, .folder) => .error .isFolder
  | .error error => .error error

def isFile (tree : FileTree) (path : String) : Bool :=
  match tree.lookup path with
  | .ok (_, .file _) => true
  | _ => false

def below (tree : FileTree) (folder : String) : List (List String) :=
  match tree.lookup folder with
  | .ok (names, .folder) =>
    (List.filter (fun entry => names.isPrefixOf entry.1) tree).map fun entry => entry.1.drop names.length
  | _ => []

/-- Access to the files of a tree, without effects. -/
def files (tree : FileTree) : Files Id where
  read := tree.read
  isFile := tree.isFile
  below := tree.below

end FileTree
end LiterateCalc
