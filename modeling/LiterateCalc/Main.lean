import LiterateCalc.CommandLine.Program

namespace LiterateCalc

def fileError : IO.Error → FileError
  | .noFileOrDirectory _ _ _ => .missing
  | error => .other (toString error)

def readSystemFile (path : String) : IO (Except FileError String) := do
  try return .ok (← IO.FS.readFile path)
  catch error => return .error (fileError error)

def isSystemFile (path : String) : IO Bool := do
  try
    discard (IO.FS.readBinFile path)
    return true
  catch _ => return false

/-- The files at or below an entry of a folder, by the names from that folder on. -/
partial def filesBelow (entry : IO.FS.DirEntry) : IO (List (List String)) := do
  if ← entry.path.isDir then
    let inner ← entry.path.readDir
    let found ← inner.toList.mapM filesBelow
    return found.flatten.map (entry.fileName :: ·)
  else return [[entry.fileName]]

def filesOfFolder (folder : String) : IO (List (List String)) := do
  try
    let entries ← ((← IO.currentDir) / folder).readDir
    return (← entries.toList.mapM filesBelow).flatten
  catch _ => return []

def systemFiles : Files IO where
  read := readSystemFile
  isFile := isSystemFile
  below := filesOfFolder

end LiterateCalc

def main (arguments : List String) : IO UInt32 := do
  let outcome ← LiterateCalc.CommandLine.program LiterateCalc.systemFiles arguments
  (← IO.getStdout).putStr outcome.output
  (← IO.getStderr).putStr outcome.errors
  return outcome.exitCode.toUInt32
