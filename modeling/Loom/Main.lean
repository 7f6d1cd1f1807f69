import Loom.CommandLine.Inputs

/-!
# The command line

Reads what a run may look at into a file system, answers the request, and carries out the changes.
-/

namespace Loom.CommandLine

/-- Whether the file at `path` can be opened for writing. -/
def canWrite (path : String) : IO Bool := do
  try
    let _ ← IO.FS.Handle.mk path .append
    return true
  catch _ => return false

/-- What is at the end of `names`. -/
def probe (names : List String) : IO (Option Entry) := do
  let path := (← IO.currentDir) / (pathOf names).text
  if ← path.isDir then
    return some ⟨names, .directory, false⟩
  else if ← path.pathExists then
    let bytes ← IO.FS.readBinFile path
    return some ⟨names, .file (String.fromUTF8? bytes), !(← canWrite (pathOf names).text)⟩
  else
    return none

/-- Adds what is at `names` and everything it lies in. -/
def capture (fs : FileSystem) (names : List String) : IO FileSystem :=
  (List.range names.length).foldlM (fun fs n => do
    match ← probe (names.take (n + 1)) with
    | some e => return fs.put e
    | none => return fs) fs

/-- Adds what lies below `names`. -/
partial def captureBelow (fs : FileSystem) (names : List String) : IO FileSystem := do
  let fs ← capture fs names
  if fs.isDirectoryAt names then
    let entries ← ((← IO.currentDir) / (pathOf names).text).readDir
    entries.foldlM (fun fs e => captureBelow fs (names ++ [e.fileName])) fs
  else
    return fs

/-- Makes a directory or writes a file. -/
def commit (e : Entry) : IO Unit := do
  match e.node with
  | .directory => IO.FS.createDirAll (pathOf e.names).text
  | .file content => IO.FS.writeFile (pathOf e.names).text (content.getD "")

/-- Everything that a request may look at. -/
def surroundings (request : Request) : IO FileSystem := do
  let cwd : FilePath := ⟨(← IO.currentDir).toString⟩
  let fs ← capture ⟨[], cwd⟩ (namesOf cwd cwd)
  let fs ← request.documents.foldlM (fun fs p => capture fs (namesOf cwd p)) fs
  let fs ← (request.candidates fs).foldlM (fun fs p => capture fs (namesOf cwd p)) fs
  request.trees.foldlM (fun fs p => captureBelow fs (namesOf cwd p)) fs

end Loom.CommandLine

open Loom.CommandLine in
def main (args : List String) : IO UInt32 := do
  let request := Request.ofArgs args
  let before ← surroundings request
  let report := answer before request
  for e in report.changes before do
    commit e
  IO.print report.stdout
  IO.eprint report.stderr
  return report.exitCode.toUInt32
