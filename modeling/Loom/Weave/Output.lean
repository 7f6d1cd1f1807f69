import Loom.Weave.ModuleFile

/-!
# Writing and finding modules

A woven module is written as two files below an output directory: its tree and its source. The
modules of a directory are the writable files below it with a given extension.
-/

namespace Loom

/-- Why a module could not be written. -/
inductive OutputError where
  | noTree (file : FilePath)
  /-- The directory of the output cannot be made. -/
  | directory (error : FileError)
  | write (path : FilePath) (error : FileError)
  deriving Repr

def OutputError.message : OutputError → String
  | noTree file => (WeaveError.noTree file).message
  | directory error => error.message
  | write path error => "writing " ++ path.text ++ ": " ++ error.message

/-- Where a module is written. -/
structure OutputPaths where
  tree : FilePath
  source : FilePath
  deriving Repr

namespace ModuleFile

def outputPaths (m : ModuleFile) (out : FilePath) : OutputPaths :=
  let stem := out.join m.localName
  ⟨stem.withExtension "json", stem.withExtension "py"⟩

def writeTexts (fs : FileSystem) : List (FilePath × String) → Except OutputError Unit × FileSystem
  | [] => (.ok (), fs)
  | (path, text) :: rest =>
    match fs.writeText path text with
    | .error e => (.error (.write path e), fs)
    | .ok fs => writeTexts fs rest

/-- Makes the directory that is to hold a file. -/
def makeParent (fs : FileSystem) (p : FilePath) : Except OutputError Unit × FileSystem :=
  match p.parent? with
  | none => (.ok (), fs)
  | some parent =>
    match fs.makeDirs parent with
    | (.ok (), fs) => (.ok (), fs)
    | (.error e, fs) => (.error (.directory e), fs)

/-- Writes the tree and the source below `out`. What was made before a failure stays. -/
def write (m : ModuleFile) (fs : FileSystem) (out : FilePath) :
    Except OutputError OutputPaths × FileSystem :=
  match m.tree with
  | none => (.error (.noTree m.file), fs)
  | some tree =>
    let paths := m.outputPaths out
    match makeParent fs paths.tree with
    | (.error e, fs) => (.error e, fs)
    | (.ok (), fs) =>
      match writeTexts fs [(paths.tree, tree.toJson), (paths.source, tree.source)] with
      | (.error e, fs) => (.error e, fs)
      | (.ok (), fs) => (.ok paths, fs)

end ModuleFile

/-- The writable files below a directory with an extension, in order; none if it is no directory. -/
def FileSystem.modulesBelow? (fs : FileSystem) (dir : FilePath) (extension : String) :
    Option (List FilePath) :=
  if fs.isDir dir then
    some (((fs.filesBelow dir).filter fun f =>
      f.1.extension? == some extension && !f.2.readOnly).map (·.1))
  else none

end Loom
