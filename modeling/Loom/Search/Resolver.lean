import Loom.FileSystem
import Loom.Search.Registry

/-!
# Module resolution

Which file defines a module. A locator answers with an absolute path; it comes from a fixed table, or
from roots under which the segments of a dotted name are directories. The first root that has the
module's file, or its package's, wins; registered paths come after the roots.
-/

namespace Loom

/-- Finds the file that defines a module. -/
abbrev Locator := String → Except WeaveError FilePath

/-- The locator of a table from modules to files. -/
def Locator.ofTable (fs : FileSystem) (modules : List (String × FilePath)) : Locator := fun module =>
  match modules.lookup module with
  | some file => fs.absolute file
  | none => .error (.unresolvable module)

structure SearchPaths where
  roots : List FilePath
  extension : String
  registry : Option Registry
  deriving Repr

namespace SearchPaths

def ofRoots (roots : List FilePath) : SearchPaths := ⟨roots, "py", none⟩

def addRoot (s : SearchPaths) (root : FilePath) : SearchPaths :=
  { s with roots := addPath s.roots root }

/-- Makes the working directory the last root. -/
def withWorkingDir (s : SearchPaths) (fs : FileSystem) : SearchPaths := s.addRoot fs.workingDir

/-- All places that are searched, in order. -/
def searched (s : SearchPaths) : List FilePath :=
  s.roots ++ (s.registry.map (·.entries)).getD []

/-- The files that would define a module under a root: its own, and that of its package. -/
def candidates (s : SearchPaths) (root : FilePath) (module : String) : List FilePath :=
  let base := (Text.segments '.' module).foldl FilePath.join root
  [base.withExtension s.extension, base.join ("__init__." ++ s.extension)]

def find? (s : SearchPaths) (fs : FileSystem) (module : String) : Option FilePath :=
  (s.searched.flatMap fun root => s.candidates root module).find? fs.isFile

/-- Whether every segment of a dotted name has a character. -/
def isModuleName (module : String) : Bool := (Text.segments '.' module).all fun s => !s.isEmpty

/-- The locator that searches these paths. -/
def locate (s : SearchPaths) (fs : FileSystem) : Locator := fun module =>
  if !isModuleName module then .error (.unresolvable module)
  else
    match s.find? fs module with
    | some file => fs.absolute file
    | none => .error (.unresolvable module)

end SearchPaths

end Loom
