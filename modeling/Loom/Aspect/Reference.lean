import Loom.Aspect.Declaration
import Loom.Tree.Basic

/-!
# References

A declaration of another module, with the file that defines it and the alias under which woven code
names that module. Two references are the same when module, name and file agree, whatever the
alias.
-/

namespace Loom

/-- An alias for a module: one segment, so that an import can bind it. -/
structure ShortName where
  text : String
  oneSegment : '.' ∉ text.toList
  deriving DecidableEq, Repr

namespace ShortName

/-- The last segment of a dotted module name. -/
def ofModule (module : String) : ShortName :=
  ⟨.ofList ((Text.splitChars '.' module.toList).getLast (Text.splitChars_ne_nil _ _)), by
    simpa using Text.not_mem_of_mem_splitChars (List.getLast_mem (Text.splitChars_ne_nil _ _))⟩

/-- The alias with an underscore after it. -/
def underscore (s : ShortName) : ShortName := ⟨s.text ++ "_", by simpa using s.oneSegment⟩

end ShortName

structure Reference where
  originModule : String
  declName : String
  sourceFile : FilePath
  short : ShortName
  deriving DecidableEq, Repr

/-- The module a reference belongs to, as defined in one file. -/
structure ModuleKey where
  file : FilePath
  module : String
  deriving DecidableEq, Repr

namespace ModuleKey

def same (a b : ModuleKey) : Bool := a.file.same b.file && a.module == b.module

end ModuleKey

namespace Reference

/-- A reference under its default alias. -/
def ofParts (originModule declName : String) (sourceFile : FilePath) : Reference :=
  ⟨originModule, declName, sourceFile, .ofModule originModule⟩

def shortName (r : Reference) : String := r.short.text

def moduleKey (r : Reference) : ModuleKey := ⟨r.sourceFile, r.originModule⟩

/-- Whether two references name the same declaration. -/
def same (a b : Reference) : Bool :=
  a.originModule == b.originModule && a.declName == b.declName && a.sourceFile.same b.sourceFile

def resetAlias (r : Reference) : Reference := { r with short := .ofModule r.originModule }

def text (r : Reference) : String := r.originModule ++ "." ++ r.declName

/-- How many packages enclose the file: one for each point in the module's name, and one more if
the file is that of a package. -/
def packageDepth (r : Reference) : Nat :=
  (Text.segments '.' r.originModule).length - 1 +
    (if r.sourceFile.fileStem? = some "__init__" then 1 else 0)

/-- The directory from which the module can be imported by its name. -/
def searchRoot (r : Reference) : FilePath :=
  match r.sourceFile.parent? with
  | none => ⟨""⟩
  | some dir => (FilePath.ancestor? r.packageDepth dir).getD dir

/-- The expression that uses the declaration. -/
def woven (r : Reference) : Expr :=
  .woven ⟨r.originModule, r.declName, r.sourceFile, r.shortName⟩

end Reference

end Loom
