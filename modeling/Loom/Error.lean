import Loom.Pattern.Fault
import Loom.Tree.Check

/-!
# Errors

Why an operation failed, and the one text that says so.
-/

namespace Loom

/-- Why a file operation failed. -/
inductive FileError where
  | notFound
  | alreadyExists
  | notDirectory
  | isDirectory
  | nameTooLong
  | notText
  | emptyPath
  | nulInPath
  deriving DecidableEq, Repr

def FileError.message : FileError → String
  | notFound => "No such file or directory (os error 2)"
  | alreadyExists => "File exists (os error 17)"
  | notDirectory => "Not a directory (os error 20)"
  | isDirectory => "Is a directory (os error 21)"
  | nameTooLong => "File name too long (os error 36)"
  | notText => "stream did not contain valid UTF-8"
  | emptyPath => "cannot make an empty path absolute"
  | nulInPath => "file name contained an unexpected NUL byte"

/-- Why weaving, or something on the way to it, failed. -/
inductive WeaveError where
  /-- No file defines the module. -/
  | unresolvable (module : String)
  | badPattern (pattern : String) (fault : PatternFault)
  /-- Every suffix up to the bound was taken. -/
  | aliasExhausted (base : String) (attempts : Nat)
  /-- The text is no handle of a declaration. -/
  | badDeclaration (text : String)
  /-- An exported aspect is not defined. -/
  | unknownAspect (name : String)
  | malformedTree (flaw : Flaw)
  /-- The module's tree is not loaded. -/
  | noTree (file : FilePath)
  /-- A document is not of the expected form. -/
  | badDocument
  | file (error : FileError)
  deriving Repr

def WeaveError.message : WeaveError → String
  | unresolvable module => "Unresolvable module: " ++ module
  | badPattern pattern _ => "Invalid pattern '" ++ pattern ++ "'"
  | aliasExhausted base attempts =>
    "Could not mangle alias '" ++ base ++ "' into a unique name after " ++ toString attempts ++
      " attempts"
  | badDeclaration text => "Invalid declaration: '" ++ text ++ "' is not of the form module.name"
  | unknownAspect name => "Invalid declaration: __all__ names unknown aspect '" ++ name ++ "'"
  | malformedTree flaw => "Syntax error: " ++ flaw.message
  | noTree path => "Module " ++ path.text ++ " has no parsed tree"
  | badDocument => "Serialization error"
  | file error => "I/O error: " ++ error.message

namespace Module

/-- Checks the tree, with the flaw as an error. -/
def validate (m : Module) : Except WeaveError Unit :=
  match m.check with
  | .ok () => .ok ()
  | .error flaw => .error (.malformedTree flaw)

end Module

end Loom
