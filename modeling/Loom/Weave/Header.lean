import Loom.Tree.Basic

/-!
# Import headers

The statements that bring advice modules into scope: a loop that makes their directories importable,
and one import each. They stand after the documentation and the `__future__` imports of a module,
which must come first.
-/

namespace Loom

namespace Stmt

/-- `import name as shortName`, without `as` where the two agree. -/
def importAs (name shortName : String) : Stmt :=
  .importNames [⟨name, if name = shortName then none else some shortName⟩]

def searchPathList : Expr := .attribute (.name "sys") "path"

/-- `for path in (…)`: appends each path to the search path unless it is there. -/
def searchPathLoop (paths : List FilePath) : Stmt :=
  .forLoop (.name "path") (.tuple (paths.map fun p => .str p.text))
    [.ifElse (.compare (.name "path") .notIn searchPathList)
      [.expr (.call (.attribute searchPathList "append") [.name "path"] [])] []]

/-- The statements that make `paths` importable. -/
def searchPathHeader (paths : List FilePath) : List Stmt :=
  if paths.isEmpty then [] else [.importNames [⟨"sys", none⟩], searchPathLoop paths]

/-- The header for these paths and pairs of a module and its alias. -/
def header (paths : List FilePath) (modules : List (String × String)) : List Stmt :=
  searchPathHeader paths ++ modules.map fun m => importAs m.1 m.2

/-- `from __future__ import …`. -/
def isFutureImport : Stmt → Bool
  | .importFrom module _ => module == "__future__"
  | _ => false

/-- Cuts a body where a header goes: after a documentation string and the `__future__` imports
that follow. -/
def splitPreamble : List Stmt → List Stmt × List Stmt
  | [] => ([], [])
  | s :: rest =>
    if s.isDocString then
      (s :: rest.takeWhile isFutureImport, rest.dropWhile isFutureImport)
    else ((s :: rest).takeWhile isFutureImport, (s :: rest).dropWhile isFutureImport)

end Stmt

namespace Module

/-- Puts the header for these paths and modules after the preamble. -/
def addImports (m : Module) (paths : List FilePath) (modules : List (String × String)) : Module :=
  let (preamble, rest) := Stmt.splitPreamble m.body
  ⟨preamble ++ Stmt.header paths modules ++ rest⟩

end Module

end Loom
