import Loom.Aspect.Alias
import Loom.Search.Registry
import Loom.Tree.Load
import Loom.FileSystem
import Loom.Weave.Transform

/-!
# Module files

A file that holds a module's tree, known in addresses by a local name. Weaving a worklist into it
works on the module and on a registry of the search paths that modules need; all that can fail comes
before the first change.
-/

namespace Loom

structure ModuleFile where
  file : FilePath
  /-- The directory that anchors the local name. -/
  base : Option FilePath
  localName : String
  /-- The tree, once it is loaded. -/
  tree : Option Module
  /-- The advices of the last weaving. -/
  matched : Worklist

namespace ModuleFile

/-! ## Local names -/

/-- How many components two paths share from the start. -/
def sharedLength : List Component → List Component → Nat
  | a :: as, b :: bs => if a = b then sharedLength as bs + 1 else 0
  | _, _ => 0

def componentName? : Component → Option String
  | .normal name => some name
  | _ => none

/-- The names of `file` after what it shares with `base`, without the extension. -/
def relativeNames (file base : FilePath) : List String :=
  ((file.withExtension "").components.drop
    (sharedLength file.components base.components)).filterMap componentName?

/-- The local name of a file: its path relative to the base, or its stem where there is no base or
nothing is left. -/
def localNameOf (cwd file : FilePath) (base : Option FilePath) : String :=
  let stem := file.fileStem?.getD ""
  match file.absolute? cwd, base.bind (·.absolute? cwd) with
  | some file, some base =>
    match relativeNames file base with
    | [] => stem
    | names => "/".intercalate names
  | _, _ => stem

def ofFile (cwd file : FilePath) (base : Option FilePath) : ModuleFile :=
  ⟨file, base, localNameOf cwd file base, none, .empty⟩

/-! ## Trees -/

/-- Reads the tree from the file. -/
def load (m : ModuleFile) (fs : FileSystem) : Except WeaveError ModuleFile := do
  let text ← (fs.readText m.file).mapError .file
  .ok { m with tree := some (← Module.load text) }

def loaded (m : ModuleFile) : Except WeaveError Module :=
  match m.tree with
  | some tree => .ok tree
  | none => .error (.noTree m.file)

def source (m : ModuleFile) : Except WeaveError String := do .ok (← m.loaded).source

def names (m : ModuleFile) : Except WeaveError (List String) := do .ok (← m.loaded).names

def imports (m : ModuleFile) : Except WeaveError (List String) := do .ok (← m.loaded).imports

/-! ## Weaving -/

/-- What a weaving changes: the module, and the registry that it shares with others. -/
structure Workpiece where
  module : ModuleFile
  registry : Registry

/-- What weaving gives: whether an advice matched, the module and the registry after it. -/
structure Outcome where
  woven : Bool
  module : ModuleFile
  registry : Registry

/-- Binds the matched advices in an edited tree: fresh aliases, the import header, and a check of
the result. -/
def bindMatched (edited : Module) (matched : Worklist) (attempts : Nat) :
    Except WeaveError (Module × Worklist) := do
  let matched ← (matched.mangle edited.names attempts).1
  let tree := edited.bindModules matched
  tree.validate
  .ok (tree, matched)

/-- Weaves a worklist into the module in place, and says whether an advice matched. The edits are
made on a copy of the tree that takes its place at the end; without a match the tree stays as it
is. -/
def weaveIn (w : Worklist) (attempts : Nat) : EStateM WeaveError Workpiece Bool := do
  let m := (← get).module
  let tree ← ofExcept m.loaded
  let matched := tree.matched w m.localName
  if matched.isEmpty then
    modify fun s => { s with module.matched := matched }
    return false
  else
    let (tree, matched) ← ofExcept (bindMatched (tree.transform w m.localName) matched attempts)
    modify fun s => { s with registry := s.registry.registerAll matched.searchPaths }
    modify fun s => { s with module.tree := some tree }
    modify fun s => { s with module.matched := matched }
    return true

/-- Weaves a worklist into the module. -/
def weave (m : ModuleFile) (w : Worklist) (registry : Registry) (attempts : Nat) :
    Except WeaveError Outcome :=
  match (weaveIn w attempts).run ⟨m, registry⟩ with
  | .ok woven s => .ok ⟨woven, s.module, s.registry⟩
  | .error e _ => .error e

end ModuleFile

end Loom
