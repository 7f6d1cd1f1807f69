import Loom.Aspect.Basic
import Loom.Document.Decode
import Loom.Document.Reader

/-!
# Aspect specs

A document that declares named aspects, selects and orders those to weave (`__all__`), and names
directories in which their modules are found. Relative directories are taken from where the document
lies.
-/

namespace Loom

structure AspectSpec where
  searchPaths : List FilePath
  /-- The aspects in the order of the document, each name once. -/
  aspects : List (String × List AdviceSpec)
  /-- The names to weave; all if there is no such list. -/
  exports : Option (List String)
  /-- The directory of the document, if it is known. -/
  baseDir : Option FilePath
  deriving Repr

/-! ## Decoding -/

namespace Document

/-- A path, written as a string. -/
def Decoder.path : Decoder FilePath := fun n d => (Decoder.string n d).map FilePath.mk

/-- An entry's kind and what else it holds: the field `kind` and the other fields, or the first
element and the others. -/
def splitKind : Document → Option (String × Document)
  | .object fields => do
    let kind ← match fields.filter (·.1 == some "kind") with
      | [(_, .string kind)] => kind
      | _ => none
    some (kind, .object (fields.filter (·.1 != some "kind")))
  | .array (.string kind :: rest) => kind.map fun kind => (kind, .array rest)
  | _ => none

end Document

namespace AdviceSpec

open Document

def ofFields (n : Nat) (kind : String) (d : Document) : Option AdviceSpec :=
  match kind with
  | "function_wrapper" => do
    let r ← fields ["pattern", "wrapper"] d
    some (.functionWrapper (← r.get "pattern" (Decoder.string n)) (← r.get "wrapper" (Decoder.string n)))
  | "class_hook" => do
    let r ← fields ["pattern", "hook"] d
    some (.classHook (← r.get "pattern" (Decoder.string n)) (← r.get "hook" (Decoder.string n)))
  | "accessor_triple" => do
    let r ← fields ["pattern", "getter", "setter", "deleter"] d
    let handle (name : String) := r.getD name (Decoder.optional Decoder.string n) none
    some (.accessorTriple (← r.get "pattern" (Decoder.string n)) (← handle "getter")
      (← handle "setter") (← handle "deleter"))
  | _ => none

/-- An entry is read whole before its kind is looked at, so what it holds besides must be readable
too. -/
def decode : Decoder AdviceSpec := fun n d =>
  if d.isReadable n then do
    let (kind, rest) ← d.splitKind
    ofFields n kind rest
  else none

end AdviceSpec

namespace AspectSpec

open Document

/-- Adds a named aspect; one of the same name is replaced where it stands. -/
def insertAspect (aspects : List (String × List AdviceSpec)) (name : String)
    (entries : List AdviceSpec) : List (String × List AdviceSpec) :=
  if aspects.any (·.1 == name) then
    aspects.map fun a => if a.1 == name then (name, entries) else a
  else aspects ++ [(name, entries)]

def decodeAspects (n : Nat) : List (Option String × Document) →
    (aspects : List (String × List AdviceSpec)) → Option (List (String × List AdviceSpec))
  | [], aspects => some aspects
  | (none, _) :: _, _ => none
  | (some name, d) :: rest, aspects => do
    let entries ← Decoder.list AdviceSpec.decode n d
    decodeAspects n rest (insertAspect aspects name entries)

def aspectMap : Decoder (List (String × List AdviceSpec))
  | n + 1, .object fields => decodeAspects n fields []
  | _, _ => none

def decode : Decoder AspectSpec
  | 0, _ => none
  | n + 1, d => do
    let r ← fields ["search_paths", "aspects", "__all__"] d
    let searchPaths ← r.getD "search_paths" (Decoder.list Decoder.path n) []
    let aspects ← r.get "aspects" (aspectMap n)
    let exports ← r.getD "__all__" (Decoder.optional (Decoder.list Decoder.string) n) none
    some { searchPaths, aspects, exports, baseDir := none }

def ofDocument? (d : Document) : Option AspectSpec := decode nestingLimit d

def ofJson (text : String) : Except WeaveError AspectSpec :=
  match (Document.parse text).bind ofDocument? with
  | some s => .ok s
  | none => .error .badDocument

/-- Reads a spec from a file and notes its directory. -/
def load (fs : FileSystem) (path : FilePath) : Except WeaveError AspectSpec := do
  let text ← (fs.readText path).mapError .file
  let spec ← ofJson text
  let baseDir ← fs.absolute (path.parent?.getD ⟨"."⟩)
  .ok { spec with baseDir := some baseDir }

/-! ## Meaning -/

/-- The aspect of a name. -/
def find? (s : AspectSpec) (name : String) : Option (List AdviceSpec) := s.aspects.lookup name

def checkExported (s : AspectSpec) (name : String) : Except WeaveError String :=
  if (s.find? name).isSome then .ok name else .error (.unknownAspect name)

/-- The names of the aspects to weave, in order. -/
def exported (s : AspectSpec) : Except WeaveError (List String) :=
  match s.exports with
  | some names => names.mapM s.checkExported
  | none => .ok (s.aspects.map (·.1))

/-- A search path as seen from the spec's directory. -/
def rootOf (s : AspectSpec) (p : FilePath) : FilePath :=
  match s.baseDir with
  | some base => base.join p.text
  | none => p

/-- The spec's own directory, its search paths, and the extra ones that are not among them. -/
def resolver (s : AspectSpec) (extra : List FilePath) : SearchPaths :=
  extra.foldl SearchPaths.addRoot (.ofRoots (s.baseDir.toList ++ s.searchPaths.map s.rootOf))

def resolveAspect (s : AspectSpec) (locate : Locator) (name : String) : Except WeaveError Aspect := do
  let advices ← ((s.find? name).getD []).mapM (AdviceSpec.resolve locate)
  .ok ⟨name, advices⟩

/-- The exported aspects, with every handle resolved. -/
def resolveAspects (s : AspectSpec) (locate : Locator) : Except WeaveError (List Aspect) := do
  let names ← s.exported
  names.mapM (s.resolveAspect locate)

def worklist (s : AspectSpec) (locate : Locator) : Except WeaveError Worklist := do
  .ok (.ofAspects (← s.resolveAspects locate))

end AspectSpec

end Loom
