import Loom.Error

/-!
# File systems

A file system as a value: the directories and files that lie under the root, each known by the names
that lead to it, and a working directory from which relative paths start. A path is followed name by
name; `..` leads back up, and whatever has a name or a slash after it must be a directory. Whether
something may be written is a mark that is looked up and never enforced.
-/

namespace Loom

inductive Node where
  | directory
  /-- A file with its content, which is `none` when its bytes are no text. -/
  | file (content : Option String)
  deriving DecidableEq, Repr

/-- A directory or file, with the names that lead to it from the root. -/
structure Entry where
  names : List String
  node : Node
  readOnly : Bool
  deriving DecidableEq, Repr

def Entry.isFile (e : Entry) : Bool := e.node != .directory

structure FileSystem where
  entries : List Entry
  workingDir : FilePath
  deriving Repr

namespace FileSystem

/-- The longest name, in bytes. -/
def nameLimit : Nat := 255

/-- The length in bytes from which a path is refused. -/
def pathLimit : Nat := 4096

def rootEntry : Entry := ⟨[], .directory, false⟩

/-! ## Following paths -/

/-- What the names lead to; the root is always there. -/
def entryAt? (fs : FileSystem) (names : List String) : Option Entry :=
  if names = [] then some rootEntry else fs.entries.find? fun e => e.names = names

def isDirectoryAt (fs : FileSystem) (names : List String) : Bool :=
  match fs.entryAt? names with
  | some e => e.node = .directory
  | none => false

/-- Follows the stretches of a path from `here`. -/
def follow (fs : FileSystem) (here : List String) : List String → Except FileError (List String)
  | [] => .ok here
  | piece :: rest =>
    if !fs.isDirectoryAt here then .error .notDirectory
    else if piece = "" ∨ piece = "." then fs.follow here rest
    else if piece = ".." then fs.follow here.dropLast rest
    else if nameLimit < piece.utf8ByteSize then .error .nameTooLong
    else if (fs.entryAt? (here ++ [piece])).isNone then .error .notFound
    else fs.follow (here ++ [piece]) rest

/-- The stretches between the slashes of a path. -/
def pieces (p : FilePath) : List String := Text.segments '/' p.text

def isName (piece : String) : Bool := piece != "" && piece != "." && piece != ".."

/-- Where a path starts. -/
def start (fs : FileSystem) (p : FilePath) : List String :=
  if p.isAbsolute then [] else (pieces fs.workingDir).filter isName

/-- Refuses what no file system takes for a path. -/
def checkPath (p : FilePath) : Except FileError Unit :=
  if p.text.toList.contains '\x00' then .error .nulInPath
  else if p.text.isEmpty then .error .notFound
  else if pathLimit ≤ p.text.utf8ByteSize then .error .nameTooLong
  else .ok ()

/-- The directory or file that a path names. -/
def lookup (fs : FileSystem) (p : FilePath) : Except FileError Entry := do
  checkPath p
  let names ← fs.follow (fs.start p) (pieces p)
  match fs.entryAt? names with
  | some e => .ok e
  | none => .error .notFound

/-! ## Questions -/

def lookup? (fs : FileSystem) (p : FilePath) : Option Entry := (fs.lookup p).toOption

def isDir (fs : FileSystem) (p : FilePath) : Bool :=
  match fs.lookup? p with
  | some e => e.node = .directory
  | none => false

def isFile (fs : FileSystem) (p : FilePath) : Bool :=
  match fs.lookup? p with
  | some e => e.isFile
  | none => false

/-- Whether a file, or for one that is not there its directory, may be written. -/
def isWritable (fs : FileSystem) (p : FilePath) : Bool :=
  match fs.lookup? p with
  | some e => !e.readOnly
  | none =>
    match p.parent? with
    | none => false
    | some parent =>
      match fs.lookup? (if parent.text.isEmpty then ⟨"."⟩ else parent) with
      | some e => e.node = .directory && !e.readOnly
      | none => false

/-- The text of a file. -/
def readText (fs : FileSystem) (p : FilePath) : Except FileError String := do
  match (← fs.lookup p).node with
  | .directory => .error .isDirectory
  | .file none => .error .notText
  | .file (some text) => .ok text

/-- The path as seen from the working directory. -/
def absolute (fs : FileSystem) (p : FilePath) : Except WeaveError FilePath :=
  match p.absolute? fs.workingDir with
  | some q => .ok q
  | none => .error (.file .emptyPath)

/-- The names below `dir` that lead to an entry, if it lies there. -/
def namesBelow? (dir : List String) (e : Entry) : Option (List String) :=
  if dir.isPrefixOf e.names then some (e.names.drop dir.length) else none

/-- The files that lie anywhere below a directory, in the order of their paths. What is no directory
has none. -/
def filesBelow (fs : FileSystem) (dir : FilePath) : List (FilePath × Entry) :=
  match fs.lookup? dir with
  | some ⟨top, .directory, _⟩ =>
    let found := (fs.entries.filter (·.isFile)).filterMap fun e =>
      (namesBelow? top e).map fun names => (names.foldl FilePath.join dir, e)
    found.mergeSort fun a b => a.1.le b.1
  | _ => []

/-! ## Changes -/

/-- Puts an entry in place of the one with its names, or adds it. -/
def put (fs : FileSystem) (e : Entry) : FileSystem :=
  { fs with entries := e :: fs.entries.filter fun old => old.names ≠ e.names }

/-- The place of a path's last name: the directory that holds it and the name. -/
structure Slot where
  parent : List String
  name : String

/-- The stretches before the trailing slashes. -/
def trimmedPieces (p : FilePath) : List String :=
  ((pieces p).reverse.dropWhile (· == "")).reverse

/-- Finds the place where a path's last name stands or would stand; `blocked` if the path ends with
no name. -/
def slot (fs : FileSystem) (p : FilePath) (blocked : FileError) : Except FileError Slot := do
  checkPath p
  match (trimmedPieces p).reverse with
  | [] => .error blocked
  | last :: before =>
    let parent ← fs.follow (fs.start p) (before.reverse ++ [""])
    if !isName last then .error blocked
    else if nameLimit < last.utf8ByteSize then .error .nameTooLong
    else .ok ⟨parent, last⟩

/-- Makes one directory. -/
def makeDir (fs : FileSystem) (p : FilePath) : Except FileError FileSystem := do
  let s ← fs.slot p .alreadyExists
  let names := s.parent ++ [s.name]
  match fs.entryAt? names with
  | some _ => .error .alreadyExists
  | none => .ok (fs.put ⟨names, .directory, false⟩)

/-- The result of making a directory that may be there already. -/
def settleDir (fs : FileSystem) (p : FilePath) :
    Except FileError FileSystem → Except FileError Unit × FileSystem
  | .ok fs => (.ok (), fs)
  | .error e => if fs.isDir p then (.ok (), fs) else (.error e, fs)

/-- Makes a directory and those it lies in, at most `depth` levels up. What was made before a failure
stays. -/
def makeDirsWithin : (depth : Nat) → FileSystem → FilePath → Except FileError Unit × FileSystem
  | 0, fs, p => if p.text.isEmpty then (.ok (), fs) else fs.settleDir p (fs.makeDir p)
  | depth + 1, fs, p =>
    if p.text.isEmpty then (.ok (), fs)
    else
      match fs.makeDir p, p.parent? with
      | .error .notFound, some parent =>
        match makeDirsWithin depth fs parent with
        | (.ok (), fs) => fs.settleDir p (fs.makeDir p)
        | failed => failed
      | result, _ => fs.settleDir p result

def makeDirs (fs : FileSystem) (p : FilePath) : Except FileError Unit × FileSystem :=
  makeDirsWithin p.components.length fs p

/-- Writes a file, in place of one that is there. -/
def writeText (fs : FileSystem) (p : FilePath) (text : String) : Except FileError FileSystem := do
  let s ← fs.slot p .isDirectory
  let names := s.parent ++ [s.name]
  match fs.entryAt? names with
  | none =>
    if (pieces p).getLast? = some "" then .error .isDirectory
    else .ok (fs.put ⟨names, .file (some text), false⟩)
  | some ⟨_, .directory, _⟩ => .error .isDirectory
  | some ⟨_, .file _, readOnly⟩ =>
    if (pieces p).getLast? = some "" then .error .isDirectory
    else .ok (fs.put ⟨names, .file (some text), readOnly⟩)

end FileSystem

end Loom
