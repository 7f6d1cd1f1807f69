import Loom.Text.Segments

/-!
# File paths

A path is a text that slashes cut into components. Two paths name the same place when their
components agree (`same`): repeated and trailing slashes and inner `.` components do not count, a
leading `./` and every `..` do. Operations work on the text and keep its spelling.
-/

namespace Loom

/-- A step of a path. -/
inductive Component where
  | root
  | current
  | parent
  | normal (name : String)
  deriving DecidableEq, Repr

namespace Component

def text : Component → String
  | root => "/"
  | current => "."
  | parent => ".."
  | normal name => name

/-- Roots come first, then `.`, `..` and names. -/
def rank : Component → Nat
  | root => 0
  | current => 1
  | parent => 2
  | normal _ => 3

def compare (a b : Component) : Ordering :=
  (Ord.compare a.rank b.rank).then (Ord.compare a.text b.text)

end Component

/-- A path as it is written. -/
structure FilePath where
  text : String
  deriving DecidableEq, Repr

namespace FilePath

/-! ## Components -/

/-- A component, and how many characters of the text end with it. -/
structure Located where
  component : Component
  stop : Nat

/-- The component of a stretch between slashes that starts at `start`; `.` counts at the start
only. -/
def componentOf (start : Nat) (piece : List Char) : Option Component :=
  if piece = [] then none
  else if piece = ['.'] then if start = 0 then some .current else none
  else if piece = ['.', '.'] then some .parent
  else some (.normal (String.ofList piece))

def locate (start : Nat) : List (List Char) → List Located
  | [] => []
  | piece :: rest =>
    let stop := start + piece.length
    match componentOf start piece with
    | none => locate (stop + 1) rest
    | some c => ⟨c, stop⟩ :: locate (stop + 1) rest

def isAbsolute (p : FilePath) : Bool := p.text.toList.head? == some '/'

def located (p : FilePath) : List Located :=
  let steps := locate 0 (Text.splitChars '/' p.text.toList)
  if p.isAbsolute then ⟨.root, 1⟩ :: steps else steps

def components (p : FilePath) : List Component := p.located.map (·.component)

/-- Whether two paths have the same components. -/
def same (p q : FilePath) : Bool := p.components = q.components

theorem same_iff {p q : FilePath} : p.same q = true ↔ p.components = q.components :=
  decide_eq_true_iff

def compareComponents : List Component → List Component → Ordering
  | [], [] => .eq
  | [], _ :: _ => .lt
  | _ :: _, [] => .gt
  | a :: as, b :: bs => (a.compare b).then (compareComponents as bs)

/-- The order of paths by their components. -/
def le (p q : FilePath) : Bool := compareComponents p.components q.components != .gt

/-! ## Parts -/

def take (p : FilePath) (n : Nat) : FilePath := ⟨String.ofList (p.text.toList.take n)⟩

/-- The path without its last component; a root and the empty path have none. -/
def parent? (p : FilePath) : Option FilePath :=
  match p.located.reverse with
  | [] => none
  | ⟨.root, _⟩ :: _ => none
  | [_] => some ⟨""⟩
  | _ :: previous :: _ => some (p.take previous.stop)

/-- The path `n` levels up; none when there are fewer. -/
def ancestor? : Nat → FilePath → Option FilePath
  | 0, p => some p
  | n + 1, p => p.parent?.bind (ancestor? n)

/-- The last component if it is a name, with the place where it ends. -/
def fileNameAt? (p : FilePath) : Option (String × Nat) :=
  match p.located.getLast? with
  | some ⟨.normal name, stop⟩ => some (name, stop)
  | _ => none

def fileName? (p : FilePath) : Option String := p.fileNameAt?.map (·.1)

/-- Cuts a file name at its last point, unless that is its first character. -/
def splitName (name : String) : String × Option String :=
  match (Text.splitChars '.' name.toList).reverse with
  | [] => (name, none)
  | [_] => (name, none)
  | [_, []] => (name, none)
  | last :: before =>
    (String.ofList (Text.joinChars '.' before.reverse), some (String.ofList last))

/-- The file name without its extension. -/
def fileStem? (p : FilePath) : Option String := p.fileName?.map fun name => (splitName name).1

def extension? (p : FilePath) : Option String := p.fileName?.bind fun name => (splitName name).2

/-! ## Changed paths -/

/-- `q` under `p`; an absolute `q` replaces `p`. -/
def join (p : FilePath) (q : String) : FilePath :=
  if (FilePath.mk q).isAbsolute then ⟨q⟩
  else
    match p.text.toList.getLast? with
    | none => ⟨q⟩
    | some c => if c = '/' then ⟨p.text ++ q⟩ else ⟨p.text ++ "/" ++ q⟩

/-- Puts `extension` after the stem of the file name, an empty one meaning none. What follows the
stem is dropped; a path without file name stays. -/
def extendStem (p : FilePath) (extension : String) : FilePath :=
  match p.fileNameAt? with
  | none => p
  | some (name, stop) =>
    let stem := (splitName name).1
    let base := (p.take (stop - name.length + stem.length)).text
    if extension.isEmpty then ⟨base⟩ else ⟨base ++ "." ++ extension⟩

/-- Puts `extension` in place of the one there is. The text of the old one is taken off first, which
may leave a path without file name: of `..a`, the parent directory stays. -/
def withExtension (p : FilePath) (extension : String) : FilePath :=
  match p.extension? with
  | none => p.extendStem extension
  | some old => (p.take (p.text.length - old.length)).extendStem extension

/-- Where an absolute path starts: exactly two slashes are kept. -/
def leadingRoot (cs : List Char) : FilePath :=
  match cs with
  | '/' :: '/' :: '/' :: _ => ⟨"/"⟩
  | '/' :: '/' :: _ => ⟨"//"⟩
  | _ => ⟨"/"⟩

def isStep : Component → Bool
  | .root => false
  | .current => false
  | _ => true

/-- The path as seen from the working directory `cwd`: `.` and repeated slashes are dropped, `..`
and a trailing slash are kept. The empty path has no absolute form. -/
def absolute? (p cwd : FilePath) : Option FilePath :=
  if p.text.isEmpty then none
  else
    let start := if p.isAbsolute then leadingRoot p.text.toList else cwd
    let full := (p.components.filter isStep).foldl (fun q c => q.join c.text) start
    some (if p.text.toList.getLast? = some '/' then full.join "" else full)

end FilePath

end Loom
