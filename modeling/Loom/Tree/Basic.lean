import Loom.Number.Binary64
import Loom.Path
import Loom.Text.Segments

/-!
# Module trees

The syntax tree of a module: declarations, simple statements and expressions of a small
Python-shaped language. The one expression that no source text has is `Expr.woven`, a reference to a
declaration of another module that weaving put in.
-/

namespace Loom

open Number (Binary64)

/-- A constant. Integers are kept within 64 bits by the decoder, and a `float` is a finite double:
infinities and NaN, for which JSON has no text, are left out. -/
inductive Constant where
  | none
  | bool (value : Bool)
  | int (value : Int)
  | float (value : Binary64)
  | str (value : String)
  deriving DecidableEq, Repr

inductive CmpOp where
  | eq
  | notEq
  | lt
  | ltE
  | gt
  | gtE
  | isIn
  | notIn
  | is
  | isNot
  deriving DecidableEq, Repr

inductive BinOp where
  | add
  | sub
  | mult
  | div
  | mod
  | pow
  deriving DecidableEq, Repr

/-- A reference to the declaration `declName` of the module `originModule`, which `sourceFile`
defines, written under the module's `shortName`. -/
structure Woven where
  originModule : String
  declName : String
  sourceFile : FilePath
  shortName : String
  deriving DecidableEq, Repr

/-- A keyword argument `arg=value`. -/
structure Keyword (ε : Type) where
  arg : String
  value : ε
  deriving Repr

inductive Expr where
  | name (id : String)
  | attribute (value : Expr) (attr : String)
  | call (func : Expr) (args : List Expr) (keywords : List (Keyword Expr))
  | constant (value : Constant)
  | tuple (items : List Expr)
  | list (items : List Expr)
  | compare (left : Expr) (op : CmpOp) (right : Expr)
  | binOp (left : Expr) (op : BinOp) (right : Expr)
  | woven (reference : Woven)
  deriving Repr

namespace Expr

def str (s : String) : Expr := .constant (.str s)

/-- The name that a bare name expression is. -/
def asName? : Expr → Option String
  | .name id => some id
  | _ => none

/-- Whether the expression is a bare use of `id`. -/
def isName (id : String) (e : Expr) : Bool := e.asName? == some id

end Expr

/-- An imported name, `name as asName` if it is rebound. -/
structure Alias where
  name : String
  asName : Option String
  deriving DecidableEq, Repr

namespace Alias

/-- The name that an import of this module binds: the new name, or the first segment. -/
def boundName (a : Alias) : String :=
  match a.asName with
  | some asName => asName
  | none => (Text.segments '.' a.name).headD a.name

end Alias

/-- A parameter, with its default. -/
structure Param where
  name : String
  default : Option Expr
  deriving Repr

/-- A function or method whose body holds statements of type `σ`; decorators outermost first. -/
structure FunctionDef (σ : Type) where
  name : String
  params : List Param
  decorators : List Expr
  body : List σ
  deriving Repr

/-- A class whose body holds statements of type `σ`. -/
structure ClassDef (σ : Type) where
  name : String
  bases : List Expr
  keywords : List (Keyword Expr)
  decorators : List Expr
  body : List σ
  deriving Repr

inductive Stmt where
  | functionDef (func : FunctionDef Stmt)
  | classDef (cls : ClassDef Stmt)
  | assign (targets : List Expr) (value : Expr)
  | expr (value : Expr)
  | ret (value : Option Expr)
  | delete (targets : List Expr)
  | pass
  | importNames (names : List Alias)
  | importFrom (module : String) (names : List Alias)
  | ifElse (test : Expr) (body orelse : List Stmt)
  | forLoop (target iter : Expr) (body : List Stmt)
  | whileLoop (test : Expr) (body : List Stmt)
  | global (names : List String)
  deriving Repr

/-- A function of a tree. -/
abbrev Function := FunctionDef Stmt

/-- A class of a tree. -/
abbrev Class := ClassDef Stmt

namespace Stmt

/-- `target = value` with one name as target. -/
def assignName (target : String) (value : Expr) : Stmt := .assign [.name target] value

/-- A string alone, as documentation is written. -/
def isDocString : Stmt → Bool
  | .expr (.constant (.str _)) => true
  | _ => false

end Stmt

namespace ClassDef

/-- The functions defined directly in the class body. -/
def methods (c : Class) : List Function :=
  c.body.filterMap fun
    | .functionDef f => some f
    | _ => none

end ClassDef

/-- A module's statements. -/
structure Module where
  body : List Stmt
  deriving Repr

end Loom
