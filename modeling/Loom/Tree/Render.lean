import Loom.Tree.Basic
import Loom.Number.Numeral

/-!
# Source text

The source of a tree as lines: each statement gives lines with a depth, and a line is written with
four spaces for each level. Operators as operands are parenthesised, so that the text shows how
they nest.
-/

namespace Loom

open Number (Numeral)

/-- Doubles are positional from `1e-4` up to below `1e16`. -/
def sourceLayout : Numeral.Layout := ⟨-4, 16, .up⟩

def CmpOp.symbol : CmpOp → String
  | eq => "=="
  | notEq => "!="
  | lt => "<"
  | ltE => "<="
  | gt => ">"
  | gtE => ">="
  | isIn => "in"
  | notIn => "not in"
  | is => "is"
  | isNot => "is not"

def BinOp.symbol : BinOp → String
  | add => "+"
  | sub => "-"
  | mult => "*"
  | div => "/"
  | mod => "%"
  | pow => "**"

/-! ## Expressions -/

/-- How a character is written in a string constant. -/
def escapeChar (c : Char) : List Char :=
  match c with
  | '\\' => ['\\', '\\']
  | '\'' => ['\\', '\'']
  | '\n' => ['\\', 'n']
  | '\r' => ['\\', 'r']
  | '\t' => ['\\', 't']
  | c => [c]

def Constant.source : Constant → String
  | none => "None"
  | bool true => "True"
  | bool false => "False"
  | int i => (Numeral.ofInt i).text
  | float x => (Numeral.ofBinary64 sourceLayout x).text
  | str s => "'" ++ String.ofList (s.toList.flatMap escapeChar) ++ "'"

namespace Expr

/-- Whether the expression is an operator applied to operands. -/
def isOperation : Expr → Bool
  | .compare .. => true
  | .binOp .. => true
  | _ => false

/-- The text of an operand. -/
def operand (e : Expr) (text : String) : String :=
  if e.isOperation then "(" ++ text ++ ")" else text

def commaList (texts : List String) : String := ", ".intercalate texts

mutual
def source : Expr → String
  | .name id => id
  | .attribute value attr => operand value (source value) ++ "." ++ attr
  | .call func args keywords =>
    operand func (source func) ++ "(" ++ commaList (sources args ++ keywordSources keywords) ++ ")"
  | .constant c => c.source
  | .tuple [item] => "(" ++ source item ++ ",)"
  | .tuple items => "(" ++ commaList (sources items) ++ ")"
  | .list items => "[" ++ commaList (sources items) ++ "]"
  | .compare left op right =>
    operand left (source left) ++ " " ++ op.symbol ++ " " ++ operand right (source right)
  | .binOp left op right =>
    operand left (source left) ++ " " ++ op.symbol ++ " " ++ operand right (source right)
  | .woven w => w.shortName ++ "." ++ w.declName

def sources : List Expr → List String
  | [] => []
  | e :: es => source e :: sources es

def keywordSources : List (Keyword Expr) → List String
  | [] => []
  | ⟨arg, value⟩ :: rest => (arg ++ "=" ++ source value) :: keywordSources rest
end

end Expr

def Keyword.source (k : Keyword Expr) : String := k.arg ++ "=" ++ k.value.source

/-- `name as other`; the same name twice is written once. -/
def Alias.source (a : Alias) : String :=
  match a.asName with
  | some asName => if asName = a.name then a.name else a.name ++ " as " ++ asName
  | none => a.name

def Param.source (p : Param) : String :=
  match p.default with
  | some default => p.name ++ "=" ++ default.source
  | none => p.name

/-! ## Lines -/

/-- A line and how many levels it is indented. -/
structure Line where
  depth : Nat
  text : String
  deriving DecidableEq, Repr

namespace Line

def render (l : Line) : String := String.ofList (List.replicate (4 * l.depth) ' ') ++ l.text ++ "\n"

end Line

def decoratorLines (depth : Nat) (decorators : List Expr) : List Line :=
  decorators.map fun d => ⟨depth, "@" ++ d.source⟩

namespace FunctionDef

def header {σ : Type} (f : FunctionDef σ) : String :=
  "def " ++ f.name ++ "(" ++ Expr.commaList (f.params.map Param.source) ++ "):"

end FunctionDef

namespace ClassDef

def header {σ : Type} (c : ClassDef σ) : String :=
  let args := Expr.sources c.bases ++ Expr.keywordSources c.keywords
  if args.isEmpty then "class " ++ c.name ++ ":"
  else "class " ++ c.name ++ "(" ++ Expr.commaList args ++ "):"

end ClassDef

namespace Stmt

/-- The line of a statement that has only one. -/
def simpleText : Stmt → String
  | .assign targets value =>
    String.join ((Expr.sources targets).map (· ++ " = ")) ++ value.source
  | .expr e => e.source
  | .ret (some e) => "return " ++ e.source
  | .ret none => "return"
  | .delete targets => "del " ++ Expr.commaList (Expr.sources targets)
  | .pass => "pass"
  | .importNames names => "import " ++ Expr.commaList (names.map Alias.source)
  | .importFrom module names =>
    "from " ++ module ++ " import " ++ Expr.commaList (names.map Alias.source)
  | .global names => "global " ++ Expr.commaList names
  | _ => ""

mutual
/-- The lines of a statement at `depth`. -/
def lines (depth : Nat) : Stmt → List Line
  | .functionDef ⟨name, params, decorators, body⟩ =>
    decoratorLines depth decorators ++
      ⟨depth, (FunctionDef.mk name params decorators body).header⟩ :: suite (depth + 1) body
  | .classDef ⟨name, bases, keywords, decorators, body⟩ =>
    decoratorLines depth decorators ++
      ⟨depth, (ClassDef.mk name bases keywords decorators body).header⟩ :: suite (depth + 1) body
  | .ifElse test body orelse =>
    ⟨depth, "if " ++ test.source ++ ":"⟩ :: suite (depth + 1) body ++
      (match orelse with
        | [] => []
        | first :: rest =>
          ⟨depth, "else:"⟩ :: (lines (depth + 1) first ++ blockLines (depth + 1) rest))
  | .forLoop target iter body =>
    ⟨depth, "for " ++ target.source ++ " in " ++ iter.source ++ ":"⟩ :: suite (depth + 1) body
  | .whileLoop test body => ⟨depth, "while " ++ test.source ++ ":"⟩ :: suite (depth + 1) body
  | s => [⟨depth, s.simpleText⟩]

def blockLines (depth : Nat) : List Stmt → List Line
  | [] => []
  | s :: rest => lines depth s ++ blockLines depth rest

/-- The lines of a nested block, which is never empty text. -/
def suite (depth : Nat) : List Stmt → List Line
  | [] => [⟨depth, "pass"⟩]
  | s :: rest => lines depth s ++ blockLines depth rest
end

def source (s : Stmt) : String := String.join ((s.lines 0).map Line.render)

end Stmt

namespace Module

def lines (m : Module) : List Line := Stmt.blockLines 0 m.body

def source (m : Module) : String := String.join (m.lines.map Line.render)

end Module

end Loom
