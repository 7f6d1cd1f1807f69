import Loom.Tree.Render
import Loom.Text.Quoted

/-!
# Shapes

The text that names an expression by how it is built, used where a source text would hide what is
wrong with it.
-/

namespace Loom

open Text (quoted quotedPath)

/-- `Name { field: text, … }`. -/
def shapeFields (name : String) (fields : List (String × String)) : String :=
  name ++ " \x7b " ++ Expr.commaList (fields.map fun f => f.1 ++ ": " ++ f.2) ++ " \x7d"

def shapeList (items : List String) : String := "[" ++ Expr.commaList items ++ "]"

def Constant.shape : Constant → String
  | none => "None"
  | bool b => "Bool(" ++ (if b then "true" else "false") ++ ")"
  | int i => "Int(" ++ (Constant.int i).source ++ ")"
  | float x => "Float(" ++ (Constant.float x).source ++ ")"
  | str s => "Str(" ++ quoted s ++ ")"

def CmpOp.label : CmpOp → String
  | eq => "Eq"
  | notEq => "NotEq"
  | lt => "Lt"
  | ltE => "LtE"
  | gt => "Gt"
  | gtE => "GtE"
  | isIn => "In"
  | notIn => "NotIn"
  | is => "Is"
  | isNot => "IsNot"

def BinOp.label : BinOp → String
  | add => "Add"
  | sub => "Sub"
  | mult => "Mult"
  | div => "Div"
  | mod => "Mod"
  | pow => "Pow"

def Woven.shape (w : Woven) : String :=
  shapeFields "WovenRef"
    [("origin_module", quoted w.originModule), ("decl_name", quoted w.declName),
      ("source_file", quotedPath w.sourceFile.text), ("alias", quoted w.shortName)]

namespace Expr

mutual
def shape : Expr → String
  | .name id => "Name(" ++ quoted id ++ ")"
  | .attribute value attr =>
    shapeFields "Attribute" [("value", shape value), ("attr", quoted attr)]
  | .call func args keywords =>
    shapeFields "Call"
      [("func", shape func), ("args", shapeList (shapes args)),
        ("keywords", shapeList (keywordShapes keywords))]
  | .constant c => "Constant(" ++ c.shape ++ ")"
  | .tuple items => "Tuple(" ++ shapeList (shapes items) ++ ")"
  | .list items => "List(" ++ shapeList (shapes items) ++ ")"
  | .compare left op right =>
    shapeFields "Compare" [("left", shape left), ("op", op.label), ("right", shape right)]
  | .binOp left op right =>
    shapeFields "BinOp" [("left", shape left), ("op", op.label), ("right", shape right)]
  | .woven w => "Woven(" ++ w.shape ++ ")"

def shapes : List Expr → List String
  | [] => []
  | e :: es => shape e :: shapes es

def keywordShapes : List (Keyword Expr) → List String
  | [] => []
  | ⟨arg, value⟩ :: rest =>
    shapeFields "Keyword" [("arg", quoted arg), ("value", shape value)] :: keywordShapes rest
end

end Expr

end Loom
