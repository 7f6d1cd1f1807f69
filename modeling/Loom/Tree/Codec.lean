import Loom.Document.Decode
import Loom.Document.Printer
import Loom.Document.Reader
import Loom.Tree.Shape

/-!
# Trees as documents

The document form of a tree: `toDocument` writes it and `Decode` reads it, accepting also the other
spellings of structures and variants. Missing parameters, decorators, bases, keywords, arguments,
defaults and else-branches are read as empty.
-/

namespace Loom

open Number (Numeral)
open Document (Decoder)

/-- Doubles in documents are positional from `1e-5` up to below `1e16`. -/
def documentLayout : Numeral.Layout := ⟨-5, 16, .even⟩

/-! ## Writing -/

/-- A variant with content. -/
def tagged (tag : String) (content : Document) : Document := .record [(tag, content)]

def Constant.toDocument : Constant → Document
  | none => .str "None"
  | bool b => tagged "Bool" (.bool b)
  | int i => tagged "Int" (.int i)
  | float x => tagged "Float" (.number (.ofBinary64 documentLayout x))
  | str s => tagged "Str" (.str s)

def Woven.toDocument (w : Woven) : Document :=
  .record
    [("origin_module", .str w.originModule), ("decl_name", .str w.declName),
      ("source_file", .str w.sourceFile.text), ("alias", .str w.shortName)]

namespace Expr

mutual
def toDocument : Expr → Document
  | .name id => tagged "Name" (.str id)
  | .attribute value attr =>
    tagged "Attribute" (.record [("value", toDocument value), ("attr", .str attr)])
  | .call func args keywords =>
    tagged "Call"
      (.record
        [("func", toDocument func), ("args", .array (toDocuments args)),
          ("keywords", .array (keywordDocuments keywords))])
  | .constant c => tagged "Constant" c.toDocument
  | .tuple items => tagged "Tuple" (.array (toDocuments items))
  | .list items => tagged "List" (.array (toDocuments items))
  | .compare left op right =>
    tagged "Compare"
      (.record [("left", toDocument left), ("op", .str op.label), ("right", toDocument right)])
  | .binOp left op right =>
    tagged "BinOp"
      (.record [("left", toDocument left), ("op", .str op.label), ("right", toDocument right)])
  | .woven w => tagged "Woven" w.toDocument

def toDocuments : List Expr → List Document
  | [] => []
  | e :: es => toDocument e :: toDocuments es

def keywordDocuments : List (Keyword Expr) → List Document
  | [] => []
  | ⟨arg, value⟩ :: rest =>
    .record [("arg", .str arg), ("value", toDocument value)] :: keywordDocuments rest
end

end Expr

/-- The value, or null for none. -/
def optionalExpr : Option Expr → Document
  | none => .null
  | some e => e.toDocument

def Alias.toDocument (a : Alias) : Document :=
  .record [("name", .str a.name), ("asname", .optional a.asName)]

def Param.toDocument (p : Param) : Document :=
  .record [("name", .str p.name), ("default", optionalExpr p.default)]

namespace Stmt

mutual
def toDocument : Stmt → Document
  | .functionDef ⟨name, params, decorators, body⟩ =>
    tagged "FunctionDef"
      (.record
        [("name", .str name), ("params", .array (params.map Param.toDocument)),
          ("decorators", .array (Expr.toDocuments decorators)), ("body", .array (toDocuments body))])
  | .classDef ⟨name, bases, keywords, decorators, body⟩ =>
    tagged "ClassDef"
      (.record
        [("name", .str name), ("bases", .array (Expr.toDocuments bases)),
          ("keywords", .array (Expr.keywordDocuments keywords)),
          ("decorators", .array (Expr.toDocuments decorators)), ("body", .array (toDocuments body))])
  | .assign targets value =>
    tagged "Assign"
      (.record [("targets", .array (Expr.toDocuments targets)), ("value", value.toDocument)])
  | .expr value => tagged "Expr" value.toDocument
  | .ret value => tagged "Return" (optionalExpr value)
  | .delete targets => tagged "Delete" (.array (Expr.toDocuments targets))
  | .pass => .str "Pass"
  | .importNames names => tagged "Import" (.array (names.map Alias.toDocument))
  | .importFrom module names =>
    tagged "ImportFrom"
      (.record [("module", .str module), ("names", .array (names.map Alias.toDocument))])
  | .ifElse test body orelse =>
    tagged "If"
      (.record
        [("test", test.toDocument), ("body", .array (toDocuments body)),
          ("orelse", .array (toDocuments orelse))])
  | .forLoop target iter body =>
    tagged "For"
      (.record
        [("target", target.toDocument), ("iter", iter.toDocument),
          ("body", .array (toDocuments body))])
  | .whileLoop test body =>
    tagged "While" (.record [("test", test.toDocument), ("body", .array (toDocuments body))])
  | .global names => tagged "Global" (.array (names.map .str))

def toDocuments : List Stmt → List Document
  | [] => []
  | s :: rest => toDocument s :: toDocuments rest
end

end Stmt

namespace Module

def toDocument (m : Module) : Document := .record [("body", .array (Stmt.toDocuments m.body))]

/-- The text of the document form. -/
def toJson (m : Module) : String := m.toDocument.pretty

end Module

/-! ## Reading -/

namespace Decode

open Document (variant fields)

/-- A variant without content, by its name. -/
def unitVariant {α : Type} (table : List (String × α)) : Decoder α
  | _, .string (some name) => table.lookup name
  | _ + 1, .object [(some name, .null)] => table.lookup name
  | _, _ => none

def cmpOp : Decoder CmpOp :=
  unitVariant
    [("Eq", .eq), ("NotEq", .notEq), ("Lt", .lt), ("LtE", .ltE), ("Gt", .gt), ("GtE", .gtE),
      ("In", .isIn), ("NotIn", .notIn), ("Is", .is), ("IsNot", .isNot)]

def binOp : Decoder BinOp :=
  unitVariant
    [("Add", .add), ("Sub", .sub), ("Mult", .mult), ("Div", .div), ("Mod", .mod), ("Pow", .pow)]

def constant : Decoder Constant
  | _, .string (some "None") => some .none
  | n + 1, .object [(some tag, d)] =>
    match tag with
    | "None" => match d with
      | .null => some .none
      | _ => none
    | "Bool" => (Decoder.bool n d).map .bool
    | "Int" => (Decoder.int64 n d).map .int
    | "Float" => (Decoder.binary64 n d).map .float
    | "Str" => (Decoder.string n d).map .str
    | _ => none
  | _, _ => none

def path : Decoder FilePath := fun n d => (Decoder.string n d).map .mk

def woven : Decoder Woven
  | 0, _ => none
  | n + 1, d => do
    let r ← fields ["origin_module", "decl_name", "source_file", "alias"] d
    let originModule ← r.get "origin_module" (Decoder.string n)
    let declName ← r.get "decl_name" (Decoder.string n)
    let sourceFile ← r.get "source_file" (path n)
    let shortName ← r.get "alias" (Decoder.string n)
    some { originModule, declName, sourceFile, shortName }

mutual
def expr : (allowance : Nat) → Document → Option Expr
  | 0, _ => none
  | n + 1, d =>
    match variant d with
    | some ("Name", some d) => (Decoder.string n d).map .name
    | some ("Attribute", some d) => attributeOf n d
    | some ("Call", some d) => call n d
    | some ("Constant", some d) => (constant n d).map .constant
    | some ("Tuple", some d) => (exprs n d).map .tuple
    | some ("List", some d) => (exprs n d).map .list
    | some ("Compare", some d) => compare n d
    | some ("BinOp", some d) => binary n d
    | some ("Woven", some d) => (woven n d).map .woven
    | _ => none

def attributeOf : (allowance : Nat) → Document → Option Expr
  | 0, _ => none
  | n + 1, d => do
    let r ← fields ["value", "attr"] d
    let value ← r.get "value" (expr n)
    let attr ← r.get "attr" (Decoder.string n)
    some (.attribute value attr)

def call : (allowance : Nat) → Document → Option Expr
  | 0, _ => none
  | n + 1, d => do
    let r ← fields ["func", "args", "keywords"] d
    let func ← r.get "func" (expr n)
    let args ← r.getD "args" (exprs n) []
    let keywords ← r.getD "keywords" (keywords n) []
    some (.call func args keywords)

def compare : (allowance : Nat) → Document → Option Expr
  | 0, _ => none
  | n + 1, d => do
    let r ← fields ["left", "op", "right"] d
    let left ← r.get "left" (expr n)
    let op ← r.get "op" (cmpOp n)
    let right ← r.get "right" (expr n)
    some (.compare left op right)

def binary : (allowance : Nat) → Document → Option Expr
  | 0, _ => none
  | n + 1, d => do
    let r ← fields ["left", "op", "right"] d
    let left ← r.get "left" (expr n)
    let op ← r.get "op" (binOp n)
    let right ← r.get "right" (expr n)
    some (.binOp left op right)

def exprs : (allowance : Nat) → Document → Option (List Expr)
  | n + 1, .array items => items.mapM (expr n)
  | _, _ => none

def keyword : (allowance : Nat) → Document → Option (Keyword Expr)
  | 0, _ => none
  | n + 1, d => do
    let r ← fields ["arg", "value"] d
    let arg ← r.get "arg" (Decoder.string n)
    let value ← r.get "value" (expr n)
    some ⟨arg, value⟩

def keywords : (allowance : Nat) → Document → Option (List (Keyword Expr))
  | n + 1, .array items => items.mapM (keyword n)
  | _, _ => none
end

def importedName : Decoder Alias
  | 0, _ => none
  | n + 1, d => do
    let r ← fields ["name", "asname"] d
    let name ← r.get "name" (Decoder.string n)
    let asName ← r.getD "asname" (Decoder.optional Decoder.string n) none
    some ⟨name, asName⟩

def param : Decoder Param
  | 0, _ => none
  | n + 1, d => do
    let r ← fields ["name", "default"] d
    let name ← r.get "name" (Decoder.string n)
    let default ← r.getD "default" (Decoder.optional expr n) none
    some ⟨name, default⟩

def assign : Decoder Stmt
  | 0, _ => none
  | n + 1, d => do
    let r ← fields ["targets", "value"] d
    let targets ← r.get "targets" (exprs n)
    let value ← r.get "value" (expr n)
    some (.assign targets value)

def importFrom : Decoder Stmt
  | 0, _ => none
  | n + 1, d => do
    let r ← fields ["module", "names"] d
    let module ← r.get "module" (Decoder.string n)
    let names ← r.get "names" (Decoder.list importedName n)
    some (.importFrom module names)

mutual
def stmt : (allowance : Nat) → Document → Option Stmt
  | _, .string s => if s = some "Pass" then some .pass else none
  | n + 1, .object [(some tag, d)] =>
    match tag with
    | "FunctionDef" => (functionDef n d).map .functionDef
    | "ClassDef" => (classDef n d).map .classDef
    | "Assign" => assign n d
    | "Expr" => (expr n d).map .expr
    | "Return" => (Decoder.optional expr n d).map .ret
    | "Delete" => (exprs n d).map .delete
    | "Pass" => match d with
      | .null => some .pass
      | _ => none
    | "Import" => (Decoder.list importedName n d).map .importNames
    | "ImportFrom" => importFrom n d
    | "If" => ifElse n d
    | "For" => forLoop n d
    | "While" => whileLoop n d
    | "Global" => (Decoder.list Decoder.string n d).map .global
    | _ => none
  | _, _ => none

def functionDef : (allowance : Nat) → Document → Option Function
  | 0, _ => none
  | n + 1, d => do
    let r ← fields ["name", "params", "decorators", "body"] d
    let name ← r.get "name" (Decoder.string n)
    let params ← r.getD "params" (Decoder.list param n) []
    let decorators ← r.getD "decorators" (exprs n) []
    let body ← r.get "body" (block n)
    some { name, params, decorators, body }

def classDef : (allowance : Nat) → Document → Option Class
  | 0, _ => none
  | n + 1, d => do
    let r ← fields ["name", "bases", "keywords", "decorators", "body"] d
    let name ← r.get "name" (Decoder.string n)
    let bases ← r.getD "bases" (exprs n) []
    let keywords ← r.getD "keywords" (keywords n) []
    let decorators ← r.getD "decorators" (exprs n) []
    let body ← r.get "body" (block n)
    some { name, bases, keywords, decorators, body }

def ifElse : (allowance : Nat) → Document → Option Stmt
  | 0, _ => none
  | n + 1, d => do
    let r ← fields ["test", "body", "orelse"] d
    let test ← r.get "test" (expr n)
    let body ← r.get "body" (block n)
    let orelse ← r.getD "orelse" (block n) []
    some (.ifElse test body orelse)

def forLoop : (allowance : Nat) → Document → Option Stmt
  | 0, _ => none
  | n + 1, d => do
    let r ← fields ["target", "iter", "body"] d
    let target ← r.get "target" (expr n)
    let iter ← r.get "iter" (expr n)
    let body ← r.get "body" (block n)
    some (.forLoop target iter body)

def whileLoop : (allowance : Nat) → Document → Option Stmt
  | 0, _ => none
  | n + 1, d => do
    let r ← fields ["test", "body"] d
    let test ← r.get "test" (expr n)
    let body ← r.get "body" (block n)
    some (.whileLoop test body)

def block : (allowance : Nat) → Document → Option (List Stmt)
  | n + 1, .array items => items.mapM (stmt n)
  | _, _ => none
end

def module : Decoder Module
  | 0, _ => none
  | n + 1, d => do
    let r ← fields ["body"] d
    let body ← r.get "body" (block n)
    some ⟨body⟩

end Decode

namespace Module

def ofDocument? (d : Document) : Option Module := Decode.module Document.nestingLimit d

/-- The tree that a text is the document form of. -/
def ofJson? (text : String) : Option Module := (Document.parse text).bind ofDocument?

end Module

end Loom
