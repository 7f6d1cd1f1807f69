import Loom.Tree.Shape
import Loom.Text.Identifier

/-!
# Well-formed trees

The check that every tree passes before and after weaving: names are identifiers, blocks are not
empty, assignments have targets that can be assigned to. It stops at the first flaw in source order.
-/

namespace Loom

open Text (isIdentifier isDottedName)

/-- What a name stands for where it is checked. -/
inductive NameRole where
  | function
  | parameter
  | cls
  | keyword
  | target
  | attr
  | use
  | imported
  | importAlias
  | global
  | wovenAlias
  | wovenDeclaration
  deriving DecidableEq, Repr

def NameRole.text : NameRole → String
  | function => "function"
  | parameter => "parameter"
  | cls => "class"
  | keyword => "keyword"
  | target => "target"
  | attr => "attribute"
  | use => "variable"
  | imported => "imported"
  | importAlias => "import alias"
  | global => "global"
  | wovenAlias => "woven alias"
  | wovenDeclaration => "woven declaration"

/-- Whose block it is. -/
inductive BlockOwner where
  | module
  | function (name : String)
  | cls (name : String)
  | ifBody
  | elseBody
  | forBody
  | whileBody
  deriving DecidableEq, Repr

def BlockOwner.text : BlockOwner → String
  | module => "module"
  | function name => "function '" ++ name ++ "'"
  | cls name => "class '" ++ name ++ "'"
  | ifBody => "if"
  | elseBody => "else"
  | forBody => "for"
  | whileBody => "while"

/-- What is wrong with a tree. -/
inductive Flaw where
  | badName (role : NameRole) (name : String)
  | emptyBlock (owner : BlockOwner)
  | noTarget
  | badModule (name : String)
  | emptyImport (module : String)
  | notAssignable (e : Expr)
  deriving Repr

def Flaw.message : Flaw → String
  | badName role name => "invalid " ++ role.text ++ " name '" ++ name ++ "'"
  | emptyBlock owner => "empty block in " ++ owner.text
  | noTarget => "assignment without target"
  | badModule name => "invalid module name '" ++ name ++ "'"
  | emptyImport module => "empty import from '" ++ module ++ "'"
  | notAssignable e => "cannot assign to " ++ e.shape

/-- The result of a check. -/
abbrev Checked := Except Flaw Unit

def checkName (role : NameRole) (name : String) : Checked :=
  if isIdentifier name then .ok () else .error (.badName role name)

namespace Expr

mutual
def check : Expr → Checked
  | .name id => checkName .use id
  | .attribute value attr => do
    checkName .attr attr
    check value
  | .call func args keywords => do
    check func
    checkAll args
    checkKeywords keywords
  | .constant _ => .ok ()
  | .tuple items => checkAll items
  | .list items => checkAll items
  | .compare left _ right => do
    check left
    check right
  | .binOp left _ right => do
    check left
    check right
  | .woven w => do
    checkName .wovenAlias w.shortName
    checkName .wovenDeclaration w.declName

def checkAll : List Expr → Checked
  | [] => .ok ()
  | e :: es => do
    check e
    checkAll es

def checkKeywords : List (Keyword Expr) → Checked
  | [] => .ok ()
  | ⟨arg, value⟩ :: rest => do
    checkName .keyword arg
    check value
    checkKeywords rest
end

mutual
/-- Checks an expression that is assigned to. -/
def checkTarget : Expr → Checked
  | .name id => checkName .target id
  | .attribute value attr => do
    checkName .attr attr
    check value
  | .tuple items => checkTargets items
  | .list items => checkTargets items
  | e => .error (.notAssignable e)

def checkTargets : List Expr → Checked
  | [] => .ok ()
  | e :: es => do
    checkTarget e
    checkTargets es
end

end Expr

def Param.check (p : Param) : Checked := do
  checkName .parameter p.name
  match p.default with
  | some e => e.check
  | none => .ok ()

def checkAsName : Option String → Checked
  | some asName => checkName .importAlias asName
  | none => .ok ()

/-- Checks a name of `import`, which is a module. -/
def Alias.checkModule (a : Alias) : Checked := do
  if isDottedName a.name then .ok () else .error (.badModule a.name)
  checkAsName a.asName

/-- Checks a name of `from … import`. -/
def Alias.checkMember (a : Alias) : Checked := do
  if a.name = "*" then .ok () else checkName .imported a.name
  checkAsName a.asName

def checkEach {α : Type} (check : α → Checked) : List α → Checked
  | [] => .ok ()
  | a :: as => do
    check a
    checkEach check as

/-- The module name without the points that make it relative. -/
def withoutLeadingDots (module : String) : String :=
  String.ofList (module.toList.dropWhile (· == '.'))

def checkImportFrom (module : String) (names : List Alias) : Checked := do
  let absolute := withoutLeadingDots module
  if absolute.isEmpty || isDottedName absolute then .ok () else .error (.badModule module)
  if names.isEmpty then .error (.emptyImport module) else .ok ()
  checkEach Alias.checkMember names

/-- Refuses an empty block. -/
def checkNonEmpty (owner : BlockOwner) (body : List Stmt) : Checked :=
  if body.isEmpty then .error (.emptyBlock owner) else .ok ()

namespace Stmt

mutual
def check : Stmt → Checked
  | .functionDef ⟨name, params, decorators, body⟩ => do
    checkName .function name
    checkEach Param.check params
    Expr.checkAll decorators
    checkNonEmpty (.function name) body
    checkBlock body
  | .classDef ⟨name, bases, keywords, decorators, body⟩ => do
    checkName .cls name
    Expr.checkAll bases
    Expr.checkAll decorators
    Expr.checkKeywords keywords
    checkNonEmpty (.cls name) body
    checkBlock body
  | .assign targets value => do
    if targets.isEmpty then .error .noTarget else .ok ()
    Expr.checkTargets targets
    value.check
  | .expr e => e.check
  | .ret none => .ok ()
  | .ret (some e) => e.check
  | .delete targets => Expr.checkTargets targets
  | .pass => .ok ()
  | .importNames names => checkEach Alias.checkModule names
  | .importFrom module names => checkImportFrom module names
  | .ifElse test body orelse => do
    test.check
    checkNonEmpty .ifBody body
    checkBlock body
    checkBlock orelse
  | .forLoop target iter body => do
    target.checkTarget
    iter.check
    checkNonEmpty .forBody body
    checkBlock body
  | .whileLoop test body => do
    test.check
    checkNonEmpty .whileBody body
    checkBlock body
  | .global names => checkEach (checkName .global) names

def checkBlock : List Stmt → Checked
  | [] => .ok ()
  | s :: rest => do
    check s
    checkBlock rest
end

end Stmt

/-- Checks a whole module, which may be empty. -/
def Module.check (m : Module) : Checked := Stmt.checkBlock m.body

end Loom
